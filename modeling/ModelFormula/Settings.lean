import ModelFormula.Journal
import ModelFormula.Path

/-!
# Settings

What can be configured: logging, contrasts, frames and matrices.

* `Settings` — all settings, with their defaults.
-/

set_option autoImplicit false

namespace ModelFormula

/-- How many bits the numbers of a matrix have. -/
inductive Precision where
  | single
  | double
  deriving DecidableEq, Repr

namespace Precision

def name : Precision → String
  | .single => "float32"
  | .double => "float64"

def all : List Precision := [.single, .double]

def ofName? (s : String) : Option Precision := all.find? (·.name == s)

end Precision

structure LoggingSettings where
  level : Severity := .warning
  fileLogging : Bool := false
  /-- The path of the log file. -/
  logFile : Option FilePath := none
  console : Bool := true
  /-- The form of a log line. -/
  format : String := "%(asctime)s - %(name)s - %(levelname)s - %(message)s"
  deriving DecidableEq, Repr

structure ContrastSettings where
  /-- The position of the base level, counted from one. -/
  base : Int := 1
  deriving DecidableEq, Repr

structure FrameSettings where
  dropUnusedLevels : Bool := true
  textsAsFactors : Bool := true
  deriving DecidableEq, Repr

structure MatrixSettings where
  precision : Precision := .double
  /-- The precision of exported matrices. -/
  exported : Precision := .single
  deriving DecidableEq, Repr

structure Settings where
  logging : LoggingSettings := {}
  contrasts : ContrastSettings := {}
  frame : FrameSettings := {}
  matrix : MatrixSettings := {}
  deriving DecidableEq, Repr

end ModelFormula
