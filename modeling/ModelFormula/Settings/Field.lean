import ModelFormula.Dictionary
import ModelFormula.Failure
import ModelFormula.Settings.Value

/-!
# Sections and fields

Settings are addressed by the names of their sections and fields.

* `Section`, `Field` — the addresses, in the order in which problems are listed.
* `Field.assign` — sets one field to a value, if the field takes it.
* `Field.get`, `Settings.toPlain` — settings as untyped values.
* `Section.assign` — sets a whole section; fields that are not given take their defaults.
-/

set_option autoImplicit false

namespace ModelFormula

/-- The groups of settings. -/
inductive Section where
  | logging
  | contrasts
  | frame
  | matrix
  deriving DecidableEq, Repr

namespace Section

def name : Section → String
  | .logging => "logging"
  | .contrasts => "contrasts"
  | .frame => "frame"
  | .matrix => "matrix"

def all : List Section := [.logging, .contrasts, .frame, .matrix]

def ofName? (s : String) : Option Section := all.find? (·.name == s)

end Section

/-- The single settings. -/
inductive Field where
  | level
  | fileLogging
  | logFile
  | console
  | format
  | base
  | dropUnusedLevels
  | textsAsFactors
  | precision
  | exported
  deriving DecidableEq, Repr

namespace Field

def all : List Field :=
  [.level, .fileLogging, .logFile, .console, .format, .base, .dropUnusedLevels, .textsAsFactors,
    .precision, .exported]

def group : Field → Section
  | .level => .logging
  | .fileLogging => .logging
  | .logFile => .logging
  | .console => .logging
  | .format => .logging
  | .base => .contrasts
  | .dropUnusedLevels => .frame
  | .textsAsFactors => .frame
  | .precision => .matrix
  | .exported => .matrix

def name : Field → String
  | .level => "level"
  | .fileLogging => "file_logging"
  | .logFile => "log_file"
  | .console => "console_logging"
  | .format => "format_string"
  | .base => "base"
  | .dropUnusedLevels => "drop_unused_levels"
  | .textsAsFactors => "strings_as_categorical"
  | .precision => "dtype"
  | .exported => "jax_dtype"

/-- Section and field, joined by a point. -/
def key (f : Field) : String := f.group.name ++ "." ++ f.name

/-- The fields of a section. -/
def inGroup (g : Section) : List Field := all.filter fun f => f.group = g

/-- The field of a name in a section. -/
def ofName? (g : Section) (s : String) : Option Field := (inGroup g).find? (·.name == s)

/-- Sets a field to a value, if the field takes it. -/
def assign (f : Field) (v : Plain) (s : Settings) : Option Settings :=
  match f with
  | .level =>
    (Setting.level? v).map fun x => { s with logging := { s.logging with level := x } }
  | .fileLogging =>
    (Setting.flag? v).map fun x => { s with logging := { s.logging with fileLogging := x } }
  | .logFile =>
    (Setting.path? v).map fun x => { s with logging := { s.logging with logFile := x } }
  | .console =>
    (Setting.flag? v).map fun x => { s with logging := { s.logging with console := x } }
  | .format =>
    (Setting.text? v).map fun x => { s with logging := { s.logging with format := x } }
  | .base => (Setting.base? v).map fun x => { s with contrasts := { base := x } }
  | .dropUnusedLevels =>
    (Setting.flag? v).map fun x => { s with frame := { s.frame with dropUnusedLevels := x } }
  | .textsAsFactors =>
    (Setting.flag? v).map fun x => { s with frame := { s.frame with textsAsFactors := x } }
  | .precision =>
    (Setting.precision? v).map fun x => { s with matrix := { s.matrix with precision := x } }
  | .exported =>
    (Setting.precision? v).map fun x => { s with matrix := { s.matrix with exported := x } }

/-- A field as an untyped value. -/
def get (f : Field) (s : Settings) : Plain :=
  match f with
  | .level => .text s.logging.level.name
  | .fileLogging => .bool s.logging.fileLogging
  | .logFile => (s.logging.logFile.map fun p => Plain.text p.text).getD .null
  | .console => .bool s.logging.console
  | .format => .text s.logging.format
  | .base => .int s.contrasts.base
  | .dropUnusedLevels => .bool s.frame.dropUnusedLevels
  | .textsAsFactors => .bool s.frame.textsAsFactors
  | .precision => .text s.matrix.precision.name
  | .exported => .text s.matrix.exported.name

/-- Whether a field takes a value. -/
def takes (f : Field) (v : Plain) : Bool := (f.assign v {}).isSome

end Field

namespace Section

/-- A section as an untyped value. -/
def get (g : Section) (s : Settings) : Plain :=
  .dict ((Field.inGroup g).map fun f => (f.name, f.get s))

/-- A section of some settings in the place of that of others. -/
def replace (g : Section) (source target : Settings) : Settings :=
  match g with
  | .logging => { target with logging := source.logging }
  | .contrasts => { target with contrasts := source.contrasts }
  | .frame => { target with frame := source.frame }
  | .matrix => { target with matrix := source.matrix }

/-- Sets a field to the value that a dictionary has for it; without one nothing changes.  What is
gathered besides are the fields that did not take their value. -/
def gather (entries : Dictionary String Plain) (state : Settings × List Field) (f : Field) :
    Settings × List Field :=
  match entries.get? f.name with
  | none => state
  | some v =>
    match f.assign v state.1 with
    | some s => (s, state.2)
    | none => (state.1, state.2 ++ [f])

/-- The section that a dictionary stands for: fields that are not given have their defaults, others
that are given do not count.  Gives the fields that did not take their value as well. -/
def ofEntries (g : Section) (entries : Dictionary String Plain) : Settings × List Field :=
  (Field.inGroup g).foldl (gather entries) ({}, [])

/-- Sets a whole section to a value, if it is a dictionary whose fields all take theirs. -/
def assign (g : Section) (v : Plain) (s : Settings) : Option Settings :=
  match v with
  | .dict entries =>
    match g.ofEntries entries with
    | (t, []) => some (g.replace t s)
    | _ => none
  | _ => none

end Section

/-- All settings as an untyped value. -/
def Settings.toPlain (s : Settings) : Plain :=
  .dict (Section.all.map fun g => (g.name, g.get s))

end ModelFormula
