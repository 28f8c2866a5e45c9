import ModelFormula.Files
import ModelFormula.Log.Format
import ModelFormula.Settings

/-!
# Log channels

A channel has a level and handlers: it hands every entry that is grave enough to each of them.  A
line that cannot be made is reported on the error stream.  So is a warning or worse for which there is
no handler at all: the handler of last resort writes its message there.

* `Output` — the console, the error stream and the files.
* `Channel.configure` — the channel of some settings; making its handlers can fail half-way.
* `Channel.emit` — what an entry adds to the output.
-/

set_option autoImplicit false

namespace ModelFormula

/-- Where lines go, and their form. -/
inductive Handler where
  | console (form : String)
  | file (place : Place) (form : String)
  deriving DecidableEq, Repr

structure Channel where
  level : Severity := .warning
  handlers : List Handler := []

/-- The colour in which the console shows a level. -/
def Severity.colour : Severity → String
  | .debug => "\x1b[36m"
  | .info => "\x1b[32m"
  | .warning => "\x1b[33m"
  | .error => "\x1b[31m"
  | .critical => "\x1b[35m"

/-- The name of a level in its colour. -/
def Severity.colouredName (s : Severity) : String := s.colour ++ s.name ++ "\x1b[0m"

namespace Handler

/-- A handler on the console. -/
def forConsole (form : String) : Except Failure Handler :=
  if Form.isValid form then .ok (.console form) else .error .badValue

/-- A handler for a file, whose directories are made first. -/
def forFile (files : Files) (path : FilePath) (form : String) :
    Files × Except Failure Handler :=
  match files.makeParents path with
  | .error e => (files, .error e)
  | .ok files =>
    match files.target path with
    | .error e => (files, .error e)
    | .ok place =>
      let files := files.append place ""
      if Form.isValid form then (files, .ok (.file place form)) else (files, .error .badValue)

end Handler

/-- What stands on the error stream. -/
inductive Notice where
  /-- A message that no handler took. -/
  | message (text : String)
  /-- A report that the line for a message could not be made. -/
  | noLine (message : String)
  deriving DecidableEq, Repr

/-- Where entries end up. -/
structure Output where
  /-- The records on the console, each with its line break left out. -/
  console : List String := []
  errors : List Notice := []
  files : Files := {}

namespace Output

/-- Reports that there is no line for an entry. -/
def report (o : Output) (e : Entry) : Output := { o with errors := o.errors ++ [.noLine e.line] }

/-- What a handler does with an entry. -/
def handle (e : Entry) (surroundings : Surroundings) (o : Output) : Handler → Output
  | .console form =>
    (Form.line? form (e.record e.severity.colouredName surroundings)).elim (o.report e)
      fun s => { o with console := o.console ++ [s] }
  | .file place form =>
    (Form.line? form (e.record e.severity.name surroundings)).elim (o.report e)
      fun s => { o with files := o.files.append place (s ++ "\n") }

/-- What the handler of last resort does with an entry. -/
def lastResort (e : Entry) (o : Output) : Output :=
  if Severity.warning.rank ≤ e.severity.rank then
    { o with errors := o.errors ++ [.message e.line] }
  else o

end Output

namespace Channel

/-- Adds the handler for the log file, if there is to be one. -/
def addFile (settings : LoggingSettings) (files : Files) (c : Channel) :
    Channel × Files × Except Failure Unit :=
  match settings.fileLogging, settings.logFile with
  | true, some path =>
    match Handler.forFile files path settings.format with
    | (files, .ok h) => ({ c with handlers := c.handlers ++ [h] }, files, .ok ())
    | (files, .error e) => (c, files, .error e)
  | _, _ => (c, files, .ok ())

/-- The channel of some settings: the console first, then the log file.  What was set up before a
failure stays. -/
def configure (settings : LoggingSettings) (files : Files) :
    Channel × Files × Except Failure Unit :=
  let c : Channel := { level := settings.level }
  if settings.console then
    match Handler.forConsole settings.format with
    | .ok h => addFile settings files { c with handlers := [h] }
    | .error e => (c, files, .error e)
  else addFile settings files c

/-- Whether a channel hands on entries of a severity. -/
def isEnabled (c : Channel) (s : Severity) : Bool := c.level.rank ≤ s.rank

/-- What an entry adds to the output. -/
def emit (c : Channel) (e : Entry) (surroundings : Surroundings) (o : Output) : Output :=
  if !c.isEnabled e.severity then o
  else if c.handlers.isEmpty then o.lastResort e
  else c.handlers.foldl (Output.handle e surroundings) o

end Channel

end ModelFormula
