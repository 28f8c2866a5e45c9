import ModelFormula.Document.Printer
import ModelFormula.Document.Reader
import ModelFormula.Log.Channel
import ModelFormula.Matrix
import ModelFormula.Settings.Layers
import ModelFormula.Settings.Update

/-!
# Sessions

A session is what stays between operations: the settings in force, the loggers that follow them, and
what was put out.

* `Session` — the state, with the output so far.
* `Session.Run` — an operation on it; what happened before a failure stays.
* `Session.replay` — prints what a computation of the model logged and gives its outcome.
* `Session.configure`, `Session.reset`, `Session.setupLogging` — change the settings in force.
* `Session.loadSettings`, `Session.saveSettings` — settings of their own, from and to files.
-/

set_option autoImplicit false

namespace ModelFormula

structure Session extends Output where
  settings : Settings := {}
  /-- The channels of loggers, by their names. -/
  channels : Dictionary String Channel := []
  /-- The loggers whose channels follow the settings in force. -/
  configured : List String := []
  surroundings : Surroundings := {}

namespace Session

/-- An operation on a session. -/
abbrev Run := ExceptT Failure (StateM Session)

variable {α : Type}

/-! ## Logging -/

/-- The logger at the root goes by two names. -/
def channelName (logger : String) : String := if logger = "root" then "" else logger

def channel (s : Session) (logger : String) : Channel :=
  (s.channels.get? (channelName logger)).getD {}

def setChannel (s : Session) (logger : String) (c : Channel) : Session :=
  { s with channels := s.channels.put (channelName logger) c }

/-- Sets the channel of a logger up from some settings. -/
def setUp (logger : String) (settings : LoggingSettings) : Run Unit := do
  let s ← get
  let (c, files, outcome) := Channel.configure settings s.files
  set { s.setChannel logger c with files }
  outcome

/-- The name of a logger in its lines. -/
def shownName (logger : String) : String := if logger = "" then "root" else logger

/-- An entry under the name that its logger has in lines. -/
def shownEntry (e : Entry) : Entry := { e with logger := shownName e.logger }

/-- Hands an entry to the channel of its logger. -/
def hand (e : Entry) : Run Unit :=
  modify fun s =>
    { s with toOutput := (s.channel e.logger).emit (shownEntry e) s.surroundings s.toOutput }

/-- Logs an entry.  A logger that does not follow the settings in force is set up first. -/
def log (e : Entry) : Run Unit := do
  let s ← get
  if !s.configured.contains e.logger then
    setUp e.logger s.settings.logging
    modify fun s => { s with configured := e.logger :: s.configured }
  hand e

/-- Logs an entry through a new logger with settings of its own. -/
def logWith (settings : LoggingSettings) (e : Entry) : Run Unit := do
  setUp e.logger settings
  hand e

/-- Logs entries in their order. -/
def logAll : List Entry → Run Unit
  | [] => pure ()
  | e :: es => do
    log e
    logAll es

/-- Logs what a computation recorded and gives its outcome. -/
def replay (j : Journal α) : Run α := do
  logAll j.entries
  j.outcome

/-- Makes all loggers take up the settings in force at their next entry. -/
def refresh : Run Unit := modify fun s => { s with configured := [] }

/-! ## Settings in force -/

/-- Changes settings key by key; changes before one that fails stay. -/
def configure (changes : Dictionary String Plain) : Run Settings := do
  let s ← get
  let (settings, outcome) := s.settings.update changes
  set { s with settings }
  outcome
  refresh
  return settings

/-- Goes back to the settings of the environment and the defaults. -/
def reset (environment : Dictionary String String) : Run Settings := do
  let settings ← Settings.ofSources (.sections [] true) environment []
  modify fun s => { s with settings }
  refresh
  return settings

/-- Sets one field of the settings in force. -/
def setField (f : Field) (v : Plain) : Run Unit := do
  let s ← get
  match f.assign v s.settings with
  | some settings => set { s with settings }
  | none => throw .invalidSetting

/-- Sets fields in their order, those whose value is not null. -/
def setFields : List (Field × Plain) → Run Unit
  | [] => pure ()
  | (f, v) :: rest => do
    if v ≠ .null then setField f v
    setFields rest

/-- Changes how is logged; null leaves a setting as it is, and a path switches file logging on. -/
def setupLogging (level console path form : Plain) : Run Settings := do
  let fileLogging : Plain := if path = .null then .null else .bool true
  setFields
    [(.level, level), (.console, console), (.fileLogging, fileLogging), (.logFile, path),
      (.format, form)]
  refresh
  let s ← get
  return s.settings

/-! ## Settings of their own -/

/-- The document of a file; without a name there is none, and one that counts as not given holds
nothing. -/
def loadDocument (path : String) : Run DocumentRoot := do
  if path = "" then return .sections [] true
  else
    let s ← get
    let p := FilePath.ofText path
    if !s.files.has p then throw .fileNotFound
    let text ← s.files.read p
    let document ← Document.ofText text
    match document with
    | .mapping entries =>
      return .sections (Document.toPlainEntries [] entries) (Document.mapping entries).hasTextKeys
    | d => return if d.toPlain.truthy then .other else .sections [] true

/-- Settings from a file, the environment and given values. -/
def loadSettings (path : String) (environment : Dictionary String String)
    (given : Dictionary String Plain) : Run Settings := do
  let document ← loadDocument path
  Settings.ofSources document environment given

/-- The text of settings in a file. -/
def settingsText (s : Settings) : String :=
  Document.write (Section.all.map fun g => (g.name, g.get s))

/-- Writes settings to a file and gives the text written. -/
def saveSettings (settings : Settings) (path : String) : Run String := do
  let s ← get
  let p := FilePath.ofText path
  let files ← s.files.makeParents p
  set { s with files }
  let files ← files.write p (settingsText settings)
  set { s with files }
  return settingsText settings

/-! ## Files -/

def fileText (path : String) : Run String := do
  let s ← get
  s.files.read (.ofText path)

def putFile (path text : String) : Run Unit := do
  let s ← get
  let files ← s.files.write (.ofText path) text
  set { s with files }

end Session

end ModelFormula
