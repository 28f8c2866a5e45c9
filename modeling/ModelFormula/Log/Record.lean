import ModelFormula.Decimal.Text
import ModelFormula.Dictionary
import ModelFormula.Journal
import ModelFormula.Text.Quoted

/-!
# Log records

What a log line can say about an entry: the entry itself, the place in the library that logs, the
process and the time.

* `Attribute` — a value; texts, whole numbers and doubles can be written in several ways.
* `Surroundings` — what a record takes from the process and the moment.
* `Record` — an entry in its surroundings; `Record.attributes` are its values, by their names.
-/

set_option autoImplicit false

namespace ModelFormula

/-- The value of an attribute of a record. -/
inductive Attribute where
  | text (s : String)
  | whole (n : Int)
  | real (x : Float)
  /-- A value that can only be shown. -/
  | other (shown : String)

namespace Attribute

/-- An attribute without a value. -/
def nothing : Attribute := .other "None"

def asText : Attribute → String
  | .text s => s
  | .whole n => toString n
  | .real x => Decimal.text x
  | .other shown => shown

/-- The value with texts between quotes. -/
def shown : Attribute → String
  | .text s => Text.quoted s
  | a => a.asText

end Attribute

/-- What a record takes from the process that logs, and from the moment. -/
structure Surroundings where
  /-- The directory of the module that logs. -/
  directory : String := ""
  /-- The time, in seconds. -/
  now : Float := 0
  /-- The time at which logging was loaded. -/
  started : Float := 0
  /-- The local date and time, to the second. -/
  date : String := "1970-01-01 00:00:00"
  process : Int := 1
  processName : String := "MainProcess"
  thread : Int := 1
  threadName : String := "MainThread"

namespace Surroundings

/-- A number of seconds in thousandths, without the whole seconds and without smaller parts. -/
def thousandths (x : Float) : Int :=
  let whole := (Binary64.ofFloat x).truncated?.getD 0
  (Binary64.ofFloat ((x - Float.ofInt whole) * 1000)).truncated?.getD 0

/-- The date and the time to the thousandth of a second. -/
def time (s : Surroundings) : String :=
  let ds := Decimal.digitChars (thousandths s.now).natAbs
  s.date ++ "," ++ String.ofList (Decimal.zeros (3 - ds.length) ++ ds)

end Surroundings

/-- The name of a method. -/
def Method.name : Method → String
  | .debug => "debug"
  | .info => "info"
  | .warning => "warning"
  | .error => "error"

/-- The line of the logging module on which a method logs. -/
def Method.line : Method → Nat
  | .debug => 79
  | .info => 84
  | .warning => 89
  | .error => 94

/-- An entry in its surroundings, with the level's name as it is to be shown. -/
structure Record where
  logger : String
  method : Method
  levelName : String
  message : String
  surroundings : Surroundings

/-- The record of an entry. -/
def Entry.record (e : Entry) (levelName : String) (surroundings : Surroundings) : Record :=
  ⟨e.logger, e.method, levelName, e.line, surroundings⟩

namespace Record

/-- The attributes of a record; the date is among them only if it is asked for. -/
def attributes (r : Record) (dated : Bool) : Dictionary String Attribute :=
  let s := r.surroundings
  [("name", .text r.logger), ("msg", .text r.message), ("args", .other "()"),
    ("levelname", .text r.levelName), ("levelno", .whole r.method.severity.rank),
    ("pathname", .text (s.directory ++ "/logging.py")), ("filename", .text "logging.py"),
    ("module", .text "logging"), ("exc_info", .nothing), ("exc_text", .nothing),
    ("stack_info", .nothing), ("lineno", .whole r.method.line), ("funcName", .text r.method.name),
    ("created", .real s.now), ("msecs", .real (Float.ofInt (Surroundings.thousandths s.now))),
    ("relativeCreated", .real ((s.now - s.started) * 1000)), ("thread", .whole s.thread),
    ("threadName", .text s.threadName), ("processName", .text s.processName),
    ("process", .whole s.process), ("message", .text r.message)] ++
    if dated then [("asctime", .text s.time)] else []

/-- All attributes at once. -/
def shown (r : Record) (dated : Bool) : String :=
  let parts := (r.attributes dated).map fun a => Text.quoted a.1 ++ ": " ++ a.2.shown
  "\x7b" ++ ", ".intercalate parts ++ "\x7d"

end Record

end ModelFormula
