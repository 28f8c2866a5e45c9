import ModelFormula.Settings
import ModelFormula.Plain
import ModelFormula.Text.Number

/-!
# Values of settings

Settings are given as untyped values and are read leniently: numbers may be written as text, truth
values as numbers or words.

* `Setting.flag?`, `Setting.base?`, `Setting.level?`, `Setting.precision?`, `Setting.path?`,
  `Setting.text?` — the value that a setting takes, if it is one.
-/

set_option autoImplicit false

namespace ModelFormula.Setting

/-- The words for true and for false, in any case. -/
def trueWords : List String := ["1", "t", "true", "y", "yes", "on"]

def falseWords : List String := ["0", "f", "false", "n", "no", "off"]

def flagOfWord? (word : String) : Option Bool :=
  let lower := String.ofList (Text.lowerAscii word.toList)
  if trueWords.contains lower then some true
  else if falseWords.contains lower then some false
  else none

def flagOfInt? (n : Int) : Option Bool :=
  if n = 1 then some true else if n = 0 then some false else none

/-- A truth value: itself, zero or one, or a word. -/
def flag? : Plain → Option Bool
  | .bool b => some b
  | .int n => flagOfInt? n
  | .float x => (wholeOfFloat? x).bind flagOfInt?
  | .text s => flagOfWord? s
  | _ => none

/-- A whole number: itself, a double without fraction, a truth value, or written as text. -/
def integer? : Plain → Option Int
  | .bool b => some (if b then 1 else 0)
  | .int n => some n
  | .float x => wholeOfFloat? x
  | .text s => Text.settingInteger? s
  | _ => none

/-- The position of a base level is at least one. -/
def base? (v : Plain) : Option Int := (integer? v).filter fun n => 1 ≤ n

/-- The capital of a letter as far as the names of levels go: the dotless i has one there too. -/
def capital (c : Char) : Char := if c = '\u0131' then 'I' else c.toUpper

/-- The name of a level, in any case. -/
def level? : Plain → Option Severity
  | .text s => Severity.ofName? (String.ofList (s.toList.map capital))
  | _ => none

def precision? : Plain → Option Precision
  | .text s => Precision.ofName? s
  | _ => none

/-- A path, or null for none. -/
def path? : Plain → Option (Option FilePath)
  | .null => some none
  | .text s => some (some (.ofText s))
  | _ => none

def text? : Plain → Option String
  | .text s => some s
  | _ => none

end ModelFormula.Setting
