import ModelFormula.Document
import ModelFormula.Document.Style

/-!
# Writing documents

* `Document.write` — a dictionary in blocks: its entries sorted by name, those of a dictionary inside
  it indented by two blanks more.
-/

set_option autoImplicit false

namespace ModelFormula.Document

/-- A single value as it is written after a key, with a blank in front. -/
def writeValue (column indent : Nat) : Plain → String
  | .null => " null"
  | .bool b => if b then " true" else " false"
  | .int n => " " ++ toString n
  | .text s => Style.write column indent s
  | v => " " ++ v.shown

/-- Puts a text before the first one with a name that is not smaller. -/
def insertByName (name text : String) : List (String × String) → List (String × String)
  | [] => [(name, text)]
  | (other, t) :: rest =>
    if name ≤ other then (name, text) :: (other, t) :: rest
    else (other, t) :: insertByName name text rest

mutual
/-- A value after its key. -/
def writeAfterKey (depth : Nat) (name : String) : Plain → String
  | .dict [] => " \x7b\x7d\n"
  | .dict (e :: es) =>
    "\n" ++ String.join ((writeEntries (depth + 1) (e :: es)).map (·.2))
  | v => writeValue (2 * depth + name.length + 1) (2 * depth + 2) v ++ "\n"
/-- The entries of a dictionary, sorted by name. -/
def writeEntries (depth : Nat) : List (String × Plain) → List (String × String)
  | [] => []
  | (name, v) :: rest =>
    insertByName name
      (String.ofList (List.replicate (2 * depth) ' ') ++ name ++ ":" ++ writeAfterKey depth name v)
      (writeEntries depth rest)
end

/-- The text of a dictionary. -/
def write (entries : List (String × Plain)) : String :=
  String.join ((writeEntries 0 entries).map (·.2))

end ModelFormula.Document
