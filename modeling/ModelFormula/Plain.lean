import ModelFormula.Decimal.Text
import ModelFormula.Text.Quoted

/-!
# Plain values

Untyped data, as it stands in a configuration document or in a place of a formula where something
else was expected.

* `Plain` — the values.  An undefined number carries the occurrence it was read at: two
  occurrences are never equal, copies of one are.
* `Plain.canon`, `Plain.same` — equality by value: a whole double, a truth value and the integer of
  that size are the same, and the order of the entries of a dictionary does not count.
* `Plain.sameLabel` — equality of labels, among which there is one undefined number.
* `Plain.beq_iff` — structural equality is decidable.
* `Plain.truthy`, `Plain.kindName`, `Plain.shown`, `Plain.asText` — how a value counts in a
  condition, what its kind is called, and how it is written.
-/

set_option autoImplicit false

namespace ModelFormula

inductive Plain where
  | null
  | bool (b : Bool)
  | int (n : Int)
  | float (x : Float)
  | nan (occurrence : Nat)
  | text (s : String)
  | list (values : List Plain)
  | dict (entries : List (String × Plain))
  deriving Inhabited

namespace Plain

/-! ## Structural equality -/

mutual
/-- Equality of constructors and parts. -/
def beq : Plain → Plain → Bool
  | .null, .null => true
  | .bool a, .bool b => a == b
  | .int a, .int b => a == b
  | .float x, .float y => decide (x = y)
  | .nan i, .nan j => i == j
  | .text s, .text t => s == t
  | .list xs, .list ys => beqList xs ys
  | .dict xs, .dict ys => beqEntries xs ys
  | _, _ => false
def beqList : List Plain → List Plain → Bool
  | [], [] => true
  | x :: xs, y :: ys => x.beq y && beqList xs ys
  | _, _ => false
def beqEntries : List (String × Plain) → List (String × Plain) → Bool
  | [], [] => true
  | (k, x) :: xs, (l, y) :: ys => k == l && x.beq y && beqEntries xs ys
  | _, _ => false
end

mutual
theorem beq_iff : ∀ x y : Plain, x.beq y = true ↔ x = y
  | .null, y => by cases y <;> simp [beq]
  | .bool _, y => by cases y <;> simp [beq]
  | .int _, y => by cases y <;> simp [beq]
  | .float _, y => by cases y <;> simp [beq]
  | .nan _, y => by cases y <;> simp [beq]
  | .text _, y => by cases y <;> simp [beq]
  | .list xs, y => by cases y <;> simp [beq, beqList_iff xs]
  | .dict xs, y => by cases y <;> simp [beq, beqEntries_iff xs]
theorem beqList_iff : ∀ xs ys : List Plain, beqList xs ys = true ↔ xs = ys
  | [], ys => by cases ys <;> simp [beqList]
  | x :: xs, ys => by cases ys <;> simp [beqList, beq_iff x, beqList_iff xs]
theorem beqEntries_iff : ∀ xs ys : List (String × Plain), beqEntries xs ys = true ↔ xs = ys
  | [], ys => by cases ys <;> simp [beqEntries]
  | (k, x) :: xs, ys => by
    cases ys with
    | nil => simp [beqEntries]
    | cons y ys => simp [beqEntries, beq_iff x, beqEntries_iff xs, Prod.ext_iff, and_assoc]
end

instance : DecidableEq Plain := fun x y => decidable_of_iff _ (beq_iff x y)

/-! ## Equality by value -/

/-- Puts an entry before the first one with a key that is not smaller. -/
def insertEntry (k : String) (v : Plain) : List (String × Plain) → List (String × Plain)
  | [] => [(k, v)]
  | (l, w) :: rest =>
    if k ≤ l then (k, v) :: (l, w) :: rest else (l, w) :: insertEntry k v rest

mutual
/-- The representative of all values that equal this one. -/
def canon : Plain → Plain
  | .bool b => .int (if b then 1 else 0)
  | .float x =>
    match wholeOfFloat? x with
    | some n => .int n
    | none => .float x
  | .list xs => .list (canonList xs)
  | .dict xs => .dict (canonEntries xs)
  | .null => .null
  | .int n => .int n
  | .nan i => .nan i
  | .text s => .text s
def canonList : List Plain → List Plain
  | [] => []
  | x :: xs => x.canon :: canonList xs
def canonEntries : List (String × Plain) → List (String × Plain)
  | [] => []
  | (k, x) :: xs => insertEntry k x.canon (canonEntries xs)
end

/-- Equality by value. -/
def same (x y : Plain) : Bool := decide (x.canon = y.canon)

/-- An undefined number. -/
def isNaN : Plain → Bool
  | .float x => x.isNaN
  | .nan _ => true
  | _ => false

/-- The representative of all values that are one label: undefined numbers are, wherever they were
read. -/
def labelCanon (x : Plain) : Plain := if x.isNaN then .nan 0 else x.canon

/-- Equality of labels. -/
def sameLabel (x y : Plain) : Bool := decide (x.labelCanon = y.labelCanon)

/-- What counts as missing among objects. -/
def isMissing (x : Plain) : Bool := x = .null || x.isNaN

/-! ## Conditions, kinds and texts -/

/-- Whether a value counts as given: not null, not zero, not empty. -/
def truthy : Plain → Bool
  | .null => false
  | .bool b => b
  | .int n => n != 0
  | .float x => x != 0.0
  | .nan _ => true
  | .text s => s != ""
  | .list xs => !xs.isEmpty
  | .dict xs => !xs.isEmpty

/-- What the kind of a value is called in messages. -/
def kindName : Plain → String
  | .null => "NoneType"
  | .bool _ => "bool"
  | .int _ => "int"
  | .float _ => "float"
  | .nan _ => "float"
  | .text _ => "str"
  | .list _ => "list"
  | .dict _ => "dict"

/-- A list of texts in square brackets. -/
def bracketed (items : List String) : String := "[" ++ ", ".intercalate items ++ "]"

mutual
/-- A value as it is shown inside a message. -/
def shown : Plain → String
  | .null => "None"
  | .bool b => if b then "True" else "False"
  | .int n => toString n
  | .float x => Decimal.text x
  | .nan _ => "nan"
  | .text s => Text.quoted s
  | .list xs => bracketed (shownList xs)
  | .dict xs => "\x7b" ++ ", ".intercalate (shownEntries xs) ++ "\x7d"
def shownList : List Plain → List String
  | [] => []
  | x :: xs => x.shown :: shownList xs
def shownEntries : List (String × Plain) → List String
  | [] => []
  | (k, x) :: xs => (Text.quoted k ++ ": " ++ x.shown) :: shownEntries xs
end

/-- A value as text: a text is itself, everything else is shown. -/
def asText : Plain → String
  | .text s => s
  | v => v.shown

/-- A value that no container holds, so that it can be looked up by value. -/
def hashable : Plain → Bool
  | .list _ => false
  | .dict _ => false
  | _ => true

end Plain

end ModelFormula
