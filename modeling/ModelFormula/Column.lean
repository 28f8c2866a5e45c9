import ModelFormula.Factor

/-!
# Data columns

* `Column` — numbers, truth values, texts, objects, factors and values of other kinds, with missing
  values where the storage has them; a missing double is the undefined number.
* `Column.missing` — which rows are missing.
* `Column.numbers` — the column as doubles; of factors only those of truth values have numbers, and
  of texts, objects and values of other kinds none.
* `Column.ofPlain` — the column that an untyped value stands for.
* `Column.keep` — the rows of a mask.
-/

set_option autoImplicit false

namespace ModelFormula

/-- A finite number with the significand and exponent that a format gives it, a half going to the
even significand. -/
def roundedTo (format : Float.Model.Format) :
    Float.Model.UnpackedFloat → Float.Model.UnpackedFloat
  | .finite sign m q _ => .round format sign m q
  | x => x

/-- The single-precision number nearest to `x`, as a double; beyond the largest one it is
infinite. -/
def roundToSingle (x : Float) : Float :=
  let single := Float.Model.UnpackedFloat.pack .binary32 (roundedTo .binary32 x.toModel.unpack)
  .ofModel (.pack (roundedTo .binary64 (.unpack .binary32 single)))

/-- How texts are stored. -/
inductive TextStorage where
  | str
  | string
  deriving DecidableEq, Repr

def TextStorage.name : TextStorage → String
  | .str => "str"
  | .string => "string"

inductive Column where
  | doubles (values : List Float)
  | ints (cells : List (Option Int))
  | truths (cells : List (Option Bool))
  | texts (storage : TextStorage) (cells : List (Option Level))
  /-- Values of any kind, side by side. -/
  | objects (values : List Plain)
  | factor (f : Factor)
  /-- Values of a kind that is neither numeric nor text, such as dates, as they are written. -/
  | other (storage : String) (cells : List (Option String))

namespace Column

def length : Column → Nat
  | .doubles values => values.length
  | .ints cells => cells.length
  | .truths cells => cells.length
  | .texts _ cells => cells.length
  | .objects values => values.length
  | .factor f => f.codes.length
  | .other _ cells => cells.length

/-- For every row whether it is missing. -/
def missing : Column → List Bool
  | .doubles values => values.map Float.isNaN
  | .ints cells => cells.map Option.isNone
  | .truths cells => cells.map Option.isNone
  | .texts _ cells => cells.map Option.isNone
  | .objects values => values.map Plain.isMissing
  | .factor f => f.codes.map Option.isNone
  | .other _ cells => cells.map Option.isNone

@[simp] theorem length_missing (c : Column) : c.missing.length = c.length := by
  cases c <;> simp [missing, length]

/-- The rows of a mask. -/
def keep (mask : Mask) : Column → Column
  | .doubles values => .doubles (mask.keep values)
  | .ints cells => .ints (mask.keep cells)
  | .truths cells => .truths (mask.keep cells)
  | .texts storage cells => .texts storage (mask.keep cells)
  | .objects values => .objects (mask.keep values)
  | .factor f => .factor (f.keep mask)
  | .other storage cells => .other storage (mask.keep cells)

theorem length_keep {α : Type} (mask : Mask) (c : Column) (rows : List α)
    (h : c.length = rows.length) : (c.keep mask).length = (mask.keep rows).length := by
  cases c <;> exact Mask.length_keep_congr mask h

/-- A missing number is undefined. -/
def floatOf {α : Type} (number : α → Float) : Option α → Float
  | some a => number a
  | none => 0.0 / 0.0

/-- Whether all levels of a factor are truth values, and there are some. -/
def isTruthFactor (f : Factor) : Bool := !f.levels.isEmpty && f.levels.all Level.isBool

/-- What objects are stored as. -/
def objectStorage : String := "object"

/-- The column as doubles, if it is numeric; else what it is stored as. -/
def numbers? : Column → Except String (List Float)
  | .doubles values => .ok values
  | .ints cells => .ok (cells.map (floatOf Float.ofInt))
  | .truths cells => .ok (cells.map (floatOf fun b => if b then 1.0 else 0.0))
  | .texts storage _ => .error storage.name
  | .objects _ => .error objectStorage
  | .factor f =>
    if isTruthFactor f then .ok (f.values.map (floatOf Level.toFloat)) else .error "category"
  | .other storage _ => .error storage

/-- Why a column of some storage has no numbers. -/
def notNumeric (name storage : String) : Failure :=
  .dataIssue ("column '" ++ name ++ "' has non-numeric type " ++ storage)

/-- The column as doubles; `name` is what it is called in the message. -/
def numbers (name : String) (c : Column) : Except Failure (List Float) :=
  c.numbers?.mapError (notNumeric name)

/-! ## Columns of untyped values -/

/-- A whole number that fits into 64 bits, with or without a sign. -/
def fitsWord : Plain → Bool
  | .int n => decide (-Int.pow 2 63 ≤ n ∧ n < Int.pow 2 64)
  | _ => true

def isNested : Plain → Bool
  | .list _ => true
  | _ => false

/-- The level that an object is, unless it is missing or holds others. -/
def cellOf (v : Plain) : Option Level := if v.isMissing then none else Level.ofPlain? v

/-- The column of a list of levels none of which is missing. -/
def ofLevels (levels : List Level) : Column :=
  if levels.all Level.isBool && !levels.isEmpty then
    .truths (levels.map fun v => some (v.canon == .int 1))
  else if levels.any Level.isText then .texts .str (levels.map some)
  else .doubles (levels.map Level.toFloat)

/-- The column that an untyped value stands for.  A list of numbers is numeric and a list with texts
is text; other lists, and values that are no list, hold objects.  Nested lists are refused. -/
def ofPlain : Plain → Except Failure Column
  | .list items =>
    if items.any isNested then .error .badValue
    else
      match items.mapM Level.ofPlain?, items.all fitsWord with
      | some levels, true => .ok (ofLevels levels)
      | _, _ => .ok (.objects items)
  | v => .ok (.objects [v])

end Column

end ModelFormula
