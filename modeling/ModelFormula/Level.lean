import ModelFormula.Plain

/-!
# Levels

The values that a data column can hold: texts, whole numbers, truth values and doubles.

* `Level.same` — equality by value, across the kinds of numbers.
* `Level.le` — the order in which levels are listed: numbers by their exact value, then texts by
  code point.  It is total and transitive (`Level.le_total`, `Level.le_trans`).
* `Level.harmonized` — a list of whole numbers and doubles becomes a list of doubles.
* `Level.label` — a level as it stands in a coefficient name.
-/

set_option autoImplicit false

namespace ModelFormula

inductive Level where
  | text (s : String)
  | int (n : Int)
  | bool (b : Bool)
  | float (x : Float)
  deriving DecidableEq, Inhabited

namespace Level

/-! ## Equality by value -/

/-- The representative of all levels of one value. -/
def canon : Level → Level
  | .text s => .text s
  | .int n => .int n
  | .bool b => .int (if b then 1 else 0)
  | .float x =>
    match wholeOfFloat? x with
    | some n => .int n
    | none => .float x

/-- Equality by value. -/
def same (a b : Level) : Bool := decide (a.canon = b.canon)

theorem same_iff (a b : Level) : a.same b = true ↔ a.canon = b.canon := by simp [same]

@[simp] theorem same_refl (a : Level) : a.same a = true := by simp [same]

theorem same_comm (a b : Level) : a.same b = b.same a := by
  simp [same, eq_comm]

/-! ## Order -/

/-- Where a level stands in the order: its class first (negative infinity, finite numbers, infinity,
undefined numbers, texts), then its value, then its text. -/
structure Place where
  tier : Nat
  value : Dyadic
  text : String

namespace Place

/-- The lexicographic order of places. -/
def le (a b : Place) : Bool :=
  decide (a.tier < b.tier) ||
    (decide (a.tier = b.tier) && decide (a.value ≤ b.value) &&
      (decide (a.value ≠ b.value) || decide (a.text ≤ b.text)))

theorem le_iff (a b : Place) :
    a.le b = true ↔ a.tier < b.tier ∨
      a.tier = b.tier ∧ a.value ≤ b.value ∧ (a.value = b.value → a.text ≤ b.text) := by
  simp [le, and_assoc, Decidable.imp_iff_not_or]

theorem le_total (a b : Place) : (a.le b || b.le a) = true := by
  rw [Bool.or_eq_true, le_iff, le_iff]
  rcases Nat.lt_trichotomy a.tier b.tier with h | h | h
  · exact Or.inl (Or.inl h)
  · by_cases e : a.value = b.value
    · rcases String.le_total a.text b.text with t | t
      · exact Or.inl (Or.inr ⟨h, e ▸ Dyadic.le_refl _, fun _ => t⟩)
      · exact Or.inr (Or.inr ⟨h.symm, e ▸ Dyadic.le_refl _, fun _ => t⟩)
    · rcases Dyadic.le_total a.value b.value with v | v
      · exact Or.inl (Or.inr ⟨h, v, fun k => absurd k e⟩)
      · exact Or.inr (Or.inr ⟨h.symm, v, fun k => absurd k.symm e⟩)
  · exact Or.inr (Or.inl h)

theorem le_trans (a b c : Place) (hab : a.le b = true) (hbc : b.le c = true) :
    a.le c = true := by
  rw [le_iff] at *
  rcases hab with h | ⟨h, v, t⟩
  · rcases hbc with k | ⟨k, _, _⟩ <;> exact Or.inl (by omega)
  · rcases hbc with k | ⟨k, w, u⟩
    · exact Or.inl (by omega)
    · refine Or.inr ⟨by omega, Dyadic.le_trans v w, fun e => ?_⟩
      have ab : a.value = b.value := Dyadic.le_antisymm v (e ▸ w)
      exact String.le_trans (t ab) (u (ab.symm.trans e))

end Place

/-- The place of a double, by its exact value. -/
def placeOfFloat (x : Float) : Place :=
  match Binary64.ofFloat x with
  | .infinite true => ⟨0, 0, ""⟩
  | .finite negative m q =>
    ⟨1, Dyadic.ofIntWithPrec (if negative then -(m : Int) else m) (-q), ""⟩
  | .infinite false => ⟨2, 0, ""⟩
  | .undefined => ⟨3, 0, ""⟩

def place : Level → Place
  | .int n => ⟨1, Dyadic.ofIntWithPrec n 0, ""⟩
  | .bool b => ⟨1, if b then 1 else 0, ""⟩
  | .float x => placeOfFloat x
  | .text s => ⟨4, 0, s⟩

/-- The order of levels: numbers by value, then texts by code point. -/
def le (a b : Level) : Bool := a.place.le b.place

theorem le_total (a b : Level) : (a.le b || b.le a) = true := Place.le_total _ _

theorem le_trans (a b c : Level) : a.le b = true → b.le c = true → a.le c = true :=
  Place.le_trans _ _ _

theorem text_le_text (s t : String) : (Level.text s).le (.text t) = true ↔ s ≤ t := by
  simp [le, place, Place.le_iff]

/-! ## Kinds -/

def isText : Level → Bool
  | .text _ => true
  | _ => false

def isInt : Level → Bool
  | .int _ => true
  | _ => false

def isBool : Level → Bool
  | .bool _ => true
  | _ => false

def isFloat : Level → Bool
  | .float _ => true
  | _ => false

/-- A level as a double; a text has no number and counts as undefined. -/
def toFloat : Level → Float
  | .int n => Float.ofInt n
  | .bool b => if b then 1.0 else 0.0
  | .float x => x
  | .text _ => 0.0 / 0.0

/-- Whole numbers become doubles where they stand among doubles and nothing else. -/
def harmonized (levels : List Level) : List Level :=
  if levels.all (fun v => v.isInt || v.isFloat) && levels.any isFloat then
    levels.map fun v => .float v.toFloat
  else levels

/-! ## Texts -/

/-- A level as an untyped value. -/
def toPlain : Level → Plain
  | .text s => .text s
  | .int n => .int n
  | .bool b => .bool b
  | .float x => .float x

/-- The level of an untyped value, if it has one. -/
def ofPlain? : Plain → Option Level
  | .text s => some (.text s)
  | .int n => some (.int n)
  | .bool b => some (.bool b)
  | .float x => some (.float x)
  | _ => none

/-- A level as it stands in a coefficient name. -/
def label (v : Level) : String := v.toPlain.asText

end Level

end ModelFormula
