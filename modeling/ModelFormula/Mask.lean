/-!
# Row masks

A mask says of every row whether it is kept.

* `Mask.keep` — the kept items of a list, in their order.
* `Mask.complete` — the rows in which nothing is missing.
* `Mask.keep_map`, `Mask.length_keep` — keeping commutes with what is done item by item, and gives
  one item for every kept row.
-/

set_option autoImplicit false

namespace ModelFormula

abbrev Mask := List Bool

namespace Mask

variable {α β : Type}

/-- The kept items of a list. -/
def keep : Mask → List α → List α
  | true :: mask, x :: xs => x :: keep mask xs
  | false :: mask, _ :: xs => keep mask xs
  | [], _ => []
  | _, [] => []

/-- The mask that keeps all of `n` rows. -/
def all (n : Nat) : Mask := List.replicate n true

/-- The mask that drops all of `n` rows. -/
def none (n : Nat) : Mask := List.replicate n false

/-- The complete cases among `n` rows: no list of missing marks has a mark there. -/
def complete (n : Nat) (missing : List (List Bool)) : Mask :=
  missing.foldr (fun marks mask => List.zipWith (fun mark kept => !mark && kept) marks mask) (all n)

/-- The number of rows kept. -/
def kept (mask : Mask) : Nat := mask.count true

/-- The number of rows dropped. -/
def dropped (mask : Mask) : Nat := mask.count false

theorem keep_nil (mask : Mask) : mask.keep ([] : List α) = [] := by
  cases mask with
  | nil => rfl
  | cons b mask => cases b <;> rfl

theorem keep_map (f : α → β) (mask : Mask) (xs : List α) :
    mask.keep (xs.map f) = (mask.keep xs).map f := by
  induction mask generalizing xs with
  | nil => rfl
  | cons b mask ih =>
    cases xs with
    | nil => simp [keep_nil]
    | cons x xs => cases b <;> simp [keep, ih]

theorem length_keep {mask : Mask} {xs : List α} (h : mask.length = xs.length) :
    (mask.keep xs).length = mask.kept := by
  induction mask generalizing xs with
  | nil => rfl
  | cons b mask ih =>
    cases xs with
    | nil => simp at h
    | cons x xs =>
      have := @ih xs (by simpa using h)
      cases b <;> simp_all [keep, kept]

/-- Lists of one length keep one length. -/
theorem length_keep_congr {xs : List α} {ys : List β} (mask : Mask)
    (h : xs.length = ys.length) : (mask.keep xs).length = (mask.keep ys).length := by
  induction mask generalizing xs ys with
  | nil => rfl
  | cons b mask ih =>
    cases xs with
    | nil => cases ys with
      | nil => simp [keep_nil]
      | cons y ys => simp at h
    | cons x xs => cases ys with
      | nil => simp at h
      | cons y ys =>
        have := @ih xs ys (by simpa using h)
        cases b <;> simpa [keep] using this

theorem keep_sublist (mask : Mask) (xs : List α) : (mask.keep xs).Sublist xs := by
  induction mask generalizing xs with
  | nil => exact List.nil_sublist xs
  | cons b mask ih =>
    cases xs with
    | nil => simp [keep_nil]
    | cons x xs =>
      cases b
      · exact (ih xs).cons x
      · exact (ih xs).cons_cons x

end Mask

end ModelFormula
