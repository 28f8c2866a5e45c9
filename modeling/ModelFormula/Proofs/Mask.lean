import Mathlib
import ModelFormula.Mask

/-!
# Positions of the kept rows

* `Mask.positions` — the positions of the rows that a mask keeps, in increasing order.
* `Mask.getElem?_keep` — row `r` of what is kept is the row at the `r`-th of these positions.
* `Mask.Keeps` — a list has, row by row, what stands at the kept positions of another one;
  `Mask.keeps_keep` — so it is with what is kept.
* `Mask.getElem?_complete` — the complete cases are the rows without a mark;
  `Mask.complete_cons_of_present` — a list without marks changes none.
-/

set_option autoImplicit false

namespace ModelFormula.Mask

variable {α : Type}

/-- The positions of the kept rows. -/
def positions (mask : Mask) : List Nat :=
  (List.range mask.length).filter fun i => mask[i]? = some true

theorem mem_positions {mask : Mask} {i : Nat} : i ∈ mask.positions ↔ mask[i]? = some true := by
  simp only [positions, List.mem_filter, List.mem_range, decide_eq_true_eq, and_iff_right_iff_imp]
  intro h
  exact (List.getElem?_eq_some_iff.1 h).1

theorem positions_pairwise (mask : Mask) : mask.positions.Pairwise (· < ·) :=
  List.Pairwise.filter _ List.pairwise_lt_range

theorem positions_cons (kept : Bool) (mask : Mask) :
    positions (kept :: mask) =
      if kept then 0 :: (positions mask).map (· + 1) else (positions mask).map (· + 1) := by
  unfold positions
  rw [List.length_cons, List.range_succ_eq_map, List.filter_cons, List.filter_map]
  cases kept <;> simp [Function.comp_def]

/-- Row `r` of what is kept stood at the `r`-th kept position. -/
theorem getElem?_keep (mask : Mask) (xs : List α) (h : mask.length ≤ xs.length) (r : Nat) :
    (mask.keep xs)[r]? = mask.positions[r]?.bind fun i => xs[i]? := by
  induction mask generalizing xs r with
  | nil => simp [keep, positions]
  | cons kept mask ih =>
    cases xs with
    | nil => simp at h
    | cons x xs =>
      have h' : mask.length ≤ xs.length := by simpa using h
      have tail : ∀ r : Nat, (keep mask xs)[r]? =
          (((positions mask).map (· + 1))[r]?).bind fun i => (x :: xs)[i]? := by
        intro r
        rw [ih xs h' r, List.getElem?_map, Option.bind_map]
        rfl
      rw [positions_cons]
      cases kept with
      | false => exact tail r
      | true =>
        cases r with
        | zero => rfl
        | succ r => exact tail r

theorem length_positions (mask : Mask) : mask.positions.length = mask.kept := by
  induction mask with
  | nil => rfl
  | cons kept mask ih => rw [positions_cons]; cases kept <;> simp_all [Mask.kept]

theorem lt_of_getElem?_positions {mask : Mask} {r i : Nat} (h : mask.positions[r]? = some i) :
    i < mask.length :=
  (List.getElem?_eq_some_iff.1 (mem_positions.1 (List.mem_of_getElem? h))).1

/-- The items of `xs` are related, in their order, to those of `ys` at the kept positions. -/
def Keeps {β : Type} (R : α → β → Prop) (mask : Mask) (xs : List α) (ys : List β) : Prop :=
  xs.length = mask.positions.length ∧
    ∀ r i : Nat, mask.positions[r]? = some i → ∃ x y, xs[r]? = some x ∧ ys[i]? = some y ∧ R x y

/-- Of two lists related item by item, what is kept of one is related to the kept rows of the
other. -/
theorem keeps_keep {β : Type} {R : α → β → Prop} {mask : Mask} {xs : List α} {ys : List β}
    (h : List.Forall₂ R xs ys) (hm : mask.length = xs.length) : mask.Keeps R (mask.keep xs) ys := by
  refine ⟨by rw [length_keep hm, length_positions], fun r i kept => ?_⟩
  have hi : i < xs.length := hm ▸ lt_of_getElem?_positions kept
  have hi' : i < ys.length := h.length_eq ▸ hi
  rw [getElem?_keep mask xs (Nat.le_of_eq hm), kept, Option.bind_some]
  exact ⟨_, _, List.getElem?_eq_getElem hi, List.getElem?_eq_getElem hi', h.get hi hi'⟩

/-! ## Complete cases -/

variable {n : Nat} {missing : List (List Bool)}

theorem length_complete (h : ∀ marks ∈ missing, marks.length = n) :
    (complete n missing).length = n := by
  induction missing with
  | nil => simp [complete, all]
  | cons marks missing ih =>
    have head := h marks List.mem_cons_self
    have tail := ih fun m hm => h m (List.mem_cons_of_mem _ hm)
    rw [complete] at tail ⊢
    rw [List.foldr_cons, List.length_zipWith, head, tail, Nat.min_self]

/-- A row is complete exactly when no list has a mark there. -/
theorem getElem?_complete (h : ∀ marks ∈ missing, marks.length = n) {i : Nat} (hi : i < n) :
    (complete n missing)[i]? = some true ↔ ∀ marks ∈ missing, marks[i]? = some false := by
  induction missing with
  | nil => simp [complete, all, hi]
  | cons marks missing ih =>
    have head : i < marks.length := by rw [h marks List.mem_cons_self]; exact hi
    have tail := ih fun m hm => h m (List.mem_cons_of_mem _ hm)
    have unfolded : complete n (marks :: missing) =
        List.zipWith (fun mark kept => !mark && kept) marks (complete n missing) := rfl
    rw [unfolded, List.getElem?_zipWith, List.getElem?_eq_getElem head, List.forall_mem_cons,
      ← tail, List.getElem?_eq_getElem head]
    cases (complete n missing)[i]? with
    | none => simp
    | some kept => cases marks[i] <;> simp

/-- A list without marks leaves the complete cases as they are. -/
theorem complete_cons_of_present {marks : List Bool} (present : true ∉ marks)
    (size : marks.length = n) (sizes : ∀ others ∈ missing, others.length = n) :
    complete n (marks :: missing) = complete n missing := by
  have unmarked : marks = List.replicate n false := by
    refine List.eq_replicate_iff.2 ⟨size, fun mark hm => ?_⟩
    exact Bool.eq_false_iff.2 fun marked => present (marked ▸ hm)
  have kept : ∀ mask : Mask, List.zipWith (fun mark kept => !mark && kept)
      (List.replicate mask.length false) mask = mask := by
    intro mask
    induction mask with
    | nil => rfl
    | cons b mask ih => exact congrArg (b :: ·) ih
  have unchanged := kept (complete n missing)
  rw [length_complete sizes, ← unmarked] at unchanged
  exact unchanged

end ModelFormula.Mask
