/-!
# First occurrences

* `firsts` — the items of a list that are not the same as an earlier one.
* `repeats` — the items that are the same as an earlier one.
* `addNew` — adds the items of a list that are not the same as one found before.
* `firsts_sublist`, `firsts_pairwise`, `exists_mem_firsts` — they are a sublist, no two of them are
  the same, and every item is the same as one of them.
* `firsts_eq_self`, `repeats_eq_nil` — in a list without repetitions all are first, and none repeats.
* `addNew_append`, `addNew_addNew`, `addNew_nil` — items can be added piece by piece, repetitions
  within a piece do not matter, and what is added to nothing are the first occurrences.
-/

set_option autoImplicit false

namespace ModelFormula

variable {α : Type}

/-- The items of a list that are not the same as an earlier one. -/
def firsts (same : α → α → Bool) : List α → List α
  | [] => []
  | x :: xs => x :: (firsts same xs).filter fun y => !same x y

/-- The items of a list that are the same as an earlier one. -/
def repeats (same : α → α → Bool) (xs : List α) : List α :=
  (xs.zipIdx.filter fun p => (xs.take p.2).any fun y => same y p.1).map (·.1)

/-- Adds the items that are not the same as one that was found before. -/
def addNew (same : α → α → Bool) (found : List α) : List α → List α
  | [] => found
  | x :: xs => addNew same (if found.any (same x) then found else found ++ [x]) xs

theorem firsts_sublist (same : α → α → Bool) (xs : List α) :
    (firsts same xs).Sublist xs := by
  induction xs with
  | nil => exact List.Sublist.slnil
  | cons x xs ih => exact (List.filter_sublist.trans ih).cons_cons x

theorem firsts_pairwise (same : α → α → Bool) (xs : List α) :
    (firsts same xs).Pairwise fun x y => same x y = false := by
  induction xs with
  | nil => exact List.Pairwise.nil
  | cons x xs ih =>
    refine List.Pairwise.cons (fun y hy => ?_) (ih.filter _)
    simpa using (List.mem_filter.1 hy).2

theorem exists_mem_firsts {same : α → α → Bool} (refl : ∀ x, same x x = true)
    (trans : ∀ x y z, same x y = true → same y z = true → same x z = true)
    {x : α} {xs : List α} (h : x ∈ xs) : ∃ y ∈ firsts same xs, same y x = true := by
  induction xs with
  | nil => cases h
  | cons a xs ih =>
    rcases List.mem_cons.1 h with rfl | h
    · exact ⟨x, List.mem_cons_self, refl x⟩
    · obtain ⟨y, hy, hyx⟩ := ih h
      by_cases hay : same a y = true
      · exact ⟨a, List.mem_cons_self, trans a y x hay hyx⟩
      · exact ⟨y, List.mem_cons_of_mem _ (List.mem_filter.2 ⟨hy, by simp [hay]⟩), hyx⟩

/-- A list without repetitions is its own list of first occurrences. -/
theorem firsts_eq_self {same : α → α → Bool} {xs : List α}
    (h : xs.Pairwise fun x y => same x y = false) : firsts same xs = xs := by
  induction h with
  | nil => rfl
  | cons hx _ ih =>
    rw [firsts, ih, List.filter_eq_self.2]
    intro y hy
    simp [hx y hy]

theorem firsts_congr {same other : α → α → Bool} {xs : List α}
    (h : ∀ x ∈ xs, ∀ y ∈ xs, same x y = other x y) : firsts same xs = firsts other xs := by
  induction xs with
  | nil => rfl
  | cons x xs ih =>
    have tail := ih fun y hy z hz => h y (List.mem_cons_of_mem x hy) z (List.mem_cons_of_mem x hz)
    rw [firsts, firsts, tail]
    congr 1
    apply List.filter_congr
    intro y hy
    have known : y ∈ xs := (firsts_sublist other xs).subset hy
    rw [h x List.mem_cons_self y (List.mem_cons_of_mem x known)]

/-- Nothing is repeated in a list without repetitions. -/
theorem repeats_eq_nil {same : α → α → Bool} {xs : List α}
    (h : xs.Pairwise fun x y => same x y = false) : repeats same xs = [] := by
  unfold repeats
  rw [List.map_eq_nil_iff, List.filter_eq_nil_iff]
  intro p hp earlier
  have here : xs[p.2]? = some p.1 := List.mem_zipIdx_iff_getElem?.1 hp
  obtain ⟨y, hy, equal⟩ := List.any_eq_true.1 earlier
  obtain ⟨j, hj, rfl⟩ := List.mem_take_iff_getElem.1 hy
  obtain ⟨hi, at_i⟩ := List.getElem?_eq_some_iff.1 here
  have differ := List.pairwise_iff_getElem.1 h j p.2 (by omega) hi (by omega)
  rw [at_i, equal] at differ
  cases differ

/-! ## Adding new items -/

theorem addNew_append (same : α → α → Bool) (found xs ys : List α) :
    addNew same found (xs ++ ys) = addNew same (addNew same found xs) ys := by
  induction xs generalizing found with
  | nil => rfl
  | cons x xs ih => exact ih _

theorem mem_addNew_of_mem (same : α → α → Bool) {found : List α} (xs : List α) {x : α}
    (h : x ∈ found) : x ∈ addNew same found xs := by
  induction xs generalizing found with
  | nil => exact h
  | cons y xs ih =>
    apply ih
    split
    · exact h
    · exact List.mem_append_left _ h

/-- What was to be added is there, or something that is the same. -/
theorem exists_mem_addNew {same : α → α → Bool} (refl : ∀ x, same x x = true) (found : List α)
    {xs : List α} {x : α} (h : x ∈ xs) : ∃ y ∈ addNew same found xs, same x y = true := by
  induction xs generalizing found with
  | nil => cases h
  | cons z xs ih =>
    rcases List.mem_cons.1 h with rfl | h
    · by_cases known : found.any (same x) = true
      · obtain ⟨y, hy, equal⟩ := List.any_eq_true.1 known
        refine ⟨y, mem_addNew_of_mem same xs ?_, equal⟩
        rw [if_pos known]
        exact hy
      · refine ⟨x, mem_addNew_of_mem same xs ?_, refl x⟩
        rw [if_neg known]
        exact List.mem_append_right _ List.mem_cons_self
    · exact ih _ h

/-- Items that were gathered before can be added in place of the list they were gathered from. -/
theorem addNew_addNew {same : α → α → Bool} (refl : ∀ x, same x x = true)
    (trans : ∀ x y z, same x y = true → same y z = true → same x z = true)
    (found gathered xs : List α) :
    addNew same found (addNew same gathered xs) = addNew same (addNew same found gathered) xs := by
  induction xs generalizing gathered with
  | nil => rfl
  | cons x xs ih =>
    have step : addNew same found (if gathered.any (same x) then gathered else gathered ++ [x]) =
        if (addNew same found gathered).any (same x) then addNew same found gathered
        else addNew same found gathered ++ [x] := by
      by_cases known : gathered.any (same x) = true
      · -- Then an item that is the same is also among all that were found.
        obtain ⟨y, hy, equal⟩ := List.any_eq_true.1 known
        obtain ⟨z, hz, equal'⟩ := exists_mem_addNew refl found hy
        have here : (addNew same found gathered).any (same x) = true :=
          List.any_eq_true.2 ⟨z, hz, trans x y z equal equal'⟩
        rw [if_pos known, if_pos here]
      · rw [if_neg known, addNew_append]
        rfl
    calc addNew same found (addNew same gathered (x :: xs))
        = addNew same (addNew same found
            (if gathered.any (same x) then gathered else gathered ++ [x])) xs := ih _
      _ = addNew same (addNew same found gathered) (x :: xs) := by rw [step]; rfl

/-- What is added are the first occurrences of what was not there. -/
theorem addNew_eq {same : α → α → Bool} (symm : ∀ x y, same x y = true → same y x = true)
    (trans : ∀ x y z, same x y = true → same y z = true → same x z = true) (found xs : List α) :
    addNew same found xs = found ++ (firsts same xs).filter fun x => !found.any (same x) := by
  induction xs generalizing found with
  | nil => simp [addNew, firsts]
  | cons x xs ih =>
    have step : addNew same found (x :: xs) =
        addNew same (if found.any (same x) then found else found ++ [x]) xs := rfl
    rw [step, ih, firsts, List.filter_cons, List.filter_filter]
    by_cases known : found.any (same x) = true
    · rw [if_pos known, if_neg (by simp [known])]
      congr 1
      apply List.filter_congr
      intro y _
      -- An item that is the same as `x` is known like `x`.
      have like : same x y = true → found.any (same y) = true := by
        intro equal
        obtain ⟨z, hz, equal'⟩ := List.any_eq_true.1 known
        exact List.any_eq_true.2 ⟨z, hz, trans y x z (symm x y equal) equal'⟩
      cases equal : same x y with
      | false => simp
      | true => simp [like equal]
    · have both : ∀ y, same y x = same x y := by
        intro y
        rw [Bool.eq_iff_iff]
        exact ⟨symm y x, symm x y⟩
      rw [if_neg known, if_pos (by simpa using known), List.append_assoc, List.singleton_append]
      congr 2
      apply List.filter_congr
      intro y _
      simp [both, Bool.and_comm]

theorem addNew_nil {same : α → α → Bool} (symm : ∀ x y, same x y = true → same y x = true)
    (trans : ∀ x y z, same x y = true → same y z = true → same x z = true) (xs : List α) :
    addNew same [] xs = firsts same xs := by
  simp [addNew_eq symm trans]

end ModelFormula
