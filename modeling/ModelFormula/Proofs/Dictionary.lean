import ModelFormula.Dictionary
import ModelFormula.Firsts

/-!
# Dictionaries of many entries

What is left of a list of entries when they are put into a dictionary one after the other.

* `Dictionary.get?_putAll`, `Dictionary.last_of_get?` — the value of a key is the one put last.
* `Dictionary.keys_putAll` — the keys stand where they were put first.
* `Dictionary.map_putAll` — entries are put in the same places whatever their values are.
* `Dictionary.length_putAll_iff` — there are as many keys as entries exactly when no key repeats.
-/

set_option autoImplicit false

namespace ModelFormula

/-- A list has as many first occurrences as items exactly when no item is the same as another. -/
theorem length_firsts_iff {α : Type} {same : α → α → Bool} (xs : List α) :
    (firsts same xs).length = xs.length ↔ xs.Pairwise fun x y => same x y = false := by
  constructor
  · intro h
    have all := (firsts_sublist same xs).eq_of_length h
    have := firsts_pairwise same xs
    rwa [all] at this
  · intro h
    rw [firsts_eq_self h]

namespace Dictionary

variable {κ α : Type} [DecidableEq κ]

theorem putAll_cons (d es : Dictionary κ α) (e : κ × α) :
    putAll d (e :: es) = putAll (d.put e.1 e.2) es := rfl

/-- The value of a key is the one that was put last. -/
theorem get?_putAll (d es : Dictionary κ α) (k : κ) :
    (d.putAll es).get? k = (get? es.reverse k).or (d.get? k) := by
  induction es generalizing d with
  | nil => simp [putAll, get?_nil]
  | cons e es ih =>
    rw [putAll_cons, ih, get?_put, List.reverse_cons, get?_append, get?_cons, get?_nil]
    by_cases h : k = e.1
    · have h' : e.1 = k := h.symm
      cases get? es.reverse k <;> simp [h']
    · have h' : e.1 ≠ k := fun x => h x.symm
      cases get? es.reverse k <;> simp [h, h']

/-- The value put last belongs to an entry that no entry of its key follows. -/
theorem last_of_get? {es : Dictionary κ α} {k : κ} {v : α} (h : (putAll [] es).get? k = some v) :
    ∃ before after, es = before ++ (k, v) :: after ∧ k ∉ keys after := by
  rw [get?_putAll, get?_nil, Option.or_none] at h
  induction es with
  | nil => cases h
  | cons e es ih =>
    rw [List.reverse_cons, get?_append] at h
    cases later : get? es.reverse k with
    | some w =>
      rw [later] at h
      obtain ⟨before, after, rfl, none_after⟩ := ih (later.trans h)
      exact ⟨e :: before, after, rfl, none_after⟩
    | none =>
      rw [later, Option.none_or, get?_cons, get?_nil] at h
      split at h
      · rename_i key
        cases h
        refine ⟨[], es, by rw [← key]; rfl, fun mem => ?_⟩
        exact (get?_eq_none_iff _ _).1 later (by simpa [keys] using mem)
      · cases h

theorem isSome_get?_putAll {es : Dictionary κ α} {k : κ} (h : k ∈ keys es) :
    ∃ v, (putAll [] es).get? k = some v := by
  cases found : (putAll [] es).get? k with
  | some v => exact ⟨v, rfl⟩
  | none =>
    rw [get?_putAll, get?_nil, Option.or_none] at found
    exact absurd (by simpa [keys] using h) ((get?_eq_none_iff _ _).1 found)

theorem get?_map {β : Type} (f : α → β) (d : Dictionary κ α) (k : κ) :
    get? (d.map fun e => (e.1, f e.2)) k = (d.get? k).map f := by
  induction d with
  | nil => rfl
  | cons e d ih =>
    rw [List.map_cons, get?_cons, get?_cons, ih]
    split <;> rfl

theorem map_put {β : Type} (f : α → β) (d : Dictionary κ α) (k : κ) (v : α) :
    (d.put k v).map (fun e => (e.1, f e.2)) = put (d.map fun e => (e.1, f e.2)) k (f v) := by
  have same_keys : keys (d.map fun e => (e.1, f e.2)) = d.keys := by
    simp [keys, Function.comp_def]
  unfold put
  rw [same_keys]
  split
  · rw [List.map_map, List.map_map]
    refine List.map_congr_left fun e _ => ?_
    by_cases h : e.1 = k <;> simp [h]
  · rw [List.map_append]
    rfl

/-- Where entries are put does not depend on their values. -/
theorem map_putAll {β : Type} (f : α → β) (d es : Dictionary κ α) :
    (d.putAll es).map (fun e => (e.1, f e.2)) =
      putAll (d.map fun e => (e.1, f e.2)) (es.map fun e => (e.1, f e.2)) := by
  induction es generalizing d with
  | nil => rfl
  | cons e es ih => rw [putAll_cons, ih, map_put, List.map_cons, putAll_cons]

/-- What was put was an entry. -/
theorem mem_of_mem_putAll {d es : Dictionary κ α} {e : κ × α} (h : e ∈ d.putAll es) :
    e ∈ d ∨ e ∈ es := by
  induction es generalizing d with
  | nil => exact Or.inl h
  | cons first es ih =>
    rw [putAll_cons] at h
    rcases ih h with h | h
    · unfold put at h
      split at h
      · obtain ⟨old, ho, same⟩ := List.mem_map.1 h
        split at same
        · subst same
          exact Or.inr List.mem_cons_self
        · subst same
          exact Or.inl ho
      · rcases List.mem_append.1 h with h | h
        · exact Or.inl h
        · rw [List.mem_singleton.1 h]
          exact Or.inr List.mem_cons_self
    · exact Or.inr (List.mem_cons_of_mem _ h)

/-- A key that is found belongs to an entry. -/
theorem mem_of_get? {d : Dictionary κ α} {k : κ} {v : α} (h : d.get? k = some v) : (k, v) ∈ d := by
  induction d with
  | nil => cases h
  | cons e d ih =>
    rw [get?_cons] at h
    split at h
    · rename_i key
      cases h
      rw [← key]
      exact List.mem_cons_self
    · exact List.mem_cons_of_mem _ (ih h)

/-- With different keys every entry is found. -/
theorem get?_of_mem {d : Dictionary κ α} (distinct : d.keys.Nodup) {k : κ} {v : α}
    (h : (k, v) ∈ d) : d.get? k = some v := by
  induction d with
  | nil => cases h
  | cons e d ih =>
    obtain ⟨fresh, distinct⟩ := List.nodup_cons.1 distinct
    rw [get?_cons]
    rcases List.mem_cons.1 h with rfl | mem
    · rw [if_pos rfl]
    · have other : e.1 ≠ k := by
        rintro rfl
        exact fresh (List.mem_map.2 ⟨_, mem, rfl⟩)
      rw [if_neg other, ih distinct mem]

/-- Keys stand where they were put first. -/
theorem keys_putAll (d es : Dictionary κ α) :
    (d.putAll es).keys =
      d.keys ++ (firsts (fun a b => decide (a = b)) es.keys).filter fun k => k ∉ d.keys := by
  induction es generalizing d with
  | nil => simp [putAll, keys, firsts]
  | cons e es ih =>
    have unfolded : firsts (fun a b => decide (a = b)) (keys (e :: es)) =
        e.1 :: (firsts (fun a b => decide (a = b)) (keys es)).filter fun k => !decide (e.1 = k) := rfl
    rw [putAll_cons, ih, keys_put, unfolded, List.filter_cons, List.filter_filter]
    by_cases h : e.1 ∈ d.keys
    · rw [if_pos h, if_neg (by simpa using h)]
      congr 1
      refine List.filter_congr fun k _ => ?_
      by_cases hk : e.1 = k
      · subst hk
        simp [h]
      · simp [hk]
    · rw [if_neg h, if_pos (by simpa using h), List.append_assoc,
        List.singleton_append]
      congr 2
      refine List.filter_congr fun k _ => ?_
      by_cases hk : e.1 = k
      · simp [hk]
      · have hk' : k ≠ e.1 := fun x => hk x.symm
        simp [hk, hk']

/-- Entries put into an empty dictionary leave the keys of their first occurrences. -/
theorem keys_putAll_nil (es : Dictionary κ α) :
    keys (putAll [] es) = firsts (fun a b => decide (a = b)) (keys es) := by
  rw [keys_putAll]
  simp [keys]

/-- Entries with different keys are put one behind the other. -/
theorem putAll_of_nodup (d es : Dictionary κ α) (h : (keys (d ++ es)).Nodup) :
    d.putAll es = d ++ es := by
  induction es generalizing d with
  | nil => simp [putAll]
  | cons e es ih =>
    have fresh : e.1 ∉ d.keys := by
      have parts : (keys d ++ e.1 :: keys es).Nodup := by simpa [keys] using h
      intro mem
      exact (List.nodup_append.1 parts).2.2 _ mem _ List.mem_cons_self rfl
    have appended : d.put e.1 e.2 = d ++ [e] := by rw [put, if_neg fresh]
    rw [putAll_cons, appended, ih, List.append_assoc, List.singleton_append]
    rwa [List.append_assoc, List.singleton_append]

/-- **There is a key for every entry exactly when no two entries have one key.** -/
theorem length_putAll_iff (es : Dictionary κ α) :
    (putAll [] es).length = es.length ↔ es.keys.Nodup := by
  have size : ∀ d : Dictionary κ α, d.length = d.keys.length := fun d => by simp [keys]
  rw [size (putAll [] es), keys_putAll_nil, size es, length_firsts_iff]
  simp [List.Nodup]

end Dictionary

end ModelFormula
