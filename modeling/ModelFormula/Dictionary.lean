/-!
# Dictionaries

Values by keys, in the order in which the keys first came.

* `Dictionary.get?` — the value of a key.
* `Dictionary.put`, `Dictionary.putAll` — a later value takes the place of an earlier one.
* `Dictionary.get?_put`, `Dictionary.keys_put` — what is found and how the keys stand afterwards.
-/

set_option autoImplicit false

namespace ModelFormula

/-- Values by keys. -/
abbrev Dictionary (κ α : Type) := List (κ × α)

namespace Dictionary

variable {κ α : Type} [DecidableEq κ]

def keys (d : Dictionary κ α) : List κ := d.map (·.1)

/-- The value of a key, if it has one. -/
def get? (d : Dictionary κ α) (k : κ) : Option α := (d.find? fun e => decide (e.1 = k)).map (·.2)

/-- Gives a key a value: in its place if it is there already, else at the end. -/
def put (d : Dictionary κ α) (k : κ) (v : α) : Dictionary κ α :=
  if k ∈ d.keys then d.map fun e => if e.1 = k then (k, v) else e else d ++ [(k, v)]

/-- Puts all entries of another dictionary. -/
def putAll (d others : Dictionary κ α) : Dictionary κ α :=
  others.foldl (fun found e => found.put e.1 e.2) d

theorem get?_nil (k : κ) : get? ([] : Dictionary κ α) k = none := rfl

theorem get?_cons (e : κ × α) (d : Dictionary κ α) (k : κ) :
    get? (e :: d) k = if e.1 = k then some e.2 else d.get? k := by
  by_cases h : e.1 = k <;> simp [get?, h]

theorem get?_eq_none_iff (d : Dictionary κ α) (k : κ) : d.get? k = none ↔ k ∉ d.keys := by
  induction d with
  | nil => simp [get?, keys]
  | cons e d ih =>
    rw [get?_cons]
    by_cases h : e.1 = k
    · simp [h, keys]
    · have h' : k ≠ e.1 := fun x => h x.symm
      simp only [h, if_false, ih, keys, List.map_cons, List.mem_cons, h', false_or]

theorem get?_append (d e : Dictionary κ α) (k : κ) :
    get? (d ++ e) k = (d.get? k).or (e.get? k) := by
  induction d with
  | nil => simp [get?]
  | cons x d ih =>
    rw [List.cons_append, get?_cons, get?_cons, ih]
    by_cases h : x.1 = k <;> simp [h]

theorem get?_replace (d : Dictionary κ α) (k l : κ) (v : α) :
    get? (d.map fun e => if e.1 = k then (k, v) else e) l =
      if l = k then (if k ∈ d.keys then some v else none) else d.get? l := by
  induction d with
  | nil => simp [get?, keys]
  | cons e d ih =>
    rw [List.map_cons, get?_cons, ih, get?_cons]
    by_cases hk : e.1 = k
    · by_cases hl : l = k
      · simp [hk, hl, keys]
      · have hl' : k ≠ l := fun x => hl x.symm
        simp [hk, hl, hl']
    · by_cases hl : l = k
      · subst hl
        have hk' : l ≠ e.1 := fun x => hk x.symm
        have rest : l ∈ keys (e :: d) ↔ l ∈ keys d := by simp [keys, hk']
        simp only [hk, if_false, if_true, rest]
      · simp [hk, hl]

/-- After a key got a value it has that value, and the others have theirs. -/
theorem get?_put (d : Dictionary κ α) (k l : κ) (v : α) :
    (d.put k v).get? l = if l = k then some v else d.get? l := by
  unfold put
  split
  · rename_i h
    rw [get?_replace]
    simp [h]
  · rename_i h
    rw [get?_append, get?_cons]
    by_cases hl : l = k
    · subst hl
      simp [(get?_eq_none_iff d l).2 h]
    · have hl' : k ≠ l := fun x => hl x.symm
      simp [hl, hl', get?_nil]

/-- A key keeps its place; a new one comes last. -/
theorem keys_put (d : Dictionary κ α) (k : κ) (v : α) :
    (d.put k v).keys = if k ∈ d.keys then d.keys else d.keys ++ [k] := by
  unfold put
  split
  · simp only [keys, List.map_map]
    refine List.map_congr_left fun e _ => ?_
    by_cases h : e.1 = k <;> simp [h]
  · simp [keys]

end Dictionary

end ModelFormula
