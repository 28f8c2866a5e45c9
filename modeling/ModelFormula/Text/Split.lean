/-!
# Splitting at a mark

* `Text.split` — the pieces between the marks; there is one piece more than there are marks.
* `Text.join` — pieces with a mark between any two.
* `Text.split_join` — pieces without marks are found again.
-/

set_option autoImplicit false

namespace ModelFormula.Text

/-- The pieces between the marks. -/
def split (mark : Char) : List Char → List (List Char)
  | [] => [[]]
  | c :: cs =>
    if c = mark then [] :: split mark cs
    else
      match split mark cs with
      | [] => [[c]]
      | first :: rest => (c :: first) :: rest

/-- Pieces with a mark between any two. -/
def join (mark : Char) : List (List Char) → List Char
  | [] => []
  | [piece] => piece
  | piece :: rest => piece ++ mark :: join mark rest

variable {mark : Char}

theorem split_eq_singleton {piece : List Char} (h : mark ∉ piece) : split mark piece = [piece] := by
  induction piece with
  | nil => rfl
  | cons c cs ih =>
    have hc : c ≠ mark := fun k => h (by simp [k])
    simp [split, hc, ih fun k => h (List.mem_cons_of_mem _ k)]

theorem split_append {piece rest : List Char} (h : mark ∉ piece) :
    split mark (piece ++ mark :: rest) = piece :: split mark rest := by
  induction piece with
  | nil => simp [split]
  | cons c cs ih =>
    have hc : c ≠ mark := fun k => h (by simp [k])
    simp [split, hc, ih fun k => h (List.mem_cons_of_mem _ k)]

/-- Pieces without marks are found again. -/
theorem split_join {pieces : List (List Char)} (h : ∀ piece ∈ pieces, mark ∉ piece)
    (hne : pieces ≠ []) : split mark (join mark pieces) = pieces := by
  match pieces with
  | [] => exact absurd rfl hne
  | [piece] => exact split_eq_singleton (h piece List.mem_cons_self)
  | piece :: second :: rest =>
    rw [join, split_append (h piece List.mem_cons_self),
      split_join (fun x hx => h x (List.mem_cons_of_mem _ hx)) (by simp)]
    simp

end ModelFormula.Text
