import ModelFormula.Proofs.Frame.Build
import ModelFormula.Proofs.Matrix.Coding

/-!
# Assembly of a model matrix

How the columns of a model matrix are put together from codings, and how they are assigned to terms.

* `IsProduct` — the columns of one coding times those of another; `Block.isProduct_expand`.
* `ModelMatrix.IsBlock` — the columns that a term has; `ModelMatrix.termBlocks_eq_ok` — these are
  the ones that are built.
* `ModelMatrix.mem_assignment`, `ModelMatrix.assignment_pairwise` — blocks are numbered from left to
  right, without gaps.
* `ModelMatrix.build_eq_ok` — the steps of building a matrix.
-/

set_option autoImplicit false

namespace ModelFormula

/-! ## Products -/

/-- The number in a row of a column. -/
def entryAt (columns : List (List Float)) (row column : Nat) : Option Float :=
  (columns[column]?).bind fun xs => xs[row]?

/-- The columns `ws` are the products of those of `us` and `vs`, the column of `us` varying
slowest. -/
def IsProduct (us vs ws : List (List Float)) : Prop :=
  ws.length = us.length * vs.length ∧
    ∀ i l r x y, entryAt us r i = some x → entryAt vs r l = some y →
      entryAt ws r (i * vs.length + l) = some (x * y)

namespace Block

theorem getElem?_flatMap_map {α β γ : Type} (f : α → β → γ) (us : List α) (vs : List β)
    {i l : Nat} (hl : l < vs.length) :
    (us.flatMap fun u => vs.map (f u))[i * vs.length + l]? =
      (us[i]?).bind fun u => (vs[l]?).map (f u) := by
  induction us generalizing i with
  | nil => simp
  | cons u us ih =>
    rw [List.flatMap_cons]
    cases i with
    | zero =>
      rw [Nat.zero_mul, Nat.zero_add, List.getElem?_append_left (by rwa [List.length_map])]
      simp
    | succ i =>
      have place : (i + 1) * vs.length + l = vs.length + (i * vs.length + l) := by
        rw [Nat.succ_mul]
        omega
      rw [place, List.getElem?_append_right (by rw [List.length_map]; omega), List.length_map,
        Nat.add_sub_cancel_left, ih]
      simp

theorem length_flatMap_map {α β γ : Type} (f : α → β → γ) (us : List α) (vs : List β) :
    (us.flatMap fun u => vs.map (f u)).length = us.length * vs.length := by
  induction us with
  | nil => simp
  | cons u us ih =>
    rw [List.flatMap_cons, List.length_append, List.length_map, ih, List.length_cons, Nat.succ_mul]
    omega

/-- **The columns of a product of blocks are the products of their columns.** -/
theorem isProduct_expand (a b : Block) : IsProduct a.columns b.columns (expand a b).columns := by
  refine ⟨length_flatMap_map times a.columns b.columns, fun i l r x y hx hy => ?_⟩
  obtain ⟨u, hu, hx⟩ := Option.bind_eq_some_iff.1 hx
  obtain ⟨v, hv, hy⟩ := Option.bind_eq_some_iff.1 hy
  have hl : l < b.columns.length := (List.getElem?_eq_some_iff.1 hv).1
  have column : (expand a b).columns[i * b.columns.length + l]? = some (times u v) := by
    show (a.columns.flatMap fun u => b.columns.map (times u))[i * b.columns.length + l]? = _
    rw [getElem?_flatMap_map times a.columns b.columns hl, hu, hv]
    rfl
  unfold entryAt
  rw [column, Option.bind_some, times, List.getElem?_zipWith, hx, hy]

end Block

namespace ModelMatrix

/-! ## Terms -/

/-- The columns of a term: the coding of its evaluation term, or the products of those of its two,
the one that comes first in the vocabulary varying slowest. -/
inductive IsBlock (frame : ModelFrame) (base : Int) (term : Node) : List (List Float) → Prop where
  | single {node : Node} {column : FrameColumn}
      (terms : frame.terms.distinctTerms term = [node])
      (found : frame.column node = .ok column) (codable : column.Codable base) :
      IsBlock frame base term (column.coding base)
  | pair {a b : Node} {first second : FrameColumn} {columns : List (List Float)}
      (terms : frame.terms.distinctTerms term = [a, b])
      (found : frame.column a = .ok first) (found' : frame.column b = .ok second)
      (codable : first.Codable base) (codable' : second.Codable base)
      (product : IsProduct (first.coding base) (second.coding base) columns) :
      IsBlock frame base term columns

variable {frame : ModelFrame} {base : Int}

theorem IsBlock.length_pos {term : Node} {columns : List (List Float)}
    (h : IsBlock frame base term columns) : 0 < columns.length := by
  cases h with
  | single terms found codable => exact FrameColumn.coding_length_pos codable
  | pair terms found found' codable codable' product =>
    rw [product.1]
    exact Nat.mul_pos (FrameColumn.coding_length_pos codable)
      (FrameColumn.coding_length_pos codable')

/-- Every column of a frame has a cell in every row. -/
def Rectangular (frame : ModelFrame) : Prop :=
  ∀ node column, frame.column node = .ok column → column.cells.length = frame.rows

theorem codedTerm_wellShaped (rect : Rectangular frame) {node : Node} {b : Block}
    (h : codedTerm frame base node = .ok b) : b.WellShaped ∧ b.height = frame.rows := by
  obtain ⟨column, found, -, columns, height⟩ := codedTerm_eq_ok h
  refine ⟨fun c hc => ?_, height.trans (rect node column found)⟩
  rw [columns] at hc
  rw [FrameColumn.length_of_mem_coding hc, height]

/-- The columns that are built for a term are those it has. -/
theorem termBlock_eq_ok (rect : Rectangular frame) {column : Nat} {term : Node} {b : Block}
    (terms : frame.terms.evaluationTermsAt column = frame.terms.distinctTerms term)
    (h : termBlock frame base column term = .ok b) :
    IsBlock frame base term b.columns ∧ b.WellShaped ∧ b.height = frame.rows := by
  unfold termBlock at h
  split at h
  · cases h
  · rename_i a single
    obtain ⟨c, found, codable, columns, -⟩ := codedTerm_eq_ok h
    refine ⟨?_, codedTerm_wellShaped rect h⟩
    rw [columns]
    exact .single (terms ▸ single) found codable
  · rename_i a b two
    obtain ⟨first, ha, h⟩ := bind_eq_ok.1 h
    obtain ⟨second, hb, h⟩ := bind_eq_ok.1 h
    cases h
    obtain ⟨c, found, codable, columns, -⟩ := codedTerm_eq_ok ha
    obtain ⟨d, found', codable', columns', -⟩ := codedTerm_eq_ok hb
    obtain ⟨shaped, height⟩ := codedTerm_wellShaped rect ha
    obtain ⟨shaped', height'⟩ := codedTerm_wellShaped rect hb
    have product := Block.isProduct_expand first second
    rw [columns, columns'] at product
    exact ⟨.pair (terms ▸ two) found found' codable codable' product,
      Block.wellShaped_expand shaped shaped' (height.trans height'.symm), height⟩
  · cases h

/-- Every term that is not a grouping has its columns, from left to right. -/
theorem termBlocks_eq_ok (rect : Rectangular frame) {entries : List (Nat × Node)}
    {blocks : List Block}
    (terms : ∀ p ∈ entries, frame.terms.evaluationTermsAt p.1 = frame.terms.distinctTerms p.2)
    (h : termBlocks frame base entries = .ok blocks) :
    List.Forall₂ (fun p b => IsBlock frame base p.2 b.columns ∧ b.WellShaped ∧
      b.height = frame.rows) entries blocks := by
  induction entries generalizing blocks with
  | nil =>
    cases h
    exact .nil
  | cons p entries ih =>
    obtain ⟨block, head, h⟩ := bind_eq_ok.1 h
    obtain ⟨rest, tail, h⟩ := bind_eq_ok.1 h
    cases h
    exact .cons (termBlock_eq_ok rect (terms p List.mem_cons_self) head)
      (ih (fun q hq => terms q (List.mem_cons_of_mem _ hq)) tail)

/-! ## Assignment -/

theorem assignment_cons (first : Nat) (b : Block) (blocks : List Block) :
    assignment first (b :: blocks) =
      List.replicate b.width first ++ assignment (first + 1) blocks := by
  unfold assignment
  rw [List.zipIdx_cons, List.flatMap_cons]

theorem length_assignment (first : Nat) (blocks : List Block) :
    (assignment first blocks).length = (blocks.flatMap Block.columns).length := by
  induction blocks generalizing first with
  | nil => rfl
  | cons b blocks ih =>
    rw [assignment_cons, List.length_append, ih, List.length_replicate, List.flatMap_cons,
      List.length_append]
    rfl

/-- Blocks with columns are numbered without gaps. -/
theorem mem_assignment {first : Nat} {blocks : List Block} (h : ∀ b ∈ blocks, 0 < b.width)
    {j : Nat} : j ∈ assignment first blocks ↔ first ≤ j ∧ j < first + blocks.length := by
  induction blocks generalizing first with
  | nil =>
    simp only [assignment, List.zipIdx_nil, List.flatMap_nil, List.not_mem_nil, List.length_nil,
      false_iff]
    omega
  | cons b blocks ih =>
    have wide := h b List.mem_cons_self
    rw [assignment_cons, List.mem_append, List.mem_replicate,
      ih fun b hb => h b (List.mem_cons_of_mem _ hb), List.length_cons]
    omega

/-- Blocks are numbered from left to right. -/
theorem assignment_pairwise {first : Nat} {blocks : List Block} (h : ∀ b ∈ blocks, 0 < b.width) :
    (assignment first blocks).Pairwise (· ≤ ·) := by
  induction blocks generalizing first with
  | nil => exact List.Pairwise.nil
  | cons b blocks ih =>
    have later := fun b hb => h b (List.mem_cons_of_mem _ hb)
    rw [assignment_cons, List.pairwise_append]
    refine ⟨List.pairwise_replicate.2 (Or.inr (Nat.le_refl _)), ih later, ?_⟩
    intro i hi j hj
    rw [(List.mem_replicate.1 hi).2]
    have := (mem_assignment later).1 hj
    omega

/-! ## Steps -/

/-- What building a matrix does. -/
theorem build_eq_ok {settings : Settings} {m : ModelMatrix}
    (h : (build settings frame).outcome = .ok m) : ∃ blocks names,
      termBlocks frame settings.contrasts.base frame.terms.fixedTerms = .ok blocks ∧
      (columnNames frame settings.contrasts.base).outcome = .ok names ∧
      m = { block := (Block.beside frame.rows (withIntercept frame blocks).2).map
              (round settings.matrix.precision)
            precision := settings.matrix.precision
            assign := assignment (withIntercept frame blocks).1 (withIntercept frame blocks).2
            names } := by
  obtain ⟨blocks, coded, h⟩ := Journal.outcome_bind_eq_ok.1 h
  obtain ⟨names, named, h⟩ := Journal.outcome_bind_eq_ok.1 h
  obtain ⟨⟨⟩, -, h⟩ := Journal.outcome_bind_eq_ok.1 h
  obtain ⟨-, -, coded⟩ := bind_eq_ok.1 coded
  cases h
  exact ⟨blocks, names, coded, named, rfl⟩

/-- The terms of a frame have the columns that are built for them. -/
theorem isBlock_of_termBlocks (rect : Rectangular frame) {blocks : List Block}
    (h : termBlocks frame base frame.terms.fixedTerms = .ok blocks) :
    List.Forall₂ (fun term b => IsBlock frame base term b.columns ∧ b.WellShaped ∧
      b.height = frame.rows) frame.terms.fixedEffects blocks := by
  rw [← TermsTable.fixedTerms_map_snd, List.forall₂_map_left_iff]
  exact termBlocks_eq_ok rect (fun p hp => TermsTable.evaluationTermsAt_of_mem hp) h

end ModelMatrix

end ModelFormula
