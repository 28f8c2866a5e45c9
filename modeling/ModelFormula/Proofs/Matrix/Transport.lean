import ModelFormula.Matrix
import ModelFormula.Proofs.Marks
import ModelFormula.Proofs.Outcome

/-!
# Designs of related frames

A model matrix is built from the coded blocks of the evaluation terms that it uses, and its names from
their levels.  A frame with the same terms and levels, whose blocks are those of another one moved row
by row, has its matrix moved in the same way.

* `Block.MovesRows` — a map of blocks that works within the columns; `Block.movesRows_id`.
* `ModelMatrix.Transports` — the used evaluation terms of one frame have the blocks of another one,
  moved, and its levels.
* `ModelMatrix.Transports.fixedBlocks`, `ModelMatrix.Transports.coefficientNames` — so have the terms
  their blocks and their names.
* `ModelMatrix.Transports.build` — the matrix is moved, or building it fails for the same reason.
-/

set_option autoImplicit false

namespace ModelFormula

/-- A map of blocks with `n` rows to blocks with `m` rows that works within the columns. -/
structure Block.MovesRows (n m : Nat) (move : Block → Block) : Prop where
  width : ∀ b, (move b).width = b.width
  ones : move (.ones n) = .ones m
  beside : ∀ blocks, move (.beside n blocks) = .beside m (blocks.map move)
  map : ∀ (f : Float → Float) (b : Block), (move b).map f = move (b.map f)

/-- Blocks may also stay where they are. -/
theorem Block.movesRows_id (n : Nat) : Block.MovesRows n n id :=
  ⟨fun _ => rfl, rfl, fun blocks => by rw [List.map_id]; rfl, fun _ _ => rfl⟩

namespace ModelMatrix

/-- The used evaluation terms of `after` have the blocks of `before`, moved, and its levels; moving
respects products. -/
structure Transports (move : Block → Block) (before after : ModelFrame) : Prop where
  terms : after.terms = before.terms
  coded : ∀ base, ∀ node ∈ usedTerms before.terms,
    codedTerm after base node = move <$> codedTerm before base node
  levels : ∀ node ∈ usedTerms before.terms,
    FrameColumn.levels? <$> after.column node = FrameColumn.levels? <$> before.column node
  expand : ∀ base first second a b, codedTerm before base first = .ok a →
    codedTerm before base second = .ok b → move (a.expand b) = (move a).expand (move b)

/-- The evaluation terms that are used are those of some term that is no grouping. -/
theorem usedTerms_eq_filter (terms : TermsTable) : usedTerms terms =
    terms.vocabulary.filter fun node =>
      terms.fixedTerms.any fun p => node.isIn (terms.columns.getD p.1 []) := by
  simp only [usedTerms, TermsTable.termsWhere_eq, TermsTable.getD_marks]

theorem mem_usedTerms {terms : TermsTable} {p : Nat × Node} (hp : p ∈ terms.fixedTerms) {node : Node}
    (hn : node ∈ terms.evaluationTermsAt p.1) : node ∈ usedTerms terms := by
  rw [TermsTable.evaluationTermsAt_eq] at hn
  obtain ⟨known, here⟩ := List.mem_filter.1 hn
  rw [usedTerms_eq_filter]
  refine List.mem_filter.2 ⟨known, List.any_eq_true.2 ⟨p, hp, here⟩⟩

/-! ## Steps of building -/

theorem assignment_map {move : Block → Block} (width : ∀ b, (move b).width = b.width) (first : Nat)
    (blocks : List Block) : assignment first (blocks.map move) = assignment first blocks := by
  unfold assignment
  rw [List.zipIdx_map, List.flatMap_map]
  simp only [Prod.map, id, width]

/-- The matrix of blocks with the names of its columns. -/
def ofBlocks (settings : Settings) (frame : ModelFrame) (blocks : List Block)
    (names : Option (List String)) : ModelMatrix where
  block := (Block.beside frame.rows (withIntercept frame blocks).2).map
    (round settings.matrix.precision)
  precision := settings.matrix.precision
  assign := assignment (withIntercept frame blocks).1 (withIntercept frame blocks).2
  names

theorem outcome_build (settings : Settings) (frame : ModelFrame) :
    (build settings frame).outcome = do
      let blocks ← fixedBlocks frame settings.contrasts.base
      let names ← (columnNames frame settings.contrasts.base).outcome
      return ofBlocks settings frame blocks names := by
  unfold build
  rw [Journal.outcome_bind]
  show (fixedBlocks frame settings.contrasts.base >>= _) = _
  cases fixedBlocks frame settings.contrasts.base with
  | error e => rfl
  | ok blocks => exact Journal.outcome_bind _ _

/-! ## Blocks -/

namespace Transports

variable {move : Block → Block} {before after : ModelFrame}

theorem codeAll (h : Transports move before after) (base : Int) {nodes : List Node}
    (used : ∀ node ∈ nodes, node ∈ usedTerms before.terms) :
    ModelMatrix.codeAll (codedTerm after base) nodes =
      List.map move <$> ModelMatrix.codeAll (codedTerm before base) nodes := by
  induction nodes with
  | nil => rfl
  | cons node nodes ih =>
    have head := h.coded base node (used node List.mem_cons_self)
    have tail := ih fun other ho => used other (List.mem_cons_of_mem _ ho)
    unfold ModelMatrix.codeAll
    rw [head, tail]
    cases codedTerm before base node with
    | error e => rfl
    | ok b => cases ModelMatrix.codeAll (codedTerm before base) nodes <;> rfl

theorem termBlock (h : Transports move before after) (base : Int) {p : Nat × Node}
    (hp : p ∈ before.terms.fixedTerms) : ModelMatrix.termBlock after base p.1 p.2 =
      move <$> ModelMatrix.termBlock before base p.1 p.2 := by
  have coded := fun node hn => h.coded base node (mem_usedTerms hp hn)
  unfold ModelMatrix.termBlock
  rw [h.terms]
  split
  · rfl
  · rename_i a single
    exact coded a (by rw [single]; exact List.mem_cons_self)
  · rename_i a b two
    rw [coded a (by rw [two]; exact List.mem_cons_self), coded b (by rw [two]; simp)]
    cases first : codedTerm before base a with
    | error e => rfl
    | ok u =>
      cases second : codedTerm before base b with
      | error e => rfl
      | ok v => exact congrArg Except.ok (h.expand base a b u v first second).symm
  · rfl

theorem termBlocks (h : Transports move before after) (base : Int) {entries : List (Nat × Node)}
    (fixed : ∀ p ∈ entries, p ∈ before.terms.fixedTerms) :
    ModelMatrix.termBlocks after base entries =
      List.map move <$> ModelMatrix.termBlocks before base entries := by
  induction entries with
  | nil => rfl
  | cons p entries ih =>
    have head := h.termBlock base (fixed p List.mem_cons_self)
    have tail := ih fun q hq => fixed q (List.mem_cons_of_mem _ hq)
    unfold ModelMatrix.termBlocks
    rw [head, tail]
    cases ModelMatrix.termBlock before base p.1 p.2 with
    | error e => rfl
    | ok b => cases ModelMatrix.termBlocks before base entries <;> rfl

/-- **The terms have the blocks of the other frame, moved**, or there is the same failure. -/
theorem fixedBlocks (h : Transports move before after) (base : Int) :
    ModelMatrix.fixedBlocks after base = List.map move <$> ModelMatrix.fixedBlocks before base := by
  unfold ModelMatrix.fixedBlocks
  rw [h.terms, h.codeAll base fun _ hn => hn, h.termBlocks base fun _ hp => hp]
  cases ModelMatrix.codeAll (codedTerm before base) (usedTerms before.terms) <;> rfl

/-! ## Names -/

theorem termNames (h : Transports move before after) (base : Int) {p : Nat × Node}
    (hp : p ∈ before.terms.fixedTerms) :
    after.termNames base p.1 p.2 = before.termNames base p.1 p.2 := by
  unfold ModelFrame.termNames
  rw [h.terms]
  split
  · rename_i node single
    have levels := h.levels node (mem_usedTerms hp (by rw [single]; exact List.mem_cons_self))
    cases found : before.column node with
    | error e =>
      rw [found] at levels
      rw [map_eq_error.1 levels]
    | ok c =>
      rw [found] at levels
      obtain ⟨d, found', same⟩ := map_eq_ok.1 levels
      rw [found']
      cases c with
      | numeric xs =>
        cases d with
        | numeric ys => rfl
        | factor g => cases same
      | factor f =>
        cases d with
        | numeric ys => cases same
        | factor g =>
          show Except.ok (ModelFrame.levelNames p.2 g.levels base) = .ok _
          rw [Option.some.inj same]
  · rfl

theorem termsNames (h : Transports move before after) (base : Int) {entries : List (Nat × Node)}
    (fixed : ∀ p ∈ entries, p ∈ before.terms.fixedTerms) :
    after.termsNames base entries = before.termsNames base entries := by
  induction entries with
  | nil => rfl
  | cons p entries ih =>
    have head := h.termNames base (fixed p List.mem_cons_self)
    have tail := ih fun q hq => fixed q (List.mem_cons_of_mem _ hq)
    unfold ModelFrame.termsNames
    rw [head, tail]

/-- **The coefficients have the names of the other frame**, or there is the same failure. -/
theorem coefficientNames (h : Transports move before after) (base : Int) :
    after.coefficientNames base = before.coefficientNames base := by
  unfold ModelFrame.coefficientNames
  rw [h.terms, h.termsNames base fun _ hp => hp]

/-! ## Matrices -/

/-- **The matrix is that of the other frame, moved**, with the same assignment and names, or building
it fails for the same reason. -/
theorem build (h : Transports move before after)
    (moves : Block.MovesRows before.rows after.rows move) (settings : Settings) :
    (ModelMatrix.build settings after).outcome =
      (fun m : ModelMatrix => { m with block := move m.block }) <$>
        (ModelMatrix.build settings before).outcome := by
  have names : columnNames after settings.contrasts.base =
      columnNames before settings.contrasts.base := by
    unfold columnNames
    rw [h.coefficientNames]
  have intercept : ∀ blocks : List Block, withIntercept after (blocks.map move) =
      ((withIntercept before blocks).1, (withIntercept before blocks).2.map move) := by
    intro blocks
    unfold withIntercept
    rw [h.terms]
    split
    · rw [← moves.ones]
      rfl
    · rfl
  have moved : ∀ (blocks : List Block) (names : Option (List String)),
      ofBlocks settings after (blocks.map move) names =
        { ofBlocks settings before blocks names with
          block := move (ofBlocks settings before blocks names).block } := by
    intro blocks names
    unfold ofBlocks
    rw [intercept, ← moves.beside, moves.map, assignment_map moves.width]
  rw [outcome_build, outcome_build, names, h.fixedBlocks]
  cases ModelMatrix.fixedBlocks before settings.contrasts.base with
  | error e => rfl
  | ok blocks =>
    cases (columnNames before settings.contrasts.base).outcome with
    | error e => rfl
    | ok found => exact congrArg Except.ok (moved blocks found)

end Transports

end ModelMatrix

end ModelFormula
