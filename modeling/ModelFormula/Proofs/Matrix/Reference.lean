import ModelFormula.Proofs.Matrix.Assembly

/-!
# The model matrix and its reference

* `ModelMatrix.IsReference` — what the model matrix of a frame is: a column of ones for the
  intercept, then for every term that is not a grouping the coding of its evaluation term or the
  products of those of its two, with the number of the term on each of its columns.
* `ModelMatrix.reference_of_build` — the matrix that is built is this one.
-/

set_option autoImplicit false

namespace ModelFormula.ModelMatrix

/-- What the model matrix of a frame is. -/
structure IsReference (base : Int) (frame : ModelFrame) (m : ModelMatrix) : Prop where
  height : m.block.height = frame.rows
  wellShaped : m.block.WellShaped
  /-- One block for each term that is not a grouping, from left to right. -/
  blocks : ∃ blocks, List.Forall₂ (IsBlock frame base) frame.terms.fixedEffects blocks ∧
    m.block.columns =
      (if frame.terms.intercept then [List.replicate frame.rows 1.0] else []) ++ blocks.flatten ∧
    m.assign = (if frame.terms.intercept then [0] else []) ++
      (blocks.zipIdx 1).flatMap fun p => List.replicate p.1.length p.2
  length_assign : m.assign.length = m.block.width
  assign_sorted : m.assign.Pairwise (· ≤ ·)
  every_term : ∀ j, 1 ≤ j → j ≤ frame.terms.fixedEffects.length → j ∈ m.assign
  assign_le : ∀ j ∈ m.assign, j ≤ frame.terms.fixedEffects.length
  zero_iff : 0 ∈ m.assign ↔ frame.terms.intercept = true

variable {frame : ModelFrame}

/-- The columns of a frame have a cell in every row. -/
theorem rectangular_of_build {options : ModelFrame.Options} {formula : Node} {source : Source}
    (h : (ModelFrame.build options formula source).outcome = .ok frame) : Rectangular frame := by
  obtain ⟨left, right, terms, -, -, built⟩ := ModelFrame.build_eq_ok h
  exact fun node column found => ModelFrame.length_cells built found

theorem block_map_id (b : Block) : b.map (round .double) = b := by
  obtain ⟨height, columns⟩ := b
  show Block.mk height (columns.map (List.map id)) = _
  rw [List.map_id_fun, List.map_id]

/-- The number of a block says which of the blocks it is. -/
theorem assignment_eq (first : Nat) (blocks : List Block) :
    assignment first blocks = ((blocks.map Block.columns).zipIdx first).flatMap fun p =>
      List.replicate p.1.length p.2 := by
  rw [List.zipIdx_map, List.flatMap_map]
  rfl

/-- What the intercept puts before the blocks of the terms. -/
theorem withIntercept_spec (frame : ModelFrame) (blocks : List Block) :
    (withIntercept frame blocks).2.flatMap Block.columns =
        (if frame.terms.intercept then [List.replicate frame.rows 1.0] else []) ++
          (blocks.map Block.columns).flatten ∧
      assignment (withIntercept frame blocks).1 (withIntercept frame blocks).2 =
        (if frame.terms.intercept then [0] else []) ++ assignment 1 blocks := by
  unfold withIntercept
  cases frame.terms.intercept with
  | true =>
    simp only [if_true]
    rw [List.flatMap_cons, List.flatMap_def, assignment_cons]
    exact ⟨rfl, rfl⟩
  | false => exact ⟨List.flatMap_def, rfl⟩

/-- The numbers of the columns: zero for the intercept, then one for each block, without gaps. -/
theorem assignment_withIntercept {blocks : List Block} (wide : ∀ b ∈ blocks, 0 < b.width)
    (assign : List Nat)
    (h : assign = (if frame.terms.intercept then [0] else []) ++ assignment 1 blocks) :
    assign.Pairwise (· ≤ ·) ∧ (∀ j, 1 ≤ j → j ≤ blocks.length → j ∈ assign) ∧
      (∀ j ∈ assign, j ≤ blocks.length) ∧ (0 ∈ assign ↔ frame.terms.intercept = true) := by
  have sorted : (assignment 1 blocks).Pairwise (· ≤ ·) := assignment_pairwise wide
  have mem : ∀ j, j ∈ assignment 1 blocks ↔ 1 ≤ j ∧ j < 1 + blocks.length := fun j =>
    mem_assignment wide
  subst h
  cases frame.terms.intercept with
  | true =>
    simp only [if_true, List.singleton_append, List.mem_cons]
    refine ⟨List.pairwise_cons.2 ⟨fun j _ => Nat.zero_le j, sorted⟩, fun j low high => ?_,
      fun j hj => ?_, by simp⟩
    · rw [mem]
      omega
    · rw [mem] at hj
      omega
  | false =>
    simp only [Bool.false_eq_true, if_false, List.nil_append]
    refine ⟨sorted, fun j low high => ?_, fun j hj => ?_, ?_⟩
    · rw [mem]
      omega
    · rw [mem] at hj
      omega
    · constructor
      · intro h
        have := (mem 0).1 h
        omega
      · intro h
        cases h

/-- **The model matrix of a frame is its reference.** -/
theorem reference_of_build {options : ModelFrame.Options} {formula : Node} {source : Source}
    {settings : Settings} {m : ModelMatrix}
    (hf : (ModelFrame.build options formula source).outcome = .ok frame)
    (double : settings.matrix.precision = .double)
    (hm : (build settings frame).outcome = .ok m) :
    IsReference settings.contrasts.base frame m := by
  obtain ⟨blocks, names, built, -, rfl⟩ := build_eq_ok hm
  have held := isBlock_of_termBlocks (rectangular_of_build hf) built
  obtain ⟨columns, assign⟩ := withIntercept_spec frame blocks
  have size : frame.terms.fixedEffects.length = blocks.length := held.length_eq
  have each : ∀ b ∈ blocks, 0 < b.width ∧ b.WellShaped ∧ b.height = frame.rows := by
    intro b hb
    obtain ⟨i, hi, rfl⟩ := List.mem_iff_getElem.1 hb
    obtain ⟨block, shape⟩ := held.get (size ▸ hi) hi
    exact ⟨block.length_pos, shape⟩
  obtain ⟨sorted, every, bounded, zero⟩ :=
    assignment_withIntercept (fun b hb => (each b hb).1) _ assign
  rw [← size] at every bounded
  rw [double, block_map_id]
  refine ⟨rfl, Block.wellShaped_beside fun b hb => ?_, ⟨blocks.map Block.columns, ?_, columns, ?_⟩,
    length_assignment _ _, sorted, every, bounded, zero⟩
  · unfold withIntercept at hb
    split at hb
    · rcases List.mem_cons.1 hb with rfl | hb
      · exact ⟨Block.wellShaped_ones _, rfl⟩
      · exact (each b hb).2
    · exact (each b hb).2
  · rw [List.forall₂_map_right_iff]
    exact held.imp fun _ _ h => h.1
  · rw [← assignment_eq]
    exact assign

/-- A table with a factor of three levels and a number. -/
def threeLevels : Table where
  columns :=
    [(.text "g", .factor (.code [.text "low", .text "mid", .text "high"] (by decide) false
        [some (.text "high"), some (.text "low"), some (.text "mid")])),
      (.text "x", .doubles [2.0, 3.0, 5.0])]
  index := [.int 0, .int 1, .int 2]
  length_eq := by decide

/-- The formula `~ g&x` over this table, with the second level as the base. -/
theorem reference_of_build_threeLevels : ∃ frame m,
    (ModelFrame.build {} (.formula none (.app "&" [.var "g", .var "x"]))
      (.table threeLevels)).outcome = .ok frame ∧
    (build { contrasts := { base := 2 } } frame).outcome = .ok m ∧ IsReference 2 frame m := by
  have built : (fun frame =>
      (fun m : ModelMatrix => m.assign) <$>
        (build { contrasts := { base := 2 } } frame).outcome) <$>
      (ModelFrame.build {} (.formula none (.app "&" [.var "g", .var "x"]))
        (.table threeLevels)).outcome = .ok (.ok [0, 1, 1]) := by
    decide +kernel
  obtain ⟨frame, hf, built⟩ := map_eq_ok.1 built
  obtain ⟨m, hm, -⟩ := map_eq_ok.1 built
  exact ⟨frame, m, hf, hm, reference_of_build hf rfl hm⟩

end ModelFormula.ModelMatrix
