import ModelFormula.Proofs.Frame.Contents
import ModelFormula.Proofs.Frame.Rows
import ModelFormula.Proofs.Matrix.FixedEffects
import ModelFormula.Proofs.Response

/-!
# Designs without the response

The response is no part of a design.  Without it the terms stand one column further to the left in
their table, and the frame has one column less.

* `ModelMatrix.fixedBlocks_of_new`, `ModelMatrix.coefficientNames_of_new`, `ModelMatrix.build_of_new` —
  moving the terms changes no design.
* `ModelFrame.ofTerms_withoutResponse` — the frame of the right-hand side alone has the other columns,
  in the same rows, if the response misses nothing.
* `ModelMatrix.sameDesign_withoutFirst` — nor does a design have the column of the response.
* `ModelMatrix.prefixed_of_wellFormed` — the response adds a prefix to the table, and nothing to the
  design.
-/

set_option autoImplicit false

namespace ModelFormula

open TermsTable

namespace ModelFrame

/-- The same data under the table of the right-hand side alone. -/
def withoutResponse (frame : ModelFrame) : ModelFrame :=
  { frame with terms := frame.terms.withoutResponse }

end ModelFrame

namespace ModelMatrix

variable {frame : ModelFrame} {left : Node}

section Moved

variable (h : frame.terms.left = some left)
  (new : left.isIn frame.terms.withoutResponse.vocabulary = false)

include h new

theorem usedTerms_of_new : usedTerms frame.terms = usedTerms frame.terms.withoutResponse := by
  have used : ∀ node : Node,
      (frame.terms.fixedTerms.any fun p => node.isIn (frame.terms.columns.getD p.1 [])) =
        frame.terms.withoutResponse.fixedTerms.any fun p =>
          node.isIn (frame.terms.withoutResponse.columns.getD p.1 []) := by
    intro node
    rw [fixedTerms_eq h, List.any_map]
    refine congrArg (List.any _) (funext fun p => ?_)
    show node.isIn (frame.terms.columns.getD (p.1 + 1) []) = _
    rw [columns_getD_succ h]
  have response : (frame.terms.withoutResponse.fixedTerms.any fun p =>
      left.isIn (frame.terms.withoutResponse.columns.getD p.1 [])) = false := by
    rw [List.any_eq_false]
    intro p _
    rw [isIn_column_of_new new]
    decide
  rw [usedTerms_eq_filter, usedTerms_eq_filter]
  simp only [used]
  rw [vocabulary_of_new h new, List.filter_cons_of_neg (by rw [response]; decide)]

theorem termBlocks_of_new (base : Int) (entries : List (Nat × Node)) :
    termBlocks frame base (entries.map fun p => (p.1 + 1, p.2)) =
      termBlocks frame.withoutResponse base entries := by
  induction entries with
  | nil => rfl
  | cons p entries ih =>
    have head : termBlock frame base (p.1 + 1) p.2 =
        termBlock frame.withoutResponse base p.1 p.2 := by
      unfold termBlock
      rw [evaluationTermsAt_of_new h new]
      rfl
    show (termBlock frame base (p.1 + 1) p.2 >>= _) = _
    rw [head, ih]
    rfl

theorem fixedBlocks_of_new (base : Int) :
    fixedBlocks frame base = fixedBlocks frame.withoutResponse base := by
  unfold fixedBlocks
  rw [usedTerms_of_new h new, fixedTerms_eq h, termBlocks_of_new h new]
  rfl

theorem termsNames_of_new (base : Int) (entries : List (Nat × Node)) :
    frame.termsNames base (entries.map fun p => (p.1 + 1, p.2)) =
      frame.withoutResponse.termsNames base entries := by
  induction entries with
  | nil => rfl
  | cons p entries ih =>
    have head : frame.termNames base (p.1 + 1) p.2 =
        frame.withoutResponse.termNames base p.1 p.2 := by
      unfold ModelFrame.termNames
      rw [evaluationTermsAt_of_new h new]
      rfl
    show (frame.termNames base (p.1 + 1) p.2 >>= _) = _
    rw [head, ih]
    rfl

theorem coefficientNames_of_new (base : Int) :
    frame.coefficientNames base = frame.withoutResponse.coefficientNames base := by
  unfold ModelFrame.coefficientNames
  rw [fixedTerms_eq h, termsNames_of_new h new]
  rfl

/-- **Moving the terms changes no design.** -/
theorem build_of_new (settings : Settings) : (build settings frame).outcome =
    (build settings frame.withoutResponse).outcome := by
  have names : columnNames frame = columnNames frame.withoutResponse := by
    funext base
    unfold columnNames
    rw [coefficientNames_of_new h new]
  rw [outcome_build, outcome_build, fixedBlocks_of_new h new, names]
  rfl

end Moved

end ModelMatrix

/-! ## Frames -/

namespace ModelFrame

variable {options : Options} {terms : TermsTable} {table : Table} {frame : ModelFrame} {left : Node}

/-- The frame without its first column, under the table of the right-hand side alone. -/
def withoutFirst (frame : ModelFrame) : ModelFrame :=
  { frame.withoutResponse with columns := frame.columns.tail }

theorem column_withoutFirst {name : String} {c : FrameColumn} {rest : Dictionary String FrameColumn}
    (columns : frame.columns = (name, c) :: rest) {node : Node} (other : node.text ≠ name) :
    frame.withoutFirst.column node = frame.column node := by
  unfold column Node.render
  split
  · have found : Dictionary.get? frame.columns node.text =
        Dictionary.get? frame.withoutFirst.columns node.text := by
      unfold withoutFirst
      rw [columns, Dictionary.get?_cons, if_neg (Ne.symm other)]
      rfl
    simp only [bind, Except.bind, found]
  · rfl

/-- **The frame of the right-hand side alone** has the columns after the response, in the same rows, if
the response misses none. -/
theorem ofTerms_withoutResponse (h : terms.left = some left)
    (new : left.isIn terms.withoutResponse.vocabulary = false)
    (distinct : (terms.vocabulary.map Node.text).Nodup)
    (omit_missing : options.missing = .omitIncomplete)
    (present : ∀ values, sourceColumn options table left = .ok values → true ∉ values.missing)
    (built : (ofTerms options terms (.table table)).outcome = .ok frame) :
    (ofTerms options terms.withoutResponse (.table table)).outcome = .ok frame.withoutFirst ∧
      ∀ node : Node, node.text ≠ left.text → frame.withoutFirst.column node = frame.column node := by
  rw [outcome_ofTerms] at built
  obtain ⟨table, valid, built⟩ := bind_eq_ok.1 built
  obtain ⟨columns, resolved, built⟩ := bind_eq_ok.1 built
  cases validate_eq_ok valid
  cases built
  have stored := keyed_eq resolved distinct
  have vocabulary := vocabulary_of_new h new
  rw [vocabulary] at resolved distinct
  obtain ⟨column, head, resolved⟩ := Journal.outcome_bind_eq_ok.1 resolved
  obtain ⟨others, tail, resolved⟩ := Journal.outcome_bind_eq_ok.1 resolved
  cases resolved
  have stored' := keyed_eq tail (List.nodup_cons.1 distinct).2
  have mask : Mask.complete table.index.length
      (column.missing :: others.map fun c => c.2.missing) =
        Mask.complete table.index.length (others.map fun c => c.2.missing) := by
    obtain ⟨values, held⟩ := resolve_eq_ok head
    refine Mask.complete_cons_of_present ?_ ?_ ?_
    · rw [held.missing]
      exact present values held.source_eq
    · exact held.length_missing
    · intro marks hm
      obtain ⟨c, hc, rfl⟩ := List.mem_map.1 hm
      obtain ⟨node, -, -, origin, held⟩ := mem_resolved tail hc
      exact held.length_missing
  rw [stored]
  refine ⟨?_, fun node other => ?_⟩
  · rw [outcome_ofTerms, valid]
    show (resolveAll options table terms.withoutResponse.vocabulary).outcome >>= _ = _
    rw [tail]
    refine congrArg Except.ok ?_
    simp only [withoutFirst, withoutResponse, assemble, stored', omit_missing, MissingPolicy.mask,
      List.map_cons, List.tail_cons, mask]
  · exact column_withoutFirst rfl other

end ModelFrame

namespace ModelMatrix

variable {frame : ModelFrame} {left : Node}

/-- **A design does not have the response**: the frame without it has the same matrices and names. -/
theorem sameDesign_withoutFirst (h : frame.terms.left = some left)
    (new : left.isIn frame.terms.withoutResponse.vocabulary = false)
    (columns : ∀ node ∈ frame.terms.withoutResponse.vocabulary,
      frame.withoutFirst.column node = frame.column node) :
    (∀ settings, (build settings frame).outcome = (build settings frame.withoutFirst).outcome) ∧
      ∀ base, frame.coefficientNames base = frame.withoutFirst.coefficientNames base := by
  have agree : frame.withoutResponse.AgreeOnFixedEffects frame.withoutFirst :=
    ⟨rfl, rfl, fun term _ node here => columns node (List.mem_filter.1 here).1⟩
  have same := transports_of_agree agree
  constructor
  · intro settings
    rw [build_of_new h new, same.build (Block.movesRows_id frame.rows) settings]
    exact (id_map _).symm
  · intro base
    rw [coefficientNames_of_new h new, same.coefficientNames]

/-- **The response only adds a prefix**: to the table, where it is one more column and one more
evaluation term, and not to the design.  A frame of the formula whose evaluation terms all have texts
of their own, with a response that the right-hand side does not use and that misses nothing, has the
matrices and names of the frame of the right-hand side alone, or they fail for the same reasons. -/
theorem prefixed_of_wellFormed {left right : Node} (hl : left.wellFormed = true)
    (hr : right.wellFormed = true) :
    ∃ one two, (ofFormula (.formula none right)).outcome = .ok one ∧
      (ofFormula (.formula (some left) right)).outcome = .ok two ∧ Prefixed left one two ∧
      ∀ (options : ModelFrame.Options) (table : Table) (frame : ModelFrame),
        options.missing = .omitIncomplete →
        (ModelFrame.build options (.formula (some left) right) (.table table)).outcome = .ok frame →
        left.isIn one.vocabulary = false → (two.vocabulary.map Node.text).Nodup →
        (∀ values, ModelFrame.sourceColumn options table left = .ok values →
          true ∉ values.missing) →
        ∃ other, (ModelFrame.build options (.formula none right) (.table table)).outcome = .ok other ∧
          (∀ settings, (build settings frame).outcome = (build settings other).outcome) ∧
          ∀ base, frame.coefficientNames base = other.coefficientNames base := by
  have valid : ∀ node, some left = some node → node.wellFormed = true := by
    intro node same
    cases same
    exact hl
  have nothing : ∀ node, (none : Option Node) = some node → node.wellFormed = true := by
    intro node same
    cases same
  obtain ⟨x, expanded, built_two⟩ := build_of_wellFormed valid hr
  obtain ⟨x', expanded', built_one⟩ := build_of_wellFormed nothing hr
  obtain rfl : x = x' := Except.ok.inj (expanded.symm.trans expanded')
  rw [← outcome_ofFormula] at built_one built_two
  let two : TermsTable :=
    { left := some left, right, terms := x.terms, intercept := x.intercept }
  refine ⟨two.withoutResponse, two, built_one, built_two, prefixed_withoutResponse rfl, ?_⟩
  intro options table frame omit_missing built new distinct present
  obtain ⟨terms, same, built⟩ := Journal.outcome_bind_eq_ok.1 built
  obtain rfl : two = terms := Except.ok.inj (built_two.symm.trans same)
  obtain ⟨built_other, columns⟩ := ModelFrame.ofTerms_withoutResponse rfl new distinct omit_missing
    present built
  have of_two : frame.terms = two := by
    obtain ⟨-, -, -, -, rfl⟩ := ModelFrame.ofTerms_eq_ok built
    rfl
  rw [vocabulary_of_new rfl new] at distinct
  have other : ∀ node ∈ two.withoutResponse.vocabulary, node.text ≠ left.text := fun node hn clash =>
    (List.nodup_cons.1 distinct).1 (clash ▸ List.mem_map_of_mem hn)
  refine ⟨_, Journal.outcome_bind_eq_ok.2 ⟨_, built_one, built_other⟩, ?_⟩
  have response : frame.terms.left = some left := by rw [of_two]
  refine sameDesign_withoutFirst response ?_ ?_
  · rw [of_two]
    exact new
  · rw [of_two]
    exact fun node hn => columns node (other node hn)

/-- The right-hand side `I(x)&g`. -/
def slopes : Node := .app "&" [.app "I" [.var "x"], .var "g"]

/-- With and without its response `y ~ I(x)&g` has one design over a table whose other columns
miss something. -/
theorem prefixed_of_wellFormed_slopes : ∃ one two frame other,
    (ofFormula (.formula none slopes)).outcome = .ok one ∧
    (ofFormula (.formula (some (.var "y")) slopes)).outcome = .ok two ∧
    Prefixed (.var "y") one two ∧
    (ModelFrame.build {} (.formula (some (.var "y")) slopes)
      (.table ModelFrame.incompleteTable)).outcome = .ok frame ∧
    (ModelFrame.build {} (.formula none slopes) (.table ModelFrame.incompleteTable)).outcome =
      .ok other ∧
    ∃ m, (build {} frame).outcome = .ok m ∧ (build {} other).outcome = .ok m ∧
      m.assign = [0, 1] ∧ m.block.height = 3 := by
  have texts : (fun t : TermsTable => t.vocabulary.map Node.text) <$>
      (ofFormula (.formula (some (.var "y")) slopes)).outcome = .ok ["y", "I(x)", "g"] := by
    cbv
  have response : (fun t : TermsTable => (Node.var "y").isIn t.vocabulary) <$>
      (ofFormula (.formula none slopes)).outcome = .ok false := by
    cbv
  have design : (fun frame => (fun m : ModelMatrix => (m.assign, m.block.height)) <$>
      (build {} frame).outcome) <$> (ModelFrame.build {} (.formula (some (.var "y")) slopes)
        (.table ModelFrame.incompleteTable)).outcome = .ok (.ok ([0, 1], 3)) := by
    decide +kernel
  obtain ⟨frame, built, design⟩ := map_eq_ok.1 design
  obtain ⟨m, made, parts⟩ := map_eq_ok.1 design
  obtain ⟨assign, height⟩ := Prod.mk.inj parts
  have hl : (Node.var "y").wellFormed = true := by decide
  have hr : slopes.wellFormed = true := by decide
  obtain ⟨one, two, built_one, built_two, in_front, designs⟩ := prefixed_of_wellFormed hl hr
  rw [built_one] at response
  rw [built_two] at texts
  have texts : two.vocabulary.map Node.text = ["y", "I(x)", "g"] := Except.ok.inj texts
  have present : ∀ values,
      ModelFrame.sourceColumn {} ModelFrame.incompleteTable (.var "y") = .ok values →
        true ∉ values.missing := by
    intro values found
    cases found
    decide
  obtain ⟨other, built_other, same, -⟩ := designs {} ModelFrame.incompleteTable frame rfl built
    (Except.ok.inj response) (by rw [texts]; decide) present
  exact ⟨one, two, frame, other, built_one, built_two, in_front, built, built_other, m, made,
    (same {}).symm.trans made, assign, height⟩

end ModelMatrix

end ModelFormula
