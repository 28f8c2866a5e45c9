import ModelFormula.Proofs.FirstFailure
import ModelFormula.Proofs.Frame.Complete
import ModelFormula.Proofs.Matrix.FixedEffects
import ModelFormula.Proofs.Matrix.Names
import ModelFormula.Proofs.Products
import ModelFormula.Proofs.Session.Logging
import ModelFormula.Proofs.Settings.Valid

/-!
# When a model matrix can be built

A matrix is refused for the first factor that cannot be coded, else for the first term that is not
built from one evaluation term or two, and for nothing else.

* `TermsTable.effectVocabulary` — the evaluation terms whose columns are coded.
* `ModelMatrix.codingFailure?`, `ModelMatrix.failure?_codedTerm` — why a column is not coded.
* `ModelMatrix.termFailure?`, `ModelMatrix.failure?_termBlock` — why a term is not built.
* `ModelMatrix.firstFailure?`, `ModelMatrix.failure?_fixedBlocks` — why the terms of a frame are not.
* `ModelMatrix.Prepared`, `ModelMatrix.prepared_of_build` — no lookup and no shape fails on the way.
* `ModelMatrix.result_build` — when building a matrix fails, and how.
-/

set_option autoImplicit false

namespace ModelFormula

/-! ## Columns and terms that are refused -/

/-- The evaluation terms of the terms that are not groupings, in the order of the vocabulary. -/
def TermsTable.effectVocabulary (t : TermsTable) : List Node :=
  t.vocabulary.filter fun node => t.fixedEffects.any fun term => node.isIn term.evaluationTerms

namespace ModelMatrix

variable {frame : ModelFrame} {base : Int}

/-- Why the column of an evaluation term is not coded: it is a factor with fewer than two levels, or
the base is beyond its last level. -/
def codingFailure? (frame : ModelFrame) (base : Int) (node : Node) : Option Failure :=
  match frame.column node with
  | .ok (.factor f) =>
    if f.size < 2 then some (.insufficientLevels f.size (some node.text))
    else if (f.size : Int) < base then some (.invalidBase f.size base (some node.text))
    else none
  | _ => none

/-- Why a term is not built: it has no evaluation term, or more than two different ones. -/
def termFailure? (terms : TermsTable) (term : Node) : Option Failure :=
  match (terms.distinctTerms term).length with
  | 0 => some (.invalidTerm term.text "term does not reference any evaluation term" [])
  | 1 => none
  | 2 => none
  | order => some (.interactionOrder term.text order)

theorem termFailure?_eq_none_iff {terms : TermsTable} {term : Node} :
    termFailure? terms term = none ↔
      (terms.distinctTerms term).length = 1 ∨ (terms.distinctTerms term).length = 2 := by
  unfold termFailure?
  split <;> simp_all

/-- A column without missing cells is coded, unless it is refused for its levels. -/
theorem failure?_codedTerm (low : 1 ≤ base) (complete : frame.Complete) {node : Node}
    {column : FrameColumn} (found : frame.column node = .ok column) :
    failure? (codedTerm frame base node) = codingFailure? frame base node := by
  have present := complete node column found
  unfold codedTerm codingFailure?
  rw [found]
  cases column with
  | numeric values => rfl
  | factor f =>
    have no_missing : none ∉ f.codes := by
      simpa [FrameColumn.missing] using present
    show failure? (f.coded base node.text) = _
    rw [Factor.failure?_coded, if_neg no_missing]
    simp only [not_lt.2 low, false_or]

/-- A term whose evaluation terms are coded is built, unless it is refused for their number. -/
theorem failure?_termBlock {column : Nat} {term : Node}
    (terms : frame.terms.evaluationTermsAt column = frame.terms.distinctTerms term)
    (coded : ∀ node ∈ frame.terms.distinctTerms term, ∃ b, codedTerm frame base node = .ok b) :
    failure? (termBlock frame base column term) = termFailure? frame.terms term := by
  unfold termBlock termFailure?
  rw [terms]
  match frame.terms.distinctTerms term, coded with
  | [], _ => rfl
  | [a], coded =>
    obtain ⟨b, done⟩ := coded a (List.mem_singleton_self a)
    simp only [done]
    rfl
  | [a, b], coded =>
    obtain ⟨first, done⟩ := coded a List.mem_cons_self
    obtain ⟨second, done'⟩ := coded b (by simp)
    simp only [done, done']
    rfl
  | _ :: _ :: _ :: _, _ => rfl

theorem codeAll_eq_mapM (code : Node → Except Failure Block) (nodes : List Node) :
    codeAll code nodes = nodes.mapM code := by
  induction nodes with
  | nil => rfl
  | cons node nodes ih =>
    rw [codeAll, List.mapM_cons, ih]

theorem termBlocks_eq_mapM (entries : List (Nat × Node)) :
    termBlocks frame base entries = entries.mapM fun p => termBlock frame base p.1 p.2 := by
  induction entries with
  | nil => rfl
  | cons p entries ih =>
    rw [termBlocks, List.mapM_cons, ih]

/-- These are the evaluation terms that are coded. -/
theorem usedTerms_eq (terms : TermsTable) : usedTerms terms = terms.effectVocabulary := by
  have column : ∀ p ∈ terms.fixedTerms, terms.columns.getD p.1 [] = p.2.evaluationTerms := by
    rintro ⟨place, term⟩ hp
    obtain ⟨k, at_k, -, rfl⟩ := TermsTable.mem_fixedTerms.1 hp
    rw [List.getD_eq_getElem?_getD, TermsTable.columns_termColumn, at_k]
    rfl
  rw [usedTerms_eq_filter]
  refine List.filter_congr fun node _ => ?_
  rw [← TermsTable.fixedTerms_map_snd, List.any_map, Bool.eq_iff_iff, List.any_eq_true,
    List.any_eq_true]
  refine exists_congr fun p => and_congr_right fun hp => ?_
  rw [column p hp]
  rfl

/-- Why the terms of a frame are not built: for the first evaluation term that is not coded, else
for the first term that is refused itself. -/
def firstFailure? (frame : ModelFrame) (base : Int) : Option Failure :=
  (frame.terms.effectVocabulary.findSome? (codingFailure? frame base)).or
    (frame.terms.fixedEffects.findSome? (termFailure? frame.terms))

theorem firstFailure?_eq_none_iff : firstFailure? frame base = none ↔
    (∀ node ∈ frame.terms.effectVocabulary, codingFailure? frame base node = none) ∧
      ∀ term ∈ frame.terms.fixedEffects, (frame.terms.distinctTerms term).length = 1 ∨
        (frame.terms.distinctTerms term).length = 2 := by
  rw [firstFailure?, Option.or_eq_none_iff, List.findSome?_eq_none_iff, List.findSome?_eq_none_iff]
  simp only [termFailure?_eq_none_iff]

theorem failure?_fixedBlocks (low : 1 ≤ base) (complete : frame.Complete)
    (present : ∀ node ∈ frame.terms.effectVocabulary, ∃ column, frame.column node = .ok column) :
    failure? (fixedBlocks frame base) = firstFailure? frame base := by
  rw [← usedTerms_eq] at present
  have each : ∀ node ∈ usedTerms frame.terms,
      failure? (codedTerm frame base node) = codingFailure? frame base node := fun node hn =>
    have ⟨_, found⟩ := present node hn
    failure?_codedTerm low complete found
  have coding := failure?_mapM each
  rw [← codeAll_eq_mapM] at coding
  rw [firstFailure?, ← usedTerms_eq, ← coding]
  refine failure?_bind fun blocks done => ?_
  -- All columns are coded before any term is built, so a term is refused for itself alone.
  have coded : ∀ node ∈ usedTerms frame.terms, ∃ b, codedTerm frame base node = .ok b := by
    rw [failure?_eq_none_iff.2 ⟨blocks, done⟩] at coding
    intro node hn
    rw [← failure?_eq_none_iff, each node hn]
    exact List.findSome?_eq_none_iff.1 coding.symm node hn
  rw [termBlocks_eq_mapM, ← TermsTable.fixedTerms_map_snd, List.findSome?_map]
  refine failure?_mapM fun p hp => ?_
  have terms := TermsTable.evaluationTermsAt_of_mem hp
  refine failure?_termBlock terms fun node hn => coded node (mem_usedTerms hp ?_)
  rw [terms]
  exact hn

/-- The names of the columns are never refused once the columns are there. -/
theorem exists_columnNames (rect : Rectangular frame) {blocks : List Block}
    (built : termBlocks frame base frame.terms.fixedTerms = .ok blocks) :
    ∃ names, (columnNames frame base).outcome = .ok names := by
  have held := (termBlocks_eq_ok rect
    (fun p hp => TermsTable.evaluationTermsAt_of_mem hp) built).imp fun _ _ h => h.1
  by_cases pair : ∃ p ∈ frame.terms.fixedTerms, ∃ a b, frame.terms.distinctTerms p.2 = [a, b]
  · obtain ⟨term, reason, hints, refused⟩ := termsNames_pair consecutive_fixedTerms held pair
    exact ⟨none, columnNames_pair refused⟩
  · obtain ⟨labels, labels_eq, -⟩ := termsNames_single .double consecutive_fixedTerms held
      fun p hp a b two => pair ⟨p, hp, a, b, two⟩
    exact ⟨_, columnNames_single labels_eq⟩

/-! ## Lookups and shapes -/

/-- No lookup and no shape fails while the matrix of a frame is built. -/
structure Prepared (frame : ModelFrame) (base : Int) : Prop where
  /-- The evaluation terms of terms that are not groupings have columns without missing cells. -/
  present : ∀ node ∈ frame.terms.effectVocabulary,
    ∃ column, frame.column node = .ok column ∧ true ∉ column.missing
  /-- Their blocks are as high as the frame. -/
  shaped : ∀ node ∈ frame.terms.effectVocabulary, ∀ b, codedTerm frame base node = .ok b →
    b.WellShaped ∧ b.height = frame.rows
  /-- So as arrays any two of them are accepted for a product. -/
  expands : ∀ node ∈ frame.terms.effectVocabulary, ∀ other ∈ frame.terms.effectVocabulary, ∀ a b,
    codedTerm frame base node = .ok a → codedTerm frame base other = .ok b →
    ∀ xs ys : NumericArray, xs.shape = [a.height, a.width] → ys.shape = [b.height, b.width] →
      ∃ product, Block.expandArrays xs ys = .ok product

/-- Arrays of two dimensions and of one height have products. -/
theorem exists_expandArrays {xs ys : NumericArray} {n p q : Nat} (hx : xs.shape = [n, p])
    (hy : ys.shape = [n, q]) : ∃ product, Block.expandArrays xs ys = .ok product :=
  ⟨_, Block.expandArrays_of_dims (NumericArray.dims?_of_shape hx) (NumericArray.dims?_of_shape hy)⟩

theorem prepared_of_build {options : ModelFrame.Options} {formula : Node} {source : Source}
    (omits : options.missing = .omitIncomplete)
    (h : (ModelFrame.build options formula source).outcome = .ok frame) : Prepared frame base := by
  have rect := rectangular_of_build h
  refine ⟨fun node hn => ?_, fun node _ b coded => codedTerm_wellShaped rect coded, ?_⟩
  · obtain ⟨column, found⟩ := ModelFrame.exists_column_of_build h (List.mem_filter.1 hn).1
    exact ⟨column, found, ModelFrame.complete_of_build omits h node column found⟩
  · intro node _ other _ a b coded coded' xs ys hx hy
    rw [(codedTerm_wellShaped rect coded).2] at hx
    rw [(codedTerm_wellShaped rect coded').2] at hy
    exact exists_expandArrays hx hy

/-- **Building the matrix of a frame of the complete rows** fails for the first used evaluation term
that is a factor with too few levels for contrasts or for the base, else for the first term that has
not one evaluation term or two, and for nothing else. -/
theorem failure?_build {options : ModelFrame.Options} {formula : Node} {source : Source}
    {settings : Settings} (omits : options.missing = .omitIncomplete)
    (h : (ModelFrame.build options formula source).outcome = .ok frame)
    (low : 1 ≤ settings.contrasts.base) :
    failure? (build settings frame).outcome = firstFailure? frame settings.contrasts.base := by
  have prepared : Prepared frame settings.contrasts.base := prepared_of_build omits h
  rw [← failure?_fixedBlocks low (ModelFrame.complete_of_build omits h) fun node hn =>
    have ⟨column, found, _⟩ := prepared.present node hn
    ⟨column, found⟩]
  rw [outcome_build]
  apply failure?_bind_of_ok
  intro blocks done
  obtain ⟨-, -, built⟩ := bind_eq_ok.1 done
  obtain ⟨names, named⟩ := exists_columnNames (rectangular_of_build h) built
  exact ⟨_, by rw [named]; rfl⟩

/-- **When building a model matrix fails, and how.**  With valid settings, building the matrix of a
frame of the complete rows fails for the first evaluation term of a term that is no grouping whose
column is a factor with fewer than two levels or with fewer levels than the base; where there is
none, for the first term that has not one evaluation term or two; and for nothing else.  On the way
no column is missed, none has a missing cell, and no two blocks differ in height. -/
theorem result_build {options : ModelFrame.Options} {formula : Node} {source : Source}
    {settings : Settings} {s : Session} (omits : options.missing = .omitIncomplete)
    (h : (ModelFrame.build options formula source).outcome = .ok frame)
    (valid : settings.IsValid) (by_default : s.settings.logging = {}) :
    (∀ e, s.result (build settings frame) = .error e ↔
      firstFailure? frame settings.contrasts.base = some e) ∧
    ((∃ m, s.result (build settings frame) = .ok m) ↔
      (∀ node ∈ frame.terms.effectVocabulary,
        codingFailure? frame settings.contrasts.base node = none) ∧
      ∀ term ∈ frame.terms.fixedEffects, (frame.terms.distinctTerms term).length = 1 ∨
        (frame.terms.distinctTerms term).length = 2) ∧
    Prepared frame settings.contrasts.base := by
  have failure := failure?_build omits h (Settings.isValid_iff.1 valid)
  rw [Session.result_of_default by_default, ← firstFailure?_eq_none_iff, ← failure]
  refine ⟨fun e => ?_, ?_, prepared_of_build omits h⟩
  · rw [failure?_eq_some_iff]
  · rw [failure?_eq_none_iff]

/-- The interaction `g&x&I(x)`. -/
def tripleInteraction : Node := .app "&" [.var "g", .var "x", .app "I" [.var "x"]]

/-- With the fourth of three levels as the base the interaction of three is not reached; with the
first one it is refused. -/
theorem result_build_tripleInteraction : ∃ frame,
    (ModelFrame.build {} (.formula none tripleInteraction) (.table threeLevels)).outcome =
      .ok frame ∧
    ({} : Session).result (build { contrasts := { base := 4 } } frame) =
      .error (.invalidBase 3 4 (some "g")) ∧
    ({} : Session).result (build {} frame) = .error (.interactionOrder "g&x&I(x)" 3) := by
  have failures : (fun frame => (firstFailure? frame 4, firstFailure? frame 1)) <$>
      (ModelFrame.build {} (.formula none tripleInteraction) (.table threeLevels)).outcome =
        .ok (some (.invalidBase 3 4 (some "g")), some (.interactionOrder "g&x&I(x)" 3)) := by
    decide +kernel
  obtain ⟨frame, hf, both⟩ := map_eq_ok.1 failures
  obtain ⟨fourth, first⟩ := Prod.mk.inj both
  have valid : Settings.IsValid { contrasts := { base := 4 } } := Settings.isValid_iff.2 (by decide)
  exact ⟨frame, hf, ((result_build rfl hf valid rfl).1 _).2 fourth,
    ((result_build rfl hf Settings.isValid_default rfl).1 _).2 first⟩

end ModelMatrix

end ModelFormula
