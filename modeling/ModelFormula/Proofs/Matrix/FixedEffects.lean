import ModelFormula.Proofs.Matrix.Transport
import ModelFormula.Proofs.Terms

/-!
# Fixed effects alone determine the design

A model matrix is made of the columns of the evaluation terms that a term uses which is not a grouping.
The response and columns that only groupings use may hold anything, and they cannot make it fail.

* `ModelMatrix.exists_of_mem_usedTerms` — what is coded is an evaluation term of a fixed effect.
* `ModelFrame.AgreeOnFixedEffects` — two frames have the same rows and the same columns of these.
* `ModelMatrix.build_eq_of_agree` — their matrices, with assignment, names and log entries, are the
  same, or building them fails for the same reason.
-/

set_option autoImplicit false

namespace ModelFormula

/-- Two frames of one table of terms have the same number of rows, and the same columns of the
evaluation terms of all terms that are not groupings. -/
structure ModelFrame.AgreeOnFixedEffects (frame other : ModelFrame) : Prop where
  terms : other.terms = frame.terms
  rows : other.rows = frame.rows
  columns : ∀ term ∈ frame.terms.fixedEffects, ∀ node ∈ frame.terms.distinctTerms term,
    other.column node = frame.column node

namespace ModelMatrix

variable {frame other : ModelFrame}

theorem exists_of_mem_usedTerms {terms : TermsTable} {node : Node} (h : node ∈ usedTerms terms) :
    ∃ term ∈ terms.fixedEffects, node ∈ terms.distinctTerms term := by
  rw [usedTerms_eq_filter] at h
  obtain ⟨known, used⟩ := List.mem_filter.1 h
  obtain ⟨⟨column, term⟩, fixed, here⟩ := List.any_eq_true.1 used
  refine ⟨term, ?_, ?_⟩
  · rw [← TermsTable.fixedTerms_map_snd]
    exact List.mem_map_of_mem fixed
  · rw [← TermsTable.evaluationTermsAt_of_mem fixed, TermsTable.evaluationTermsAt_eq]
    exact List.mem_filter.2 ⟨known, here⟩

/-- The blocks of one frame are those of the other, left where they are. -/
theorem transports_of_agree (h : frame.AgreeOnFixedEffects other) : Transports id frame other := by
  have columns : ∀ node ∈ usedTerms frame.terms, other.column node = frame.column node := by
    intro node hn
    obtain ⟨term, fixed, here⟩ := exists_of_mem_usedTerms hn
    exact h.columns term fixed node here
  constructor
  · exact h.terms
  · intro base node hn
    unfold codedTerm
    rw [columns node hn, id_map]
  · intro node hn
    rw [columns node hn]
  · intro base first second a b _ _
    rfl

/-- **Nothing but the columns of fixed effects matters to a design.** -/
theorem build_eq_of_agree (h : frame.AgreeOnFixedEffects other) :
    (∀ settings, build settings other = build settings frame) ∧
      ∀ base, other.coefficientNames base = frame.coefficientNames base := by
  have same := transports_of_agree h
  have blocks : ∀ base, fixedBlocks other base = fixedBlocks frame base := by
    intro base
    rw [same.fixedBlocks, List.map_id_fun, id_map]
  have intercept : withIntercept other = withIntercept frame := by
    funext blocks
    unfold withIntercept
    rw [h.terms, h.rows]
  have names : ∀ base, columnNames other base = columnNames frame base := by
    intro base
    unfold columnNames
    rw [same.coefficientNames]
  refine ⟨fun settings => ?_, same.coefficientNames⟩
  unfold build
  simp only [blocks, intercept, names, h.terms, h.rows]

/-- The terms of `y ~ x + g + (x | h)`. -/
def mixedTerms : TermsTable where
  left := some (.var "y")
  right := .app "+" [.var "x", .var "g", .app "|" [.var "x", .var "h"]]
  terms := [.var "x", .var "g", .app "|" [.var "x", .var "h"]]
  intercept := true

/-- A frame of these terms with a numeric response and two groups. -/
def numericFrame : ModelFrame where
  terms := mixedTerms
  columns :=
    [("y", .numeric [1.0, 2.0, 3.0]), ("x", .numeric [0.5, 1.5, 2.5]),
      ("g", .factor (.code [.text "low", .text "high"] (by decide) false
        [some (.text "low"), some (.text "high"), some (.text "low")])),
      ("h", .factor (.code [.text "p", .text "q"] (by decide) false
        [some (.text "p"), some (.text "q"), some (.text "p")]))]
  index := [.int 0, .int 1, .int 2]
  retained := [true, true, true]

/-- A frame of these terms with texts as response, one of them missing, and a single group. -/
def labelledFrame : ModelFrame where
  terms := mixedTerms
  columns :=
    [("y", .factor (.code [.text "no"] (by decide) false
        [some (.text "no"), none, some (.text "no")])),
      ("x", .numeric [0.5, 1.5, 2.5]),
      ("g", .factor (.code [.text "low", .text "high"] (by decide) false
        [some (.text "low"), some (.text "high"), some (.text "low")])),
      ("h", .factor (.code [.text "all"] (by decide) false
        [some (.text "all"), none, none]))]
  index := [.int 3, .int 5, .int 8]
  retained := [true, true, true]

theorem build_eq_of_agree_labelledFrame :
    build {} labelledFrame = build {} numericFrame ∧
      ∃ m, (build {} numericFrame).outcome = .ok m ∧ m.assign = [0, 1, 2] ∧
        m.names = some ["(Intercept)", "x", "g - high"] := by
  have agree : numericFrame.AgreeOnFixedEffects labelledFrame := by
    refine ⟨rfl, rfl, fun term fixed node here => ?_⟩
    have own : ∀ term ∈ mixedTerms.fixedEffects, mixedTerms.distinctTerms term = [term] := by decide
    have here : node ∈ mixedTerms.distinctTerms term := here
    rw [own term fixed] at here
    obtain rfl := List.mem_singleton.1 here
    have effects : mixedTerms.fixedEffects = [.var "x", .var "g"] := by decide
    have known : node ∈ [Node.var "x", Node.var "g"] := effects ▸ fixed
    simp only [List.mem_cons, List.not_mem_nil, or_false] at known
    rcases known with rfl | rfl
    · rfl
    · rfl
  have design : (fun m : ModelMatrix => (m.assign, m.names)) <$> (build {} numericFrame).outcome =
      .ok ([0, 1, 2], some ["(Intercept)", "x", "g - high"]) := by
    rfl
  obtain ⟨m, built, parts⟩ := map_eq_ok.1 design
  obtain ⟨assign, names⟩ := Prod.mk.inj parts
  exact ⟨(build_eq_of_agree agree).1 {}, m, built, assign, names⟩

end ModelMatrix

end ModelFormula
