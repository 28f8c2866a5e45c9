import ModelFormula.Failure
import ModelFormula.Firsts
import ModelFormula.Level
import ModelFormula.Mask

/-!
# Factors

A factor is a column of codes into a list of levels.  No two levels have the same value and every
code points at a level; both are part of the type.

* `Factor.values` — the levels row by row, missing where there is no code.
* `Factor.ofCells` — the factor of a list of values: its levels are the values that occur, sorted,
  whole numbers among doubles having become doubles.
* `Factor.ofMixed` — the factor of a column of texts or mixed values, which are kept as they are.
* `Factor.withLevels` — the factor with given levels; other values become missing.
* `Factor.keep` — the rows of a mask.
* `Factor.dropUnused` — only the levels that occur, in their order, with codes to match.
-/

set_option autoImplicit false

namespace ModelFormula

/-- What the levels of a factor are stored as. -/
inductive LevelKind where
  | floating
  | whole
  | mixed
  deriving DecidableEq, Repr

/-- All doubles, all whole numbers, or anything else. -/
def LevelKind.ofLevels (levels : List Level) : LevelKind :=
  if levels.isEmpty then .mixed
  else if levels.all Level.isFloat then .floating
  else if levels.all Level.isInt then .whole
  else .mixed

/-- What a kind says of the levels that are stored so. -/
def LevelKind.Describes : LevelKind → List Level → Prop
  | .floating, levels => ∀ v ∈ levels, v.isFloat = true
  | .whole, levels => ∀ v ∈ levels, v.isInt = true
  | .mixed, _ => True

theorem LevelKind.describes_ofLevels (levels : List Level) :
    (LevelKind.ofLevels levels).Describes levels := by
  unfold ofLevels
  split
  · trivial
  · split
    · rename_i h
      exact fun v hv => List.all_eq_true.1 h v hv
    · split
      · rename_i h
        exact fun v hv => List.all_eq_true.1 h v hv
      · trivial

/-- A kind says the same of fewer levels. -/
theorem LevelKind.Describes.subset {kind : LevelKind} {levels fewer : List Level}
    (h : kind.Describes levels) (hs : fewer ⊆ levels) : kind.Describes fewer := by
  cases kind
  · exact fun v hv => h v (hs hv)
  · exact fun v hv => h v (hs hv)
  · trivial

@[ext]
structure Factor where
  levels : List Level
  /-- The position of each row's level, counted from zero. -/
  codes : List (Option Nat)
  ordered : Bool
  kind : LevelKind
  distinct : levels.Pairwise fun a b => a.same b = false
  codes_lt : ∀ k, some k ∈ codes → k < levels.length
  described : kind.Describes levels

namespace Factor

/-- The code of a value among levels. -/
def code? (levels : List Level) (v : Level) : Option Nat := levels.findIdx? (·.same v)

theorem code?_lt {levels : List Level} {v : Level} {k : Nat} (h : code? levels v = some k) :
    k < levels.length := (List.findIdx?_eq_some_iff_getElem.1 h).1

/-- The factor of a column whose values are looked up among levels. -/
def code (levels : List Level) (distinct : levels.Pairwise fun a b => a.same b = false)
    (ordered : Bool) (cells : List (Option Level)) : Factor where
  levels
  codes := cells.map fun cell => cell.bind (code? levels)
  ordered
  kind := .ofLevels levels
  distinct
  codes_lt := by
    intro k hk
    obtain ⟨cell, -, h⟩ := List.mem_map.1 hk
    obtain ⟨v, -, h⟩ := Option.bind_eq_some_iff.1 h
    exact code?_lt h
  described := LevelKind.describes_ofLevels levels

/-- The values that occur, each once and as it first occurs. -/
def observed (cells : List (Option Level)) : List Level :=
  firsts Level.same (cells.filterMap id)

/-- Values sorted, each once. -/
def listed (values : List Level) : List Level := (firsts Level.same values).mergeSort Level.le

theorem listed_distinct (values : List Level) :
    (listed values).Pairwise fun a b => a.same b = false := by
  have h : ∀ {a b : Level}, a.same b = false → b.same a = false :=
    fun {a b} h => Level.same_comm a b ▸ h
  exact ((List.mergeSort_perm _ _).pairwise_iff h).2 (firsts_pairwise _ _)

/-- The factor of a list of values. -/
def ofCells (ordered : Bool) (cells : List (Option Level)) : Factor :=
  let levels := Level.harmonized (observed cells)
  code (listed levels) (listed_distinct levels) ordered cells

/-- The factor of a column of texts or mixed values. -/
def ofMixed (cells : List (Option Level)) : Factor :=
  let values := cells.filterMap id
  { code (listed values) (listed_distinct values) false cells with
    kind := .mixed
    described := trivial }

/-- The factor with given levels, which must differ in value. -/
def withLevels (levels : List Level) (ordered : Bool) (cells : List (Option Level)) :
    Except Failure Factor :=
  if h : (Level.harmonized levels).Pairwise fun a b => a.same b = false then
    .ok (code (Level.harmonized levels) h ordered cells)
  else .error .badValue

/-- The number of levels. -/
def size (f : Factor) : Nat := f.levels.length

/-- The levels row by row. -/
def values (f : Factor) : List (Option Level) := f.codes.map fun c => c.bind fun k => f.levels[k]?

/-- Whether some row has no level. -/
def hasMissing (f : Factor) : Bool := f.codes.contains none

/-- The rows of a mask. -/
def keep (mask : Mask) (f : Factor) : Factor :=
  { f with
    codes := mask.keep f.codes
    codes_lt := fun k hk => f.codes_lt k ((mask.keep_sublist f.codes).subset hk) }

/-- The positions of the levels that occur, in increasing order. -/
def usedCodes (f : Factor) : List Nat := (List.range f.size).filter fun k => f.codes.contains (some k)

theorem lt_of_mem_usedCodes {f : Factor} {k : Nat} (h : k ∈ f.usedCodes) : k < f.levels.length :=
  List.mem_range.1 (List.mem_filter.1 h).1

theorem usedCodes_pairwise (f : Factor) : f.usedCodes.Pairwise (· < ·) :=
  List.Pairwise.filter _ List.pairwise_lt_range

/-- The levels at the given positions. -/
def levelsAt (f : Factor) (positions : List Nat) : List Level :=
  positions.filterMap fun k => f.levels[k]?

theorem levelsAt_subset (f : Factor) (positions : List Nat) : f.levelsAt positions ⊆ f.levels := by
  intro v hv
  obtain ⟨k, -, h⟩ := List.mem_filterMap.1 hv
  exact List.mem_of_getElem? h

theorem length_levelsAt {f : Factor} {positions : List Nat}
    (h : ∀ k ∈ positions, k < f.levels.length) :
    (f.levelsAt positions).length = positions.length := by
  induction positions with
  | nil => rfl
  | cons k ks ih =>
    have hk := h k List.mem_cons_self
    have := ih fun j hj => h j (List.mem_cons_of_mem _ hj)
    simpa [levelsAt, List.filterMap_cons, hk] using this

theorem levelsAt_distinct {f : Factor} {positions : List Nat}
    (h : positions.Pairwise (· < ·)) :
    (f.levelsAt positions).Pairwise fun a b => a.same b = false := by
  refine List.Pairwise.filterMap _ (fun i j hij a ha b hb => ?_) h
  obtain ⟨hi, rfl⟩ := List.getElem?_eq_some_iff.1 ha
  obtain ⟨hj, rfl⟩ := List.getElem?_eq_some_iff.1 hb
  exact List.pairwise_iff_getElem.1 f.distinct i j hi hj hij

/-- Only the levels that occur. -/
def dropUnused (f : Factor) : Factor where
  levels := f.levelsAt f.usedCodes
  codes := f.codes.map fun c => c.bind fun k => f.usedCodes.idxOf? k
  ordered := f.ordered
  kind := f.kind
  described := f.described.subset (f.levelsAt_subset f.usedCodes)
  distinct := levelsAt_distinct f.usedCodes_pairwise
  codes_lt := by
    intro k hk
    obtain ⟨c, -, h⟩ := List.mem_map.1 hk
    obtain ⟨j, -, h⟩ := Option.bind_eq_some_iff.1 h
    rw [length_levelsAt fun _ => lt_of_mem_usedCodes]
    exact (List.findIdx?_eq_some_iff_getElem.1 h).1

end Factor

end ModelFormula
