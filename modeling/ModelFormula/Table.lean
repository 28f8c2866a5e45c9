import ModelFormula.Column

/-!
# Data tables

* `Table` — columns with their labels, all as long as the index; labels may repeat and need not be
  texts.
* `Source` — what is given as data: a table, or a value that is none.
* `Table.column` — the column of a name.
* `Source.validate` — refuses what is no table and tables with repeated labels.
* `Table.completeCases`, `Table.keep` — rows without missing values, and the rows of a mask.
-/

set_option autoImplicit false

namespace ModelFormula

structure Table where
  columns : List (Plain × Column)
  index : List Plain
  length_eq : ∀ c ∈ columns, c.2.length = index.length

namespace Table

/-- The row numbers, counted from zero. -/
def defaultIndex (n : Nat) : List Plain := (List.range n).map fun i : Nat => .int i

/-- The number of rows of the first column, or a default. -/
def rowsOf (columns : List (Plain × Column)) (default : Nat) : Nat :=
  match columns with
  | [] => default
  | c :: _ => c.2.length

/-- The table of columns with an index, which defaults to the row numbers; all must have the same
number of rows. -/
def ofColumns (columns : List (Plain × Column)) (index : Option (List Plain)) (rows : Nat) :
    Except Failure Table :=
  let index := index.getD (defaultIndex (rowsOf columns rows))
  if h : ∀ c ∈ columns, c.2.length = index.length then .ok ⟨columns, index, h⟩
  else .error .badValue

/-- The number of rows. -/
def rows (t : Table) : Nat := t.index.length

def labels (t : Table) : List Plain := t.columns.map (·.1)

/-- The columns of a label. -/
def columnsOf (t : Table) (name : Plain) : List Column :=
  (t.columns.filter fun c => c.1.sameLabel name).map (·.2)

theorem mem_of_columnsOf {t : Table} {name : Plain} {c : Column} (h : c ∈ t.columnsOf name) :
    ∃ label, (label, c) ∈ t.columns := by
  obtain ⟨⟨label, d⟩, hd, rfl⟩ := List.mem_map.1 h
  exact ⟨label, (List.mem_filter.1 hd).1⟩

/-- The column of a name.  A name that cannot be looked up, one that no column has and one that
several have are refused. -/
def column (t : Table) (name : Plain) : Except Failure Column :=
  if name.hashable then
    match t.columnsOf name with
    | [] => .error (.missingColumn name t.labels)
    | [c] => .ok c
    | _ => .error .badValue
  else .error .wrongKind

theorem length_of_column {t : Table} {name : Plain} {c : Column} (h : t.column name = .ok c) :
    c.length = t.rows := by
  unfold column at h
  split at h
  · split at h
    · cases h
    · rename_i d e
      cases h
      obtain ⟨label, hm⟩ := mem_of_columnsOf (e ▸ List.mem_singleton.2 rfl : c ∈ t.columnsOf name)
      exact t.length_eq _ hm
    · cases h
  · cases h

/-- The labels that an earlier column has too. -/
def repeatedLabels (t : Table) : List Plain := repeats Plain.sameLabel t.labels

/-- The rows in which nothing is missing. -/
def completeCases (t : Table) : Mask := Mask.complete t.rows (t.columns.map fun c => c.2.missing)

/-- The rows of a mask. -/
def keep (mask : Mask) (t : Table) : Table where
  columns := t.columns.map fun c => (c.1, c.2.keep mask)
  index := mask.keep t.index
  length_eq := by
    intro c hc
    obtain ⟨d, hd, rfl⟩ := List.mem_map.1 hc
    exact d.2.length_keep mask t.index (t.length_eq d hd)

/-- The complete cases, with the mask that keeps them. -/
def omitMissing (t : Table) : Table × Mask := (t.keep t.completeCases, t.completeCases)

end Table

/-- What is given as data. -/
inductive Source where
  | table (t : Table)
  | value (v : Plain)

namespace Source

/-- The table that was given.  Anything else, and a table with repeated labels, is refused; `name`
is what the data is called in the message. -/
def validate (name : String) : Source → Except Failure Table
  | .value v => .error (.dataIssue (name ++ " must be a pandas DataFrame, got " ++ v.kindName))
  | .table t =>
    if t.repeatedLabels.isEmpty then .ok t
    else
      .error (.dataIssue
        (name ++ " has duplicated column names: " ++ (Plain.list t.repeatedLabels).shown))

/-- The column of a name; only tables have columns. -/
def column (name : Plain) : Source → Except Failure Column
  | .table t => t.column name
  | .value _ => .error .missingPart

/-- The number of rows, or of items of another value; a single value has none. -/
def rows : Source → Except Failure Nat
  | .table t => .ok t.rows
  | .value (.text s) => .ok s.length
  | .value (.list xs) => .ok xs.length
  | .value (.dict xs) => .ok xs.length
  | .value _ => .error .wrongKind

end Source

end ModelFormula
