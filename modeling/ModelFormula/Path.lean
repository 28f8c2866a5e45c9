import ModelFormula.Text.Split

/-!
# Paths

* `FilePath` — the names on the way to a file, from the working directory or from the root; no name is
  empty, a single point, or contains a slash.
* `FilePath.ofText`, `FilePath.text` — reading drops empty names and single points; the working
  directory is written as a point.
* `FilePath.ofText_text` — what is written reads back.
-/

set_option autoImplicit false

namespace ModelFormula

/-- A name that stands for a step down; two points are kept as they are. -/
def isPathName (name : List Char) : Bool := name != [] && name != ['.'] && !name.contains '/'

theorem slash_not_mem_of_isPathName {name : List Char} (h : isPathName name = true) :
    '/' ∉ name := by
  simp [isPathName] at h
  exact h.2

/-- Where a path starts. -/
inductive PathStart where
  | workingDirectory
  | root
  /-- The root again, written with exactly two slashes, which are kept apart from one. -/
  | doubleRoot
  deriving DecidableEq, Repr

namespace PathStart

def chars : PathStart → List Char
  | workingDirectory => []
  | root => ['/']
  | doubleRoot => ['/', '/']

/-- Three slashes and more are as good as one. -/
def ofChars : List Char → PathStart
  | '/' :: '/' :: '/' :: _ => root
  | '/' :: '/' :: _ => doubleRoot
  | '/' :: _ => root
  | _ => workingDirectory

theorem ofChars_append (start : PathStart) {cs : List Char} (h : cs.head? ≠ some '/') :
    ofChars (start.chars ++ cs) = start := by
  cases cs with
  | nil => cases start <;> rfl
  | cons c cs =>
    have other : c ≠ '/' := fun slash => h (congrArg some slash)
    cases start <;> simp [chars, ofChars, other]

end PathStart

/-- The way to a file: where it starts, and the names on it. -/
@[ext]
structure FilePath where
  start : PathStart
  names : List (List Char)
  valid : names.all isPathName = true
  deriving DecidableEq, Repr

namespace FilePath

/-- Keeps the names of a text between its slashes. -/
def ofChars (cs : List Char) : FilePath :=
  ⟨.ofChars cs, (Text.split '/' cs).filter isPathName, by simp⟩

def ofText (s : String) : FilePath := ofChars s.toList

/-- The start, and the names joined by slashes. -/
def chars (p : FilePath) : List Char :=
  if p.start = .workingDirectory ∧ p.names = [] then ['.']
  else p.start.chars ++ Text.join '/' p.names

def text (p : FilePath) : String := String.ofList p.chars

/-- The names as texts. -/
def steps (p : FilePath) : List String := p.names.map String.ofList

/-- Names begin with no slash. -/
theorem head?_join {names : List (List Char)} (valid : ∀ name ∈ names, isPathName name = true) :
    (Text.join '/' names).head? ≠ some '/' := by
  match names with
  | [] => simp [Text.join]
  | [] :: _ => exact absurd (valid [] List.mem_cons_self) (by decide)
  | (c :: cs) :: rest =>
    have first := slash_not_mem_of_isPathName (valid (c :: cs) List.mem_cons_self)
    have other : c ≠ '/' := fun slash => first (slash ▸ List.mem_cons_self)
    cases rest <;> simpa [Text.join] using other

/-- The slashes of the start give no names. -/
theorem names_chars_append (start : PathStart) (cs : List Char) :
    (Text.split '/' (start.chars ++ cs)).filter isPathName =
      (Text.split '/' cs).filter isPathName := by
  have no_name : isPathName [] = false := rfl
  cases start <;> simp [PathStart.chars, Text.split, no_name]

theorem ofChars_chars (p : FilePath) : ofChars p.chars = p := by
  obtain ⟨start, names, valid⟩ := p
  have each := List.all_eq_true.1 valid
  by_cases here : start = .workingDirectory ∧ names = []
  · obtain ⟨rfl, rfl⟩ := here
    rfl
  · have written : chars ⟨start, names, valid⟩ = start.chars ++ Text.join '/' names := if_neg here
    rw [written]
    ext1
    · exact PathStart.ofChars_append start (head?_join each)
    · show (Text.split '/' (start.chars ++ _)).filter isPathName = names
      rw [names_chars_append]
      cases names with
      | nil => rfl
      | cons name rest =>
        rw [Text.split_join (fun x hx => slash_not_mem_of_isPathName (each x hx)) (by simp)]
        exact List.filter_eq_self.2 each

/-- What is written reads back. -/
theorem ofText_text (p : FilePath) : ofText p.text = p := by
  simp [ofText, text, ofChars_chars]

/-- Different paths are written differently. -/
theorem text_injective {p q : FilePath} (h : p.text = q.text) : p = q := by
  rw [← ofText_text p, h, ofText_text]

example : (ofText "/logs//./run.log").text = "/logs/run.log" := by decide
example : ofText "/logs" ≠ ofText "logs" ∧ ofText "///logs" = ofText "/logs" := by decide

end FilePath

end ModelFormula
