import Mathlib.Tactic.Tauto
import ModelFormula.Files
import ModelFormula.Proofs.Outcome

/-!
# Files that can be written

Directories are made on the way to a file.  This goes wrong only where a file stands in the way, or
where a directory stands, or was just made, in the place of the file.

* `Files.visited`, `Files.reached` — the places that steps lead to; `Files.way`, `Files.goal` — those on
  the way to a file, and its own.
* `Files.Leads` — that directories can be made along the steps; `Files.makeAlong_iff` — exactly then
  they are made.
* `Files.CanHold`, `Files.written_iff` — that a file can be written, and that exactly then it is.
* `Files.read_of_written` — what was written is read.
-/

set_option autoImplicit false

namespace ModelFormula.Files

/-! ## Places -/

/-- The places that steps lead to, one after the other. -/
def visited (p : Place) : List String → List Place
  | [] => []
  | name :: rest => step p name :: visited (step p name) rest

/-- Where steps lead. -/
def reached (p : Place) (steps : List String) : Place := steps.foldl step p

/-- The places on the way to a file, and its own. -/
def way (files : Files) (path : FilePath) : List Place :=
  visited (files.start path) path.steps.dropLast

def goal (files : Files) (path : FilePath) : Place := reached (files.start path) path.steps

/-- That no file stands at the places that steps lead to. -/
def Leads (files : Files) (places : List Place) : Prop :=
  ∀ q ∈ places, files.isDirectory q = true ∨ files.text? q = none

/-- That a file can be written: the way leads there, and it neither is a directory nor becomes
one. -/
def CanHold (files : Files) (path : FilePath) : Prop :=
  files.Leads (files.way path) ∧ files.isDirectory (files.goal path) = false ∧
    files.goal path ∉ files.way path

instance (files : Files) (path : FilePath) : Decidable (files.CanHold path) :=
  inferInstanceAs (Decidable ((∀ q ∈ files.way path, _ ∨ _) ∧ _ ∧ _))

variable {files made : Files} {p : Place}

/-! ## Directories on the way -/

/-- Files of which some places became directories. -/
structure MadeAt (files made : Files) (places : List Place) : Prop where
  workingDirectory : made.workingDirectory = files.workingDirectory
  texts : made.texts = files.texts
  directories : ∀ q, made.isDirectory q = true ↔ files.isDirectory q = true ∨ q ∈ places

theorem makeDirectory_iff (last : Bool) :
    (∃ made, files.makeDirectory p last = .ok made) ↔
      files.isDirectory p = true ∨ files.text? p = none := by
  unfold makeDirectory
  split
  · rename_i there
    exact ⟨fun _ => .inl there, fun _ => ⟨_, rfl⟩⟩
  · rename_i new
    split
    · rename_i blocked
      constructor
      · rintro ⟨_, ⟨⟩⟩
      · rintro (there | none)
        · exact absurd there new
        · rw [none] at blocked
          cases blocked
    · rename_i free
      exact ⟨fun _ => .inr (by simpa using free), fun _ => ⟨_, rfl⟩⟩

theorem madeAt_of_makeDirectory {last : Bool} (h : files.makeDirectory p last = .ok made) :
    files.MadeAt made [p] := by
  unfold makeDirectory at h
  split at h
  · rename_i there
    cases h
    refine ⟨rfl, rfl, fun q => ⟨.inl, ?_⟩⟩
    rintro (old | new)
    · exact old
    · rw [List.mem_singleton.1 new]
      exact there
  · split at h
    · cases h
    · cases h
      refine ⟨rfl, rfl, fun q => ?_⟩
      simp only [isDirectory, List.contains_cons, Bool.or_eq_true, beq_iff_eq, List.mem_singleton]
      tauto

/-- Directories that were just made do not stand in the way of others. -/
theorem MadeAt.leads_iff {first places : List Place} (h : files.MadeAt made first)
    (free : files.Leads first) : made.Leads places ↔ files.Leads places := by
  have texts : ∀ q, made.text? q = files.text? q := fun q => by rw [text?, text?, h.texts]
  refine forall₂_congr fun q _ => ?_
  rw [texts, h.directories]
  constructor
  · rintro ((old | new) | none)
    · exact .inl old
    · exact free q new
    · exact .inr none
  · rintro (old | none)
    · exact .inl (.inl old)
    · exact .inr none

/-- **Directories can be made along the steps exactly if no file stands there.** -/
theorem makeAlong_iff (p : Place) (steps : List String) :
    (∃ made, files.makeAlong p steps = .ok made) ↔ files.Leads (visited p steps) := by
  induction steps generalizing files p with
  | nil => exact ⟨fun _ q mem => absurd mem List.not_mem_nil, fun _ => ⟨files, rfl⟩⟩
  | cons name rest ih =>
    have first_iff : (∃ made, files.makeDirectory (step p name) rest.isEmpty = .ok made) ↔
        files.isDirectory (step p name) = true ∨ files.text? (step p name) = none :=
      makeDirectory_iff rest.isEmpty
    rw [makeAlong, visited]
    constructor
    · rintro ⟨made, along⟩
      obtain ⟨start, began, along⟩ := bind_eq_ok.1 along
      have free := first_iff.1 ⟨start, began⟩
      have others := (madeAt_of_makeDirectory began).leads_iff
        (fun q mem => List.mem_singleton.1 mem ▸ free) |>.1 ((ih _).1 ⟨made, along⟩)
      exact List.forall_mem_cons.2 ⟨free, others⟩
    · intro free
      obtain ⟨free, others⟩ := List.forall_mem_cons.1 free
      obtain ⟨start, began⟩ := first_iff.2 free
      obtain ⟨made, along⟩ := (ih (step p name)).2 ((madeAt_of_makeDirectory began).leads_iff
        (fun q mem => List.mem_singleton.1 mem ▸ free) |>.2 others)
      exact ⟨made, bind_eq_ok.2 ⟨start, began, along⟩⟩

theorem madeAt_of_makeAlong {steps : List String} (h : files.makeAlong p steps = .ok made) :
    files.MadeAt made (visited p steps) := by
  induction steps generalizing files p with
  | nil =>
    cases h
    exact ⟨rfl, rfl, fun q => by simp [visited]⟩
  | cons name rest ih =>
    rw [makeAlong] at h
    obtain ⟨start, began, along⟩ := bind_eq_ok.1 h
    have first := madeAt_of_makeDirectory began
    have others := ih along
    refine ⟨others.workingDirectory.trans first.workingDirectory, others.texts.trans first.texts,
      fun q => ?_⟩
    rw [others.directories, first.directories, List.mem_singleton, visited, List.mem_cons, or_assoc]

/-! ## Writing and reading -/

theorem walk_eq_ok {steps : List String} (start : files.isDirectory p = true)
    (on_the_way : ∀ q ∈ visited p steps.dropLast, files.isDirectory q = true) :
    files.walk p steps = .ok (reached p steps) := by
  induction steps generalizing p with
  | nil => rfl
  | cons name rest ih =>
    have enters : files.enter p = .ok () := by rw [enter, if_pos start]
    rw [walk, enters]
    cases rest with
    | nil => rfl
    | cons other rest =>
      rw [List.dropLast_cons_cons, visited] at on_the_way
      obtain ⟨next, on_the_way⟩ := List.forall_mem_cons.1 on_the_way
      exact ih next on_the_way

section

variable {path : FilePath}

theorem isDirectory_start (files : Files) (path : FilePath) :
    files.isDirectory (files.start path) = true := by
  unfold isDirectory start
  cases path.start <;> simp

/-- A path leads to its place once there are directories on the way. -/
theorem locate_eq (same : made.workingDirectory = files.workingDirectory)
    (there : ∀ q ∈ files.way path, made.isDirectory q = true) :
    made.locate path = .ok (files.goal path) := by
  have start_eq : made.start path = files.start path := by rw [start, start, same]
  have started := made.isDirectory_start path
  rw [start_eq] at started
  rw [locate, start_eq]
  exact walk_eq_ok started there

theorem MadeAt.isDirectory_way (h : files.MadeAt made (files.way path)) :
    ∀ q ∈ files.way path, made.isDirectory q = true := fun q mem => (h.directories q).2 (.inr mem)

theorem write_eq (h : files.MadeAt made (files.way path)) (s : String) :
    made.write path s =
      if made.isDirectory (files.goal path) then .error .isDirectory
      else .ok (made.put (files.goal path) s) := by
  rw [write, target, locate_eq h.workingDirectory h.isDirectory_way]
  change ((if made.isDirectory (files.goal path) then throw .isDirectory
    else pure (files.goal path)) >>= fun p => pure (made.put p s) : Except Failure Files) = _
  cases made.isDirectory (files.goal path) <;> rfl

/-- **A file is written exactly if it can be.** -/
theorem written_iff (files : Files) (path : FilePath) (s : String) :
    (∃ made t, files.makeParents path = .ok made ∧ made.write path s = .ok t) ↔
      files.CanHold path := by
  constructor
  · rintro ⟨made, t, parents, written⟩
    have madeAt := madeAt_of_makeAlong parents
    rw [write_eq madeAt] at written
    split at written
    · cases written
    · rename_i no_directory
      rw [madeAt.directories, not_or, Bool.not_eq_true] at no_directory
      exact ⟨(makeAlong_iff _ _).1 ⟨made, parents⟩, no_directory⟩
  · rintro ⟨leads, no_directory⟩
    obtain ⟨made, parents⟩ := (makeAlong_iff _ _).2 leads
    have madeAt := madeAt_of_makeAlong parents
    refine ⟨made, _, parents, (write_eq madeAt s).trans (if_neg ?_)⟩
    rw [madeAt.directories, not_or, Bool.not_eq_true]
    exact no_directory

/-- **What was written to a file is read from it.** -/
theorem read_of_written {s : String} {t : Files} (parents : files.makeParents path = .ok made)
    (written : made.write path s = .ok t) :
    t.has path = true ∧ t.read path = .ok (String.ofList (universalBreaks s.toList)) := by
  have madeAt : files.MadeAt made (files.way path) := madeAt_of_makeAlong parents
  rw [write_eq madeAt] at written
  split at written
  · cases written
  · rename_i no_directory
    cases written
    have located : (made.put (files.goal path) s).locate path = .ok (files.goal path) :=
      locate_eq madeAt.workingDirectory madeAt.isDirectory_way
    have directory : (made.put (files.goal path) s).isDirectory (files.goal path) = false :=
      Bool.not_eq_true _ ▸ no_directory
    have text : (made.put (files.goal path) s).text? (files.goal path) = some s := by
      rw [text?, put, Dictionary.get?_put, if_pos rfl]
    constructor
    · rw [has, located]
      simp [directory, text]
    · rw [read, located]
      change (if (made.put (files.goal path) s).isDirectory (files.goal path) then _
        else _ : Except Failure String) = _
      rw [if_neg (by rw [directory]; exact Bool.false_ne_true), text]
      rfl

end

/-- A text without carriage returns is read as it is. -/
theorem universalBreaks_eq {cs : List Char} (none : '\r' ∉ cs) : universalBreaks cs = cs := by
  induction cs with
  | nil => rfl
  | cons c cs ih =>
    simp only [List.mem_cons, not_or] at none
    rw [universalBreaks, ih none.2]
    · rintro more rfl
      exact absurd rfl none.1
    · rintro rfl
      exact absurd rfl none.1

end ModelFormula.Files
