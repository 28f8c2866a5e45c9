import ModelFormula.Settings.Field

/-!
# Settings from several sources

Settings are made from a document, the environment and given values.  Later sources win, field by
field.

* `Layers.merge` — dictionaries of sections, merged one level deep.
* `Layers.environment` — what the environment says.
* `Settings.ofEntries` — the settings that a dictionary of sections stands for; a failure names all
  sections and fields that do not fit.
* `Settings.ofSources` — the settings of all sources.
-/

set_option autoImplicit false

namespace ModelFormula

namespace Layers

/-- Adds a section: merged with the one that is there if both are dictionaries, else in its place. -/
def mergeSection (sections : Dictionary String Plain) (added : String × Plain) :
    Dictionary String Plain :=
  match sections.get? added.1, added.2 with
  | some (.dict old), .dict new => sections.put added.1 (.dict (Dictionary.putAll old new))
  | _, v => sections.put added.1 v

/-- Merges dictionaries of sections one level deep. -/
def merge (sections overrides : Dictionary String Plain) : Dictionary String Plain :=
  overrides.foldl mergeSection sections

/-- The variables that are read, with the fields they set. -/
def watched : List (String × Field) :=
  [("FORMULA_JAX_LOG_LEVEL", .level), ("FORMULA_JAX_CONTRAST_BASE", .base),
    ("FORMULA_JAX_MATRIX_DTYPE", .precision)]

/-- The value of a variable for a field; the base level is read as a number at once. -/
def variableValue (f : Field) (s : String) : Except Failure Plain :=
  if f = .base then
    match Text.wholeNumber? s with
    | some n => .ok (.int n)
    | none => .error (.configuration f.key)
  else .ok (.text s)

/-- The sections that some variables set. -/
def environmentOf (environment : Dictionary String String) :
    List (String × Field) → Except Failure (Dictionary String Plain)
  | [] => .ok []
  | (name, f) :: rest => do
    match environment.get? name with
    | none => environmentOf environment rest
    | some s =>
      let v ← variableValue f s
      let others ← environmentOf environment rest
      return (f.group.name, .dict [(f.name, v)]) :: others

/-- What the environment says. -/
def environment (environment : Dictionary String String) :
    Except Failure (Dictionary String Plain) := environmentOf environment watched

end Layers

namespace Settings

/-- The settings and the keys that do not fit, with a section of a dictionary added. -/
def gatherSection (sections : Dictionary String Plain) (state : Settings × List String)
    (g : Section) : Settings × List String :=
  match sections.get? g.name with
  | none => state
  | some (.dict entries) =>
    let (s, wrong) := g.ofEntries entries
    (g.replace s state.1, state.2 ++ wrong.map Field.key)
  | some _ => (state.1, state.2 ++ [g.name])

/-- The settings that a dictionary of sections stands for; what is not given has its default. -/
def ofEntries (sections : Dictionary String Plain) : Except Failure Settings :=
  match Section.all.foldl (gatherSection sections) ({}, []) with
  | (s, []) => .ok s
  | (_, keys) => .error (.configuration (", ".intercalate keys))

end Settings

/-- What a document holds at its top. -/
inductive DocumentRoot where
  /-- A dictionary; the flag says that all its keys are texts. -/
  | sections (entries : Dictionary String Plain) (textKeys : Bool)
  /-- Anything else. -/
  | other
  deriving DecidableEq

/-- Adding to what is no dictionary: already the look-up of a section to merge with fails, or else
its replacement. -/
def DocumentRoot.failedMerge (overrides : Dictionary String Plain) : Failure :=
  match overrides with
  | (_, .dict _) :: _ => .missingPart
  | _ => .wrongKind

/-- The settings of a document, of the environment and of given values. -/
def Settings.ofSources (document : DocumentRoot) (environment : Dictionary String String)
    (given : Dictionary String Plain) : Except Failure Settings := do
  let fromEnvironment ← Layers.environment environment
  match document with
  | .sections entries textKeys =>
    if textKeys then Settings.ofEntries (Layers.merge (Layers.merge entries fromEnvironment) given)
    else throw .wrongKind
  | .other => throw (DocumentRoot.failedMerge (fromEnvironment ++ given))

end ModelFormula
