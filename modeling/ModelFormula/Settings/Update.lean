import ModelFormula.Settings.Field

/-!
# Changing settings

Settings are changed key by key.  A key is the name of a section, or a section and a field joined
by a point.

* `Settings.set` — one change.
* `Settings.update` — changes in their order up to the first that fails; those before it stay.
-/

set_option autoImplicit false

namespace ModelFormula.Settings

/-- What stands before and after the first point of a key. -/
def splitKey (key : String) : String × String :=
  let cs := key.toList
  let first := cs.takeWhile (· != '.')
  (String.ofList first, String.ofList (cs.drop (first.length + 1)))

/-- The setting of a key changed to a value, if there is such a setting and it takes the value. -/
def set? (s : Settings) (key : String) (v : Plain) : Option Settings :=
  let (sectionName, fieldName) := splitKey key
  match Section.ofName? sectionName with
  | none => none
  | some g =>
    if fieldName = "" then g.assign v s
    else
      match Field.ofName? g fieldName with
      | none => none
      | some f => f.assign v s

/-- One change; the failure names the key. -/
def set (s : Settings) (key : String) (v : Plain) : Except Failure Settings :=
  match s.set? key v with
  | some t => .ok t
  | none => .error (.configuration key)

/-- Changes in their order up to the first that fails: the settings after them, and the failure. -/
def update (s : Settings) : List (String × Plain) → Settings × Except Failure Unit
  | [] => (s, .ok ())
  | (key, v) :: changes =>
    match s.set key v with
    | .ok t => t.update changes
    | .error e => (s, .error e)

end ModelFormula.Settings
