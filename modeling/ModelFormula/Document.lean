import ModelFormula.Dictionary
import ModelFormula.Plain

/-!
# Documents

A document is what a configuration file holds: scalars, sequences, and mappings whose keys may be of
any kind.

* `Document.toPlain` — the untyped value of a document; entries whose key is no text are left out.
* `Document.hasTextKeys` — whether all keys at the top are texts.
-/

set_option autoImplicit false

namespace ModelFormula

inductive Document where
  | scalar (value : Plain)
  | sequence (items : List Document)
  | mapping (entries : List (Document × Document))
  deriving Inhabited

namespace Document

/-- The text of a textual scalar. -/
def text? : Document → Option String
  | .scalar (.text s) => some s
  | _ => none

/-- Whether a document can be a key: sequences and mappings cannot be looked up. -/
def isKey : Document → Bool
  | .scalar v => v.hashable
  | _ => false

mutual
/-- The untyped value of a document. -/
def toPlain : Document → Plain
  | .scalar v => v
  | .sequence items => .list (toPlainAll items)
  | .mapping entries => .dict (toPlainEntries [] entries)
def toPlainAll : List Document → List Plain
  | [] => []
  | d :: ds => d.toPlain :: toPlainAll ds
def toPlainEntries (found : Dictionary String Plain) :
    List (Document × Document) → Dictionary String Plain
  | [] => found
  | (k, d) :: rest =>
    match k.text? with
    | some name => toPlainEntries (found.put name d.toPlain) rest
    | none => toPlainEntries found rest
end

/-- Whether all keys at the top are texts. -/
def hasTextKeys : Document → Bool
  | .mapping entries => entries.all fun e => e.1.text?.isSome
  | _ => true

end Document

end ModelFormula
