import RubyTree.Document.Decode
import RubyTree.Json.Read

/-!
Documents: a tree together with the source text that its spans refer to.
-/

namespace RubyTree

structure Document where
  buffer : Option Buffer
  root : Node

def defaultBufferName : String := "(string)"

/-- The source text of a draft; without a text its name is of no account. -/
def Draft.buffer? (draft : Draft) : Option Buffer :=
  draft.source.map fun text => ⟨draft.name.getD defaultBufferName, text⟩

def Draft.check (draft : Draft) : Except LoadError Document := do
  let root ← draft.root.check draft.buffer?
  return ⟨draft.buffer?, root⟩

namespace Document

/-- Loads a document from its text. What follows the document is looked at before the tree is checked. -/
def load (text : String) : Except LoadError Document := do
  let (value, alone) := Json.read text
  let draft ← Draft.ofJson value
  if alone then draft.check else .error (.json .malformed)

/-- Equality of documents, where doubles are equal as numbers. -/
def same (a b : Document) : Bool := a.root.same b.root && a.buffer == b.buffer

end Document

end RubyTree
