import RubyTree.Atom
import RubyTree.Source
import RubyTree.Tag

/-!
Syntax trees: nodes with a type, children in order, and perhaps the span of source they came from.
-/

namespace RubyTree

mutual

structure Node where
  tag : Tag
  children : List Child
  span : Option Span

inductive Child where
  | node (value : Node)
  | atom (value : Atom)

end

mutual

/-- Structural equality, where doubles are equal as numbers. -/
def Node.same : Node → Node → Bool
  | ⟨tag, children, span⟩, ⟨tag', children', span'⟩ =>
    tag == tag' && sameChildren children children' && span == span'

def sameChildren : List Child → List Child → Bool
  | [], [] => true
  | .node a :: rest, .node b :: rest' => a.same b && sameChildren rest rest'
  | .atom a :: rest, .atom b :: rest' => a.same b && sameChildren rest rest'
  | _, _ => false

end

end RubyTree
