import RubyTree.Arrangement
import RubyTree.Outcome

/-!
Rendering: a node is laid out, and the outcomes of its children take their places in the layout.
-/

namespace RubyTree

def Piece.outcome : Piece Outcome → Outcome
  | .text value => .text value
  | .child content => content

mutual

/-- Writes a node, as far as it can be written. -/
def Node.visit (setting : Setting) : Node → Outcome
  | ⟨tag, children, span⟩ =>
    match setting.arrange tag span (childSlots setting children) with
    | .error error => .failed error
    | .ok pieces => .sequence (pieces.map Piece.outcome)

def childSlots (setting : Setting) : List Child → List (Slot Outcome)
  | [] => []
  | .atom value :: rest => .atom value :: childSlots setting rest
  | .node value :: rest =>
    .node value.tag.isGroup (value.visit setting) :: childSlots setting rest

end

/-- The text of a tree, all of it or none. -/
def Node.renderWith (setting : Setting) (node : Node) : Except RenderError String :=
  (node.visit setting).result

def Node.render (node : Node) : Except RenderError String := node.renderWith {}

end RubyTree
