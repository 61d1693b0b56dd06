import RubyTree.Proofs.CheckThenPrint

/-!
Lists of parameters as they are written: the items with commas between them, and parentheses around those
that are groups.
-/

namespace RubyTree

theorem Outcome.sequence_flatMap {α : Type} (items : List α) (f : α → List Outcome) :
    Outcome.sequence (items.flatMap f) = .sequence (items.map fun item => .sequence (f item)) := by
  induction items with
  | nil => rfl
  | cons item rest ih =>
    rw [List.flatMap_cons, Outcome.sequence_append, ih]
    rfl

theorem Outcome.joined_cons_cons (delimiter : String) (first second : Outcome) (rest : List Outcome) :
    Outcome.joined delimiter (first :: second :: rest) =
      first.andThen ((Outcome.text delimiter).andThen (.joined delimiter (second :: rest))) := by
  cases fault : second.error <;>
    simp [Outcome.joined, Outcome.sequence, Outcome.andThen, Outcome.text, fault, String.append_assoc]

variable {setting : Setting} {node : Node}

/-- The node follows one of the two rules for lists. -/
def Node.IsList (setting : Setting) (node : Node) : Prop :=
  setting.resolve? node.tag node.span = some .arguments ∨
    setting.resolve? node.tag node.span = some .mlhs

/-- What an item of a list writes, with parentheses around groups. -/
def Child.itemOutcome (setting : Setting) : Child → Outcome
  | .atom _ => .text ""
  | .node item =>
    if item.tag.isGroup then .wrapped "(" ")" (item.visit setting) else item.visit setting

theorem Child.sequence_item (child : Child) :
    Outcome.sequence ((child.slot id).item.map (Piece.visit setting)) = child.itemOutcome setting := by
  cases child with
  | atom value => rfl
  | node item =>
    cases group : item.tag.isGroup with
    | false =>
      simp only [Child.slot, Child.itemOutcome, group]
      exact Outcome.sequence_singleton _
    | true =>
      simp only [Child.slot, Child.itemOutcome, group]
      rfl

theorem sequence_items (children : List Child) :
    Outcome.sequence
        (([.text ", "].intercalate ((children.map (Child.slot id)).map Slot.item)).map
          (Piece.visit setting)) =
      .joined ", " (children.map (Child.itemOutcome setting)) := by
  cases children with
  | nil => rfl
  | cons first rest =>
    simp only [List.map_cons, intercalate_cons_eq_flatMap, List.map_append, List.map_flatMap,
      Outcome.sequence_append, Outcome.sequence_flatMap, List.map_map, Outcome.joined,
      Child.sequence_item]
    congr 2
    apply List.map_congr_left
    intro child member
    simp only [Function.comp_apply, ← Child.sequence_item child]
    rfl

/-- A list that passes writes its items with a separator between them. -/
theorem Node.visit_list (list : node.IsList setting) :
    node.visit setting =
      match Outline.listFault? (node.children.map Child.outline) with
      | some reason => .failed (.malformed node.tag reason)
      | none => .joined ", " (node.children.map (Child.itemOutcome setting)) := by
  rw [Node.visit_eq]
  rcases list with resolved | resolved
  all_goals
    rw [Node.fault?_resolved resolved, Node.pieces_resolved resolved]
    simp only [Rule.fault?, Rule.pieces, sequence_items]
    cases Outline.listFault? (node.children.map Child.outline) <;> rfl

end RubyTree
