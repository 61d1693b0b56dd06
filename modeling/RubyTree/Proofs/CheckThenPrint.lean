import RubyTree.Proofs.OwnCheck

/-!
Rendering in one pass is the same as checking every node first and printing afterwards. The nodes are
checked in the order in which they are visited, each before the children that it leads to, and the
first fault is the error of the whole.
-/

namespace RubyTree

variable {α : Type}

/-- Every node follows from its child nodes. -/
theorem Node.induction {motive : Node → Prop}
    (step : ∀ node : Node, (∀ child, .node child ∈ node.children → motive child) → motive node)
    (node : Node) : motive node := by
  induction h : sizeOf node using Nat.strongRecOn generalizing node with
  | ind size ih =>
    apply step
    intro child member
    subst h
    refine ih (sizeOf child) ?_ child rfl
    have := List.sizeOf_lt_of_mem member
    cases node
    simp at *
    omega

mutual

/-- A node and all nodes below it. -/
def Node.nodes : Node → List Node
  | ⟨tag, children, span⟩ => ⟨tag, children, span⟩ :: nodesBelow children

def nodesBelow : List Child → List Node
  | [] => []
  | .atom _ :: rest => nodesBelow rest
  | .node value :: rest => value.nodes ++ nodesBelow rest

end

theorem mem_nodesBelow_iff {below : Node} {children : List Child} :
    below ∈ nodesBelow children ↔ ∃ child, .node child ∈ children ∧ below ∈ child.nodes := by
  induction children with
  | nil => simp [nodesBelow]
  | cons first rest ih => cases first <;> simp [nodesBelow, ih, or_and_right, exists_or]

theorem Node.mem_nodes_iff {node below : Node} :
    below ∈ node.nodes ↔ below = node ∨ ∃ child, .node child ∈ node.children ∧ below ∈ child.nodes := by
  cases node
  simp [Node.nodes, mem_nodesBelow_iff]

theorem Node.mem_nodes_self (node : Node) : node ∈ node.nodes := Node.mem_nodes_iff.mpr (.inl rfl)

theorem Node.nodes_child {node child : Node} (member : .node child ∈ node.children) :
    child.nodes ⊆ node.nodes := by
  intro below deeper
  exact Node.mem_nodes_iff.mpr (.inr ⟨child, member, deeper⟩)

/-- What a rule sees of a child if `f` stands for its nodes. -/
def Child.slot (f : Node → α) : Child → Slot α
  | .atom value => .atom value
  | .node value => .node value.tag.isGroup (f value)

def Child.outline : Child → Option Atom
  | .atom value => some value
  | .node _ => none

def Node.fault? (setting : Setting) (node : Node) : Option RenderError :=
  setting.fault? node.tag node.span (node.children.map Child.outline)

theorem Node.fault?_unresolved {setting : Setting} {node : Node}
    (unresolved : setting.resolve? node.tag node.span = none) :
    node.fault? setting = some (.unhandled node.tag) := by
  simp only [Node.fault?, Setting.fault?, unresolved]

theorem Node.fault?_resolved {setting : Setting} {node : Node} {rule : Rule}
    (resolved : setting.resolve? node.tag node.span = some rule) :
    node.fault? setting =
      (rule.fault? setting.config.beginPolicy node.span (node.children.map Child.outline)).map
        (.malformed node.tag) := by
  simp only [Node.fault?, Setting.fault?, resolved]

mutual

/-- The nodes in the order in which they are visited. A node that fails leads to no others. -/
def Node.visitOrder (setting : Setting) : Node → List Node
  | ⟨tag, children, span⟩ =>
    ⟨tag, children, span⟩ ::
      match setting.fault? tag span (children.map Child.outline) with
      | some _ => []
      | none => (setting.visits tag span (childOrders setting children)).flatten

def childOrders (setting : Setting) : List Child → List (List Node)
  | [] => []
  | .atom _ :: rest => [] :: childOrders setting rest
  | .node value :: rest => value.visitOrder setting :: childOrders setting rest

end

def Piece.join : List (Piece String) → String
  | [] => ""
  | .text value :: rest => value ++ join rest
  | .child content :: rest => content ++ join rest

theorem Piece.join_append (first second : List (Piece String)) :
    Piece.join (first ++ second) = Piece.join first ++ Piece.join second := by
  induction first with
  | nil => simp [Piece.join]
  | cons piece rest ih => cases piece <;> simp [Piece.join, ih, String.append_assoc]

mutual

/-- The text of a tree in which nothing is wrong; nothing is checked. -/
def Node.print (setting : Setting) : Node → String
  | ⟨tag, children, span⟩ => Piece.join (setting.pieces tag span (printedSlots setting children))

def printedSlots (setting : Setting) : List Child → List (Slot String)
  | [] => []
  | .atom value :: rest => .atom value :: printedSlots setting rest
  | .node value :: rest =>
    .node value.tag.isGroup (value.print setting) :: printedSlots setting rest

end

theorem childSlots_eq_map (setting : Setting) (children : List Child) :
    childSlots setting children = children.map (Child.slot (Node.visit setting)) := by
  induction children with
  | nil => rfl
  | cons child rest ih => cases child <;> simp [childSlots, Child.slot, ih]

theorem printedSlots_eq_map (setting : Setting) (children : List Child) :
    printedSlots setting children = children.map (Child.slot (Node.print setting)) := by
  induction children with
  | nil => rfl
  | cons child rest ih => cases child <;> simp [printedSlots, Child.slot, ih]

/-- The pieces of a node, with its children themselves in their places. -/
def Node.pieces (setting : Setting) (node : Node) : List (Piece Node) :=
  setting.pieces node.tag node.span (node.children.map (Child.slot id))

theorem Node.pieces_resolved {setting : Setting} {node : Node} {rule : Rule}
    (resolved : setting.resolve? node.tag node.span = some rule) :
    node.pieces setting = rule.pieces node.tag node.span (node.children.map (Child.slot id)) := by
  simp only [Node.pieces, Setting.pieces, resolved]

theorem pieces_slots (setting : Setting) (node : Node) (f : Node → α) :
    setting.pieces node.tag node.span (node.children.map (Child.slot f)) =
      (node.pieces setting).map (Piece.map f) := by
  have slots : node.children.map (Child.slot f) =
      (node.children.map (Child.slot id)).map (Slot.map f) := by
    rw [List.map_map]
    apply List.map_congr_left
    rintro (_ | _) _ <;> rfl
  unfold Node.pieces Setting.pieces
  rw [slots]
  split
  · rfl
  · exact Rule.pieces_map f _ _ _ _

def Piece.visit (setting : Setting) : Piece Node → Outcome
  | .text value => .text value
  | .child node => node.visit setting

/-- A node that fails writes nothing; one that passes writes its pieces in turn. -/
theorem Node.visit_eq (setting : Setting) (node : Node) :
    node.visit setting =
      match node.fault? setting with
      | some error => .failed error
      | none => .sequence ((node.pieces setting).map (Piece.visit setting)) := by
  have outcomes : Piece.outcome ∘ Piece.map (Node.visit setting) = Piece.visit setting := by
    funext piece
    cases piece <;> rfl
  have outlines : Slot.outline ∘ Child.slot (Node.visit setting) = Child.outline := by
    funext child
    cases child <;> rfl
  rw [← outcomes, ← List.map_map, ← pieces_slots]
  obtain ⟨tag, children, span⟩ := node
  simp only [Node.visit, Setting.arrange_eq, childSlots_eq_map, List.map_map, outlines, Node.fault?]
  cases setting.fault? tag span (children.map Child.outline) <;> rfl

theorem Node.print_eq (setting : Setting) (node : Node) :
    node.print setting = Piece.join ((node.pieces setting).map (Piece.map (Node.print setting))) := by
  rw [← pieces_slots, ← printedSlots_eq_map]
  cases node
  rfl

theorem Node.print_resolved {setting : Setting} {node : Node} {rule : Rule}
    (resolved : setting.resolve? node.tag node.span = some rule) :
    node.print setting =
      Piece.join (rule.pieces node.tag node.span (node.children.map (Child.slot (Node.print setting)))) := by
  rw [Node.print_eq, ← pieces_slots, Setting.pieces, resolved]

/-- The children that a node visits if it passes. -/
def Node.visited (setting : Setting) (node : Node) : List Node :=
  (node.pieces setting).filterMap Piece.content?

def Child.node? : Child → Option Node
  | .atom _ => none
  | .node value => some value

@[simp] theorem Child.node?_atom (value : Atom) : (Child.atom value).node? = none := rfl

@[simp] theorem Child.node?_node (value : Node) : (Child.node value).node? = some value := rfl

theorem Rule.visits_map {β : Type} (rule : Rule) (f : α → β) (children : List α) :
    rule.visits (children.map f) = (rule.visits children).map f := by
  cases rule <;> simp [Rule.visits]

theorem Rule.visits_subset (rule : Rule) (children : List α) : rule.visits children ⊆ children := by
  intro child member
  cases rule
  case arguments | mlhs => exact member
  case optarg | kwoptarg => exact List.mem_of_mem_drop (List.mem_of_mem_take member)
  case argExpr | blockPass | begin => exact List.mem_of_mem_take member
  all_goals cases member

theorem Node.visited_eq (setting : Setting) (node : Node) :
    node.visited setting =
      (setting.visits node.tag node.span node.children).filterMap Child.node? := by
  have contents : Slot.content? ∘ Child.slot id = Child.node? := by
    funext child
    cases child <;> rfl
  unfold Node.visited Node.pieces Setting.pieces Setting.visits
  split
  · rfl
  · rw [Rule.contents_pieces, Rule.visits_map, List.filterMap_map, contents]

theorem Node.visited_resolved {setting : Setting} {node : Node} {rule : Rule}
    (resolved : setting.resolve? node.tag node.span = some rule) :
    node.visited setting = (rule.visits node.children).filterMap Child.node? := by
  rw [Node.visited_eq, Setting.visits, resolved]

theorem Node.mem_children_of_mem_visited {setting : Setting} {node child : Node}
    (member : child ∈ node.visited setting) : .node child ∈ node.children := by
  rw [Node.visited_eq] at member
  obtain ⟨found, visited, isChild⟩ := List.mem_filterMap.mp member
  cases found with
  | atom value => cases isChild
  | node value =>
    cases isChild
    unfold Setting.visits at visited
    split at visited
    · cases visited
    · exact Rule.visits_subset _ _ visited

theorem childOrders_eq_map (setting : Setting) (children : List Child) :
    childOrders setting children =
      children.map fun child => child.node?.toList.flatMap (Node.visitOrder setting) := by
  induction children with
  | nil => rfl
  | cons child rest ih => cases child <;> simp [childOrders, ih]

theorem flatten_orders (setting : Setting) (children : List Child) :
    (children.map fun child => child.node?.toList.flatMap (Node.visitOrder setting)).flatten =
      (children.filterMap Child.node?).flatMap (Node.visitOrder setting) := by
  induction children with
  | nil => rfl
  | cons child rest ih => cases child <;> simp [List.filterMap_cons, ih]

theorem Node.visitOrder_eq (setting : Setting) (node : Node) :
    node.visitOrder setting =
      node :: match node.fault? setting with
        | some _ => []
        | none => (node.visited setting).flatMap (Node.visitOrder setting) := by
  have visits (children : List Child) :
      (setting.visits node.tag node.span (childOrders setting children)).flatten =
        ((setting.visits node.tag node.span children).filterMap Child.node?).flatMap
          (Node.visitOrder setting) := by
    unfold Setting.visits
    split
    · rfl
    · rw [childOrders_eq_map, Rule.visits_map, flatten_orders]
  rw [Node.visited_eq, ← visits]
  cases node
  simp only [Node.visitOrder, Node.fault?]

section Run

theorem Outcome.andThen_text (first second : String) :
    (Outcome.text first).andThen (.text second) = .text (first ++ second) := rfl

theorem Outcome.sequence_append (first second : List Outcome) :
    Outcome.sequence (first ++ second) = (Outcome.sequence first).andThen (.sequence second) := by
  induction first with
  | nil => simp [Outcome.sequence, Outcome.andThen, Outcome.text]
  | cons outcome rest ih =>
    rw [List.cons_append, Outcome.sequence, Outcome.sequence, ih]
    cases fault : outcome.error <;>
      cases fault' : (Outcome.sequence rest).error <;>
      simp [Outcome.andThen, fault, fault', String.append_assoc]

theorem Outcome.sequence_singleton (outcome : Outcome) : Outcome.sequence [outcome] = outcome := by
  obtain ⟨written, error⟩ := outcome
  cases error <;> simp [Outcome.sequence, Outcome.andThen, Outcome.text]

/-- What comes after the first error is not written and does not count. -/
theorem Outcome.sequence_error (outcomes : List Outcome) :
    (Outcome.sequence outcomes).error = outcomes.findSome? Outcome.error := by
  induction outcomes with
  | nil => rfl
  | cons first rest ih =>
    cases fault : first.error <;> simp [Outcome.sequence, Outcome.andThen, fault, ih]

variable (setting : Setting)

theorem Piece.findSome?_visit (pieces : List (Piece Node)) :
    (pieces.map (Piece.visit setting)).findSome? Outcome.error =
      (pieces.filterMap Piece.content?).findSome? fun node => (node.visit setting).error := by
  induction pieces with
  | nil => rfl
  | cons piece rest ih =>
    cases piece with
    | text value => simpa [Piece.visit, Outcome.text, List.filterMap_cons] using ih
    | child node => simp [Piece.visit, List.findSome?_cons, ih]

/-- A whole visit fails with the first own fault in the order of the visit. -/
theorem Node.visit_error (node : Node) :
    (node.visit setting).error = (node.visitOrder setting).findSome? (Node.fault? setting) := by
  induction node using Node.induction with
  | step node ih =>
    rw [Node.visit_eq, Node.visitOrder_eq, List.findSome?_cons]
    cases node.fault? setting with
    | some error => rfl
    | none =>
      simp only [Outcome.sequence_error, Piece.findSome?_visit, findSome?_flatMap]
      have visited : ∀ child ∈ node.visited setting, (child.visit setting).error =
          (child.visitOrder setting).findSome? (Node.fault? setting) :=
        fun child member => ih child (Node.mem_children_of_mem_visited member)
      exact findSome?_congr visited

theorem Piece.sequence_visit_written (pieces : List (Piece Node))
    (passes : (pieces.map (Piece.visit setting)).findSome? Outcome.error = none) :
    (Outcome.sequence (pieces.map (Piece.visit setting))).written =
      Piece.join (pieces.map (Piece.map fun node => (node.visit setting).written)) := by
  induction pieces with
  | nil => rfl
  | cons piece rest ih =>
    simp only [List.map_cons, List.findSome?_cons] at passes
    have first : (piece.visit setting).error = none := by
      cases fault : (piece.visit setting).error with
      | none => rfl
      | some error => simp [fault] at passes
    rw [first] at passes
    simp only [List.map_cons, Outcome.sequence, Outcome.andThen, first, ih passes]
    cases piece <;> rfl

theorem Piece.map_congr {β : Type} {f g : α → β} (pieces : List (Piece α))
    (agree : ∀ content ∈ pieces.filterMap Piece.content?, f content = g content) :
    pieces.map (Piece.map f) = pieces.map (Piece.map g) := by
  apply List.map_congr_left
  intro piece member
  cases piece with
  | text value => rfl
  | child content =>
    exact congrArg Piece.child (agree content (List.mem_filterMap.mpr ⟨_, member, rfl⟩))

/-- A visit that nothing cuts short writes the whole text. -/
theorem Node.visit_written (node : Node) (passes : (node.visit setting).error = none) :
    (node.visit setting).written = node.print setting := by
  induction node using Node.induction with
  | step node ih =>
    rw [Node.visit_eq] at passes ⊢
    rw [Node.print_eq]
    cases fault : node.fault? setting with
    | some error => simp [fault, Outcome.failed] at passes
    | none =>
      simp only [fault, Outcome.sequence_error] at passes ⊢
      rw [Piece.sequence_visit_written setting _ passes]
      rw [Piece.findSome?_visit, List.findSome?_eq_none_iff] at passes
      congr 1
      apply Piece.map_congr
      intro child member
      exact ih child (Node.mem_children_of_mem_visited member) (passes child member)

theorem Node.renderWith_eq (node : Node) :
    node.renderWith setting =
      match (node.visitOrder setting).findSome? (Node.fault? setting) with
      | some error => .error error
      | none => .ok (node.print setting) := by
  unfold Node.renderWith Outcome.result
  rw [← Node.visit_error]
  cases passes : (node.visit setting).error with
  | some error => rfl
  | none => simp [Node.visit_written setting node passes]

/-- A node whose rule writes one text is rendered as that text, unless it has a fault of its own. -/
theorem Node.renderWith_text {node : Node} {rule : Rule} {text : String}
    (resolved : setting.resolve? node.tag node.span = some rule)
    (pieces : rule.pieces node.tag node.span (node.children.map (Child.slot id)) = [.text text]) :
    node.renderWith setting =
      match rule.fault? setting.config.beginPolicy node.span (node.children.map Child.outline) with
      | some reason => .error (.malformed node.tag reason)
      | none => .ok text := by
  rw [Node.renderWith, Node.visit_eq, Node.fault?_resolved resolved, Node.pieces_resolved resolved, pieces]
  cases rule.fault? setting.config.beginPolicy node.span (node.children.map Child.outline) with
  | some reason => rfl
  | none => exact congrArg Outcome.result (Outcome.sequence_singleton _)

end Run

/-- Rendering succeeds, with the text of the unchecked printer, exactly if no visited node has a fault
of its own, and otherwise reports the fault of the first such node. The fault of a node depends on
nothing inside its child nodes. -/
theorem one_pass_is_check_then_print (setting : Setting) (node : Node) :
    ((∃ text, node.renderWith setting = .ok text) ↔
      ∀ visited ∈ node.visitOrder setting, visited.fault? setting = none) ∧
    (∀ text, node.renderWith setting = .ok text → text = node.print setting) ∧
    (∀ error, node.renderWith setting = .error error ↔
      ∃ before failing after, node.visitOrder setting = before ++ failing :: after ∧
        (∀ passing ∈ before, passing.fault? setting = none) ∧
        failing.fault? setting = some error ∧ error.tag = failing.tag) ∧
    (∀ a b : Node, a.tag = b.tag → a.span = b.span →
      a.children.map Child.outline = b.children.map Child.outline →
      a.fault? setting = b.fault? setting) := by
  rw [Node.renderWith_eq]
  refine ⟨?_, ?_, ?_, ?_⟩
  · rw [← List.findSome?_eq_none_iff]
    cases (node.visitOrder setting).findSome? (Node.fault? setting) <;> simp
  · intro text rendered
    split at rendered <;> cases rendered
    rfl
  · intro error
    constructor
    · intro failed
      split at failed
      · next found =>
        cases failed
        obtain ⟨before, failing, after, order, fault, passing⟩ := List.findSome?_eq_some_iff.mp found
        exact ⟨before, failing, after, order, passing, fault,
          setting.fault?_tag failing.tag _ _ error fault⟩
      · cases failed
    · rintro ⟨before, failing, after, order, passing, fault, _⟩
      rw [List.findSome?_eq_some_iff.mpr ⟨before, failing, after, order, fault, passing⟩]
  · intro a b tags spans outlines
    simp only [Node.fault?, tags, spans, outlines]

end RubyTree
