import RubyTree.Build
import RubyTree.Proofs.Positions
import RubyTree.Proofs.Sessions

/-!
A tree is written from what its parts write. Nodes that write the same may stand for each other at any
position, unless one is a group and the other is not; in particular a wrapper may be put around a node or
taken away.
-/

namespace RubyTree

variable {setting : Setting}

/-- A node sees of its children where groups stand and what the children write. -/
theorem Node.visit_congr {a b : Node} (tags : a.tag = b.tag) (spans : a.span = b.span)
    (slots : a.children.map (Child.slot (Node.visit setting)) =
      b.children.map (Child.slot (Node.visit setting))) :
    a.visit setting = b.visit setting := by
  obtain ⟨tag, children, span⟩ := a
  obtain ⟨tag', children', span'⟩ := b
  cases tags
  cases spans
  simp only [Node.visit, childSlots_eq_map, slots]

section Exchange

variable {β : Type} {view : RenderError → β}

/-- The same text, and errors that look the same, or none. -/
def Outcome.Alike (view : RenderError → β) (x y : Outcome) : Prop :=
  x.written = y.written ∧ x.error.map view = y.error.map view

theorem Outcome.Alike.refl (x : Outcome) : x.Alike view x := ⟨rfl, rfl⟩

theorem Outcome.alike_id {x y : Outcome} : x.Alike id y ↔ x = y := by
  cases x
  cases y
  simp [Outcome.Alike]

theorem Outcome.Alike.andThen {x y x' y' : Outcome} (first : x.Alike view y) (second : x'.Alike view y') :
    (x.andThen x').Alike view (y.andThen y') := by
  obtain ⟨texts, errors⟩ := first
  unfold Outcome.andThen
  cases fault : x.error <;> cases fault' : y.error <;> simp only [fault, fault'] at errors ⊢
  · exact ⟨congrArg₂ (· ++ ·) texts second.1, second.2⟩
  · cases errors
  · cases errors
  · exact ⟨texts, by simpa only [fault, fault'] using errors⟩

theorem Outcome.Alike.sequence {α : Type} {f g : α → Outcome} {items : List α}
    (each : ∀ item ∈ items, (f item).Alike view (g item)) :
    (Outcome.sequence (items.map f)).Alike view (.sequence (items.map g)) := by
  induction items with
  | nil => exact .refl _
  | cons item rest ih =>
    exact (each item (by simp)).andThen (ih fun other member => each other (by simp [member]))

/-- Nodes that write the same can be exchanged at any depth, and if their errors only look the same, so does
the error of the whole tree. -/
theorem Node.alike_replace {x y : Node} (groups : x.tag.isGroup = y.tag.isGroup)
    (same : (x.visit setting).Alike view (y.visit setting)) (node : Node) (path : Path) :
    ((node.replace path x).visit setting).Alike view ((node.replace path y).visit setting) := by
  induction path generalizing node with
  | nil => exact same
  | cons index path ih =>
    rw [Node.visit_eq_layout, Node.visit_eq_layout, Node.fault?_replace, Node.fault?_replace,
      Node.layout_replace_congr setting groups]
    cases node.fault? setting with
    | some error => exact .refl _
    | none =>
      refine .sequence fun piece _ => ?_
      cases piece with
      | text value => exact .refl _
      | child other =>
        simp only [Node.pieceOutcome, Node.childOutcome, Piece.map, Piece.outcome]
        by_cases here : index = other
        · subst here
          rw [Node.childAt?_replace_same, Node.childAt?_replace_same]
          cases node.childAt? index with
          | none => exact .refl _
          | some child => exact ih child
        · rw [Node.childAt?_replace_other _ _ _ _ here, Node.childAt?_replace_other _ _ _ _ here]
          exact .refl _

theorem Node.visit_replace_congr {x y : Node} (groups : x.tag.isGroup = y.tag.isGroup)
    (same : x.visit setting = y.visit setting) (node : Node) (path : Path) :
    (node.replace path x).visit setting = (node.replace path y).visit setting :=
  Outcome.alike_id.mp (Node.alike_replace groups (Outcome.alike_id.mpr same) node path)

end Exchange

mutual

/-- Makes a change at every node of a tree, from the leaves up. -/
def Node.everywhere (change : Node → Node) : Node → Node
  | ⟨tag, children, span⟩ => change ⟨tag, everywhereBelow change children, span⟩

def everywhereBelow (change : Node → Node) : List Child → List Child
  | [] => []
  | .atom value :: rest => .atom value :: everywhereBelow change rest
  | .node value :: rest => .node (value.everywhere change) :: everywhereBelow change rest

end

theorem everywhereBelow_eq_map (change : Node → Node) (children : List Child) :
    everywhereBelow change children = children.map (Child.mapNode (Node.everywhere change)) := by
  induction children with
  | nil => rfl
  | cons child rest ih => cases child <;> simp [everywhereBelow, Child.mapNode, ih]

theorem Child.node_mem_map {change : Node → Node} {children : List Child} {new : Node} :
    .node new ∈ children.map (Child.mapNode change) ↔ ∃ old, .node old ∈ children ∧ change old = new := by
  rw [List.mem_map]
  constructor
  · rintro ⟨child, member, changed⟩
    cases child with
    | atom value => cases changed
    | node old =>
      cases changed
      exact ⟨old, member, rfl⟩
  · rintro ⟨old, member, rfl⟩
    exact ⟨.node old, member, rfl⟩

theorem Node.everywhere_eq (change : Node → Node) (node : Node) :
    node.everywhere change =
      change { node with children := node.children.map (Child.mapNode (Node.everywhere change)) } := by
  cases node
  simp only [Node.everywhere, everywhereBelow_eq_map]

theorem Node.visit_everywhere {change : Node → Node} (tags : ∀ node, (change node).tag = node.tag)
    (same : ∀ node, (change node).visit setting = node.visit setting) (node : Node) :
    (node.everywhere change).visit setting = node.visit setting := by
  induction node using Node.induction with
  | step node ih =>
    rw [Node.everywhere_eq, same]
    refine Node.visit_congr rfl rfl ?_
    rw [List.map_map]
    apply List.map_congr_left
    intro child member
    cases child with
    | atom value => rfl
    | node child =>
      have kept : (child.everywhere change).tag = child.tag := by rw [Node.everywhere_eq, tags]
      simp [Child.mapNode, Child.slot, kept, ih child member]

/-- A node in wrappers, one for each of the given spans. -/
def Node.inWrappers (spans : List (Option Span)) (node : Node) : Node :=
  spans.foldr (fun span inner => ⟨.known .begin, [.node inner], span⟩) node

/-- A wrapper with one node in it is written as this node, whatever becomes of wrappers with several. -/
theorem Node.visit_inWrappers (registered : setting.book.lookup? (.known .begin) = some .begin)
    (node : Node) (spans : List (Option Span)) :
    (node.inWrappers spans).visit setting = node.visit setting := by
  induction spans with
  | nil => rfl
  | cons span rest ih =>
    have resolved : setting.resolve? (.known .begin) span = some .begin := by
      simp [Setting.resolve?, registered]
    have wrapper := Node.visit_eq setting ⟨.known .begin, [.node (node.inWrappers rest)], span⟩
    simp only [Node.fault?, Setting.fault?, Node.pieces, Setting.pieces, resolved] at wrapper
    rw [← ih]
    exact wrapper.trans (Outcome.sequence_singleton _)

theorem Node.write_eq_iff {x y : Node} :
    (x.write setting).on {} = (y.write setting).on {} ↔ x.visit setting = y.visit setting := by
  rw [x.yields setting {}, y.yields setting {}]
  cases x.visit setting
  cases y.visit setting
  simp

/-- What an error shows: the type of the node and, if the node has a rule, the reason. -/
def RenderError.shown : RenderError → Tag × Option String
  | .unhandled tag => (tag, none)
  | .malformed tag reason => (tag, some reason.message)

/-- The session that an action leaves, and what is shown of the error that cut it short. -/
def Writing.shownOn (action : Writing Unit) (session : Session) : Session × Option (Tag × Option String) :=
  ((action.on session).1, (action.on session).2.map RenderError.shown)

theorem Node.shownOn_eq_iff {x y : Node} :
    (x.write setting).shownOn {} = (y.write setting).shownOn {} ↔
      (x.visit setting).Alike RenderError.shown (y.visit setting) := by
  unfold Writing.shownOn
  rw [x.yields setting {}, y.yields setting {}]
  simp [Outcome.Alike]

theorem Node.write_congr {x y : Node} (same : x.visit setting = y.visit setting) (session : Session) :
    (x.write setting).on session = (y.write setting).on session := by
  rw [x.yields setting session, y.yields setting session, same]

/-- Two nodes that write the same into an empty session and end alike can stand for each other at any
position of any tree, if both are groups or neither is. In particular, as long as wrappers follow their
own rule, a node that is not a group can be put in any number of them. The same goes for nodes whose errors
only show the same: the error of the whole tree shows the same then. -/
theorem rendering_is_compositional (setting : Setting) :
    (∀ (node : Node) (path : Path) (x y : Node),
      (x.tag = .known .mlhs ↔ y.tag = .known .mlhs) →
      (x.write setting).on {} = (y.write setting).on {} →
      ((node.replace path x).write setting).on {} = ((node.replace path y).write setting).on {}) ∧
    (setting.book.lookup? (.known .begin) = some .begin →
      ∀ (node child : Node) (path : Path) (spans : List (Option Span)),
        node.at? path = some child → child.tag ≠ .known .mlhs →
        ((node.replace path (child.inWrappers spans)).write setting).on {} =
          (node.write setting).on {}) ∧
    ∀ (node : Node) (path : Path) (x y : Node),
      (x.tag = .known .mlhs ↔ y.tag = .known .mlhs) →
      (x.write setting).shownOn {} = (y.write setting).shownOn {} →
      ((node.replace path x).write setting).shownOn {} =
        ((node.replace path y).write setting).shownOn {} := by
  have exchange (node : Node) (path : Path) (x y : Node)
      (groups : x.tag = .known .mlhs ↔ y.tag = .known .mlhs)
      (same : (x.write setting).on {} = (y.write setting).on {}) :
      ((node.replace path x).write setting).on {} = ((node.replace path y).write setting).on {} :=
    Node.write_eq_iff.mpr (Node.visit_replace_congr (Tag.isGroup_eq_iff.mpr groups)
      (Node.write_eq_iff.mp same) node path)
  refine ⟨exchange, ?_, ?_⟩
  · intro registered node child path spans found plain
    have groups : (child.inWrappers spans).tag = .known .mlhs ↔ child.tag = .known .mlhs := by
      cases spans with
      | nil => rfl
      | cons span rest => exact ⟨fun wrapper => (by cases wrapper), fun group => absurd group plain⟩
    have wrapped := exchange node path (child.inWrappers spans) child groups
      (Node.write_eq_iff.mpr (child.visit_inWrappers registered spans))
    rw [wrapped, Node.replace_self found]
  · intro node path x y groups same
    exact Node.shownOn_eq_iff.mpr (Node.alike_replace (Tag.isGroup_eq_iff.mpr groups)
      (Node.shownOn_eq_iff.mp same) node path)

/-- Another node that writes the same as the default of a parameter, and wrappers around it. Instead of the
default there may also be a node that is outside of its source, whichever text the source has. -/
theorem default_exchanged_and_wrapped :
    let list := Build.args [Build.arg "a", Build.optarg "x" (Build.lvar "y")]
    let outside (text : String) : Node := ⟨.ofName "send", [], some ⟨⟨"(string)", text⟩, 1, 5⟩⟩
    ((Build.lvar "y").write {}).on {} = ((Build.arg "y").write {}).on {} ∧
    ((list.replace [1, 1] (Build.lvar "y")).write {}).on {} =
      ((list.replace [1, 1] (Build.arg "y")).write {}).on {} ∧
    list.at? [1, 1] = some (Build.lvar "y") ∧
    ((list.replace [1, 1] ((Build.lvar "y").inWrappers [none, none])).write {}).on {} =
      (list.write {}).on {} ∧
    ((outside "y").write {}).on {} ≠ ((outside "").write {}).on {} ∧
    ((outside "y").write {}).shownOn {} = ((outside "").write {}).shownOn {} ∧
    ((list.replace [1, 1] (outside "y")).write {}).shownOn {} =
      ((list.replace [1, 1] (outside "")).write {}).shownOn {} := by
  intro list outside
  have same : ((Build.lvar "y").write {}).on {} = ((Build.arg "y").write {}).on {} := rfl
  have found : list.at? [1, 1] = some (Build.lvar "y") := rfl
  have shown : ((outside "y").write {}).shownOn {} = ((outside "").write {}).shownOn {} := rfl
  exact ⟨same, (rendering_is_compositional {}).1 list [1, 1] _ _ (by decide) same, found,
    (rendering_is_compositional {}).2.1 rfl list _ [1, 1] [none, none] found (by decide), by decide, shown,
    (rendering_is_compositional {}).2.2 list [1, 1] _ _ (by decide) shown⟩

-- A wrapper hides a group from the list around it.
example : (Build.args [Build.mlhs [Build.arg "a"]]).render = .ok "(a)" ∧
    (Build.args [(Build.mlhs [Build.arg "a"]).inWrappers [none]]).render = .ok "a" := ⟨rfl, rfl⟩

end RubyTree
