import Mathlib.Data.List.Basic
import RubyTree.Proofs.CheckThenPrint

/-!
Positions in a tree. A node below another is reached by the index of a child at every level, and another
node can be put in its place. What a node asks of its children and how it lays them out depends only on
their positions, and on which of them are groups.
-/

namespace RubyTree

variable {α : Type}

/-- The way down to a node: the index of a child at every level. -/
abbrev Path := List Nat

def Node.childAt? (node : Node) (index : Nat) : Option Node := node.children[index]?.bind Child.node?

def Node.at? : Node → Path → Option Node
  | node, [] => some node
  | node, index :: path => (node.childAt? index).bind fun child => child.at? path

def Child.mapNode (f : Node → Node) : Child → Child
  | .atom value => .atom value
  | .node value => .node (f value)

/-- Puts another node at a position. Where there is no node nothing changes. -/
def Node.replace : Node → Path → Node → Node
  | _, [], new => new
  | node, index :: path, new =>
    { node with children := node.children.modify index (Child.mapNode fun child => child.replace path new) }

mutual

/-- The positions of the visited nodes, in the order of the visit. -/
def Node.visitPaths (setting : Setting) : Node → List Path
  | ⟨tag, children, span⟩ =>
    [] ::
      match setting.fault? tag span (children.map Child.outline) with
      | some _ => []
      | none => (setting.visits tag span (childPaths setting 0 children)).flatten

def childPaths (setting : Setting) (index : Nat) : List Child → List (List Path)
  | [] => []
  | .atom _ :: rest => [] :: childPaths setting (index + 1) rest
  | .node value :: rest =>
    (value.visitPaths setting).map (index :: ·) :: childPaths setting (index + 1) rest

end

theorem Node.childAt?_eq_some {node child : Node} {index : Nat} :
    node.childAt? index = some child ↔ node.children[index]? = some (.node child) := by
  unfold Node.childAt?
  rcases node.children[index]? with _ | _ | _ <;> simp

theorem Node.mem_children_of_childAt? {node child : Node} {index : Nat}
    (found : node.childAt? index = some child) : .node child ∈ node.children :=
  List.mem_of_getElem? (Node.childAt?_eq_some.mp found)

theorem Node.mem_nodes_of_at? {node below : Node} {path : Path} (found : node.at? path = some below) :
    below ∈ node.nodes := by
  induction path generalizing node with
  | nil =>
    cases found
    exact Node.mem_nodes_self below
  | cons index path ih =>
    obtain ⟨child, isChild, deeper⟩ := Option.bind_eq_some_iff.mp found
    exact Node.nodes_child (Node.mem_children_of_childAt? isChild) (ih deeper)

section Layout

theorem Setting.visits_map {β : Type} (setting : Setting) (tag : Tag) (span : Option Span) (f : α → β)
    (children : List α) :
    setting.visits tag span (children.map f) = (setting.visits tag span children).map f := by
  unfold Setting.visits
  split
  · rfl
  · exact Rule.visits_map _ f children

theorem Setting.pieces_map {β : Type} (setting : Setting) (tag : Tag) (span : Option Span) (f : α → β)
    (slots : List (Slot α)) :
    setting.pieces tag span (slots.map (Slot.map f)) =
      (setting.pieces tag span slots).map (Piece.map f) := by
  unfold Setting.pieces
  split
  · rfl
  · exact Rule.pieces_map f _ _ _ _

theorem Setting.contents_pieces (setting : Setting) (tag : Tag) (span : Option Span)
    (slots : List (Slot α)) :
    (setting.pieces tag span slots).filterMap Piece.content? =
      (setting.visits tag span slots).filterMap Slot.content? := by
  unfold Setting.pieces Setting.visits
  split
  · rfl
  · exact Rule.contents_pieces _ _ _ _

/-- What a rule sees of the children, with their indices. -/
def Node.indexSlots (node : Node) : List (Slot Nat) :=
  node.children.mapIdx fun index child => child.slot fun _ => index

/-- The pieces of a node, with the indices of its children in their places. -/
def Node.layout (setting : Setting) (node : Node) : List (Piece Nat) :=
  setting.pieces node.tag node.span node.indexSlots

theorem Node.slots_eq_map (node : Node) {f : Node → α} {g : Nat → α}
    (agree : ∀ index child, node.childAt? index = some child → g index = f child) :
    node.children.map (Child.slot f) = node.indexSlots.map (Slot.map g) := by
  apply List.ext_getElem?
  intro index
  simp only [Node.indexSlots, List.getElem?_map, List.getElem?_mapIdx]
  cases found : node.children[index]? with
  | none => rfl
  | some child =>
    cases child with
    | atom value => rfl
    | node child => simp [Child.slot, Slot.map, agree index child (Node.childAt?_eq_some.mpr found)]

/-- Whatever stands for the children takes the places that the layout gives to their indices. -/
theorem Node.pieces_eq_layout (setting : Setting) (node : Node) {f : Node → α} {g : Nat → α}
    (agree : ∀ index child, node.childAt? index = some child → g index = f child) :
    (node.pieces setting).map (Piece.map f) = (node.layout setting).map (Piece.map g) := by
  rw [← pieces_slots, node.slots_eq_map agree, Setting.pieces_map]
  rfl

def Node.visitedIndices (setting : Setting) (node : Node) : List Nat :=
  (node.layout setting).filterMap Piece.content?

theorem Piece.contents_map {β : Type} (f : α → β) (pieces : List (Piece α)) :
    (pieces.map (Piece.map f)).filterMap Piece.content? = (pieces.filterMap Piece.content?).map f := by
  induction pieces with
  | nil => rfl
  | cons piece rest ih => cases piece <;> simp [Piece.map, List.filterMap_cons, ih]

theorem Node.map_some_visited (setting : Setting) (node : Node) :
    (node.visited setting).map some = (node.visitedIndices setting).map node.childAt? := by
  have pieces := node.pieces_eq_layout setting fun _ _ found => found
  unfold Node.visited Node.visitedIndices
  rw [← Piece.contents_map, ← Piece.contents_map, pieces]

def Node.childOutcome (setting : Setting) (node : Node) (index : Nat) : Outcome :=
  ((node.childAt? index).map (Node.visit setting)).getD (.text "")

def Node.pieceOutcome (setting : Setting) (node : Node) (piece : Piece Nat) : Outcome :=
  (piece.map (node.childOutcome setting)).outcome

theorem Node.visit_eq_layout (setting : Setting) (node : Node) :
    node.visit setting =
      match node.fault? setting with
      | some error => .failed error
      | none => .sequence ((node.layout setting).map (node.pieceOutcome setting)) := by
  have outcomes : Piece.visit setting = Piece.outcome ∘ Piece.map (Node.visit setting) := by
    funext piece
    cases piece <;> rfl
  have pieces := node.pieces_eq_layout setting (f := Node.visit setting)
    (g := node.childOutcome setting) fun _ _ found => by simp [Node.childOutcome, found]
  rw [Node.visit_eq, outcomes, ← List.map_map, pieces, List.map_map]
  rfl

end Layout

section Order

/-- The positions that are visited through the child at an index. -/
def Node.pathsThrough (setting : Setting) (node : Node) (index : Nat) : List Path :=
  (node.childAt? index).toList.flatMap fun child => (child.visitPaths setting).map (index :: ·)

theorem childPaths_eq_mapIdx (setting : Setting) (first : Nat) (children : List Child) :
    childPaths setting first children =
      children.mapIdx fun index child =>
        child.node?.toList.flatMap fun node => (node.visitPaths setting).map ((first + index) :: ·) := by
  induction children generalizing first with
  | nil => rfl
  | cons child rest ih =>
    have shift (index : Nat) : first + 1 + index = first + (index + 1) := by omega
    cases child <;> simp [childPaths, ih, List.mapIdx_cons, shift]

theorem Node.childPaths_eq (setting : Setting) (node : Node) :
    childPaths setting 0 node.children =
      node.indexSlots.map fun slot => slot.content?.toList.flatMap (node.pathsThrough setting) := by
  rw [childPaths_eq_mapIdx]
  apply List.ext_getElem?
  intro index
  simp only [Node.indexSlots, List.getElem?_map, List.getElem?_mapIdx]
  cases found : node.children[index]? with
  | none => rfl
  | some child =>
    cases child with
    | atom value => rfl
    | node child =>
      simp [Child.slot, Slot.content?, Node.pathsThrough, Node.childAt?_eq_some.mpr found]

theorem Node.visitPaths_eq (setting : Setting) (node : Node) :
    node.visitPaths setting =
      [] :: match node.fault? setting with
        | some _ => []
        | none => (node.visitedIndices setting).flatMap (node.pathsThrough setting) := by
  have paths : (setting.visits node.tag node.span (childPaths setting 0 node.children)).flatten =
      (node.visitedIndices setting).flatMap (node.pathsThrough setting) := by
    unfold Node.visitedIndices Node.layout
    rw [Node.childPaths_eq, Setting.visits_map, Setting.contents_pieces, ← List.flatMap_def,
      ← List.flatMap_assoc, List.filterMap_eq_flatMap_toList]
  rw [← paths]
  cases node
  simp only [Node.visitPaths, Node.fault?]

/-- The positions in the order of the visit hold the nodes in the order of the visit. -/
theorem Node.map_at?_visitPaths (setting : Setting) (node : Node) :
    (node.visitPaths setting).map node.at? = (node.visitOrder setting).map some := by
  induction node using Node.induction with
  | step node ih =>
    rw [Node.visitPaths_eq, Node.visitOrder_eq, List.map_cons, List.map_cons]
    cases node.fault? setting with
    | some error => rfl
    | none =>
      have through (index : Nat) : (node.pathsThrough setting index).map node.at? =
          (node.childAt? index).toList.flatMap fun child => (child.visitOrder setting).map some := by
        unfold Node.pathsThrough
        cases found : node.childAt? index with
        | none => rfl
        | some child =>
          have below := ih child (Node.mem_children_of_childAt? found)
          simp [← below, Node.at?, found, Function.comp_def]
      calc some node :: ((node.visitedIndices setting).flatMap (node.pathsThrough setting)).map node.at?
          = some node :: ((node.visitedIndices setting).map node.childAt?).flatMap fun found =>
              found.toList.flatMap fun child => (child.visitOrder setting).map some := by
            simp only [List.map_flatMap, through, List.flatMap_map]
        _ = some node :: ((node.visited setting).flatMap (Node.visitOrder setting)).map some := by
            simp only [← Node.map_some_visited, List.map_flatMap, List.flatMap_map, Option.toList_some,
              List.flatMap_cons, List.flatMap_nil, List.append_nil]

end Order

section Replacement

theorem Tag.isGroup_eq_iff {tag tag' : Tag} :
    tag.isGroup = tag'.isGroup ↔ (tag = .known .mlhs ↔ tag' = .known .mlhs) := by
  unfold Tag.isGroup
  rw [Bool.eq_iff_iff, beq_iff_eq, beq_iff_eq]

variable (node : Node) (index : Nat) (path : Path) (new : Node)

theorem Node.getElem?_children_replace (other : Nat) :
    (node.replace (index :: path) new).children[other]? =
      node.children[other]?.map fun child =>
        if index = other then child.mapNode fun old => old.replace path new else child := by
  simp only [Node.replace, List.getElem?_modify]
  split <;> rfl

theorem Node.childAt?_replace_same :
    (node.replace (index :: path) new).childAt? index =
      (node.childAt? index).map fun child => child.replace path new := by
  simp only [Node.childAt?, Node.getElem?_children_replace, if_true]
  rcases node.children[index]? with _ | _ | _ <;> rfl

theorem Node.childAt?_replace_other {other : Nat} (apart : index ≠ other) :
    (node.replace (index :: path) new).childAt? other = node.childAt? other := by
  simp only [Node.childAt?, Node.getElem?_children_replace, if_neg apart, Option.map_id']

variable {node index path new}

theorem Node.replace_self {node child : Node} {path : Path} (found : node.at? path = some child) :
    node.replace path child = node := by
  induction path generalizing node with
  | nil =>
    cases found
    rfl
  | cons index path ih =>
    obtain ⟨next, isChild, deeper⟩ := Option.bind_eq_some_iff.mp found
    rw [Node.childAt?_eq_some] at isChild
    have children : (node.replace (index :: path) child).children = node.children := by
      apply List.ext_getElem?
      intro other
      rw [Node.getElem?_children_replace]
      by_cases here : index = other
      · subst here
        simp [isChild, Child.mapNode, ih deeper]
      · simp [here]
    cases node
    exact congrArg (Node.mk _ · _) children

theorem Node.isGroup_replace_congr {x y : Node} (groups : x.tag.isGroup = y.tag.isGroup) (node : Node)
    (path : Path) : (node.replace path x).tag.isGroup = (node.replace path y).tag.isGroup := by
  cases path with
  | nil => exact groups
  | cons index path => rfl

theorem Node.indexSlots_replace_congr {x y : Node} (groups : x.tag.isGroup = y.tag.isGroup) (node : Node)
    (index : Nat) (path : Path) :
    (node.replace (index :: path) x).indexSlots = (node.replace (index :: path) y).indexSlots := by
  apply List.ext_getElem?
  intro other
  simp only [Node.indexSlots, List.getElem?_mapIdx, Node.getElem?_children_replace, Option.map_map]
  rcases node.children[other]? with _ | child | value
  · rfl
  · by_cases here : index = other
    · simp [here, Child.mapNode, Child.slot, Node.isGroup_replace_congr groups]
    · simp [here]
  · simp [Child.mapNode]

/-- A node is laid out the same with either of two groups below it, or with either of two other nodes. -/
theorem Node.layout_replace_congr (setting : Setting) {x y : Node} (groups : x.tag.isGroup = y.tag.isGroup)
    (node : Node) (index : Nat) (path : Path) :
    (node.replace (index :: path) x).layout setting = (node.replace (index :: path) y).layout setting := by
  unfold Node.layout
  rw [Node.indexSlots_replace_congr groups]
  rfl

variable (node index path new)

/-- The fault of a node itself does not depend on what is below it. -/
theorem Node.fault?_replace (setting : Setting) :
    (node.replace (index :: path) new).fault? setting = node.fault? setting := by
  have outlines : (node.replace (index :: path) new).children.map Child.outline =
      node.children.map Child.outline := by
    apply List.ext_getElem?
    intro other
    simp only [List.getElem?_map, Node.getElem?_children_replace, Option.map_map]
    rcases node.children[other]? with _ | _ | _ <;> simp <;> split <;> rfl
  unfold Node.fault?
  rw [outlines]
  rfl

end Replacement

end RubyTree
