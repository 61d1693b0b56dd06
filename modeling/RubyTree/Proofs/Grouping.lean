import RubyTree.Build
import RubyTree.Proofs.Composition
import RubyTree.Proofs.WrittenLists

/-!
Groups in lists of parameters. A list writes parentheses around a group by itself; a node of its own could
do so instead. Putting every group in a list into such a node changes nothing in what is written, and
afterwards no list has a group among its items.
-/

namespace RubyTree

section Wrapping

variable {setting : Setting}

instance (node : Node) : Decidable (node.IsList setting) :=
  inferInstanceAs (Decidable (_ ∨ _))

/-- A group gets a node around it that writes the parentheses. -/
def Node.asItem (item : Node) : Node := if item.tag.isGroup then Build.argExpr item else item

/-- In a list, the groups among the items get such nodes. -/
def Node.wrapGroups (setting : Setting) (node : Node) : Node :=
  if node.IsList setting then { node with children := node.children.map (Child.mapNode Node.asItem) }
  else node

/-- A tree in which the groups of all lists have got such nodes. -/
def Node.groupsWrapped (setting : Setting) (node : Node) : Node :=
  node.everywhere (Node.wrapGroups setting)

theorem Node.tag_wrapGroups (node : Node) : (node.wrapGroups setting).tag = node.tag := by
  unfold Node.wrapGroups
  split <;> rfl

theorem Node.isGroup_asItem (item : Node) : item.asItem.tag.isGroup = false := by
  unfold Node.asItem
  split
  · rfl
  · next single => simpa using single

theorem Node.isList_wrapGroups {node : Node} :
    (node.wrapGroups setting).IsList setting ↔ node.IsList setting := by
  unfold Node.wrapGroups
  split <;> rfl

theorem Node.not_group_of_mem_wrapGroups {node item : Node} (list : node.IsList setting)
    (member : .node item ∈ (node.wrapGroups setting).children) : item.tag.isGroup = false := by
  rw [Node.wrapGroups, if_pos list] at member
  obtain ⟨old, _, rfl⟩ := Child.node_mem_map.mp member
  exact old.isGroup_asItem

theorem Node.mem_children_wrapGroups {node child : Node}
    (member : .node child ∈ (node.wrapGroups setting).children) :
    ∃ inner, .node inner ∈ node.children ∧ (child = inner ∨ child = Build.argExpr inner) := by
  by_cases list : node.IsList setting
  · rw [Node.wrapGroups, if_pos list] at member
    obtain ⟨inner, isChild, rfl⟩ := Child.node_mem_map.mp member
    refine ⟨inner, isChild, ?_⟩
    unfold Node.asItem
    split
    · exact .inr rfl
    · exact .inl rfl
  · rw [Node.wrapGroups, if_neg list] at member
    exact ⟨child, member, .inl rfl⟩

variable (registered : setting.book.lookup? (.known .argExpr) = some .argExpr)
include registered

theorem Build.resolve?_argExpr (group : Node) :
    setting.resolve? (Build.argExpr group).tag (Build.argExpr group).span = some .argExpr :=
  Setting.resolve?_registered registered none

theorem Build.visit_argExpr (group : Node) :
    (Build.argExpr group).visit setting = .wrapped "(" ")" (group.visit setting) := by
  have resolved := Build.resolve?_argExpr registered group
  rw [Node.visit_eq, Node.fault?_resolved resolved, Node.pieces_resolved resolved]
  rfl

theorem Child.itemOutcome_asItem (child : Child) :
    (child.mapNode Node.asItem).itemOutcome setting = child.itemOutcome setting := by
  cases child with
  | atom value => rfl
  | node item =>
    cases group : item.tag.isGroup with
    | false => simp [Child.mapNode, Child.itemOutcome, Node.asItem, group]
    | true =>
      have single : (Build.argExpr item).tag.isGroup = false := rfl
      simp [Child.mapNode, Child.itemOutcome, Node.asItem, group, single,
        Build.visit_argExpr registered]

theorem Node.visit_wrapGroups (node : Node) :
    (node.wrapGroups setting).visit setting = node.visit setting := by
  by_cases list : node.IsList setting
  · have outlines : Child.outline ∘ Child.mapNode Node.asItem = Child.outline := by
      funext child
      cases child <;> rfl
    have items : Child.itemOutcome setting ∘ Child.mapNode Node.asItem = Child.itemOutcome setting :=
      funext (Child.itemOutcome_asItem registered)
    rw [Node.visit_list (Node.isList_wrapGroups.mpr list), Node.visit_list list, Node.wrapGroups,
      if_pos list]
    simp only [List.map_map, outlines, items]
  · rw [Node.wrapGroups, if_neg list]

theorem Node.visit_groupsWrapped (node : Node) :
    (node.groupsWrapped setting).visit setting = node.visit setting :=
  Node.visit_everywhere Node.tag_wrapGroups (Node.visit_wrapGroups registered) node

theorem Node.not_group_of_item (node : Node) :
    ∀ list ∈ (node.groupsWrapped setting).nodes, list.IsList setting →
      ∀ item, .node item ∈ list.children → item.tag.isGroup = false := by
  induction node using Node.induction with
  | step node ih =>
    intro list member isList item isItem
    rw [Node.groupsWrapped, Node.everywhere_eq] at member
    rcases Node.mem_nodes_iff.mp member with rfl | ⟨child, isChild, below⟩
    · exact Node.not_group_of_mem_wrapGroups (Node.isList_wrapGroups.mp isList) isItem
    · obtain ⟨inner, isInner, shape⟩ := Node.mem_children_wrapGroups isChild
      obtain ⟨old, isOld, rfl⟩ := Child.node_mem_map.mp isInner
      rcases shape with rfl | rfl
      · exact ih old isOld list below isList item isItem
      · -- The node around a group is no list itself, so the list is further down.
        rcases Node.mem_nodes_iff.mp below with rfl | ⟨group, isGroup, below⟩
        · have resolved := Build.resolve?_argExpr registered (old.everywhere (Node.wrapGroups setting))
          simp [Node.IsList, resolved] at isList
        · obtain rfl : group = old.everywhere (Node.wrapGroups setting) := by
            cases List.mem_singleton.mp isGroup
            rfl
          exact ih old isOld list below isList item isItem

end Wrapping

/-- As long as the nodes for parentheses follow their own rule: with such a node around every group that
is an item of a list, at any depth, a tree writes the same text and ends in the same way. Nothing remains
to be done afterwards, since no list has a group among its items any more. -/
theorem wrapping_groups_changes_nothing (setting : Setting)
    (registered : setting.book.lookup? (.known .argExpr) = some .argExpr) (node : Node) :
    (∀ session : Session,
      ((node.groupsWrapped setting).write setting).on session = (node.write setting).on session) ∧
    ∀ list ∈ (node.groupsWrapped setting).nodes, list.IsList setting →
      ∀ item, .node item ∈ list.children → item.tag ≠ .known .mlhs := by
  constructor
  · intro session
    exact Node.write_congr (node.visit_groupsWrapped registered) session
  · intro list member isList item isItem group
    have single := Node.not_group_of_item registered node list member isList item isItem
    simp [Tag.isGroup, group] at single

/-- A group in a group, and a call that cannot be written after them. -/
theorem nested_groups_are_written_alike :
    let groups := Build.mlhs [Build.arg "a", Build.mlhs [Build.arg "b"]]
    let wrapped := Build.mlhs [Build.arg "a", Build.argExpr (Build.mlhs [Build.arg "b"])]
    let call := Build.node "send" []
    ({} : Setting).book.lookup? (.known .argExpr) = some .argExpr ∧
    (Build.args [groups, call]).groupsWrapped {} = Build.args [Build.argExpr wrapped, call] ∧
    ((Build.args [Build.argExpr wrapped, call]).write {}).on {} =
      (⟨"(a, (b)), "⟩, some (.unhandled (.other "send"))) := by
  intro groups wrapped call
  have registered : ({} : Setting).book.lookup? (.known .argExpr) = some .argExpr := rfl
  have result : (Build.args [groups, call]).groupsWrapped {} =
      Build.args [Build.argExpr wrapped, call] := rfl
  have same := (wrapping_groups_changes_nothing {} registered (Build.args [groups, call])).1 {}
  have bare : (Build.args [groups, call]).visit {} =
      ⟨"(a, (b)), ", some (.unhandled (.other "send"))⟩ := rfl
  refine ⟨registered, result, ?_⟩
  rw [← result, same, (Build.args [groups, call]).yields {} {}, bare]
  rfl

end RubyTree
