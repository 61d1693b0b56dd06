import RubyTree.Proofs.FailurePoint

/-!
One tree under two settings. If every node that passes under the first also passes under the second and
follows the same rule there, then the two visits write the same as long as nothing fails, and the node at
which the first one fails is reached by the second.
-/

namespace RubyTree

/-- If the node passes under the first setting, it passes under the second and follows the same rule. -/
def Node.CarriesOver (first second : Setting) (node : Node) : Prop :=
  node.fault? first = none →
    node.fault? second = none ∧
      second.resolve? node.tag node.span = first.resolve? node.tag node.span

variable {first second : Setting} {node : Node}

theorem Node.pieces_of_resolve
    (same : second.resolve? node.tag node.span = first.resolve? node.tag node.span) :
    node.pieces second = node.pieces first := by
  simp only [Node.pieces, Setting.pieces, same]

theorem Node.layout_of_resolve
    (same : second.resolve? node.tag node.span = first.resolve? node.tag node.span) :
    node.layout second = node.layout first := by
  simp only [Node.layout, Setting.pieces, same]

theorem Node.fault?_of_resolve
    (same : second.resolve? node.tag node.span = first.resolve? node.tag node.span)
    (policy : second.config.beginPolicy = first.config.beginPolicy) :
    node.fault? second = node.fault? first := by
  simp only [Node.fault?, Setting.fault?, same, policy]

/-- A visit does not notice a change that leaves every node its rule. -/
theorem Node.visit_of_resolve (same : ∀ tag span, second.resolve? tag span = first.resolve? tag span)
    (policy : second.config.beginPolicy = first.config.beginPolicy) :
    node.visit second = node.visit first := by
  induction node using Node.induction with
  | step node ih =>
    rw [Node.visit_eq, Node.visit_eq, Node.fault?_of_resolve (same _ _) policy,
      Node.pieces_of_resolve (same _ _)]
    cases node.fault? first with
    | some error => rfl
    | none =>
      refine congrArg Outcome.sequence (List.map_congr_left fun piece member => ?_)
      cases piece with
      | text value => rfl
      | child child =>
        have visited : child ∈ node.visited first := List.mem_filterMap.mpr ⟨_, member, rfl⟩
        exact ih child (Node.mem_children_of_mem_visited visited)

theorem Node.visit_of_carried (carries : ∀ below ∈ node.nodes, below.CarriesOver first second)
    (passed : (node.visit first).error = none) : node.visit second = node.visit first := by
  induction node using Node.induction with
  | step node ih =>
    have own : node.fault? first = none := by
      cases fault : node.fault? first with
      | none => rfl
      | some error => simp [Node.visit_eq, fault, Outcome.failed] at passed
    obtain ⟨own', same⟩ := carries node node.mem_nodes_self own
    rw [Node.visit_eq, own, Outcome.sequence_error, Piece.findSome?_visit,
      List.findSome?_eq_none_iff] at passed
    rw [Node.visit_eq, Node.visit_eq, own, own', Node.pieces_of_resolve same]
    refine congrArg Outcome.sequence (List.map_congr_left fun piece member => ?_)
    cases piece with
    | text value => rfl
    | child child =>
      have visited : child ∈ node.visited first := List.mem_filterMap.mpr ⟨_, member, rfl⟩
      have isChild := Node.mem_children_of_mem_visited visited
      exact ih child isChild (fun below member => carries below (Node.nodes_child isChild member))
        (passed child visited)

theorem Node.pieceOutcome_of_carried (carries : ∀ below ∈ node.nodes, below.CarriesOver first second)
    {piece : Piece Nat} (passed : (node.pieceOutcome first piece).error = none) :
    node.pieceOutcome second piece = node.pieceOutcome first piece := by
  cases piece with
  | text value => rfl
  | child index =>
    change (node.childOutcome first index).error = none at passed
    show node.childOutcome second index = node.childOutcome first index
    cases found : node.childAt? index with
    | none => simp [Node.childOutcome, found]
    | some child =>
      rw [Node.childOutcome_of_childAt? found] at passed ⊢
      rw [Node.childOutcome_of_childAt? found]
      have isChild := Node.mem_children_of_childAt? found
      exact Node.visit_of_carried
        (fun below member => carries below (Node.nodes_child isChild member)) passed

/-- If the node at which a visit stops still has a fault, the other visit stops there as well, and so far
it has written the same. -/
theorem Node.StopsAt.carried {failing : Node} {path : Path} {error error' : RenderError}
    (stops : node.StopsAt first path failing error)
    (carries : ∀ below ∈ node.nodes, below.CarriesOver first second)
    (fault : failing.fault? second = some error') :
    node.StopsAt second path failing error' ∧
      (node.visit second).written = (node.visit first).written := by
  induction stops with
  | @here node error own =>
    refine ⟨.here fault, ?_⟩
    rw [Node.visit_eq, Node.visit_eq, own, fault]
    rfl
  | @within node child failing index path error before after passes layout earlier found deeper ih =>
    obtain ⟨passes', same⟩ := carries node node.mem_nodes_self passes
    have isChild := Node.mem_children_of_childAt? found
    obtain ⟨deeper', written⟩ :=
      ih (fun below member => carries below (Node.nodes_child isChild member)) fault
    have layout' := (Node.layout_of_resolve same).trans layout
    have outcomes : ∀ piece ∈ before,
        node.pieceOutcome second piece = node.pieceOutcome first piece :=
      fun piece member => Node.pieceOutcome_of_carried carries (earlier piece member)
    have earlier' : ∀ piece ∈ before, (node.pieceOutcome second piece).error = none :=
      fun piece member => (congrArg Outcome.error (outcomes piece member)).trans (earlier piece member)
    refine ⟨.within passes' layout' earlier' found deeper', ?_⟩
    rw [Node.visit_eq_split passes layout earlier, Node.visit_eq_split passes' layout' earlier',
      Node.childOutcome_of_childAt? found, Node.childOutcome_of_childAt? found,
      Outcome.andThen_of_failed deeper.visit_error, Outcome.andThen_of_failed deeper'.visit_error,
      List.map_congr_left outcomes]
    exact congrArg (_ ++ ·) written

end RubyTree
