import RubyTree.Build
import RubyTree.Proofs.Positions
import RubyTree.Proofs.Sessions

/-!
What a failed visit leaves behind. The visit stops at the first node that has a fault of its own, and
nothing of this node is written. So the text up to there is what any repair of that node would also
have written before it.
-/

namespace RubyTree

variable {α : Type}

namespace Outcome

theorem andThen_of_passed {first : Outcome} (passed : first.error = none) (second : Outcome) :
    first.andThen second = ⟨first.written ++ second.written, second.error⟩ := by
  simp only [andThen, passed]

theorem andThen_of_failed {first : Outcome} {error : RenderError} (failed : first.error = some error)
    (second : Outcome) : first.andThen second = first := by
  simp only [andThen, failed]

theorem andThen_passed_iff {first second : Outcome} :
    (first.andThen second).error = none ↔ first.error = none ∧ second.error = none := by
  cases fault : first.error <;> simp [andThen, fault]

theorem sequence_passed {f : α → Outcome} {items : List α}
    (passing : ∀ item ∈ items, (f item).error = none) : (sequence (items.map f)).error = none := by
  rw [sequence_error, List.findSome?_map]
  exact List.findSome?_eq_none_iff.mpr passing

end Outcome

/-- How a visit comes to its end at a position: the node has a fault, or everything before one of its
children goes well and the visit of that child comes to such an end. -/
inductive Node.StopsAt (setting : Setting) : Node → Path → Node → RenderError → Prop
  | here {node : Node} {error : RenderError} (fault : node.fault? setting = some error) :
    StopsAt setting node [] node error
  | within {node child failing : Node} {index : Nat} {path : Path} {error : RenderError}
    {before after : List (Piece Nat)} (passes : node.fault? setting = none)
    (layout : node.layout setting = before ++ .child index :: after)
    (earlier : ∀ piece ∈ before, (node.pieceOutcome setting piece).error = none)
    (found : node.childAt? index = some child) (deeper : StopsAt setting child path failing error) :
    StopsAt setting node (index :: path) failing error

/-- Every node visited before a position passes, and the one there has a fault. -/
structure Node.FailsFirstAt (setting : Setting) (node : Node) (path : Path) (failing : Node)
    (error : RenderError) : Prop where
  first : ∃ before after, node.visitPaths setting = before ++ path :: after ∧
    ∀ earlier ∈ before, ∃ passing, node.at? earlier = some passing ∧ passing.fault? setting = none
  found : node.at? path = some failing
  fault : failing.fault? setting = some error

section Stops

variable {setting : Setting} {node failing : Node} {path : Path} {error : RenderError}

theorem Node.childOutcome_of_childAt? {child : Node} {index : Nat}
    (found : node.childAt? index = some child) :
    node.childOutcome setting index = child.visit setting := by
  simp [Node.childOutcome, found]

theorem Node.exists_stopsAt (fails : (node.visit setting).error = some error) :
    ∃ path failing, node.StopsAt setting path failing error := by
  induction node using Node.induction with
  | step node ih =>
    rw [Node.visit_eq_layout] at fails
    cases fault : node.fault? setting with
    | some own =>
      simp only [fault, Outcome.failed, Option.some.injEq] at fails
      exact ⟨[], node, .here (fails ▸ fault)⟩
    | none =>
      simp only [fault, Outcome.sequence_error, List.findSome?_map] at fails
      obtain ⟨before, piece, after, layout, failed, earlier⟩ := List.findSome?_eq_some_iff.mp fails
      cases piece with
      | text value => cases failed
      | child index =>
        change (node.childOutcome setting index).error = some error at failed
        cases found : node.childAt? index with
        | none => simp [Node.childOutcome, found, Outcome.text] at failed
        | some child =>
          rw [Node.childOutcome_of_childAt? found] at failed
          obtain ⟨path, failing, deeper⟩ := ih child (Node.mem_children_of_childAt? found) failed
          exact ⟨index :: path, failing, .within fault layout earlier found deeper⟩

theorem Node.passing_of_visit (passed : (node.visit setting).error = none) :
    ∀ path ∈ node.visitPaths setting,
      ∃ passing, node.at? path = some passing ∧ passing.fault? setting = none := by
  intro path member
  have there : node.at? path ∈ (node.visitPaths setting).map node.at? := List.mem_map_of_mem member
  rw [Node.map_at?_visitPaths] at there
  obtain ⟨passing, visited, found⟩ := List.mem_map.mp there
  rw [Node.visit_error, List.findSome?_eq_none_iff] at passed
  exact ⟨passing, found.symm, passed passing visited⟩

theorem Node.passing_of_childOutcome {index : Nat}
    (passed : (node.childOutcome setting index).error = none) :
    ∀ path ∈ node.pathsThrough setting index,
      ∃ passing, node.at? path = some passing ∧ passing.fault? setting = none := by
  intro path member
  obtain ⟨child, isChild, visited⟩ := List.mem_flatMap.mp member
  obtain ⟨deeper, isVisited, rfl⟩ := List.mem_map.mp visited
  have found : node.childAt? index = some child := Option.mem_toList.mp isChild
  rw [Node.childOutcome_of_childAt? found] at passed
  obtain ⟨passing, reached, passes⟩ := Node.passing_of_visit passed deeper isVisited
  exact ⟨passing, by simp [Node.at?, found, reached], passes⟩

/-- Where a visit stops is the first fault in the order of the visit. -/
theorem Node.StopsAt.failsFirstAt (stops : node.StopsAt setting path failing error) :
    node.FailsFirstAt setting path failing error := by
  induction stops with
  | here fault =>
    refine ⟨⟨[], [], ?_, by simp⟩, rfl, fault⟩
    rw [Node.visitPaths_eq, fault]
    rfl
  | @within node child failing index path error before after passes layout earlier found _ ih =>
    obtain ⟨⟨passed, others, order, passing⟩, reached, fault⟩ := ih
    have through : node.pathsThrough setting index = (child.visitPaths setting).map (index :: ·) := by
      simp [Node.pathsThrough, found]
    have paths : node.visitPaths setting =
        ([] :: (before.filterMap Piece.content?).flatMap (node.pathsThrough setting) ++
          passed.map (index :: ·)) ++ (index :: path) :: (others.map (index :: ·) ++
          (after.filterMap Piece.content?).flatMap (node.pathsThrough setting)) := by
      rw [Node.visitPaths_eq, passes]
      simp [Node.visitedIndices, layout, through, order]
    refine ⟨⟨_, _, paths, ?_⟩, by simp [Node.at?, found, reached], fault⟩
    intro position member
    rcases List.mem_append.mp member with visited | deeper
    · rcases List.mem_cons.mp visited with rfl | visited
      · exact ⟨node, rfl, passes⟩
      · obtain ⟨other, isBefore, visited⟩ := List.mem_flatMap.mp visited
        obtain ⟨piece, isPiece, content⟩ := List.mem_filterMap.mp isBefore
        have passed := earlier piece isPiece
        cases piece with
        | text value => cases content
        | child index =>
          cases content
          exact Node.passing_of_childOutcome passed position visited
    · obtain ⟨position, isBefore, rfl⟩ := List.mem_map.mp deeper
      obtain ⟨node', reached', passes'⟩ := passing position isBefore
      exact ⟨node', by simp [Node.at?, found, reached'], passes'⟩

/-- Another child outcome for one index leaves the pieces that come before it alone. -/
theorem Node.pieceOutcome_replace {index : Nat} {new : Node} {piece : Piece Nat}
    (passed : (node.pieceOutcome setting piece).error = none)
    (failed : (node.childOutcome setting index).error ≠ none) :
    (node.replace (index :: path) new).pieceOutcome setting piece = node.pieceOutcome setting piece := by
  cases piece with
  | text value => rfl
  | child other =>
    have apart : index ≠ other := by
      rintro rfl
      exact failed passed
    show (node.replace (index :: path) new).childOutcome setting other = node.childOutcome setting other
    unfold Node.childOutcome
    rw [Node.childAt?_replace_other node index path new apart]

theorem Node.StopsAt.at? (stops : node.StopsAt setting path failing error) :
    node.at? path = some failing := stops.failsFirstAt.found

theorem Node.visit_eq_split {before after : List (Piece Nat)} {index : Nat}
    (passes : node.fault? setting = none)
    (layout : node.layout setting = before ++ .child index :: after)
    (earlier : ∀ piece ∈ before, (node.pieceOutcome setting piece).error = none) :
    node.visit setting =
      let rest := (node.childOutcome setting index).andThen
        (.sequence (after.map (node.pieceOutcome setting)))
      ⟨(Outcome.sequence (before.map (node.pieceOutcome setting))).written ++ rest.written,
        rest.error⟩ := by
  rw [Node.visit_eq_layout, passes]
  simp only [layout, List.map_append, Outcome.sequence_append,
    Outcome.andThen_of_passed (Outcome.sequence_passed earlier)]
  rfl

theorem Node.StopsAt.visit_error (stops : node.StopsAt setting path failing error) :
    (node.visit setting).error = some error := by
  induction stops with
  | here fault => rw [Node.visit_eq, fault]; rfl
  | within passes layout earlier found _ ih =>
    rw [Node.visit_eq_split passes layout earlier, Node.childOutcome_of_childAt? found,
      Outcome.andThen_of_failed ih]
    exact ih

/-- If a repair makes the visit succeed, the text that was written before is still written first, and
that of the repaired node comes next. -/
theorem Node.StopsAt.repaired (stops : node.StopsAt setting path failing error) {repair : Node}
    (groups : repair.tag.isGroup = failing.tag.isGroup)
    (passed : ((node.replace path repair).visit setting).error = none) :
    (repair.visit setting).error = none ∧
      ∃ rest, ((node.replace path repair).visit setting).written =
        (node.visit setting).written ++ (repair.visit setting).written ++ rest := by
  induction stops with
  | @here node error fault =>
    refine ⟨passed, "", ?_⟩
    rw [node.visit_eq setting, fault]
    simp [Node.replace, Outcome.failed]
  | @within node child failing index path error before after passes layout earlier found deeper ih =>
    have failed : (node.childOutcome setting index).error = some error := by
      rw [Node.childOutcome_of_childAt? found]
      exact deeper.visit_error
    -- The repaired node has the same layout, and the same text before the child.
    have same : ∀ piece ∈ before, (node.replace (index :: path) repair).pieceOutcome setting piece =
        node.pieceOutcome setting piece :=
      fun piece member => Node.pieceOutcome_replace (earlier piece member) (by simp [failed])
    have layout' : (node.replace (index :: path) repair).layout setting =
        before ++ .child index :: after := by
      have position : node.at? (index :: path) = some failing :=
        Option.bind_eq_some_iff.mpr ⟨child, found, deeper.at?⟩
      rw [Node.layout_replace_congr setting groups, Node.replace_self position, layout]
    have visit' := Node.visit_eq_split ((node.fault?_replace index path repair setting).trans passes)
      layout' (fun piece member => (congrArg Outcome.error (same piece member)).trans (earlier piece member))
    have child' : (node.replace (index :: path) repair).childOutcome setting index =
        (child.replace path repair).visit setting :=
      Node.childOutcome_of_childAt? (by rw [Node.childAt?_replace_same, found]; rfl)
    rw [List.map_congr_left same, child'] at visit'
    rw [visit'] at passed ⊢
    obtain ⟨passed, _⟩ := Outcome.andThen_passed_iff.mp passed
    obtain ⟨own, rest, text⟩ := ih groups passed
    refine ⟨own, rest ++ (Outcome.sequence
      (after.map ((node.replace (index :: path) repair).pieceOutcome setting))).written, ?_⟩
    rw [Node.visit_eq_split passes layout earlier, Outcome.andThen_of_failed failed,
      Node.childOutcome_of_childAt? found, Outcome.andThen_of_passed passed, text]
    simp only [String.append_assoc]

end Stops

theorem Node.FailsFirstAt.unique {setting : Setting} {node failing failing' : Node} {path path' : Path}
    {error error' : RenderError} (fails : node.FailsFirstAt setting path failing error)
    (fails' : node.FailsFirstAt setting path' failing' error') : path = path' := by
  have find {path : Path} {failing : Node} {error : RenderError}
      (fails : node.FailsFirstAt setting path failing error) :
      (node.visitPaths setting).find? (fun path => ((node.at? path).bind (Node.fault? setting)).isSome) =
        some path := by
    obtain ⟨⟨before, after, order, passing⟩, found, fault⟩ := fails
    rw [List.find?_eq_some_iff_append]
    refine ⟨by simp [found, fault], before, after, order, ?_⟩
    intro earlier member
    obtain ⟨passing, reached, passes⟩ := passing earlier member
    simp [reached, passes]
  exact Option.some.inj ((find fails).symm.trans (find fails'))

theorem Node.renderWith_eq_ok_iff {setting : Setting} {node : Node} {text : String} :
    node.renderWith setting = .ok text ↔
      (node.visit setting).error = none ∧ (node.visit setting).written = text := by
  unfold Node.renderWith Outcome.result
  cases (node.visit setting).error <;> simp

theorem Node.renderWith_eq_error_iff {setting : Setting} {node : Node} {error : RenderError} :
    node.renderWith setting = .error error ↔ (node.visit setting).error = some error := by
  unfold Node.renderWith Outcome.result
  cases (node.visit setting).error <;> simp

/-- A visit of a tree into an empty session that fails does so at the first node in the order of the
visit that has a fault of its own. This node writes nothing. Whatever node is put in its place, a group
for a group and no group for any other: if the whole tree then renders, its text begins with what the
failed visit left, and goes on with the text of the new node. -/
theorem failed_visit_leaves_the_text_before_its_fault (setting : Setting) (node : Node) (left : String)
    (error : RenderError) (fails : (node.write setting).on {} = (⟨left⟩, some error)) :
    (node.visitPaths setting).map node.at? = (node.visitOrder setting).map some ∧
    (∃ path failing, node.FailsFirstAt setting path failing error) ∧
    ∀ path failing, node.FailsFirstAt setting path failing error →
      (failing.write setting).on {} = ({}, some error) ∧
      ∀ (repair : Node) (text : String),
        (repair.tag = .known .mlhs ↔ failing.tag = .known .mlhs) →
        (node.replace path repair).renderWith setting = .ok text →
        ∃ own rest, repair.renderWith setting = .ok own ∧ text = left ++ own ++ rest := by
  have visit : (node.visit setting).written = left ∧ (node.visit setting).error = some error := by
    simpa [node.yields setting {}] using fails
  obtain ⟨path, failing, stops⟩ := Node.exists_stopsAt visit.2
  refine ⟨Node.map_at?_visitPaths setting node, ⟨path, failing, stops.failsFirstAt⟩, ?_⟩
  intro path' failing' fails'
  obtain rfl := stops.failsFirstAt.unique fails'
  obtain rfl : failing = failing' := Option.some.inj (stops.at?.symm.trans fails'.found)
  refine ⟨?_, ?_⟩
  · rw [failing.yields setting {}, Node.visit_eq, fails'.fault]
    rfl
  · intro repair text groups rendered
    obtain ⟨passed, written⟩ := Node.renderWith_eq_ok_iff.mp rendered
    obtain ⟨own, rest, whole⟩ := stops.repaired (Tag.isGroup_eq_iff.mpr groups) passed
    refine ⟨_, rest, Node.renderWith_eq_ok_iff.mpr ⟨own, rfl⟩, ?_⟩
    rw [← written, whole, visit.1]

def unhandledDefault : Node :=
  Build.args [Build.arg "a", Build.optarg "x" (Build.node "send" []), Build.arg "b"]

theorem unhandled_default_leaves_the_text_before_it :
    (unhandledDefault.write {}).on {} = (⟨"a, x = "⟩, some (.unhandled (.other "send"))) ∧
    (unhandledDefault.replace [1, 1] (Build.int 5)).renderWith {} = .ok "a, x = 5, b" ∧
    ∃ own rest, (Build.int 5).renderWith {} = .ok own ∧ "a, x = 5, b" = "a, x = " ++ own ++ rest := by
  have fails : (unhandledDefault.write {}).on {} =
      (⟨"a, x = "⟩, some (.unhandled (.other "send"))) := rfl
  have repaired : (unhandledDefault.replace [1, 1] (Build.int 5)).renderWith {} =
      .ok "a, x = 5, b" := rfl
  have first : unhandledDefault.FailsFirstAt {} [1, 1] (Build.node "send" [])
      (.unhandled (.other "send")) := by
    refine ⟨⟨[[], [0], [1]], [[2]], rfl, ?_⟩, rfl, rfl⟩
    simp only [List.forall_mem_cons]
    exact ⟨⟨_, rfl, rfl⟩, ⟨_, rfl, rfl⟩, ⟨_, rfl, rfl⟩, by simp⟩
  have result := failed_visit_leaves_the_text_before_its_fault {} unhandledDefault _ _ fails
  exact ⟨fails, repaired, (result.2.2 _ _ first).2 (Build.int 5) _ (by decide) repaired⟩

end RubyTree
