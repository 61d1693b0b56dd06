import RubyTree.Proofs.LoadedTrees
import RubyTree.Proofs.Parameters

/-!
Trees made by the builders alone. Every builder gives its node the children that the rule of its kind asks
for, whatever they contain, so that only two things can be wrong: a wrapper may have any number of children
where one is expected, and a float may be infinite or no number. And every rule visits all the nodes that a
builder puts below, so that no such fault stays hidden.
-/

namespace RubyTree

/-- The trees that the builders make of any texts, numbers and trees of the same sort. -/
inductive Node.Built : Node → Prop
  | arg (name : String) : Built (Build.arg name)
  | optarg (name : String) {value : Node} (built : Built value) : Built (Build.optarg name value)
  | restarg (name : String) : Built (Build.restarg name)
  | bareRestarg : Built Build.bareRestarg
  | blockarg (name : String) : Built (Build.blockarg name)
  | blockPass {value : Node} (built : Built value) : Built (Build.blockPass value)
  | argExpr {group : Node} (built : Built group) : Built (Build.argExpr group)
  | args {items : List Node} (built : ∀ item ∈ items, Built item) : Built (Build.args items)
  | mlhs {items : List Node} (built : ∀ item ∈ items, Built item) : Built (Build.mlhs items)
  | kwarg (name : String) : Built (Build.kwarg name)
  | kwoptarg (name : String) {value : Node} (built : Built value) : Built (Build.kwoptarg name value)
  | kwrestarg (name : String) : Built (Build.kwrestarg name)
  | begin {body : List Node} (built : ∀ item ∈ body, Built item) : Built (Build.begin body)
  | int (value : Int64) : Built (Build.int value)
  | float (value : Binary64) : Built (Build.float value)
  | string (text : String) : Built (Build.string text)
  | sym (name : String) : Built (Build.sym name)
  | lvar (name : String) : Built (Build.lvar name)
  | nil : Built Build.nil

/-- A wrapper around nothing, or around several nodes. -/
def Node.MisfitBegin (node : Node) : Prop :=
  node.tag = .known .begin ∧ node.children.length ≠ 1

def Node.NonFiniteFloat (node : Node) : Prop :=
  node.tag = .known .float ∧
    ∃ value : Binary64, .atom (.float value) ∈ node.children ∧
      (value.isNaN = true ∨ value.magnitude = Binary64.infinite)

theorem Binary64.isFinite_eq_false_iff (value : Binary64) :
    value.isFinite = false ↔ value.isNaN = true ∨ value.magnitude = infinite := by
  simp only [isFinite, isNaN, decide_eq_false_iff_not, decide_eq_true_eq]
  omega

section Kinds

variable (kind : Kind) (children : List Child)

theorem Build.fault?_known :
    (Build.node kind.name children).fault? {} =
      ((Rule.ofKind kind).fault? .strict none (children.map Child.outline)).map
        (.malformed (.known kind)) := by
  rw [Build.node_known]
  exact Node.fault?_resolved (resolve?_known kind none)

theorem Build.visited_known :
    (Build.node kind.name children).visited {} =
      ((Rule.ofKind kind).visits children).filterMap Child.node? := by
  rw [Build.node_known]
  exact Node.visited_resolved (resolve?_known kind none)

end Kinds

section Faults

theorem Build.fault?_begin_nil :
    (Build.begin []).fault? {} = some (.malformed (.known .begin) .noBody) := rfl

theorem Build.fault?_begin_singleton (body : Node) : (Build.begin [body]).fault? {} = none := rfl

theorem Build.fault?_begin_several (first second : Node) (rest : List Node) :
    (Build.begin (first :: second :: rest)).fault? {} =
      some (.malformed (.known .begin) (.severalBodies (rest.length + 2))) := by
  refine (Build.fault?_known .begin _).trans ?_
  simp [Rule.ofKind, Rule.fault?, Outline.bodyFault?]

theorem Build.fault?_float (value : Binary64) :
    (Build.float value).fault? {} =
      if value.isFinite then none else some (.malformed (.known .float) .nonFinite) := by
  refine (Build.fault?_known .float _).trans ?_
  show (if value.isFinite then none else some Reason.nonFinite).map _ = _
  cases value.isFinite <;> rfl

end Faults

namespace Node.Built

variable {node : Node} {error : RenderError}

theorem children (built : node.Built) : ∀ child, .node child ∈ node.children → child.Built := by
  intro child member
  have content : child ∈ node.children.filterMap Child.node? := List.mem_filterMap.mpr ⟨_, member, rfl⟩
  cases built
  case optarg value built | kwoptarg value built | blockPass value built | argExpr value built =>
    obtain rfl : child = value := List.mem_singleton.mp content
    exact built
  case args items built | mlhs items built | begin items built =>
    obtain ⟨item, isItem, isChild⟩ := List.mem_map.mp member
    exact Child.node.inj isChild ▸ built item isItem
  all_goals cases (show child ∈ [] from content)

theorem nodes (built : node.Built) : ∀ below ∈ node.nodes, below.Built := by
  induction node using Node.induction with
  | step node ih =>
    intro below member
    rcases Node.mem_nodes_iff.mp member with rfl | ⟨child, isChild, deeper⟩
    · exact built
    · exact ih child isChild (built.children child isChild) below deeper

theorem passes_of_kind {kind : Kind} (tag : node.tag = .known kind) (other : kind ≠ .begin ∧ kind ≠ .float)
    (passes : node.fault? {} = none) :
    node.fault? {} = none ∧ node.tag ≠ .known .begin ∧ node.tag ≠ .known .float := by
  rw [tag]
  exact ⟨passes, fun same => other.1 (Tag.known.inj same), fun same => other.2 (Tag.known.inj same)⟩

/-- Only two builders can make a node that its rule does not accept. -/
theorem passes (built : node.Built) :
    node.fault? {} = none ∧ node.tag ≠ .known .begin ∧ node.tag ≠ .known .float ∨
      (∃ body, node = Build.begin body) ∨ ∃ value, node = Build.float value := by
  cases built
  case begin body built => exact .inr (.inl ⟨body, rfl⟩)
  case float value => exact .inr (.inr ⟨value, rfl⟩)
  case args items built =>
    have own := Build.fault?_known .args (items.map .node)
    rw [Rule.ofKind, Rule.fault?, Outline.listFault?_nodes] at own
    exact .inl (passes_of_kind rfl (by decide) own)
  case mlhs items built =>
    have own := Build.fault?_known .mlhs (items.map .node)
    rw [Rule.ofKind, Rule.fault?, Outline.listFault?_nodes] at own
    exact .inl (passes_of_kind rfl (by decide) own)
  all_goals exact .inl (passes_of_kind rfl (by decide) rfl)

theorem visits_children (built : node.Built) (passes : node.fault? {} = none) :
    node.visited {} = node.children.filterMap Child.node? := by
  cases built
  case args items built => exact Build.visited_known .args _
  case mlhs items built => exact Build.visited_known .mlhs _
  case begin body built =>
    rcases body with _ | ⟨first, _ | ⟨second, rest⟩⟩
    · rfl
    · rfl
    · simp [Build.fault?_begin_several] at passes
  all_goals rfl

theorem fault?_ne_none_iff (built : node.Built) :
    node.fault? {} ≠ none ↔ node.MisfitBegin ∨ node.NonFiniteFloat := by
  rcases built.passes with ⟨passes, notBegin, notFloat⟩ | ⟨body, rfl⟩ | ⟨value, rfl⟩
  · simp [passes, MisfitBegin, NonFiniteFloat, notBegin, notFloat]
  · have begins : (Build.begin body).tag = .known .begin := rfl
    rcases body with _ | ⟨first, _ | ⟨second, rest⟩⟩
    · exact iff_of_true (by simp [Build.fault?_begin_nil]) (.inl ⟨begins, by decide⟩)
    · refine iff_of_false (by simp [Build.fault?_begin_singleton]) ?_
      rintro (⟨_, misfit⟩ | ⟨float, _⟩)
      · exact misfit rfl
      · cases begins.symm.trans float
    · refine iff_of_true (by simp [Build.fault?_begin_several]) (.inl ⟨begins, ?_⟩)
      simp [Build.begin, Build.nodes, Build.node]
  · have floats : (Build.float value).tag = .known .float := rfl
    have atoms : (Build.float value).children = [.atom (.float value)] := rfl
    simp [MisfitBegin, NonFiniteFloat, Build.fault?_float, floats, atoms,
      ← Binary64.isFinite_eq_false_iff]

theorem error_of_fault? (built : node.Built) (fault : node.fault? {} = some error) :
    error = .malformed (.known .begin) .noBody ∨
      (∃ count, 1 < count ∧ error = .malformed (.known .begin) (.severalBodies count)) ∨
      error = .malformed (.known .float) .nonFinite := by
  rcases built.passes with ⟨passes, _⟩ | ⟨body, rfl⟩ | ⟨value, rfl⟩
  · cases passes.symm.trans fault
  · rcases body with _ | ⟨first, _ | ⟨second, rest⟩⟩
    · exact .inl (Option.some.inj fault).symm
    · cases (Build.fault?_begin_singleton first).symm.trans fault
    · have several := (Build.fault?_begin_several first second rest).symm.trans fault
      exact .inr (.inl ⟨rest.length + 2, by omega, (Option.some.inj several).symm⟩)
  · rw [Build.fault?_float] at fault
    split at fault
    · cases fault
    · exact .inr (.inr (Option.some.inj fault).symm)

end Node.Built

theorem Node.renderWith_fails_iff {setting : Setting} {node : Node} :
    (∃ error, node.renderWith setting = .error error) ↔
      ∃ visited ∈ node.visitOrder setting, visited.fault? setting ≠ none := by
  simp only [← Option.isSome_iff_ne_none, ← List.findSome?_isSome_iff, Node.renderWith_eq]
  cases (node.visitOrder setting).findSome? (Node.fault? setting) <;> simp

/-- Where every node that passes leads to all its child nodes, a fault at any depth is found. -/
theorem Node.exists_fault_iff {setting : Setting} {node : Node}
    (thorough : ∀ below ∈ node.nodes, below.fault? setting = none →
      ∀ child, .node child ∈ below.children → child ∈ below.visited setting) :
    (∃ visited ∈ node.visitOrder setting, visited.fault? setting ≠ none) ↔
      ∃ below ∈ node.nodes, below.fault? setting ≠ none := by
  constructor
  · rintro ⟨visited, member, fault⟩
    exact ⟨visited, visitOrder_subset_nodes setting node member, fault⟩
  · rintro ⟨below, member, fault⟩
    induction node using Node.induction with
    | step node ih =>
      rw [Node.visitOrder_eq]
      cases own : node.fault? setting with
      | some error => exact ⟨node, List.mem_cons_self, by simp [own]⟩
      | none =>
        rcases Node.mem_nodes_iff.mp member with rfl | ⟨child, isChild, deeper⟩
        · exact absurd own fault
        · have visited := thorough node node.mem_nodes_self own child isChild
          obtain ⟨found, order, fails⟩ := ih child isChild
            (fun lower inside => thorough lower (Node.nodes_child isChild inside)) deeper
          exact ⟨found, List.mem_cons_of_mem _ (List.mem_flatMap.mpr ⟨child, visited, order⟩), fails⟩

/-- A tree that is made by builders alone, of any texts and numbers and nested in any way, fails to render
exactly if somewhere in it there is a wrapper that does not have one child or a float that is no number or
infinite; and the error is then about one of these. -/
theorem built_trees_fail_for_two_reasons (node : Node) (built : node.Built) :
    ((∃ error, node.render = .error error) ↔
      ∃ below ∈ node.nodes, below.MisfitBegin ∨ below.NonFiniteFloat) ∧
    ∀ error, node.render = .error error →
      error = .malformed (.known .begin) .noBody ∨
      (∃ count, 1 < count ∧ error = .malformed (.known .begin) (.severalBodies count)) ∨
      error = .malformed (.known .float) .nonFinite := by
  have below := built.nodes
  constructor
  · refine Node.renderWith_fails_iff.trans ((Node.exists_fault_iff ?_).trans ?_)
    · intro lower inside passes child isChild
      rw [(below lower inside).visits_children passes]
      exact List.mem_filterMap.mpr ⟨_, isChild, rfl⟩
    · exact exists_congr fun lower =>
        and_congr_right fun inside => (below lower inside).fault?_ne_none_iff
  · intro error failed
    rw [Node.render, Node.renderWith_eq] at failed
    split at failed
    · next found =>
      cases failed
      obtain ⟨visited, order, fault⟩ := List.exists_of_findSome?_eq_some found
      exact (below visited (visitOrder_subset_nodes {} node order)).error_of_fault? fault
    · cases failed

/-- An infinite default in a wrapper, deep in a list. -/
theorem infinite_default_fails :
    let infinity : Binary64 := ⟨true, Binary64.infinite, by decide⟩
    let node := Build.args [Build.arg "a", Build.mlhs [Build.optarg "x" (Build.begin [Build.float infinity])]]
    node.Built ∧ ∃ error, node.render = .error error := by
  intro infinity node
  have float : (Build.float infinity).NonFiniteFloat := ⟨rfl, infinity, List.mem_cons_self, .inr rfl⟩
  have default : (Build.optarg "x" (Build.begin [Build.float infinity])).Built :=
    .optarg "x" (.begin (List.forall_mem_singleton.mpr (.float infinity)))
  have built : node.Built :=
    .args (List.forall_mem_cons.mpr ⟨.arg "a",
      List.forall_mem_singleton.mpr (.mlhs (List.forall_mem_singleton.mpr default))⟩)
  have inside : Build.float infinity ∈ node.nodes := by
    have all : node.nodes = [_, _, _, _, _, Build.float infinity] := rfl
    simp [all]
  exact ⟨built, (built_trees_fail_for_two_reasons node built).1.mpr ⟨_, inside, .inr float⟩⟩

end RubyTree
