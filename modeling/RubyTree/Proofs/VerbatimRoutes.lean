import RubyTree.Build
import RubyTree.Proofs.RuleBooks
import RubyTree.Proofs.SettingChange

/-!
Two ways to have nodes copied from their source. Nodes without a rule may be copied by default, or their
types may be put under the rule that copies. Both give the same texts and fail at the same nodes; only a
node that has no span to be copied from is reported in two ways.
-/

namespace RubyTree

/-- Nodes without a rule are copied by default. -/
def Setting.copyingByDefault (book : RuleBook) (config : Config) : Setting :=
  ⟨book, { config with sourceFallback := true }⟩

/-- Nodes of some types are copied by rule, and none by default. -/
def Setting.copyingByRule (book : RuleBook) (config : Config) (tags : List Tag) : Setting :=
  ⟨book.registerTags tags .source, { config with sourceFallback := false }⟩

section Routes

open Setting

variable {book : RuleBook} {tags : List Tag} {node : Node}

/-- A node that is treated in two ways has no rule in the book and no span. -/
theorem Node.routes_own (config : Config) (fresh : ∀ tag ∈ tags, book.lookup? tag = none)
    (covered : book.lookup? node.tag = none → node.tag ∈ tags) :
    if node.tag ∈ tags ∧ node.span = none then
      node.fault? (copyingByDefault book config) = some (.unhandled node.tag) ∧
        node.fault? (copyingByRule book config tags) = some (.malformed node.tag .noSpan)
    else
      (copyingByRule book config tags).resolve? node.tag node.span =
          (copyingByDefault book config).resolve? node.tag node.span ∧
        node.fault? (copyingByRule book config tags) = node.fault? (copyingByDefault book config) := by
  have entry := book.lookup?_registerTags tags .source node.tag
  have byRule (member : node.tag ∈ tags) :
      (copyingByRule book config tags).resolve? node.tag node.span = some .source :=
    resolve?_registered (entry.trans (if_pos member)) node.span
  have byDefault (member : node.tag ∈ tags) :
      (copyingByDefault book config).resolve? node.tag node.span =
        if node.span.isSome then some .source else none :=
    resolve?_unregistered (fresh node.tag member) node.span
  by_cases lacking : node.tag ∈ tags ∧ node.span = none
  · rw [if_pos lacking]
    obtain ⟨member, located⟩ := lacking
    constructor
    · apply Node.fault?_unresolved
      rw [byDefault member, located]
      rfl
    · rw [Node.fault?_resolved (byRule member), located]
      rfl
  · rw [if_neg lacking]
    suffices same : (copyingByRule book config tags).resolve? node.tag node.span =
        (copyingByDefault book config).resolve? node.tag node.span from
      ⟨same, Node.fault?_of_resolve same rfl⟩
    by_cases member : node.tag ∈ tags
    · have located : node.span ≠ none := fun none => lacking ⟨member, none⟩
      rw [byRule member, byDefault member, if_pos (Option.isSome_iff_ne_none.mpr located)]
    · obtain ⟨rule, registered⟩ := Option.ne_none_iff_exists'.mp (mt covered member)
      have registered' := entry.trans ((if_neg member).trans registered)
      exact (resolve?_registered registered' node.span).trans
        (resolve?_registered registered node.span).symm

theorem Node.routes_carryOver (config : Config) (fresh : ∀ tag ∈ tags, book.lookup? tag = none)
    (covered : book.lookup? node.tag = none → node.tag ∈ tags) :
    node.CarriesOver (copyingByDefault book config) (copyingByRule book config tags) := by
  intro passes
  have own := Node.routes_own config fresh covered
  split at own
  · simp [passes] at own
  · exact ⟨own.2.trans passes, own.1⟩

/-- Where one way fails the other does, and mostly with the same error. -/
theorem Node.routes_fault (config : Config) (fresh : ∀ tag ∈ tags, book.lookup? tag = none)
    (covered : book.lookup? node.tag = none → node.tag ∈ tags) {error : RenderError}
    (fault : node.fault? (copyingByDefault book config) = some error) :
    ∃ error', node.fault? (copyingByRule book config tags) = some error' ∧
      if node.tag ∈ tags ∧ node.span = none then
        error = .unhandled node.tag ∧ error' = .malformed node.tag .noSpan
      else error = error' := by
  have own := Node.routes_own config fresh covered
  by_cases lacking : node.tag ∈ tags ∧ node.span = none
  · rw [if_pos lacking] at own
    refine ⟨_, own.2, ?_⟩
    rw [if_pos lacking]
    exact ⟨Option.some.inj (fault.symm.trans own.1), rfl⟩
  · rw [if_neg lacking] at own
    exact ⟨error, own.2.trans fault, by rw [if_neg lacking]⟩

end Routes

/-- Let some types have no entry in a book, and among them be all types of a tree that have none. Copying
nodes without a rule by default, and putting just these types under the rule that copies, give the same
text, or fail at the same node, up to which they write the same. The errors are equal, except for a node
of these types without a span: it has no rule in the first case, and lacks a span in the second. -/
theorem verbatim_routes_agree (book : RuleBook) (config : Config) (tags : List Tag) (node : Node)
    (fresh : ∀ tag ∈ tags, book.lookup? tag = none)
    (covered : ∀ below ∈ node.nodes, book.lookup? below.tag = none → below.tag ∈ tags) :
    let byDefault := Setting.copyingByDefault book config
    let byRule := Setting.copyingByRule book config tags
    (∃ text, node.renderWith byDefault = .ok text ∧ node.renderWith byRule = .ok text) ∨
    ∃ path failing error error',
      node.renderWith byDefault = .error error ∧ node.renderWith byRule = .error error' ∧
      node.FailsFirstAt byDefault path failing error ∧ node.FailsFirstAt byRule path failing error' ∧
      (node.visit byDefault).written = (node.visit byRule).written ∧
      if failing.tag ∈ tags ∧ failing.span = none then
        error = .unhandled failing.tag ∧ error' = .malformed failing.tag .noSpan
      else error = error' := by
  intro byDefault byRule
  have carries : ∀ below ∈ node.nodes, below.CarriesOver byDefault byRule :=
    fun below member => Node.routes_carryOver config fresh (covered below member)
  cases failed : (node.visit byDefault).error with
  | none =>
    have same := Node.visit_of_carried carries failed
    refine .inl ⟨_, Node.renderWith_eq_ok_iff.mpr ⟨failed, rfl⟩, ?_⟩
    exact Node.renderWith_eq_ok_iff.mpr (by rw [same]; exact ⟨failed, rfl⟩)
  | some error =>
    obtain ⟨path, failing, stops⟩ := Node.exists_stopsAt failed
    obtain ⟨error', fault', errors⟩ := Node.routes_fault config fresh
      (covered failing (Node.mem_nodes_of_at? stops.at?)) stops.failsFirstAt.fault
    obtain ⟨stops', written⟩ := stops.carried carries fault'
    exact .inr ⟨path, failing, error, error', Node.renderWith_eq_error_iff.mpr failed,
      Node.renderWith_eq_error_iff.mpr stops'.visit_error, stops.failsFirstAt, stops'.failsFirstAt,
      written.symm, errors⟩

def groupedCalls : Node :=
  Build.args [Build.mlhs [Build.sourced "send" "foo(1)" 0 6], Build.node "send" []]

theorem grouped_calls_fail_at_the_same_node :
    let byDefault := Setting.copyingByDefault .builtin {}
    let byRule := Setting.copyingByRule .builtin {} [.other "send"]
    (∀ tag ∈ [Tag.other "send"], RuleBook.builtin.lookup? tag = none) ∧
    (∀ below ∈ groupedCalls.nodes,
      RuleBook.builtin.lookup? below.tag = none → below.tag ∈ [Tag.other "send"]) ∧
    ∃ path failing,
      groupedCalls.FailsFirstAt byDefault path failing (.unhandled (.other "send")) ∧
      groupedCalls.FailsFirstAt byRule path failing (.malformed (.other "send") .noSpan) ∧
      failing.tag = .other "send" ∧ failing.span = none := by
  intro byDefault byRule
  have fresh : ∀ tag ∈ [Tag.other "send"], RuleBook.builtin.lookup? tag = none := by
    intro tag member
    rw [List.mem_singleton.mp member]
    rfl
  have covered : ∀ below ∈ groupedCalls.nodes,
      RuleBook.builtin.lookup? below.tag = none → below.tag ∈ [Tag.other "send"] := by
    have each : groupedCalls.nodes.all (fun below =>
        (RuleBook.builtin.lookup? below.tag).isSome || below.tag == .other "send") = true := rfl
    intro below member unregistered
    simpa [unregistered] using List.all_eq_true.mp each below member
  refine ⟨fresh, covered, ?_⟩
  rcases verbatim_routes_agree .builtin {} [.other "send"] groupedCalls fresh covered with
    ⟨text, rendered, _⟩ | ⟨path, failing, error, error', failed, failed', fails, fails', _, errors⟩
  · cases rendered
  · obtain rfl : error = .unhandled (.other "send") := by cases failed; rfl
    obtain rfl : error' = .malformed (.other "send") .noSpan := by cases failed'; rfl
    split at errors
    · next lacking =>
      exact ⟨path, failing, fails, fails', List.mem_singleton.mp lacking.1, lacking.2⟩
    · cases errors

end RubyTree
