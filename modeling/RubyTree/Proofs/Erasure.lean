import RubyTree.Build
import RubyTree.Proofs.Composition

/-!
What rendering does not look at. A span is read only where the source is copied, and nothing below such a
node is read; of a wrapper that may hold several nodes only the first is read; and of a node without a
rule only its type. All the rest can be taken away, or be anything at all.
-/

namespace RubyTree

variable {α β : Type}

section Rules

def Rule.readSpan (rule : Rule) (span : Option Span) : Option Span :=
  if rule = .source then span else none

def Rule.readChildren (rule : Rule) (policy : BeginPolicy) (children : List α) : List α :=
  match rule, policy with
  | .source, _ => []
  | .begin, .firstChild => children.take 1
  | _, _ => children

theorem Rule.readChildren_map (rule : Rule) (policy : BeginPolicy) (f : α → β) (children : List α) :
    (rule.readChildren policy children).map f = rule.readChildren policy (children.map f) := by
  cases rule <;> cases policy <;> simp [Rule.readChildren]

theorem Rule.fault?_read (rule : Rule) (policy : BeginPolicy) (span : Option Span) (outline : Outline) :
    rule.fault? policy (rule.readSpan span) (rule.readChildren policy outline) =
      rule.fault? policy span outline := by
  cases rule
  case begin =>
    cases policy with
    | strict => rfl
    | firstChild => rcases outline with _ | ⟨_, _ | ⟨_, _⟩⟩ <;> rfl
  all_goals rfl

theorem Rule.pieces_read (rule : Rule) (policy : BeginPolicy) (tag : Tag) (span : Option Span)
    (slots : List (Slot α)) :
    rule.pieces tag (rule.readSpan span) (rule.readChildren policy slots) =
      rule.pieces tag span slots := by
  cases rule
  case begin =>
    cases policy with
    | strict => rfl
    | firstChild => cases slots <;> rfl
  all_goals rfl

end Rules

section Trees

variable {setting : Setting}

/-- A node without what its rule does not look at. -/
def Node.trimmed (setting : Setting) (node : Node) : Node :=
  match setting.resolve? node.tag node.span with
  | none => ⟨node.tag, [], none⟩
  | some rule =>
    ⟨node.tag, rule.readChildren setting.config.beginPolicy node.children, rule.readSpan node.span⟩

/-- A tree without anything that is not looked at. -/
def Node.erased (setting : Setting) (node : Node) : Node := node.everywhere (Node.trimmed setting)

theorem Node.trimmed_unresolved (node : Node)
    (unresolved : setting.resolve? node.tag node.span = none) :
    node.trimmed setting = ⟨node.tag, [], none⟩ := by
  simp only [Node.trimmed, unresolved]

theorem Node.trimmed_resolved (node : Node) {rule : Rule}
    (resolved : setting.resolve? node.tag node.span = some rule) :
    node.trimmed setting =
      ⟨node.tag, rule.readChildren setting.config.beginPolicy node.children, rule.readSpan node.span⟩ := by
  simp only [Node.trimmed, resolved]

theorem Node.tag_trimmed (node : Node) : (node.trimmed setting).tag = node.tag := by
  unfold Node.trimmed
  split <;> rfl

theorem Node.resolve?_trimmed (setting : Setting) (node : Node) :
    setting.resolve? (node.trimmed setting).tag (node.trimmed setting).span =
      setting.resolve? node.tag node.span := by
  cases resolved : setting.resolve? node.tag node.span with
  | none =>
    rw [node.trimmed_unresolved resolved]
    cases registered : setting.book.lookup? node.tag with
    | some rule =>
      rw [Setting.resolve?_registered registered] at resolved
      cases resolved
    | none => simp [Setting.resolve?_unregistered registered]
  | some rule =>
    rw [node.trimmed_resolved resolved]
    by_cases copied : rule = .source
    · rwa [Rule.readSpan, if_pos copied]
    · exact Setting.resolve?_registered (Setting.lookup?_of_resolve? resolved copied) _

theorem Node.fault?_trimmed (node : Node) :
    (node.trimmed setting).fault? setting = node.fault? setting := by
  have same := node.resolve?_trimmed setting
  cases resolved : setting.resolve? node.tag node.span with
  | none =>
    rw [Node.fault?_unresolved (same.trans resolved), Node.fault?_unresolved resolved,
      Node.tag_trimmed]
  | some rule =>
    rw [Node.fault?_resolved (same.trans resolved), Node.fault?_resolved resolved,
      node.trimmed_resolved resolved]
    simp only [Rule.readChildren_map, Rule.fault?_read]

theorem Node.pieces_trimmed (node : Node) :
    (node.trimmed setting).pieces setting = node.pieces setting := by
  have same := node.resolve?_trimmed setting
  cases resolved : setting.resolve? node.tag node.span with
  | none => simp only [Node.pieces, Setting.pieces, same, resolved]
  | some rule =>
    rw [Node.pieces_resolved (same.trans resolved), Node.pieces_resolved resolved,
      node.trimmed_resolved resolved]
    simp only [Rule.readChildren_map, Rule.pieces_read]

theorem Node.visit_trimmed (node : Node) : (node.trimmed setting).visit setting = node.visit setting := by
  rw [Node.visit_eq, Node.visit_eq, Node.fault?_trimmed, Node.pieces_trimmed]

theorem Node.visit_erased (node : Node) : (node.erased setting).visit setting = node.visit setting :=
  Node.visit_everywhere Node.tag_trimmed Node.visit_trimmed node

/-- Nodes that differ only in what is not looked at write the same. -/
theorem Node.visit_of_trimmed {x y : Node} (same : x.trimmed setting = y.trimmed setting) :
    x.visit setting = y.visit setting := by
  rw [← x.visit_trimmed, same, y.visit_trimmed]

theorem Node.trimmed_span {old : Node} {rule : Rule}
    (registered : setting.book.lookup? old.tag = some rule) (written : rule ≠ .source)
    (span : Option Span) : { old with span := span }.trimmed setting = old.trimmed setting := by
  rw [old.trimmed_resolved (Setting.resolve?_registered registered old.span),
    Node.trimmed_resolved { old with span := span }
      (Setting.resolve?_registered registered span)]
  simp only [Rule.readSpan, if_neg written]

theorem Node.trimmed_children {old : Node} (copied : setting.resolve? old.tag old.span = some .source)
    (children : List Child) : { old with children := children }.trimmed setting = old.trimmed setting := by
  rw [old.trimmed_resolved copied]
  exact Node.trimmed_resolved { old with children := children } copied

/-- A change of a node that leaves what is looked at can be made at any position. -/
theorem Node.visit_replace_of_trimmed {node old new : Node} {path : Path}
    (found : node.at? path = some old) (same : new.trimmed setting = old.trimmed setting) :
    (node.replace path new).visit setting = node.visit setting := by
  have tags : new.tag = old.tag := by rw [← new.tag_trimmed, same, old.tag_trimmed]
  calc (node.replace path new).visit setting
      = (node.replace path old).visit setting :=
        Node.visit_replace_congr (by rw [tags]) (Node.visit_of_trimmed same) node path
    _ = node.visit setting := by rw [Node.replace_self found]

end Trees

/-- A tree without anything that is not looked at is written as the whole tree, and ends as it does. So
the span of a node whose rule writes it by itself can be any, and so can the children of a node that is
copied from its source. -/
theorem rendering_reads_nothing_else (setting : Setting) :
    (∀ (node : Node) (session : Session),
      ((node.erased setting).write setting).on session = (node.write setting).on session) ∧
    (∀ (node old : Node) (path : Path) (rule : Rule) (span : Option Span) (session : Session),
      node.at? path = some old → setting.book.lookup? old.tag = some rule → rule ≠ .source →
      ((node.replace path { old with span := span }).write setting).on session =
        (node.write setting).on session) ∧
    ∀ (node old : Node) (path : Path) (children : List Child) (session : Session),
      node.at? path = some old → setting.resolve? old.tag old.span = some .source →
      ((node.replace path { old with children := children }).write setting).on session =
        (node.write setting).on session := by
  refine ⟨?_, ?_, ?_⟩
  · intro node session
    exact Node.write_congr node.visit_erased session
  · intro node old path rule span session found registered written
    exact Node.write_congr
      (Node.visit_replace_of_trimmed found (Node.trimmed_span registered written span)) session
  · intro node old path children session found copied
    exact Node.write_congr
      (Node.visit_replace_of_trimmed found (Node.trimmed_children copied children)) session

theorem stale_span_and_children_of_a_call_are_not_read :
    let call := Build.sourced "send" "foo(1)" 0 6
    let parameter : Node := ⟨.known .arg, [.atom (.symbol "a")], some ⟨⟨"(test)", "ab"⟩, 1, 5⟩⟩
    let list := Build.args [call, parameter]
    (list.write {}).on {} = (⟨"foo(1), a"⟩, none) ∧
    ((list.replace [1] { parameter with span := none }).write {}).on {} = (list.write {}).on {} ∧
    ((list.replace [0] { call with children := [.atom .nil, .node parameter] }).write {}).on {} =
      (list.write {}).on {} := by
  intro call parameter list
  have visited : list.visit {} = .text "foo(1), a" := rfl
  have written : (list.write {}).on {} = (⟨"foo(1), a"⟩, none) := by
    rw [list.yields {} {}, visited]
    rfl
  have isParameter : list.at? [1] = some parameter := rfl
  have isCall : list.at? [0] = some call := rfl
  have reads := rendering_reads_nothing_else {}
  exact ⟨written, reads.2.1 list parameter [1] .argument none {} isParameter rfl (by decide),
    reads.2.2 list call [0] [.atom .nil, .node parameter] {} isCall rfl⟩

-- Of a call only the span is left, and of a parameter only the name.
example :
    let call := Build.sourced "send" "foo(1)" 0 6
    let parameter := Build.arg "a"
    (Build.args [{ call with children := [.atom .nil] }, { parameter with span := call.span }]).erased {} =
      Build.args [call, parameter] := rfl

end RubyTree
