import RubyTree.Build
import RubyTree.Proofs.SettingChange

/-!
Relaxing the config. Wrappers may be allowed to hold several nodes, and nodes without a rule to be copied
from their source. This keeps every text, and it overlooks only two sorts of faults.
-/

namespace RubyTree

/-- Nothing differs except that wrappers may now hold several nodes, or that nodes without a rule may now
be copied from their source, or both. -/
structure Config.Relaxes (relaxed strict : Config) : Prop where
  policy : relaxed.beginPolicy = strict.beginPolicy ∨
    strict.beginPolicy = .strict ∧ relaxed.beginPolicy = .firstChild
  fallback : relaxed.sourceFallback = strict.sourceFallback ∨
    strict.sourceFallback = false ∧ relaxed.sourceFallback = true
  verbatim : relaxed.verbatimTags = strict.verbatimTags

/-- The faults of a node that a relaxed config may overlook. -/
inductive Node.Forgivable (book : RuleBook) (node : Node) : RenderError → Prop
  /-- It has no rule, but a span to be copied from. -/
  | unhandled (unregistered : book.lookup? node.tag = none) (located : node.span.isSome = true) :
    Forgivable book node (.unhandled node.tag)
  /-- It is a wrapper of several children. -/
  | severalBodies (registered : book.lookup? node.tag = some .begin)
    (several : 2 ≤ node.children.length) :
    Forgivable book node (.malformed node.tag (.severalBodies node.children.length))

theorem Rule.fault?_policy {rule : Rule} {outline : Outline}
    (plain : rule = .begin → outline.length < 2) (policy policy' : BeginPolicy) (span : Option Span) :
    rule.fault? policy span outline = rule.fault? policy' span outline := by
  cases rule
  case begin =>
    have few := plain rfl
    rcases outline with _ | ⟨_, _ | ⟨_, _⟩⟩
    · rfl
    · rfl
    · simp only [List.length_cons] at few
      omega
  all_goals rfl

theorem Outline.bodyFault?_strict (outline : Outline) (several : 2 ≤ outline.length) :
    bodyFault? .strict outline = some (.severalBodies outline.length) := by
  rcases outline with _ | ⟨_, _ | ⟨_, _⟩⟩
  · simp at several
  · simp at several
  · rfl

variable {strict relaxed : Config}

theorem Config.Relaxes.fault?_of_resolve (relaxes : relaxed.Relaxes strict) {book : RuleBook}
    {node : Node} (same : Setting.resolve? ⟨book, relaxed⟩ node.tag node.span =
      Setting.resolve? ⟨book, strict⟩ node.tag node.span) :
    node.fault? ⟨book, relaxed⟩ = node.fault? ⟨book, strict⟩ ∨
      ∃ error, node.fault? ⟨book, strict⟩ = some error ∧ node.Forgivable book error := by
  cases resolved : Setting.resolve? ⟨book, strict⟩ node.tag node.span with
  | none => exact .inl ((Node.fault?_unresolved (same.trans resolved)).trans
      (Node.fault?_unresolved resolved).symm)
  | some rule =>
    rw [Node.fault?_resolved resolved, Node.fault?_resolved (same.trans resolved)]
    by_cases plain : rule = .begin → (node.children.map Child.outline).length < 2
    · exact .inl (congrArg _ (Rule.fault?_policy plain _ _ _))
    · obtain ⟨rfl, several⟩ := Classical.not_imp.mp plain
      rw [Nat.not_lt] at several
      rcases relaxes.policy with policy | ⟨strictly, _⟩
      · exact .inl (by rw [policy])
      · have fault := Outline.bodyFault?_strict _ several
        rw [List.length_map] at several fault
        refine .inr ⟨_, ?_, .severalBodies (Setting.lookup?_of_resolve? resolved (by decide)) several⟩
        simp only [Rule.fault?, strictly, fault, Option.map_some]

/-- A node that a relaxed config treats in another way has a forgivable fault. -/
theorem Config.Relaxes.own (relaxes : relaxed.Relaxes strict) (book : RuleBook) (node : Node) :
    (Setting.resolve? ⟨book, relaxed⟩ node.tag node.span =
        Setting.resolve? ⟨book, strict⟩ node.tag node.span ∧
      node.fault? ⟨book, relaxed⟩ = node.fault? ⟨book, strict⟩) ∨
    ∃ error, node.fault? ⟨book, strict⟩ = some error ∧ node.Forgivable book error := by
  by_cases same : Setting.resolve? ⟨book, relaxed⟩ node.tag node.span =
      Setting.resolve? ⟨book, strict⟩ node.tag node.span
  · exact (relaxes.fault?_of_resolve same).imp_left fun faults => ⟨same, faults⟩
  · -- Only a node without a rule can come to follow another one.
    right
    cases registered : book.lookup? node.tag with
    | some rule => simp [Setting.resolve?, registered] at same
    | none =>
      have unregistered (config : Config) : Setting.resolve? ⟨book, config⟩ node.tag node.span =
          if config.sourceFallback && node.span.isSome then some .source else none :=
        Setting.resolve?_unregistered registered node.span
      rw [unregistered, unregistered] at same
      rcases relaxes.fallback with fallback | ⟨off, on⟩
      · simp [fallback] at same
      · have located : node.span.isSome = true :=
          Option.isSome_iff_ne_none.mpr (by simpa [off, on] using same)
        have unresolved := (unregistered strict).trans (if_neg (by simp [off]))
        exact ⟨_, Node.fault?_unresolved unresolved, .unhandled registered located⟩

theorem Config.Relaxes.carriesOver (relaxes : relaxed.Relaxes strict) (book : RuleBook) (node : Node) :
    node.CarriesOver ⟨book, strict⟩ ⟨book, relaxed⟩ := by
  intro passes
  rcases relaxes.own book node with ⟨same, faults⟩ | ⟨error, fault, _⟩
  · exact ⟨faults.trans passes, same⟩
  · simp [passes] at fault

theorem Config.Relaxes.forgiven (relaxes : relaxed.Relaxes strict) {book : RuleBook}
    {node failing : Node} {path : Path} {error : RenderError}
    (stops : node.StopsAt ⟨book, strict⟩ path failing error)
    (passed : (node.visit ⟨book, relaxed⟩).error = none) : failing.Forgivable book error := by
  have fault := stops.failsFirstAt.fault
  rcases relaxes.own book failing with ⟨_, faults⟩ | ⟨error', fault', forgivable⟩
  · have carries : ∀ below ∈ node.nodes, below.CarriesOver ⟨book, strict⟩ ⟨book, relaxed⟩ :=
      fun below _ => relaxes.carriesOver book below
    have fails := (stops.carried carries (faults.trans fault)).1.visit_error
    simp [passed] at fails
  · obtain rfl : error = error' := by simpa [fault] using fault'
    exact forgivable

/-- A text that a tree has under some config is also its text under a relaxed one. If a tree fails under
the first config and has a text under the second, then the first node in the order of the visit that
fails under the first config has no rule but a span, or is a wrapper of two or more children, and this is
the error. -/
theorem relaxing_keeps_every_text (book : RuleBook) (strict relaxed : Config)
    (relaxes : relaxed.Relaxes strict) (node : Node) :
    (∀ text, node.renderWith ⟨book, strict⟩ = .ok text →
      node.renderWith ⟨book, relaxed⟩ = .ok text) ∧
    ∀ error text, node.renderWith ⟨book, strict⟩ = .error error →
      node.renderWith ⟨book, relaxed⟩ = .ok text →
      ∃ path failing, node.FailsFirstAt ⟨book, strict⟩ path failing error ∧
        failing.Forgivable book error := by
  constructor
  · intro text rendered
    obtain ⟨passed, written⟩ := Node.renderWith_eq_ok_iff.mp rendered
    have same := Node.visit_of_carried (fun below _ => relaxes.carriesOver book below) passed
    exact Node.renderWith_eq_ok_iff.mpr (by rw [same]; exact ⟨passed, written⟩)
  · intro error text failed rendered
    obtain ⟨path, failing, stops⟩ := Node.exists_stopsAt (Node.renderWith_eq_error_iff.mp failed)
    exact ⟨path, failing, stops.failsFirstAt,
      relaxes.forgiven stops (Node.renderWith_eq_ok_iff.mp rendered).1⟩

def wrappedCall : Node :=
  Build.args [Build.arg "a", Build.begin [Build.sourced "send" "foo(1)" 0 6, Build.arg "b"]]

theorem wrapped_call_is_forgiven :
    let strict : Config := { sourceFallback := false }
    let relaxed : Config := { beginPolicy := .firstChild }
    relaxed.Relaxes strict ∧
    (Build.begin [Build.arg "a"]).renderWith ⟨.builtin, strict⟩ = .ok "a" ∧
    (Build.begin [Build.arg "a"]).renderWith ⟨.builtin, relaxed⟩ = .ok "a" ∧
    wrappedCall.renderWith ⟨.builtin, strict⟩ = .error (.malformed (.known .begin) (.severalBodies 2)) ∧
    wrappedCall.renderWith ⟨.builtin, relaxed⟩ = .ok "a, foo(1)" ∧
    ∃ path failing,
      wrappedCall.FailsFirstAt ⟨.builtin, strict⟩ path failing
        (.malformed (.known .begin) (.severalBodies 2)) ∧
      failing.Forgivable .builtin (.malformed (.known .begin) (.severalBodies 2)) := by
  intro strict relaxed
  have relaxes : relaxed.Relaxes strict := ⟨.inr ⟨rfl, rfl⟩, .inr ⟨rfl, rfl⟩, rfl⟩
  have kept := (relaxing_keeps_every_text .builtin strict relaxed relaxes (Build.begin [Build.arg "a"])).1
  have forgiven := (relaxing_keeps_every_text .builtin strict relaxed relaxes wrappedCall).2
  exact ⟨relaxes, rfl, kept "a" rfl, rfl, rfl, forgiven _ "a, foo(1)" rfl rfl⟩

end RubyTree
