import RubyTree.Proofs.FailurePoint

/-!
Lists with a delimiter, and texts around other output. What stands before an item of a list are the texts of
the items before it, joined, whatever that item does and whatever follows. An item that fails ends the list,
so its own text is the last that is written; and what fails between two texts is not closed.
-/

namespace RubyTree

/-- The nodes render one by one, as these texts. -/
def RenderAs (setting : Setting) (nodes : List Node) (texts : List String) : Prop :=
  nodes.map (Node.renderWith setting) = texts.map .ok

/-- A node of the list is the first that fails. By itself it leaves a text and an error, and those before it
render. -/
structure FirstFailure (setting : Setting) (nodes : List Node) (index : Nat) (texts : List String)
    (left : String) (error : RenderError) : Prop where
  earlier : RenderAs setting (nodes.take index) texts
  failing : ∃ node, nodes[index]? = some node ∧ (node.write setting).on {} = (⟨left⟩, some error)

namespace Writing

variable {first : Writing Unit} {outcome : Outcome} {delimiter : String} {actions : List (Writing Unit)}

theorem joined_singleton (action : Writing Unit) : joined delimiter [action] = action := by
  simp [joined]

theorem joined_cons (nonempty : actions ≠ []) :
    joined delimiter (first :: actions) =
      first >>= fun _ => text delimiter >>= fun _ => joined delimiter actions := by
  obtain ⟨second, rest, rfl⟩ := List.exists_cons_of_ne_nil nonempty
  simp [joined]

theorem Yields.stop {error : RenderError} (start : first.Yields outcome)
    (failed : outcome.error = some error) (second : Writing Unit) :
    Yields (first >>= fun _ => second) outcome := by
  intro session
  rw [on_bind, start, failed]

theorem wrapped_on (opening closing : String) (content : Writing Unit) (session : Session) :
    (wrapped opening closing content).on session =
      match content.on ⟨session.output ++ opening⟩ with
      | (between, none) => (⟨between.output ++ closing⟩, none)
      | (between, some error) => (between, some error) := by
  unfold wrapped
  rw [on_bind, yields_text opening session]
  exact on_bind content (text closing) _

end Writing

section Lists

open Writing

variable {setting : Setting} {nodes : List Node} {texts : List String} {delimiter : String}

theorem Node.yields_rendered {node : Node} {text : String} (rendered : node.renderWith setting = .ok text) :
    (node.write setting).Yields (.text text) := by
  obtain ⟨passed, rfl⟩ := Node.renderWith_eq_ok_iff.mp rendered
  have whole : node.visit setting = .text (node.visit setting).written := by
    rw [Outcome.text, ← passed]
  exact whole ▸ node.yields setting

theorem RenderAs.yields_append {actions : List (Writing Unit)} {outcome : Outcome}
    (rendered : RenderAs setting nodes texts) (nonempty : actions ≠ [])
    (next : (joined delimiter actions).Yields outcome) :
    (joined delimiter (nodes.map (Node.write setting) ++ actions)).Yields
      ⟨delimiter.intercalate (texts ++ [outcome.written]), outcome.error⟩ := by
  induction nodes generalizing texts with
  | nil =>
    obtain rfl : texts = [] := by simpa [RenderAs] using rendered.symm
    simpa using next
  | cons node rest ih =>
    obtain ⟨text, more, rfl, own, others⟩ := List.map_eq_cons_iff.mp rendered.symm
    have tail := (yields_text delimiter).andThen (ih others.symm)
    have whole := (Node.yields_rendered own.symm).andThen tail
    rw [List.map_cons, List.cons_append, joined_cons (by simp [nonempty])]
    rw [List.cons_append, String.intercalate_cons_of_ne_nil (by simp), String.append_assoc]
    exact whole

theorem RenderAs.yields (rendered : RenderAs setting nodes texts) :
    (joined delimiter (nodes.map (Node.write setting))).Yields (.text (delimiter.intercalate texts)) := by
  rcases List.eq_nil_or_concat nodes with rfl | ⟨before, last, rfl⟩
  · obtain rfl : texts = [] := by simpa [RenderAs] using rendered.symm
    exact yields_pure
  · rw [RenderAs, List.concat_eq_append, List.map_append] at rendered
    obtain ⟨earlier, ends, rfl, front, back⟩ := List.map_eq_append_iff.mp rendered.symm
    obtain ⟨text, rfl, own⟩ := List.map_eq_singleton_iff.mp back
    have final : (joined delimiter [last.write setting]).Yields (.text text) := by
      rw [joined_singleton]
      exact Node.yields_rendered own.symm
    rw [List.concat_eq_append, List.map_append]
    exact RenderAs.yields_append front.symm (by simp) final

/-- Anything may stand in the list after the node that fails. -/
theorem FirstFailure.yields {index : Nat} {left : String} {error : RenderError}
    (fails : FirstFailure setting nodes index texts left error) (others : List (Writing Unit)) :
    (joined delimiter ((nodes.take (index + 1)).map (Node.write setting) ++ others)).Yields
      ⟨delimiter.intercalate (texts ++ [left]), some error⟩ := by
  obtain ⟨node, found, alone⟩ := fails.failing
  have own : (node.visit setting).written = left ∧ (node.visit setting).error = some error := by
    simpa [node.yields setting {}] using alone
  have stops : (joined delimiter (node.write setting :: others)).Yields (node.visit setting) :=
    (node.yields setting).stop own.2 _
  have whole := fails.earlier.yields_append (by simp) stops
  rw [own.1, own.2] at whole
  rw [List.take_add_one, found, List.map_append, List.append_assoc]
  exact whole

theorem FirstFailure.length_texts {index : Nat} {left : String} {error : RenderError}
    (fails : FirstFailure setting nodes index texts left error) : texts.length = index := by
  obtain ⟨node, found, _⟩ := fails.failing
  obtain ⟨inside, _⟩ := List.getElem?_eq_some_iff.mp found
  have lengths := congrArg List.length fails.earlier
  simp only [List.length_map, List.length_take] at lengths
  omega

theorem renderAs_or_firstFailure (setting : Setting) (nodes : List Node) :
    (∃ texts, RenderAs setting nodes texts) ∨
      ∃ index texts left error, FirstFailure setting nodes index texts left error := by
  induction nodes with
  | nil => exact .inl ⟨[], rfl⟩
  | cons node rest ih =>
    cases own : node.renderWith setting with
    | error error =>
      have failed := Node.renderWith_eq_error_iff.mp own
      refine .inr ⟨0, [], (node.visit setting).written, error, rfl, node, rfl, ?_⟩
      simp [node.yields setting {}, failed]
    | ok text =>
      rcases ih with ⟨texts, rendered⟩ | ⟨index, texts, left, error, fails⟩
      · exact .inl ⟨text :: texts, congrArg₂ List.cons own rendered⟩
      · exact .inr ⟨index + 1, text :: texts, left, error, congrArg₂ List.cons own fails.earlier,
          fails.failing⟩

end Lists

theorem Script.wrapped_on {setting : Setting} {content : Script} {between : String}
    {error : Option RenderError} (alone : (content.perform setting).on {} = (⟨between⟩, error))
    (opening closing : String) (session : Session) :
    (Writing.wrapped opening closing (content.perform setting)).on session =
      (⟨session.output ++ (opening ++ between ++ if error = none then closing else "")⟩, error) := by
  obtain ⟨rfl, rfl⟩ : (content.outcome setting).written = between ∧
      (content.outcome setting).error = error := by
    simpa [content.yields setting {}] using alone
  rw [Writing.wrapped_on, content.yields setting ⟨_⟩]
  cases (content.outcome setting).error <;> simp [String.append_assoc]

/-- A list of nodes with a delimiter, into any session. If all nodes render, their texts are added with the
delimiter between them. If not, then one is the first that fails: the texts of the nodes before it are added
in the same way, then a delimiter unless it is the first of all, then what it writes by itself before it
fails; its error is that of the list, and nothing that stands behind it in the list has any effect.

A text in front of other output is always added, and one behind it exactly if that output does not fail,
whatever action it comes from. -/
theorem delimited_output_is_exact (setting : Setting) (session : Session) :
    (∀ (nodes : List Node) (delimiter : String),
      ((∃ texts, RenderAs setting nodes texts) ∨
        ∃ index texts left error, FirstFailure setting nodes index texts left error) ∧
      (∀ texts, RenderAs setting nodes texts →
        ((Step.delimited nodes delimiter).perform setting).on session =
          (⟨session.output ++ delimiter.intercalate texts⟩, none)) ∧
      ∀ index texts left error, FirstFailure setting nodes index texts left error →
        ((Step.delimited nodes delimiter).perform setting).on session =
          (⟨session.output ++ (delimiter.intercalate texts ++
            (if 0 < index then delimiter else "") ++ left)⟩, some error) ∧
        ∀ others : List (Writing Unit),
          (Writing.joined delimiter
              ((nodes.take (index + 1)).map (Node.write setting) ++ others)).on session =
            ((Step.delimited nodes delimiter).perform setting).on session) ∧
    (∀ (opening closing : String) (content : Writing Unit),
      (Writing.wrapped opening closing content).on session =
        match content.on ⟨session.output ++ opening⟩ with
        | (between, none) => (⟨between.output ++ closing⟩, none)
        | (between, some error) => (between, some error)) ∧
    ∀ (opening closing : String) (content : Script) (between : String) (error : Option RenderError),
      (content.perform setting).on {} = (⟨between⟩, error) →
      ((Step.wrapped opening closing content).perform setting).on session =
        (⟨session.output ++ (opening ++ between ++ if error = none then closing else "")⟩, error) ∧
      ((Step.parentheses content).perform setting).on session =
        (⟨session.output ++ ("(" ++ between ++ if error = none then ")" else "")⟩, error) := by
  refine ⟨fun nodes delimiter => ⟨renderAs_or_firstFailure setting nodes, ?_, ?_⟩,
    fun opening closing content => Writing.wrapped_on opening closing content session, ?_⟩
  · intro texts rendered
    exact rendered.yields session
  · intro index texts left error fails
    have whole : ((Step.delimited nodes delimiter).perform setting).on session =
        (⟨session.output ++ delimiter.intercalate (texts ++ [left])⟩, some error) := by
      have split : nodes.map (Node.write setting) =
          (nodes.take (index + 1)).map (Node.write setting) ++
            (nodes.drop (index + 1)).map (Node.write setting) := by
        rw [← List.map_append, List.take_append_drop]
      rw [Step.perform, split]
      exact fails.yields _ session
    refine ⟨?_, fun others => (fails.yields others session).trans whole.symm⟩
    rw [whole, intercalate_concat, fails.length_texts]
  · intro opening closing content between error alone
    exact ⟨Script.wrapped_on alone opening closing session, Script.wrapped_on alone "(" ")" session⟩

/-- A default that has no rule, in a list and between parentheses: neither is finished. -/
theorem failing_default_ends_the_list :
    let call := Build.node "send" []
    let nodes := [Build.arg "a", Build.optarg "x" call, Build.arg "b"]
    FirstFailure {} nodes 1 ["a"] "x = " (.unhandled (.other "send")) ∧
    ((Step.delimited nodes "; ").perform {}).on ⟨"f "⟩ =
      (⟨"f a; x = "⟩, some (.unhandled (.other "send"))) ∧
    ((Step.parentheses (.visits nodes)).perform {}).on ⟨"f "⟩ =
      (⟨"f (ax = "⟩, some (.unhandled (.other "send"))) := by
  intro call nodes
  have fails : FirstFailure {} nodes 1 ["a"] "x = " (.unhandled (.other "send")) :=
    ⟨rfl, Build.optarg "x" call, rfl, rfl⟩
  have alone : ((Script.visits nodes).perform {}).on {} =
      (⟨"ax = "⟩, some (.unhandled (.other "send"))) := rfl
  obtain ⟨lists, _, texts⟩ := delimited_output_is_exact {} ⟨"f "⟩
  exact ⟨fails, ((lists nodes "; ").2.2 _ _ _ _ fails).1, (texts "" "" _ _ _ alone).2⟩

end RubyTree
