import RubyTree.Proofs.CheckThenPrint
import RubyTree.Session

/-!
Sessions against the visits of single nodes. What an action does is told by an outcome: a text that it
adds to whatever is there, and the error it ends with. No step looks at the text written before it, so
every step does the same wherever it stands, also after one that failed.
-/

namespace RubyTree

variable {α : Type}

namespace Writing

theorem on_bind (first second : Writing Unit) (session : Session) :
    (first >>= fun _ => second).on session =
      match first.on session with
      | (between, none) => second.on between
      | (between, some error) => (between, some error) := by
  unfold on
  simp only [ExceptT.run_bind, StateT.run_bind]
  rcases first.run.run session with ⟨_ | _, between⟩ <;> rfl

/-- The error of an attempt is handed on, and the text written before it stays. -/
theorem on_attempt_bind (first : Writing Unit) (next : Option RenderError → Writing Unit)
    (session : Session) :
    (first.attempt >>= next).on session = (next (first.on session).2).on (first.on session).1 := by
  have result : first.attempt.run.run session =
      (.ok (first.on session).2, (first.on session).1) := by
    unfold attempt on
    simp only [ExceptT.run_tryCatch, ExceptT.run_bind, StateT.run_bind]
    rcases first.run.run session with ⟨_ | _, between⟩ <;> rfl
  unfold on at result ⊢
  simp only [ExceptT.run_bind, StateT.run_bind, result]
  rfl

/-- The action adds the text of the outcome to any session, and ends as the outcome does. -/
def Yields (action : Writing Unit) (outcome : Outcome) : Prop :=
  ∀ session : Session, action.on session = (⟨session.output ++ outcome.written⟩, outcome.error)

variable {first second : Writing Unit} {before after : Outcome}

theorem yields_text (value : String) : (text value).Yields (.text value) := fun _ => rfl

theorem yields_pure : Yields (pure ()) (.text "") := by
  intro session
  show (session, none) = _
  simp [Outcome.text]

theorem yields_throw (error : RenderError) : Yields (throw error) (.failed error) := by
  intro session
  show (session, some error) = _
  simp [Outcome.failed]

theorem Yields.andThen (start : first.Yields before) (next : second.Yields after) :
    Yields (first >>= fun _ => second) (before.andThen after) := by
  intro session
  rw [on_bind, start]
  cases fault : before.error with
  | none => simp only [next ⟨_⟩, Outcome.andThen, fault, String.append_assoc]
  | some error => simp [Outcome.andThen, fault]

/-- The next action is chosen by how the first one ended, and is performed in either case. -/
theorem Yields.attempt {next : Option RenderError → Writing Unit} (start : first.Yields before)
    (go : (next before.error).Yields after) :
    Yields (first.attempt >>= next) ⟨before.written ++ after.written, after.error⟩ := by
  intro session
  rw [on_attempt_bind, start, go]
  simp [String.append_assoc]

theorem yields_forM {action : α → Writing Unit} {outcome : α → Outcome} {items : List α}
    (each : ∀ item ∈ items, (action item).Yields (outcome item)) :
    Yields (items.forM action) (.sequence (items.map outcome)) := by
  induction items with
  | nil => exact yields_pure
  | cons item rest ih =>
    exact (each item (by simp)).andThen (ih fun other member => each other (by simp [member]))

theorem yields_joined {action : α → Writing Unit} {outcome : α → Outcome} (delimiter : String)
    (each : ∀ item, (action item).Yields (outcome item)) (items : List α) :
    (joined delimiter (items.map action)).Yields (.joined delimiter (items.map outcome)) := by
  cases items with
  | nil => exact yields_pure
  | cons item rest =>
    refine (each item).andThen ?_
    rw [List.forM_eq_forM, List.forM_map, List.map_map]
    exact yields_forM fun other _ => (yields_text delimiter).andThen (each other)

theorem Yields.wrapped (opening closing : String) (content : first.Yields before) :
    (Writing.wrapped opening closing first).Yields (.wrapped opening closing before) :=
  (yields_text opening).andThen (content.andThen (yields_text closing))

end Writing

section Nodes

open Writing

theorem writtenSlots_eq_map (setting : Setting) (children : List Child) :
    writtenSlots setting children = children.map (Child.slot (Node.write setting)) := by
  induction children with
  | nil => rfl
  | cons child rest ih => cases child <;> simp [writtenSlots, Child.slot, ih]

def Piece.writeNode (setting : Setting) : Piece Node → Writing Unit
  | .text value => .text value
  | .child node => node.write setting

theorem Node.write_eq (setting : Setting) (node : Node) :
    node.write setting =
      match node.fault? setting with
      | some error => throw error
      | none => (node.pieces setting).forM (Piece.writeNode setting) := by
  have actions : Piece.writeNode setting = Piece.write ∘ Piece.map (Node.write setting) := by
    funext piece
    cases piece <;> rfl
  have outlines : Slot.outline ∘ Child.slot (Node.write setting) = Child.outline := by
    funext child
    cases child <;> rfl
  have pieces := pieces_slots setting node (Node.write setting)
  obtain ⟨tag, children, span⟩ := node
  simp only [Node.write, Setting.arrange_eq, writtenSlots_eq_map, List.map_map, outlines, Node.fault?,
    actions]
  cases setting.fault? tag span (children.map Child.outline) with
  | some error => rfl
  | none =>
    show List.forM (setting.pieces tag span (children.map (Child.slot (Node.write setting)))) _ = _
    rw [pieces, List.forM_eq_forM, List.forM_map]
    rfl

/-- Writing a node into a session is visiting it by itself. -/
theorem Node.yields (setting : Setting) (node : Node) :
    (node.write setting).Yields (node.visit setting) := by
  induction node using Node.induction with
  | step node ih =>
    rw [Node.write_eq, Node.visit_eq]
    cases node.fault? setting with
    | some error => exact yields_throw error
    | none =>
      refine yields_forM fun piece member => ?_
      cases piece with
      | text value => exact yields_text value
      | child child =>
        have visited : child ∈ node.visited setting := List.mem_filterMap.mpr ⟨_, member, rfl⟩
        exact ih child (Node.mem_children_of_mem_visited visited)

end Nodes

section Steps

mutual

/-- What a step writes and how it ends, wherever in a session it stands. -/
def Step.outcome (setting : Setting) : Step → Outcome
  | .write text => .text text
  | .writeAll parts => .sequence (parts.map .text)
  | .visit node => node.visit setting
  | .delimited nodes delimiter => .joined delimiter (nodes.map (Node.visit setting))
  | .list atoms delimiter => .joined delimiter (atoms.map fun atom => .text atom.text)
  | .parentheses content => .wrapped "(" ")" (content.outcome setting)
  | .wrapped opening closing content => .wrapped opening closing (content.outcome setting)
  | .atom value => .text value.text
  | .maybeNode node => (node.map (Node.visit setting)).getD (.text "")
  | .maybeAtom value => .text ((value.map Atom.text).getD "")
  | .maybeText text => .text (text.getD "")

def Script.outcome (setting : Setting) : Script → Outcome
  | .finish none => .text ""
  | .finish (some error) => .failed error
  | .andThen step next =>
    let first := step.outcome setting
    let rest := (next first.error).outcome setting
    ⟨first.written ++ rest.written, rest.error⟩

end

open Writing

mutual

theorem Step.yields (setting : Setting) : ∀ step : Step,
    (step.perform setting).Yields (step.outcome setting)
  | .write text => yields_text text
  | .writeAll _ => yields_forM fun part _ => yields_text part
  | .visit node => node.yields setting
  | .delimited nodes delimiter => yields_joined delimiter (Node.yields setting) nodes
  | .list atoms delimiter => yields_joined delimiter (fun atom : Atom => yields_text atom.text) atoms
  | .parentheses content => (content.yields setting).wrapped "(" ")"
  | .wrapped opening closing content => (content.yields setting).wrapped opening closing
  | .atom value => yields_text value.text
  | .maybeNode none | .maybeAtom none | .maybeText none => yields_pure
  | .maybeNode (some node) => node.yields setting
  | .maybeAtom (some value) => yields_text value.text
  | .maybeText (some text) => yields_text text

theorem Script.yields (setting : Setting) : ∀ script : Script,
    (script.perform setting).Yields (script.outcome setting)
  | .finish none => yields_pure
  | .finish (some error) => yields_throw error
  | .andThen step next => (step.yields setting).attempt ((next _).yields setting)

end

def Step.alone (setting : Setting) (step : Step) : Session × Option RenderError :=
  (step.perform setting).on {}

theorem Step.alone_eq (setting : Setting) (step : Step) :
    step.alone setting = (⟨(step.outcome setting).written⟩, (step.outcome setting).error) := by
  simpa [Step.alone] using step.yields setting {}

theorem Step.perform_on (setting : Setting) (step : Step) (session : Session) :
    (step.perform setting).on session =
      (⟨session.output ++ (step.alone setting).1.output⟩, (step.alone setting).2) := by
  rw [step.yields setting session, step.alone_eq]

def separateOutputs (setting : Setting) (steps : List Step) : String :=
  String.join (steps.map fun step => (step.alone setting).1.output)

theorem separateOutputs_cons (setting : Setting) (step : Step) (rest : List Step) :
    separateOutputs setting (step :: rest) =
      (step.alone setting).1.output ++ separateOutputs setting rest := by
  simp [separateOutputs]

theorem Session.run_eq_mapIdx (setting : Setting) (session : Session) (steps : List Step) :
    session.run setting steps =
      steps.mapIdx fun index step =>
        (⟨session.output ++ separateOutputs setting (steps.take (index + 1))⟩,
          (step.alone setting).2) := by
  induction steps generalizing session with
  | nil => rfl
  | cons step rest ih =>
    simp only [Session.run, step.perform_on, ih, List.mapIdx_cons, List.take_succ_cons,
      separateOutputs_cons, String.append_assoc]
    simp [separateOutputs]

theorem Session.output_run (setting : Setting) (session : Session) (steps : List Step) :
    ((session.run setting steps).map fun (after, _) => after.output).getLastD session.output =
      session.output ++ separateOutputs setting steps := by
  induction steps generalizing session with
  | nil => simp [Session.run, separateOutputs]
  | cons step rest ih =>
    simp only [Session.run, step.perform_on, List.map_cons, List.getLastD_cons, ih,
      separateOutputs_cons, String.append_assoc]

end Steps

/-- A step adds to the text and never changes what is there. What it adds and how it ends is the same as
for that step alone, whatever was done before it and however that ended. So after any number of steps
the text is what they write separately, put together. -/
theorem session_steps_are_independent (setting : Setting) :
    (∀ (step : Step) (session : Session),
      (step.perform setting).on session =
        (⟨session.output ++ (step.alone setting).1.output⟩, (step.alone setting).2)) ∧
    (∀ (session : Session) (steps : List Step),
      session.run setting steps =
        steps.mapIdx fun index step =>
          (⟨session.output ++ separateOutputs setting (steps.take (index + 1))⟩,
            (step.alone setting).2)) ∧
    ∀ (session : Session) (steps : List Step),
      ((session.run setting steps).map fun (after, _) => after.output).getLastD session.output =
        session.output ++ separateOutputs setting steps :=
  ⟨Step.perform_on setting, Session.run_eq_mapIdx setting, Session.output_run setting⟩

end RubyTree
