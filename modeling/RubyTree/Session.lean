import RubyTree.Arrangement

/-!
Sessions: writing step by step. A step works on whatever was written before it. One that fails halfway
leaves what it has written, and the next step goes on from there.
-/

namespace RubyTree

structure Session where
  output : String := ""
  deriving DecidableEq, Repr

/-- An action on a session. An error does not undo what was written before it. -/
abbrev Writing := ExceptT RenderError (StateM Session)

namespace Writing

def text (value : String) : Writing Unit :=
  modify fun session => ⟨session.output ++ value⟩

def joined (delimiter : String) : List (Writing Unit) → Writing Unit
  | [] => pure ()
  | first :: rest => do
    first
    rest.forM fun item => do
      text delimiter
      item

def wrapped (opening closing : String) (content : Writing Unit) : Writing Unit := do
  text opening
  content
  text closing

/-- The error of an action, if it has one, as its result. -/
def attempt (action : Writing Unit) : Writing (Option RenderError) :=
  tryCatch (do action; return none) fun error => return some error

/-- The session that an action leaves, and the error that cut it short. -/
def on (action : Writing Unit) (session : Session) : Session × Option RenderError :=
  match action.run.run session with
  | (.ok _, session) => (session, none)
  | (.error error, session) => (session, some error)

end Writing

def Piece.write : Piece (Writing Unit) → Writing Unit
  | .text value => .text value
  | .child content => content

mutual

/-- Writes a node: it is laid out before anything is written, and then its pieces follow each other. -/
def Node.write (setting : Setting) : Node → Writing Unit
  | ⟨tag, children, span⟩ =>
    match setting.arrange tag span (writtenSlots setting children) with
    | .error error => throw error
    | .ok pieces => pieces.forM Piece.write

def writtenSlots (setting : Setting) : List Child → List (Slot (Writing Unit))
  | [] => []
  | .atom value :: rest => .atom value :: writtenSlots setting rest
  | .node value :: rest =>
    .node value.tag.isGroup (value.write setting) :: writtenSlots setting rest

end

mutual

inductive Step where
  | write (text : String)
  | writeAll (parts : List String)
  | visit (node : Node)
  | delimited (nodes : List Node) (delimiter : String)
  | list (atoms : List Atom) (delimiter : String)
  | parentheses (content : Script)
  | wrapped (opening closing : String) (content : Script)
  | atom (value : Atom)
  | maybeNode (node : Option Node)
  | maybeAtom (value : Option Atom)
  | maybeText (text : Option String)

/-- What is done between two texts: steps of any kind, where the next one may depend on how those before
it ended, and at last success or an error of any kind. -/
inductive Script where
  | finish (error : Option RenderError)
  | andThen (step : Step) (next : Option RenderError → Script)

end

def Script.visits : List Node → Script
  | [] => .finish none
  | node :: rest => .andThen (.visit node) fun
    | none => visits rest
    | some error => .finish (some error)

instance : Coe (List Node) Script := ⟨Script.visits⟩

def Step.comma : String := ", "

mutual

def Step.perform (setting : Setting) : Step → Writing Unit
  | .write text => .text text
  | .writeAll parts => parts.forM .text
  | .visit node => node.write setting
  | .delimited nodes delimiter => .joined delimiter (nodes.map (Node.write setting))
  | .list atoms delimiter => .joined delimiter (atoms.map fun atom => .text atom.text)
  | .parentheses content => .wrapped "(" ")" (content.perform setting)
  | .wrapped opening closing content => .wrapped opening closing (content.perform setting)
  | .atom value => .text value.text
  | .maybeNode node => node.forM (Node.write setting)
  | .maybeAtom value => value.forM fun atom => .text atom.text
  | .maybeText text => text.forM .text

def Script.perform (setting : Setting) : Script → Writing Unit
  | .finish none => pure ()
  | .finish (some error) => throw error
  | .andThen step next => do
    let error ← (step.perform setting).attempt
    (next error).perform setting

end

namespace Session

/-- Performs the steps in turn, and gives the session after each with the error of that step. -/
def run (setting : Setting) (session : Session) : List Step → List (Session × Option RenderError)
  | [] => []
  | step :: rest =>
    let (session, error) := (step.perform setting).on session
    (session, error) :: run setting session rest

end Session

end RubyTree
