import RubyTree.RenderError

/-!
The effect of writing: some text, and the error that cut it short, if one did.
-/

namespace RubyTree

structure Outcome where
  written : String
  error : Option RenderError
  deriving DecidableEq, Repr

namespace Outcome

def text (value : String) : Outcome := ⟨value, none⟩

def failed (error : RenderError) : Outcome := ⟨"", some error⟩

/-- One after the other; what follows an error does not happen. -/
def andThen (first second : Outcome) : Outcome :=
  match first.error with
  | some _ => first
  | none => ⟨first.written ++ second.written, second.error⟩

def sequence : List Outcome → Outcome
  | [] => text ""
  | first :: rest => first.andThen (sequence rest)

def joined (delimiter : String) : List Outcome → Outcome
  | [] => text ""
  | first :: rest => first.andThen (sequence (rest.map (text delimiter).andThen))

/-- Between two texts; the second is written only if nothing failed before it. -/
def wrapped (opening closing : String) (content : Outcome) : Outcome :=
  (text opening).andThen (content.andThen (text closing))

def result (outcome : Outcome) : Except RenderError String :=
  match outcome.error with
  | some error => .error error
  | none => .ok outcome.written

end Outcome

end RubyTree
