import RubyTree.LoadError
import RubyTree.Node

/-!
Drafts: documents of the right shape whose node types, ranges and integers are still to be checked.
-/

namespace RubyTree

-- Powers of numbers are the core library's, also where other instances are in scope.
attribute [local instance (20000)] instPowNat

mutual

structure DraftNode where
  tag : String
  children : List DraftChild
  range : Option (Nat × Nat)

/-- A child: a node, an atom that needs no check, or an integer given by its numeral. -/
inductive DraftChild where
  | node (value : DraftNode)
  | atom (value : Atom)
  | integer (numeral : String)

end

structure Draft where
  source : Option String
  name : Option String
  root : DraftNode

/-- An integer is kept as such if it fits 64 bits, and by its numeral if it does not. -/
def Atom.ofNumeral (numeral : String) : Except LoadError Atom :=
  match Numeral.value? numeral.toList with
  | none => .error (.invalidInteger numeral)
  | some value =>
    if -2 ^ (63 : Nat) ≤ value && value < 2 ^ (63 : Nat) then .ok (.integer (Int64.ofInt value))
    else .ok (.bigInteger numeral)

/-- The span of a node in the document's source. It has to cover a text. -/
def checkRange (buffer : Option Buffer) (tag : Tag) :
    Option (Nat × Nat) → Except LoadError (Option Span)
  | none => .ok none
  | some (start, stop) =>
    match buffer with
    | none => .error (.missingSource tag)
    | some buffer =>
      let span : Span := ⟨buffer, start, stop⟩
      if span.text?.isSome then .ok (some span) else .error (.invalidRange start stop)

mutual

def DraftNode.check (buffer : Option Buffer) : DraftNode → Except LoadError Node
  | ⟨name, children, range⟩ => do
    let tag ← (Tag.parse name).mapError .invalidTag
    let span ← checkRange buffer tag range
    let children ← checkChildren buffer children
    return ⟨tag, children, span⟩

def checkChildren (buffer : Option Buffer) : List DraftChild → Except LoadError (List Child)
  | [] => .ok []
  | .node value :: rest => do
    let node ← value.check buffer
    return .node node :: (← checkChildren buffer rest)
  | .atom value :: rest => do
    return .atom value :: (← checkChildren buffer rest)
  | .integer numeral :: rest => do
    let atom ← Atom.ofNumeral numeral
    return .atom atom :: (← checkChildren buffer rest)

end

end RubyTree
