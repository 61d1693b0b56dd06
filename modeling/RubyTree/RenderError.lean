import RubyTree.Node

/-!
Why a tree has no text.
-/

namespace RubyTree

inductive Reason where
  | childCount (least most found : Nat)
  | missingChild (index : Nat)
  | expectedNode (index : Nat)
  | expectedAtom (index : Nat)
  | expectedName (index : Nat) (found : Atom)
  | expectedInteger (found : Atom)
  | expectedFloat (found : Atom)
  | nonFinite
  | noBody
  | severalBodies (found : Nat)
  | noSpan
  | outsideBuffer (span : Span)
  deriving DecidableEq, Repr

def Reason.message : Reason → String
  | .childCount least most found =>
    let expected :=
      if least = most then Numeral.ofNat least
      else Numeral.ofNat least ++ " to " ++ Numeral.ofNat most
    "expected " ++ expected ++ " children, found " ++ Numeral.ofNat found
  | .missingChild index => "missing child at index " ++ Numeral.ofNat index
  | .expectedNode index => "expected a node at index " ++ Numeral.ofNat index
  | .expectedAtom index => "expected an atom at index " ++ Numeral.ofNat index
  | .expectedName index found =>
    "expected a name at index " ++ Numeral.ofNat index ++ ", found " ++ found.described
  | .expectedInteger found => "expected an integer, found " ++ found.described
  | .expectedFloat found => "expected a float, found " ++ found.described
  | .nonFinite => "non-finite float"
  | .noBody => "expected a child, found none"
  | .severalBodies found => "expected exactly one child, found " ++ Numeral.ofNat found
  | .noSpan => "missing source range"
  | .outsideBuffer span => "source range " ++ span.described ++ " is outside the source buffer"

/-- A node without a rule, or one that its rule cannot write. -/
inductive RenderError where
  | unhandled (tag : Tag)
  | malformed (tag : Tag) (reason : Reason)
  deriving DecidableEq, Repr

def RenderError.tag : RenderError → Tag
  | .unhandled tag => tag
  | .malformed tag _ => tag

def RenderError.message : RenderError → String
  | .unhandled tag => "no emitter for node: " ++ tag.name
  | .malformed tag reason => "malformed `" ++ tag.name ++ "` node: " ++ reason.message

end RubyTree
