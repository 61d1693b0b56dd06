import RubyTree.Yaml.BlockScalar
import RubyTree.Yaml.TagName

/-!
The tokens of a YAML text. Those that open and close block collections stand for changes of indentation,
and that of a key may stand for nothing but the colon after it.
-/

namespace RubyTree

namespace Yaml

inductive Directive where
  | version (major minor : Nat)
  /-- A handle and the text that it stands for. -/
  | handle (name : String) (meaning : Octets)
  deriving DecidableEq, Repr

inductive Token where
  | directive (value : Directive)
  | documentStart
  | documentEnd
  | blockSequence
  | blockMapping
  | blockEnd
  | flowSequence
  | flowSequenceEnd
  | flowMapping
  | flowMappingEnd
  | blockEntry
  | flowEntry
  | key
  | value
  | anchor (name : String)
  | reference (name : String)
  | tag (name : TagName)
  | scalar (value : Scalar)
  deriving DecidableEq, Repr

def Token.directive? : Token → Option Directive
  | .directive content => some content
  | _ => none

/-- Whether a token can come after a document, or between its start and that of the next one. -/
def Token.endsDocument : Token → Bool
  | .directive _ | .documentStart | .documentEnd => true
  | _ => false

section Directives

/-- A part of a version number, of at most nine digits. -/
def versionPart? (place : Place) : Option (Nat × Place) :=
  let (digits, after) := place.span Char.isDigit
  if digits.isEmpty || 9 < digits.length then none else some (Nat.ofDigitChars 10 digits 0, after)

def version? (place : Place) : Option (Directive × Place) := do
  let (major, after) ← versionPart? place.skipBlanks
  if after.rest.head? == some '.' then
    let (minor, after) ← versionPart? (after.skip 1)
    some (.version major minor, after)
  else none

def handleMeaning? (place : Place) : Option (Directive × Place) := do
  let place := place.skipBlanks
  if place.rest.head? == some '!' then
    let (name, closed, after) := handle place
    if (closed || name = "!") && after.rest.head?.any isBlank then
      let (meaning, after) ← suffix? true after.skipBlanks
      if endsWord after.rest.head? then some (.handle name meaning, after) else none
    else none
  else none

def readDirective? (place : Place) : Option (Directive × Place) := do
  let (name, after) := (place.skip 1).span isNameChar
  let (directive, after) ←
    if !endsWord after.rest.head? then none
    else if name = "YAML".toList then version? after
    else if name = "TAG".toList then handleMeaning? after
    else none
  some (directive, ← after.skipLine?)

end Directives

def anchorName? (place : Place) : Option (String × Place) :=
  let (name, after) := (place.skip 1).span isNameChar
  let ends := endsWord after.rest.head? || after.rest.head?.any fun c => "?:,]\x7d%@`".toList.contains c
  if name.isEmpty || !ends then none else some (String.ofList name, after)

end Yaml

end RubyTree
