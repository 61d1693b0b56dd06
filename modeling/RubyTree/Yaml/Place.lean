/-!
Places in a YAML text, and the characters that matter between its words. Line breaks are single
characters here; `Yaml.normalised` makes them so.
-/

namespace RubyTree

namespace Yaml

def isBlank (c : Char) : Bool := c == ' ' || c == '\t'

/-- The line breaks of a text in which all ordinary ones are line feeds. -/
def isBreak (c : Char) : Bool := c == '\n' || c == '\u2028' || c == '\u2029'

def endsWord : Option Char → Bool
  | none => true
  | some c => isBlank c || isBreak c

def isNameChar (c : Char) : Bool := c.isAlphanum || c == '_' || c == '-'

def isFlowMark (c : Char) : Bool := c == ',' || c == '[' || c == ']' || c == '{' || c == '}'

/-- Whether a line marks the end of a document or the start of the next. -/
def startsMarker : List Char → Bool
  | '-' :: '-' :: '-' :: rest => endsWord rest.head?
  | '.' :: '.' :: '.' :: rest => endsWord rest.head?
  | _ => false

/-- Writes every ordinary line break as a line feed. -/
def normalised : List Char → List Char
  | [] => []
  | '\r' :: '\n' :: rest => '\n' :: normalised rest
  | c :: rest => (if c == '\r' || c == '\u0085' then '\n' else c) :: normalised rest

def isAllowed (c : Char) : Bool :=
  c == '\t' || c == '\n' || c == '\r' || (0x20 ≤ c.toNat && c.toNat ≤ 0x7e) || c.toNat == 0x85 ||
    (0xa0 ≤ c.toNat && c.toNat ≤ 0xfffd) || 0x10000 ≤ c.toNat

structure Place where
  line : Nat
  column : Nat
  rest : List Char
  deriving DecidableEq, Repr

namespace Place

def skip (p : Place) (count : Nat) : Place := ⟨p.line, p.column + count, p.rest.drop count⟩

def skipBreak (p : Place) : Place :=
  match p.rest with
  | c :: rest => if isBreak c then ⟨p.line + 1, 0, rest⟩ else p
  | [] => p

def span (p : Place) (test : Char → Bool) : List Char × Place :=
  let taken := p.rest.takeWhile test
  (taken, p.skip taken.length)

def skipBlanks (p : Place) : Place := (p.span isBlank).2

/-- Passes over what is left of a line, which has to be blank or a comment, and its break. -/
def skipLine? (p : Place) : Option Place :=
  let p := p.skipBlanks
  let p := if p.rest.head? == some '#' then (p.span fun c => !isBreak c).2 else p
  if p.rest.head?.all isBreak then some p.skipBreak else none

end Place

end Yaml

end RubyTree
