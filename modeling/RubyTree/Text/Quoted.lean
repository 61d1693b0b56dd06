/-!
Double-quoted Ruby string literals. Everything is written as it stands except quotes, backslashes,
control characters, and a `#` that would begin an interpolation.
-/

namespace RubyTree

namespace Text

/-- The control characters, which a literal may not hold as they are. -/
def isControl (c : Char) : Bool :=
  c.toNat < 0x20 || (0x7f ≤ c.toNat && c.toNat < 0xa0)

/-- A code point between braces, as both string literals and messages write it. -/
def codePoint (c : Char) : List Char :=
  ['\\', 'u', '{'] ++ Nat.toDigits 16 c.toNat ++ ['}']

/-- After `#`, each of these would begin an interpolation. -/
def opensInterpolation (next : Option Char) : Bool :=
  next == some '{' || next == some '@' || next == some '$'

def quotedChar (c : Char) (next : Option Char) : List Char :=
  match c with
  | '\\' => ['\\', '\\']
  | '"' => ['\\', '"']
  | '\n' => ['\\', 'n']
  | '\t' => ['\\', 't']
  | '\r' => ['\\', 'r']
  | '\x1b' => ['\\', 'e']
  | '#' => if opensInterpolation next then ['\\', '#'] else ['#']
  | c => if isControl c then codePoint c else [c]

def quotedChars : List Char → List Char
  | [] => []
  | c :: rest => quotedChar c rest.head? ++ quotedChars rest

def quoted (text : String) : String :=
  String.ofList ('"' :: quotedChars text.toList ++ ['"'])

end Text

end RubyTree
