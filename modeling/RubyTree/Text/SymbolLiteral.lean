import RubyTree.Text.Quoted

/-!
Ruby symbol literals. A name that reads back after a colon stands bare; any other name is quoted.
-/

namespace RubyTree

namespace Text

def operators : List String :=
  ["+", "-", "*", "/", "%", "**", "==", "!=", "<", ">", "<=", ">=", "<=>", "===", "=~", "!~",
    "!", "[]", "[]=", "<<", ">>", "&", "|", "^", "~", "+@", "-@"]

/-- All of Unicode beyond ASCII counts as letters. -/
def startsIdentifier (c : Char) : Bool := c == '_' || c.isAlpha || 0x80 ≤ c.toNat

def continuesIdentifier (c : Char) : Bool := startsIdentifier c || c.isDigit

def isIdentifier : List Char → Bool
  | [] => false
  | c :: rest => startsIdentifier c && rest.all continuesIdentifier

/-- A method name without the mark that may end it. -/
def withoutMark (name : List Char) : List Char :=
  match name.getLast? with
  | some c => if c == '?' || c == '!' || c == '=' then name.dropLast else name
  | none => name

/-- Names of variables with their sigils, and names of methods with their marks. -/
def isBareName : List Char → Bool
  | '@' :: '@' :: name => isIdentifier name
  | '@' :: name => isIdentifier name
  | '$' :: name => isIdentifier name
  | name => isIdentifier (withoutMark name)

def isPlainSymbol (name : String) : Bool :=
  operators.contains name || isBareName name.toList

def symbolLiteral (name : String) : String :=
  if isPlainSymbol name then ":" ++ name else ":" ++ quoted name

end Text

end RubyTree
