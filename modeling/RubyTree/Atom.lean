import RubyTree.Decimal.Layout
import RubyTree.Text.Described

/-!
Leaf values of a tree.
-/

namespace RubyTree

/-- A leaf value. Integers beyond 64 bits are kept as the decimal text that was given for them. -/
inductive Atom where
  | symbol (name : String)
  | str (text : String)
  | integer (value : Int64)
  | bigInteger (numeral : String)
  | float (value : Binary64)
  | nil
  deriving DecidableEq, Repr

def Atom.text : Atom → String
  | .symbol name => name
  | .str text => text
  | .integer value => Numeral.ofInt value.toInt
  | .bigInteger numeral => numeral
  | .float value => value.text .literal
  | .nil => ""

def Atom.described : Atom → String
  | .symbol name => "Symbol(" ++ Text.described name ++ ")"
  | .str text => "Str(" ++ Text.described text ++ ")"
  | .integer value => "Integer(" ++ Numeral.ofInt value.toInt ++ ")"
  | .bigInteger numeral => "BigInteger(" ++ Text.described numeral ++ ")"
  | .float value => "Float(" ++ value.text .literal ++ ")"
  | .nil => "Nil"

/-- Equality of atoms, where doubles are equal as numbers. -/
def Atom.same : Atom → Atom → Bool
  | .float x, .float y => x.same y
  | a, b => a == b

end RubyTree
