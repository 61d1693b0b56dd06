import RubyTree.Text.Quoted
import RubyTree.Text.Unprintable

/-!
Texts in messages: between quotes, with every character visible.
-/

namespace RubyTree

namespace Text

def describedChar (c : Char) : List Char :=
  match c with
  | '\x00' => ['\\', '0']
  | '\t' => ['\\', 't']
  | '\r' => ['\\', 'r']
  | '\n' => ['\\', 'n']
  | '"' => ['\\', '"']
  | '\\' => ['\\', '\\']
  | c => if isUnprintable c then codePoint c else [c]

def described (text : String) : String :=
  String.ofList ('"' :: text.toList.flatMap describedChar ++ ['"'])

end Text

end RubyTree
