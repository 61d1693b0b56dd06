import RubyTree.Text.Hex
import RubyTree.Yaml.Place

/-!
Scalars of a YAML text that are written in quotes or as they are, and how their lines are joined.
-/

namespace RubyTree

namespace Yaml

inductive Style where
  | plain
  | singleQuoted
  | doubleQuoted
  | literal
  | folded
  deriving DecidableEq, Repr

structure Scalar where
  text : String
  style : Style
  deriving DecidableEq, Repr

def Scalar.absent : Scalar := ⟨"", .plain⟩

section Gaps

/-- What stands between two words of a scalar: blanks, or line breaks with the blanks around them. The
first break is missing if it was escaped. -/
inductive Gap where
  | blanks (text : List Char)
  | breaks (first : Option Char) (more : List Char)
  deriving DecidableEq, Repr

namespace Gap

def none : Gap := .blanks []

/-- A line feed joins two lines by a space, and before further breaks it does not count. -/
def text : Gap → List Char
  | .blanks text => text
  | .breaks (some '\n') [] => [' ']
  | .breaks (some '\n') more => more
  | .breaks first more => first.toList ++ more

def addBlank (c : Char) : Gap → Gap
  | .blanks text => .blanks (text ++ [c])
  | gap => gap

def addBreak (c : Char) : Gap → Gap
  | .blanks _ => .breaks (some c) []
  | .breaks first more => .breaks first (more ++ [c])

def hasBreak : Gap → Bool
  | .blanks _ => false
  | .breaks _ _ => true

end Gap

def afterGap (gap : Gap) (c : Char) (rest : Option (List Char × Place)) : Option (List Char × Place) :=
  rest.map fun (text, place) => (gap.text ++ c :: text, place)

end Gaps

section Quoted

/-- A scalar in single quotes after the first of them; a quote inside is written twice. No line of it may
look like the end of the document. -/
def singleQuoted (gap : Gap) (line column : Nat) : List Char → Option (List Char × Place)
  | [] => none
  | '\'' :: '\'' :: rest => afterGap gap '\'' (singleQuoted .none line (column + 2) rest)
  | '\'' :: rest => some (gap.text, ⟨line, column + 1, rest⟩)
  | c :: rest =>
    if isBreak c then singleQuoted (gap.addBreak c) (line + 1) 0 rest
    else if isBlank c then singleQuoted (gap.addBlank c) line (column + 1) rest
    else if column == 0 && startsMarker (c :: rest) then none
    else afterGap gap c (singleQuoted .none line (column + 1) rest)

def escaped? : Char → Option Char
  | '0' => some '\x00'
  | 'a' => some '\x07'
  | 'b' => some '\x08'
  | 't' => some '\t'
  | '\t' => some '\t'
  | 'n' => some '\n'
  | 'v' => some '\x0b'
  | 'f' => some '\x0c'
  | 'r' => some '\r'
  | 'e' => some '\x1b'
  | ' ' => some ' '
  | '"' => some '"'
  | '/' => some '/'
  | '\\' => some '\\'
  | 'N' => some '\u0085'
  | '_' => some '\u00a0'
  | 'L' => some '\u2028'
  | 'P' => some '\u2029'
  | _ => none

def hexChar? (digits : List Char) : Option Char := do
  let code ← Hex.value? digits
  if code.isValidChar then some (Char.ofNat code) else none

/-- A scalar in double quotes after the first of them, with escapes. An escaped line break counts for
nothing. No line may look like the end of the document. -/
def doubleQuoted (gap : Gap) (line column : Nat) : List Char → Option (List Char × Place)
  | [] => none
  | '"' :: rest => some (gap.text, ⟨line, column + 1, rest⟩)
  | '\\' :: 'x' :: a :: b :: rest => do
    afterGap gap (← hexChar? [a, b]) (doubleQuoted .none line (column + 4) rest)
  | '\\' :: 'u' :: a :: b :: c :: d :: rest => do
    afterGap gap (← hexChar? [a, b, c, d]) (doubleQuoted .none line (column + 6) rest)
  | '\\' :: 'U' :: a :: b :: c :: d :: e :: f :: g :: h :: rest => do
    afterGap gap (← hexChar? [a, b, c, d, e, f, g, h]) (doubleQuoted .none line (column + 10) rest)
  | '\\' :: c :: rest =>
    if isBreak c then
      (doubleQuoted (.breaks none []) (line + 1) 0 rest).map fun (text, place) => (gap.text ++ text, place)
    else do
      afterGap gap (← escaped? c) (doubleQuoted .none line (column + 2) rest)
  | c :: rest =>
    if isBreak c then doubleQuoted (gap.addBreak c) (line + 1) 0 rest
    else if isBlank c then doubleQuoted (gap.addBlank c) line (column + 1) rest
    else if column == 0 && startsMarker (c :: rest) then none
    else afterGap gap c (doubleQuoted .none line (column + 1) rest)

end Quoted

section Plain

def startsPlain (flow : Bool) (c : Char) (next : Option Char) : Bool :=
  if c == '-' then !endsWord next
  else if c == '?' || c == ':' then !flow && !endsWord next
  else !(isBlank c || isBreak c || isFlowMark c || "#&*!|>'\"%@`".toList.contains c)

/-- A plain scalar, the gap after it and the place after that. It ends before a colon at the end of a word
and in flow style before a bracket or comma; and after a gap also before a comment, the end of the
document and, in block style, a line that starts before the column `margin`. No tab may stand before
that column. -/
def plain (flow : Bool) (margin : Nat) (gap : Gap) (line column : Nat) :
    List Char → Option (List Char × Gap × Place)
  | [] => some ([], gap, ⟨line, column, []⟩)
  | c :: rest =>
    let next := rest.head?
    if isBreak c then plain flow margin (gap.addBreak c) (line + 1) 0 rest
    else if isBlank c then
      if c == '\t' && gap.hasBreak && column < margin then none
      else plain flow margin (gap.addBlank c) line (column + 1) rest
    else if gap != .none && (c == '#' || (!flow && column < margin) ||
        (column == 0 && startsMarker (c :: rest))) then
      some ([], gap, ⟨line, column, c :: rest⟩)
    else if flow && c == ':' && next.any fun d => d == '?' || isFlowMark d then none
    else if (c == ':' && endsWord next) || (flow && isFlowMark c) then
      some ([], gap, ⟨line, column, c :: rest⟩)
    else
      (plain flow margin .none line (column + 1) rest).map fun (text, after) =>
        (gap.text ++ c :: text, after)

end Plain

end Yaml

end RubyTree
