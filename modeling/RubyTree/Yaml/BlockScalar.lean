import RubyTree.Yaml.Scalar

/-!
Scalars of a YAML text that are written as an indented block, line by line or folded.
-/

namespace RubyTree

namespace Yaml

/-- What becomes of the line breaks after the last line of a block. -/
inductive Chomping where
  | strip
  | clip
  | keep
  deriving DecidableEq, Repr

def Chomping.ofIndicator? : Char → Option Chomping
  | '-' => some .strip
  | '+' => some .keep
  | _ => none

def indentation? (c : Char) : Option Nat :=
  if c.isDigit && c != '0' then some (c.toNat - '0'.toNat) else none

def indicators (text : List Char) : Chomping × Option Nat × Nat :=
  let first := text.head?
  let second := (text.drop 1).head?
  match first.bind Chomping.ofIndicator?, first.bind indentation? with
  | some chomping, _ =>
    match second.bind indentation? with
    | some width => (chomping, some width, 2)
    | none => (chomping, none, 1)
  | none, some width =>
    match second.bind Chomping.ofIndicator? with
    | some chomping => (chomping, some width, 2)
    | none => (.clip, some width, 1)
  | none, none => (.clip, none, 0)

/-- Passes over indentation and empty lines. Gives the breaks, the widest indentation and the place after
them. With no indentation given, all spaces belong to it; no tab may. -/
def emptyLines (indent : Option Nat) (widest line column : Nat) :
    List Char → Option (List Char × Nat × Place)
  | [] => some ([], widest, ⟨line, column, []⟩)
  | c :: rest =>
    let inside := indent.all (column < ·)
    if isBreak c then
      (emptyLines indent widest (line + 1) 0 rest).map fun (breaks, after) => (c :: breaks, after)
    else if inside && c == ' ' then
      emptyLines indent (max widest (column + 1)) line (column + 1) rest
    else if inside && c == '\t' then none
    else some ([], widest, ⟨line, column, c :: rest⟩)

structure Pending where
  first : Option Char
  more : List Char
  afterBlank : Bool

/-- The breaks before the next line. A folded block joins two lines by a space unless one of them starts
with a blank. -/
def Pending.text (p : Pending) (folded beforeBlank : Bool) : List Char :=
  if folded && p.first == some '\n' && !p.afterBlank && !beforeBlank then
    if p.more.isEmpty then [' '] else p.more
  else p.first.toList ++ p.more

def Pending.tail (p : Pending) : Chomping → List Char
  | .strip => []
  | .clip => p.first.toList
  | .keep => p.first.toList ++ p.more

/-- The lines of a block that start in the column `indent`. Each uses up one unit of fuel. -/
def blockLines (folded : Bool) (chomping : Chomping) (indent : Nat) :
    Nat → Pending → Place → Option (List Char × Place)
  | 0, _, _ => none
  | fuel + 1, pending, place =>
    match place.rest.head? with
    | none => some (pending.tail chomping, place)
    | some c =>
      if place.column != indent then some (pending.tail chomping, place)
      else do
        let (content, after) := place.span fun c => !isBreak c
        let next := after.skipBreak
        let (more, _, rest) ← emptyLines (some indent) 0 next.line next.column next.rest
        let (text, last) ←
          blockLines folded chomping indent fuel ⟨after.rest.head?, more, isBlank c⟩ rest
        some (pending.text folded (isBlank c) ++ content ++ text, last)

/-- A block after its bar or angle, inside a collection that stands in the column `outer`. Unless it is
given, the indentation is that of the first line with content or, if larger, of an empty line before it. -/
def blockScalar (folded : Bool) (outer : Option Nat) (place : Place) : Option (List Char × Place) := do
  let (chomping, width, count) := indicators place.rest
  let start ← (place.skip count).skipLine?
  let given := width.map (outer.getD 0 + ·)
  let (breaks, widest, first) ← emptyLines given 0 start.line start.column start.rest
  let indent := given.getD (max widest (max 1 (outer.elim 0 (· + 1))))
  blockLines folded chomping indent (first.rest.length + 1) ⟨none, breaks, false⟩ first

end Yaml

end RubyTree
