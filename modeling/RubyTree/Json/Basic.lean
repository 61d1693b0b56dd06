import RubyTree.Json.Number

/-!
JSON values as far as their text can be read. A text that stops being JSON still has a value: what was
read before that point, with the break in its place. Whoever walks a value in order meets the break
exactly when a reader of the text would, and so reports the first problem of the text.

A value can be read, which means that its numbers, strings and nesting have to be within bounds, or
merely skimmed, which checks nothing but the grammar.
-/

namespace RubyTree

/-- How a text fails to be JSON: it ends too early, or it goes on in a wrong way. -/
inductive Flaw where
  | unfinished
  | malformed
  deriving DecidableEq, Repr

/-- The point where a text stops being JSON, as it looks to someone who reads it and to someone who
skims it. -/
structure Break where
  reading : Flaw
  skimming : Flaw
  deriving DecidableEq, Repr

def Break.of (flaw : Flaw) : Break := ⟨flaw, flaw⟩

mutual

/-- A JSON value. A string without text holds half of a surrogate pair. Arrays and objects may break off
after their last item, and any value may be a break itself. -/
inductive Json where
  | null
  | bool (value : Bool)
  | number (literal : Json.Literal)
  | string (text : Option String)
  | array (items : List Json) (stop : Option Break)
  | object (members : List Member) (stop : Option Break)
  | broken (stop : Break)

structure Member where
  key : Option String
  value : Json

end

namespace Json

def maxNesting : Nat := 127

mutual

/-- The first problem of reading a value, if `room` more arrays and objects may be opened. -/
def flaw? (room : Nat) : Json → Option Flaw
  | .null => none
  | .bool _ => none
  | .number literal => if literal.value?.isSome then none else some .malformed
  | .string text => if text.isSome then none else some .malformed
  | .array items stop =>
    match room with
    | 0 => some .malformed
    | room + 1 => (itemsFlaw? room items).or (stop.map Break.reading)
  | .object members stop =>
    match room with
    | 0 => some .malformed
    | room + 1 => (membersFlaw? room members).or (stop.map Break.reading)
  | .broken stop => some stop.reading

def itemsFlaw? (room : Nat) : List Json → Option Flaw
  | [] => none
  | item :: rest => (item.flaw? room).or (itemsFlaw? room rest)

def membersFlaw? (room : Nat) : List Member → Option Flaw
  | [] => none
  | ⟨key, value⟩ :: rest =>
    if key.isNone then some .malformed
    else (value.flaw? room).or (membersFlaw? room rest)

end

mutual

def skimFlaw? : Json → Option Flaw
  | .array items stop => (itemsSkimFlaw? items).or (stop.map Break.skimming)
  | .object members stop => (membersSkimFlaw? members).or (stop.map Break.skimming)
  | .broken stop => some stop.skimming
  | _ => none

def itemsSkimFlaw? : List Json → Option Flaw
  | [] => none
  | item :: rest => item.skimFlaw?.or (itemsSkimFlaw? rest)

def membersSkimFlaw? : List Member → Option Flaw
  | [] => none
  | ⟨_, value⟩ :: rest => value.skimFlaw?.or (membersSkimFlaw? rest)

end

end Json

end RubyTree
