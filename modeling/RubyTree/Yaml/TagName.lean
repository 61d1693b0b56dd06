import RubyTree.Text.Hex
import RubyTree.Yaml.Place

/-!
The names of tags in a YAML text: a handle, for which a directive may give a longer text, and a suffix.
They are sequences of octets, since escapes can write any octets that have the outline of characters.
-/

namespace RubyTree

namespace Yaml

abbrev Octets := List UInt8

/-- The handle is empty if the suffix is the whole name. -/
structure TagName where
  handle : String
  suffix : Octets
  deriving DecidableEq, Repr

/-- The characters of a suffix. Brackets and commas are among them only where it has an end of its own. -/
def isSuffixChar (delimited : Bool) (c : Char) : Bool :=
  isNameChar c || ";/?:@&=+$.!~*'()".toList.contains c ||
    (delimited && (c == ',' || c == '[' || c == ']'))

def trailing? (octet : Nat) : Option Nat :=
  if octet < 0x80 then some 0
  else if octet < 0xc0 then none
  else if octet < 0xe0 then some 1
  else if octet < 0xf0 then some 2
  else if octet < 0xf8 then some 3
  else none

/-- The octets of a suffix and the place after it. An octet may be escaped; while `missing` octets of a
character have not come, the next one has to be. -/
def suffixOctets (delimited : Bool) (missing line column : Nat) : List Char → Option (Octets × Place)
  | '%' :: a :: b :: rest => do
    let octet ← Hex.value? [a, b]
    let missing ←
      if missing = 0 then trailing? octet
      else if 0x80 ≤ octet && octet < 0xc0 then some (missing - 1)
      else none
    let (more, place) ← suffixOctets delimited missing line (column + 3) rest
    some (octet.toUInt8 :: more, place)
  | [] => if missing = 0 then some ([], ⟨line, column, []⟩) else none
  | c :: rest =>
    if missing != 0 || c == '%' then none
    else if isSuffixChar delimited c then do
      let (more, place) ← suffixOctets delimited 0 line (column + 1) rest
      some (c.toNat.toUInt8 :: more, place)
    else some ([], ⟨line, column, c :: rest⟩)

/-- A suffix that is not empty. A zero octet ends it, whatever is written after. -/
def suffix? (delimited : Bool) (place : Place) : Option (Octets × Place) := do
  let (octets, after) ← suffixOctets delimited 0 place.line place.column place.rest
  if octets.isEmpty then none else some (octets.takeWhile (· != 0), after)

def handle (place : Place) : String × Bool × Place :=
  let (name, after) := (place.skip 1).span isNameChar
  let start := "!" ++ String.ofList name
  if after.rest.head? == some '!' then (start ++ "!", true, after.skip 1) else (start, false, after)

def tagName? (flow : Bool) (place : Place) : Option (TagName × Place) := do
  let (name, after) ←
    if (place.rest.drop 1).head? == some '<' then do
      let (suffix, after) ← suffix? true (place.skip 2)
      if after.rest.head? == some '>' then some (TagName.mk "" suffix, after.skip 1) else none
    else
      match handle place with
      | (handle, true, after) => do
        let (suffix, after) ← suffix? false after
        some (TagName.mk handle suffix, after)
      | (_, false, _) => do
        let (octets, after) ←
          suffixOctets false 0 place.line (place.column + 1) (place.rest.drop 1)
        let suffix := octets.takeWhile (· != 0)
        some (if suffix.isEmpty then ⟨"", "!".toUTF8.toList⟩ else ⟨"!", suffix⟩, after)
  if endsWord after.rest.head? || (flow && after.rest.head? == some ',') then some (name, after)
  else none

end Yaml

end RubyTree
