import RubyTree.Decimal.Numeral

/-!
Source texts and spans of them. Offsets count bytes of UTF-8, and a span denotes a text only if both
its ends fall between characters.
-/

namespace RubyTree

structure Buffer where
  name : String
  text : String
  deriving DecidableEq, Repr

/-- The bytes of a buffer from `start` up to `stop`. -/
structure Span where
  buffer : Buffer
  start : Nat
  stop : Nat
  deriving DecidableEq, Repr

/-- Splits off the characters that take up exactly the given number of bytes. -/
def splitBytes? (bytes : Nat) (text : List Char) : Option (List Char × List Char) :=
  match bytes, text with
  | 0, text => some ([], text)
  | _ + 1, [] => none
  | bytes + 1, c :: rest =>
    if c.utf8Size ≤ bytes + 1 then
      (splitBytes? (bytes + 1 - c.utf8Size) rest).map fun (first, last) => (c :: first, last)
    else none

def sliceBytes? (start stop : Nat) (text : List Char) : Option (List Char) :=
  if start ≤ stop then do
    let (_, rest) ← splitBytes? start text
    let (slice, _) ← splitBytes? (stop - start) rest
    some slice
  else none

def Span.text? (span : Span) : Option String :=
  (sliceBytes? span.start span.stop span.buffer.text.toList).map String.ofList

def Span.described (span : Span) : String :=
  span.buffer.name ++ ":" ++ Numeral.ofNat span.start ++ ".." ++ Numeral.ofNat span.stop

end RubyTree
