import RubyTree.Binary64

/-!
Numbers of a JSON text: their literals, and the values they are read as. A literal without fraction
and exponent is an integer as long as it fits 64 bits. Any other is a double, reckoned from as many
leading digits as fit 64 bits and a power of ten, so the last bit may differ from the nearest double.
-/

namespace RubyTree

-- Powers of numbers are the core library's, also where other instances are in scope.
attribute [local instance (20000)] instPowNat

namespace Json

/-- The parts of a number as written. Without a point there is no fraction; with one it is not empty. -/
structure Literal where
  negative : Bool
  whole : List Char
  fraction : List Char
  /-- Whether the exponent is negative, and its digits. -/
  exponent : Option (Bool × List Char)
  deriving DecidableEq, Repr

inductive Number where
  | integer (value : Int)
  | float (value : Binary64)
  deriving DecidableEq, Repr

/-- Takes digits into a significand for as long as it fits 64 bits, and counts the digits left over. -/
def takeDigits (significand : Nat) : List Char → Nat × Nat
  | [] => (significand, 0)
  | digit :: rest =>
    let next := 10 * significand + (digit.toNat - '0'.toNat)
    if next < 2 ^ (64 : Nat) then takeDigits next rest else (significand, rest.length + 1)

/-- A double over a power of ten, in steps of 308 powers: the largest that is itself a double. -/
def divPow10 (x : Binary64) (power : Nat) : Binary64 :=
  if power ≤ 308 then x.div (.ofInt (10 ^ power))
  else if x.isZero then x
  else divPow10 (x.div (.ofInt (10 ^ (308 : Nat)))) (power - 308)
termination_by power

def scale? (x : Binary64) (exponent : Int) : Option Binary64 :=
  if exponent < 0 then some (divPow10 x exponent.natAbs)
  else if x.isZero then some x
  else if 308 < exponent then none
  else
    let product := x.mul (.ofInt (10 ^ exponent.natAbs))
    if product.isFinite then some product else none

namespace Literal

def float? (literal : Literal) (significand : Nat) (exponent : Int) : Option Number :=
  (scale? (.ofInt significand) exponent).map fun x => .float (x.withSign literal.negative)

/-- The integer of a literal without fraction and exponent. Minus zero is not an integer. -/
def integer (literal : Literal) (value : Nat) : Number :=
  if !literal.negative then .integer value
  else if value = 0 || 2 ^ (63 : Nat) < value then .float ((Binary64.ofInt value).withSign true)
  else .integer (-value)

/-- The value of a literal, unless it is beyond the largest double. An exponent that does not fit 32
bits leaves only zero, if it does not make the number too large. -/
def value? (literal : Literal) : Option Number :=
  let (whole, droppedWhole) := takeDigits 0 literal.whole
  if literal.fraction.isEmpty && literal.exponent.isNone && droppedWhole = 0 then
    some (literal.integer whole)
  else
    let (significand, droppedFraction) := takeDigits whole literal.fraction
    let places : Int := droppedWhole - (literal.fraction.length - droppedFraction : Nat)
    match literal.exponent with
    | none => literal.float? significand places
    | some (negative, digits) =>
      let exponent := Nat.ofDigitChars 10 digits 0
      if exponent < 2 ^ (31 : Nat) then
        literal.float? significand (if negative then places - exponent else places + exponent)
      else if significand = 0 || negative then literal.float? 0 0
      else none

end Literal

end Json

end RubyTree
