/-!
Double-precision numbers by their bits. The bits below the sign, read as one number, count the
doubles upward from zero, and every finite double is a whole multiple of 2^-1074. Both facts make
exact arithmetic on natural numbers enough: nothing here rounds except `Binary64.ofRatio`, which
goes to the nearest double and, halfway between two, to the even one.
-/

namespace RubyTree

-- Powers of numbers are the core library's, also where other instances are in scope.
attribute [local instance (20000)] instPowNat

/-- A double: its sign, and its exponent and fraction fields read as one number. -/
structure Binary64 where
  negative : Bool
  magnitude : Nat
  bound : magnitude < 2 ^ (63 : Nat)
  deriving DecidableEq, Repr

namespace Binary64

def ofBits (bits : UInt64) : Binary64 :=
  ⟨2 ^ (63 : Nat) ≤ bits.toNat, bits.toNat % 2 ^ (63 : Nat), Nat.mod_lt _ (by decide)⟩

def toBits (x : Binary64) : UInt64 :=
  UInt64.ofNat (if x.negative then 2 ^ (63 : Nat) + x.magnitude else x.magnitude)

/-- The magnitude of infinity; larger ones are not numbers. -/
def infinite : Nat := 2047 * 2 ^ (52 : Nat)

def isFinite (x : Binary64) : Bool := x.magnitude < infinite

def isNaN (x : Binary64) : Bool := infinite < x.magnitude

def isZero (x : Binary64) : Bool := x.magnitude == 0

/-- Equality of numbers: the two zeros are equal, and what is not a number equals nothing. -/
def same (x y : Binary64) : Bool :=
  !x.isNaN && x.magnitude == y.magnitude && (x.negative == y.negative || x.isZero)

/-- The double of a given magnitude in multiples of 2^-1074. At `infinite` it is the power of two at
which the next binade would start, so that the largest finite double has an upper neighbour. -/
def units (magnitude : Nat) : Nat :=
  if magnitude < 2 ^ (52 : Nat) then magnitude
  else (2 ^ (52 : Nat) + magnitude % 2 ^ (52 : Nat)) * 2 ^ (magnitude / 2 ^ (52 : Nat) - 1)

/-- The quotient to the nearest whole number, and to the even one of two equally near. -/
def roundDiv (numerator denominator : Nat) : Nat :=
  let quotient := numerator / denominator
  let rest := numerator % denominator
  if denominator < 2 * rest || (2 * rest == denominator && quotient % 2 == 1) then quotient + 1
  else quotient

/-- The magnitude nearest to `numerator / denominator`, not cut off at infinity. The shift leaves 53
binary digits, or all whole multiples of 2^-1074 when there are fewer. -/
def nearestMagnitude (numerator denominator : Nat) : Nat :=
  let scaled := numerator * 2 ^ (1074 : Nat)
  let shift := Nat.log2 (scaled / denominator) - 52
  shift * 2 ^ (52 : Nat) + roundDiv scaled (denominator * 2 ^ shift)

def ofRatio (negative : Bool) (numerator denominator : Nat) : Binary64 :=
  ⟨negative, min (nearestMagnitude numerator denominator) infinite,
    Nat.lt_of_le_of_lt (Nat.min_le_right _ _) (by decide)⟩

def ofInt (value : Int) : Binary64 := ofRatio (value < 0) value.natAbs 1

/-- The product of two doubles that are not negative, rounded once. -/
def mul (x y : Binary64) : Binary64 :=
  ofRatio false (units x.magnitude * units y.magnitude) (2 ^ (2148 : Nat))

/-- The quotient of two doubles that are not negative, rounded once. -/
def div (x y : Binary64) : Binary64 :=
  ofRatio false (units x.magnitude) (units y.magnitude)

def withSign (negative : Bool) (x : Binary64) : Binary64 := ⟨negative, x.magnitude, x.bound⟩

end Binary64

end RubyTree
