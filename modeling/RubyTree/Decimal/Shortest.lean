import RubyTree.Binary64

/-!
The shortest decimal of a double: among the decimals that round to it, those on the coarsest grid of
powers of ten, and of these the nearest. A rule for ties chooses between two equally near ones.
-/

namespace RubyTree

-- Powers of numbers are the core library's, also where other instances are in scope.
attribute [local instance (20000)] instPowNat

/-- The number `significand * 10 ^ exponent`. -/
structure Decimal where
  significand : Nat
  exponent : Int
  deriving DecidableEq, Repr

namespace Decimal

/-- Which of two equally near decimals is chosen: the larger, or the one whose last digit is even. -/
inductive Tie where
  | up
  | even
  deriving DecidableEq, Repr

def Tie.goesUp (below : Nat) : Tie → Bool
  | .up => true
  | .even => below % 2 == 1

/-- Twice the value of a double and the ends of the interval of numbers that round to it, in multiples
of 2^-1074. The ends belong to the interval if halves go to this double. -/
structure Interval where
  low : Nat
  centre : Nat
  high : Nat
  closed : Bool

def Interval.ofMagnitude (magnitude : Nat) : Interval where
  low := Binary64.units (magnitude - 1) + Binary64.units magnitude
  centre := 2 * Binary64.units magnitude
  high := Binary64.units magnitude + Binary64.units (magnitude + 1)
  closed := magnitude % 2 == 0

def Interval.holds (i : Interval) (numerator denominator : Nat) : Bool :=
  if i.closed then i.low * denominator ≤ numerator && numerator ≤ i.high * denominator
  else i.low * denominator < numerator && numerator < i.high * denominator

/-- The point of the grid `10 ^ exponent` nearest to the centre, if it is in the interval: of all points
of the grid, only the two neighbours of the centre need a look. -/
def nearestOnGrid? (tie : Tie) (i : Interval) (exponent : Int) : Option Decimal :=
  let step := 2 ^ (1075 : Nat) * 10 ^ exponent.toNat
  let scale := 10 ^ (-exponent).toNat
  let below := i.centre * scale / step
  let lower := i.holds (below * step) scale
  let upper := i.holds ((below + 1) * step) scale
  let toLower := i.centre * scale - below * step
  let toUpper := (below + 1) * step - i.centre * scale
  if upper && (!lower || toUpper < toLower || (toUpper == toLower && tie.goesUp below)) then
    some ⟨below + 1, exponent⟩
  else if lower then some ⟨below, exponent⟩
  else none

/-- From the first power of ten above the whole part down to the grid that holds every double. -/
def grids (magnitude : Nat) : List Int :=
  let whole := Binary64.units magnitude / 2 ^ (1074 : Nat)
  let top := if whole = 0 then 0 else (Nat.toDigits 10 whole).length
  (List.range (top + 1075)).map fun (i : Nat) => (top : Int) - i

def shortest (tie : Tie) (magnitude : Nat) : Decimal :=
  if magnitude = 0 then ⟨0, 0⟩
  else ((grids magnitude).findSome? (nearestOnGrid? tie (.ofMagnitude magnitude))).getD ⟨0, 0⟩

end Decimal

end RubyTree
