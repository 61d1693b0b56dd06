import RubyTree.Decimal.Numeral
import RubyTree.Decimal.Shortest

/-!
How a decimal is written: with all its places when the point falls near the digits, and with an
exponent otherwise.
-/

namespace RubyTree

namespace Decimal

/-- How doubles are written: which of two equally near decimals, the positions of the decimal point,
counted from before the first digit, at which there is no exponent, and the sign of an exponent that is
not negative. -/
structure Layout where
  tie : Tie
  leastPoint : Int
  greatestPoint : Int
  exponentSign : String
  deriving DecidableEq, Repr

/-- All places are written from a ten-thousandth up to ten quadrillion. -/
def Layout.literal : Layout := ⟨.up, -3, 16, ""⟩

/-- The digits with a point after the first `point` of them, padded with zeros as far as there has to be
at least one digit on either side. -/
def placed (digits : List Char) (point : Int) : String :=
  if point ≤ 0 then
    "0." ++ String.ofList (List.replicate (-point).toNat '0' ++ digits)
  else if digits.length ≤ point.toNat then
    String.ofList (digits ++ List.replicate (point.toNat - digits.length) '0') ++ ".0"
  else
    String.ofList (digits.take point.toNat) ++ "." ++ String.ofList (digits.drop point.toNat)

def scientific (exponentSign : String) (digits : List Char) (point : Int) : String :=
  let fraction := digits.drop 1
  String.ofList (digits.take 1) ++
    (if fraction.isEmpty then "" else "." ++ String.ofList fraction) ++
    "e" ++ (if point ≤ 0 then "" else exponentSign) ++ Numeral.ofInt (point - 1)

def text (layout : Layout) (d : Decimal) : String :=
  let digits := Nat.toDigits 10 d.significand
  if d.significand = 0 then "0.0"
  else
    let point := digits.length + d.exponent
    if layout.leastPoint ≤ point && point ≤ layout.greatestPoint then placed digits point
    else scientific layout.exponentSign digits point

end Decimal

def Binary64.text (layout : Decimal.Layout) (x : Binary64) : String :=
  if x.isNaN then "NaN"
  else
    let unsigned := if x.isFinite then (Decimal.shortest layout.tie x.magnitude).text layout else "inf"
    if x.negative then "-" ++ unsigned else unsigned

end RubyTree
