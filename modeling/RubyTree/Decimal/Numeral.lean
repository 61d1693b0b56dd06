/-!
Decimal numerals: an optional minus sign and digits. Writing gives the numeral without leading
zeros; reading also accepts them.
-/

namespace RubyTree

namespace Numeral

def ofNat (value : Nat) : String := String.ofList (Nat.toDigits 10 value)

def ofInt (value : Int) : String :=
  if value < 0 then "-" ++ ofNat value.natAbs else ofNat value.natAbs

/-- The integer that a numeral stands for; nothing else is a numeral, so no plus sign and no blanks. -/
def value? : List Char → Option Int
  | '-' :: digits => if isDigits digits then some (-(Nat.ofDigitChars 10 digits 0 : Int)) else none
  | digits => if isDigits digits then some (Nat.ofDigitChars 10 digits 0) else none
where
  isDigits (digits : List Char) : Bool := !digits.isEmpty && digits.all Char.isDigit

end Numeral

end RubyTree
