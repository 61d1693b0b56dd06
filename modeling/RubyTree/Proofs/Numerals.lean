import Mathlib
import RubyTree.Document.Draft

/-!
Decimal numerals, the integers they stand for, and the atoms that a document makes of them.
-/

namespace RubyTree

namespace Numeral

structure Digits (text : List Char) : Prop where
  nonempty : text ≠ []
  digit : ∀ c ∈ text, c.isDigit = true

/-- An optional minus sign and one or more digits, leading zeros included, stand for an integer. -/
inductive Denotes : List Char → Int → Prop where
  | plain {digits : List Char} (valid : Digits digits) :
    Denotes digits (Nat.ofDigitChars 10 digits 0)
  | minus {digits : List Char} (valid : Digits digits) :
    Denotes ('-' :: digits) (-(Nat.ofDigitChars 10 digits 0 : Int))

/-- The integers that do not fit 64 bits. -/
def Wide (value : Int) : Prop := value < -2 ^ 63 ∨ 2 ^ 63 ≤ value

theorem Wide.of_outside {value : Int}
    (outside : ¬(decide (-2 ^ 63 ≤ value) && decide (value < 2 ^ 63)) = true) : Wide value := by
  simp only [Bool.and_eq_true, decide_eq_true_eq] at outside
  unfold Wide
  omega

theorem digits_iff (text : List Char) : Digits text ↔ value?.isDigits text = true := by
  constructor
  · rintro ⟨nonempty, digit⟩
    simpa [value?.isDigits, nonempty] using digit
  · intro valid
    simp only [value?.isDigits, Bool.and_eq_true, List.all_eq_true] at valid
    exact ⟨by simpa using valid.1, valid.2⟩

theorem Digits.head_ne_minus {c : Char} {rest : List Char} (valid : Digits (c :: rest)) : c ≠ '-' := by
  rintro rfl
  exact absurd (valid.digit '-' (by simp)) (by decide)

theorem value?_eq_some_iff (text : List Char) (value : Int) :
    value? text = some value ↔ Denotes text value := by
  constructor
  · intro found
    unfold value? at found
    split at found <;> split at found <;> cases found
    · next valid => exact .minus ((digits_iff _).mpr valid)
    · next valid => exact .plain ((digits_iff _).mpr valid)
  · rintro (⟨valid⟩ | ⟨valid⟩)
    · have digits := (digits_iff text).mp valid
      unfold value?
      split
      · exact absurd rfl valid.head_ne_minus
      · rw [if_pos digits]
    · rw [value?, if_pos ((digits_iff _).mp valid)]

theorem Denotes.unique {text : List Char} {a b : Int} (first : Denotes text a)
    (second : Denotes text b) : a = b := by
  rw [← value?_eq_some_iff] at first second
  exact Option.some.inj (first.symm.trans second)

theorem toDigits_digits (value : Nat) : Digits (Nat.toDigits 10 value) :=
  ⟨Nat.toDigits_ne_nil, fun _ => Nat.isDigit_of_mem_toDigits (by decide) (by decide)⟩

/-- Digits are written without leading zeros. -/
theorem toDigits_ne_zero_cons (value : Nat) (c : Char) (rest : List Char) :
    Nat.toDigits 10 value ≠ '0' :: c :: rest := by
  induction value using Nat.strongRecOn generalizing c rest with
  | ind value ih =>
    by_cases small : value < 10
    · rw [Nat.toDigits_of_lt_base small]
      simp
    · have last : value % 10 < 10 := Nat.mod_lt value (by decide)
      have split := Nat.toDigits_append_toDigits (b := 10) (n := value / 10) (d := value % 10)
        (by decide) (by omega) last
      rw [Nat.toDigits_of_lt_base last, Nat.div_add_mod] at split
      intro zero
      rw [← split] at zero
      have front : Nat.ofDigitChars 10 (Nat.toDigits 10 (value / 10)) 0 = value / 10 :=
        Nat.ofDigitChars_ten_toDigits
      match digits : Nat.toDigits 10 (value / 10) with
      | [] => exact absurd digits Nat.toDigits_ne_nil
      | [first] =>
        simp only [digits, List.cons_append, List.cons.injEq] at zero
        rw [digits, zero.1] at front
        have : value / 10 = 0 := front.symm
        omega
      | first :: second :: more =>
        simp only [digits, List.cons_append, List.cons.injEq] at zero
        exact ih (value / 10) (by omega) second more (zero.1 ▸ digits)

theorem denotes_ofInt (value : Int) : Denotes (ofInt value).toList value := by
  have digits : Nat.ofDigitChars 10 (Nat.toDigits 10 value.natAbs) 0 = value.natAbs :=
    Nat.ofDigitChars_ten_toDigits
  unfold ofInt
  split
  · next negative =>
    have minus := Denotes.minus (toDigits_digits value.natAbs)
    rw [digits, show -(value.natAbs : Int) = value by omega] at minus
    simpa [ofNat] using minus
  · next positive =>
    have plain := Denotes.plain (toDigits_digits value.natAbs)
    rw [digits, show (value.natAbs : Int) = value by omega] at plain
    simpa [ofNat] using plain

/-- What a numeral is loaded as: an integer of 64 bits by its value, any other as it is written. -/
inductive KeptAs (numeral : String) : Atom → Prop where
  | narrow {word : Int64} (denotes : Denotes numeral.toList word.toInt) : KeptAs numeral (.integer word)
  | wide {value : Int} (denotes : Denotes numeral.toList value) (wide : Wide value) :
    KeptAs numeral (.bigInteger numeral)

variable {numeral : String} {atom : Atom}

theorem KeptAs.denotes (kept : KeptAs numeral atom) : ∃ value, Denotes numeral.toList value := by
  cases kept with
  | narrow denotes => exact ⟨_, denotes⟩
  | wide denotes _ => exact ⟨_, denotes⟩

theorem Denotes.keptAs {value : Int} (denotes : Denotes numeral.toList value) :
    -2 ^ 63 ≤ value ∧ value ≤ 2 ^ 63 - 1 ∧ KeptAs numeral (.integer (Int64.ofInt value)) ∨
      Wide value ∧ KeptAs numeral (.bigInteger numeral) := by
  by_cases inside : -2 ^ 63 ≤ value ∧ value < 2 ^ 63
  · have word := Int64.toInt_ofInt_of_le inside.1 inside.2
    exact .inl ⟨inside.1, by omega, .narrow (word.symm ▸ denotes)⟩
  · have wide : Wide value := by
      unfold Wide
      omega
    exact .inr ⟨wide, .wide denotes wide⟩

theorem Denotes.exists_keptAs {value : Int} (denotes : Denotes numeral.toList value) :
    ∃ atom, KeptAs numeral atom := by
  rcases denotes.keptAs with ⟨_, _, kept⟩ | ⟨_, kept⟩
  · exact ⟨_, kept⟩
  · exact ⟨_, kept⟩

theorem ofNumeral_eq_ok_iff : Atom.ofNumeral numeral = .ok atom ↔ KeptAs numeral atom := by
  constructor
  · intro loaded
    unfold Atom.ofNumeral at loaded
    split at loaded
    · cases loaded
    · next value found =>
      have denotes := (value?_eq_some_iff _ _).mp found
      split at loaded
      · next inside =>
        cases loaded
        simp only [Bool.and_eq_true, decide_eq_true_eq] at inside
        exact .narrow ((Int64.toInt_ofInt_of_le inside.1 inside.2).symm ▸ denotes)
      · next outside =>
        cases loaded
        exact .wide denotes (.of_outside outside)
  · intro kept
    cases kept with
    | @narrow word denotes =>
      have low := word.le_toInt
      have high := word.toInt_lt
      simp only [Atom.ofNumeral, (value?_eq_some_iff _ _).mpr denotes, low, high, decide_true,
        Bool.and_self, if_true, Int64.ofInt_toInt]
    | @wide value denotes wide =>
      have outside : ¬(-2 ^ 63 ≤ value ∧ value < 2 ^ 63) := by
        unfold Wide at wide
        omega
      simp only [Atom.ofNumeral, (value?_eq_some_iff _ _).mpr denotes, Bool.and_eq_true,
        decide_eq_true_eq, if_neg outside]

theorem ofNumeral_invalid (invalid : ¬∃ value, Denotes numeral.toList value) :
    Atom.ofNumeral numeral = .error (.invalidInteger numeral) := by
  cases found : value? numeral.toList with
  | none => simp only [Atom.ofNumeral, found]
  | some value => exact absurd ⟨value, (value?_eq_some_iff _ _).mp found⟩ invalid

end Numeral

end RubyTree
