import Mathlib
import RubyTree.Proofs.CheckThenPrint
import RubyTree.Proofs.NearestDoubles
import RubyTree.Proofs.Numerals

/-!
Float literals and the doubles they are read as. A literal has a point or an exponent and stands for an exact
number, which is rounded to the nearest double. The shortest decimal of a double lies in the interval that is
rounded to it, and each way to lay it out is a literal of its value; so every finite double comes back with
the same bits.
-/

namespace RubyTree

namespace Text

open Numeral (Digits Denotes)

section Grammar

/-- Digits, or digits on both sides of a point, and the number they stand for. -/
inductive Mantissa : List Char → ℚ → Prop where
  | whole {digits : List Char} (valid : Digits digits) : Mantissa digits (Nat.ofDigitChars 10 digits 0)
  | pointed {whole fraction : List Char} (valid : Digits whole) (more : Digits fraction) :
    Mantissa (whole ++ '.' :: fraction)
      (Nat.ofDigitChars 10 (whole ++ fraction) 0 / 10 ^ fraction.length)

/-- A float literal without its sign: it has a point or an exponent, or both. -/
inductive UnsignedFloat : List Char → ℚ → Prop where
  | pointed {whole fraction : List Char} (valid : Digits whole) (more : Digits fraction) :
    UnsignedFloat (whole ++ '.' :: fraction)
      (Nat.ofDigitChars 10 (whole ++ fraction) 0 / 10 ^ fraction.length)
  | scientific {mantissa exponent : List Char} {size : ℚ} {power : Int}
    (valid : Mantissa mantissa size) (scale : Denotes exponent power) :
    UnsignedFloat (mantissa ++ 'e' :: exponent) (size * 10 ^ power)

/-- A float literal, whether it has a minus sign, and the number after the sign. -/
inductive FloatLiteral : List Char → Bool → ℚ → Prop where
  | plain {text : List Char} {size : ℚ} (valid : UnsignedFloat text size) : FloatLiteral text false size
  | minus {text : List Char} {size : ℚ} (valid : UnsignedFloat text size) :
    FloatLiteral ('-' :: text) true size

end Grammar

section Reading

variable {text : List Char} {size size' : ℚ}

theorem not_mem_digits {digits : List Char} (valid : Digits digits) {c : Char} (mark : c.isDigit = false) :
    c ∉ digits := by
  intro member
  simp [valid.digit c member] at mark

theorem not_mem_denotes {numeral : List Char} {value : Int} (denotes : Denotes numeral value) {c : Char}
    (mark : c.isDigit = false) (notMinus : c ≠ '-') : c ∉ numeral := by
  cases denotes with
  | plain valid => exact not_mem_digits valid mark
  | minus valid => simp [notMinus, not_mem_digits valid mark]

theorem Mantissa.not_mem (valid : Mantissa text size) {c : Char} (mark : c.isDigit = false)
    (notPoint : c ≠ '.') : c ∉ text := by
  cases valid with
  | whole valid => exact not_mem_digits valid mark
  | pointed valid more => simp [notPoint, not_mem_digits valid mark, not_mem_digits more mark]

theorem Mantissa.unique (first : Mantissa text size) (second : Mantissa text size') : size = size' := by
  have notPoint {digits : List Char} (valid : Digits digits) : '.' ∉ digits :=
    not_mem_digits valid (by decide)
  generalize same : text = text' at second
  cases first with
  | whole valid =>
    cases second with
    | whole valid' => rw [same]
    | pointed valid' more' => exact absurd (by simp [same]) (notPoint valid)
  | pointed valid more =>
    cases second with
    | whole valid' => exact absurd (by simp [← same]) (notPoint valid')
    | pointed valid' more' =>
      obtain ⟨rfl, _, rfl⟩ := (List.append_cons_inj_of_notMem (notPoint valid) (notPoint more)).mp same
      rfl

theorem UnsignedFloat.unique (first : UnsignedFloat text size) (second : UnsignedFloat text size') :
    size = size' := by
  have notExponent {text : List Char} {size : ℚ} (valid : Mantissa text size) : 'e' ∉ text :=
    valid.not_mem (by decide) (by decide)
  generalize same : text = text' at second
  cases first with
  | pointed valid more =>
    cases second with
    | pointed valid' more' =>
      have read := Mantissa.pointed valid' more'
      rw [← same] at read
      exact (Mantissa.pointed valid more).unique read
    | scientific valid' scale' => exact absurd (by simp [same]) (notExponent (.pointed valid more))
  | scientific valid scale =>
    cases second with
    | pointed valid' more' => exact absurd (by simp [← same]) (notExponent (.pointed valid' more'))
    | scientific valid' scale' =>
      have after := not_mem_denotes scale (by decide : 'e'.isDigit = false) (by decide)
      obtain ⟨rfl, _, rfl⟩ := (List.append_cons_inj_of_notMem (notExponent valid) after).mp same
      rw [valid.unique valid', scale.unique scale']

theorem Mantissa.exists_cons (valid : Mantissa text size) :
    ∃ first rest, text = first :: rest ∧ first ≠ '-' := by
  have minus := valid.not_mem (c := '-') (by decide) (by decide)
  cases text with
  | nil =>
    generalize empty : ([] : List Char) = text at valid
    cases valid with
    | whole valid => exact absurd empty.symm valid.nonempty
    | pointed valid more => simp at empty
  | cons first rest =>
    rw [List.mem_cons, not_or] at minus
    exact ⟨first, rest, rfl, Ne.symm minus.1⟩

theorem UnsignedFloat.ne_minus_cons (valid : UnsignedFloat text size) (rest : List Char) :
    text ≠ '-' :: rest := by
  cases valid with
  | pointed valid more =>
    obtain ⟨first, rest', text, notMinus⟩ := (Mantissa.pointed valid more).exists_cons
    simp [text, notMinus]
  | scientific valid scale =>
    obtain ⟨first, rest', rfl, notMinus⟩ := valid.exists_cons
    simp [notMinus]

theorem FloatLiteral.unique {negative negative' : Bool} (first : FloatLiteral text negative size)
    (second : FloatLiteral text negative' size') : negative = negative' ∧ size = size' := by
  cases first with
  | plain valid =>
    cases second with
    | plain valid' => exact ⟨rfl, valid.unique valid'⟩
    | minus valid' => exact absurd rfl (valid.ne_minus_cons _)
  | minus valid =>
    cases second with
    | plain valid' => exact absurd rfl (valid'.ne_minus_cons _)
    | minus valid' => exact ⟨rfl, valid.unique valid'⟩

/-- There is nothing in a literal but digits, a point, a sign and the letter of an exponent. -/
theorem FloatLiteral.not_mem {negative : Bool} (literal : FloatLiteral text negative size) {c : Char}
    (mark : c.isDigit = false) (others : c ∉ ['.', 'e', '-']) : c ∉ text := by
  simp only [List.mem_cons, List.not_mem_nil, or_false, not_or] at others
  obtain ⟨notPoint, notExponent, notMinus⟩ := others
  have unsigned {text : List Char} {size : ℚ} (valid : UnsignedFloat text size) : c ∉ text := by
    cases valid with
    | pointed valid more => exact (Mantissa.pointed valid more).not_mem mark notPoint
    | scientific valid scale =>
      simp [notExponent, valid.not_mem mark notPoint, not_mem_denotes scale mark notMinus]
  cases literal with
  | plain valid => exact unsigned valid
  | minus valid => simp [notMinus, unsigned valid]

/-- A point or an exponent keeps a literal from being a numeral. -/
theorem FloatLiteral.not_denotes {negative : Bool} (literal : FloatLiteral text negative size) (value : Int) :
    ¬Denotes text value := by
  intro denotes
  have noPoint := not_mem_denotes denotes (by decide : '.'.isDigit = false) (by decide)
  have noExponent := not_mem_denotes denotes (by decide : 'e'.isDigit = false) (by decide)
  have marked {text : List Char} {size : ℚ} (valid : UnsignedFloat text size) : '.' ∈ text ∨ 'e' ∈ text := by
    cases valid <;> simp
  cases literal with
  | plain valid => exact (marked valid).elim noPoint noExponent
  | minus valid =>
    rw [List.mem_cons, not_or] at noPoint noExponent
    exact (marked valid).elim noPoint.2 noExponent.2

end Reading

end Text

namespace Decimal

open Numeral (Digits)

def value (d : Decimal) : ℚ := d.significand * 10 ^ d.exponent

section Layout

variable {digits : List Char}

theorem ofDigitChars_zeros_append (count : Nat) :
    Nat.ofDigitChars 10 (List.replicate count '0' ++ digits) 0 = Nat.ofDigitChars 10 digits 0 := by
  rw [Nat.ofDigitChars_append, Nat.ofDigitChars_replicate_zero, Nat.mul_zero]

theorem ofDigitChars_append_zeros (count : Nat) :
    Nat.ofDigitChars 10 (digits ++ List.replicate count '0') 0 =
      10 ^ count * Nat.ofDigitChars 10 digits 0 := by
  rw [Nat.ofDigitChars_append, Nat.ofDigitChars_replicate_zero]

theorem zeros_digit (count : Nat) : ∀ c ∈ List.replicate count '0', c.isDigit = true := by
  intro c member
  rw [List.eq_of_mem_replicate member]
  decide

theorem div_ten_pow (size : ℚ) (count : Nat) : size / 10 ^ count = size * 10 ^ (-(count : Int)) := by
  rw [zpow_neg, zpow_natCast, div_eq_mul_inv]

/-- All digits stand after the point, with zeros in front of them. -/
theorem unsignedFloat_after (valid : Digits digits) (zeros : Nat) :
    Text.UnsignedFloat ("0." ++ String.ofList (List.replicate zeros '0' ++ digits)).toList
      (Nat.ofDigitChars 10 digits 0 * 10 ^ (-((zeros + digits.length : Nat) : Int))) := by
  have fraction : Digits (List.replicate zeros '0' ++ digits) :=
    ⟨by simp [valid.nonempty], List.forall_mem_append.mpr ⟨zeros_digit _, valid.digit⟩⟩
  have read := Text.UnsignedFloat.pointed ⟨by simp, zeros_digit 1⟩ fraction
  rw [ofDigitChars_zeros_append, ofDigitChars_zeros_append, div_ten_pow] at read
  simpa using read

theorem unsignedFloat_before (valid : Digits digits) (zeros : Nat) :
    Text.UnsignedFloat (String.ofList (digits ++ List.replicate zeros '0') ++ ".0").toList
      (Nat.ofDigitChars 10 digits 0 * 10 ^ (zeros : Int)) := by
  have whole : Digits (digits ++ List.replicate zeros '0') :=
    ⟨by simp [valid.nonempty], List.forall_mem_append.mpr ⟨valid.digit, zeros_digit _⟩⟩
  have read := Text.UnsignedFloat.pointed whole ⟨by simp, zeros_digit 1⟩
  have value : ((10 ^ 1 * (10 ^ zeros * Nat.ofDigitChars 10 digits 0) : Nat) : ℚ) / 10 ^ 1 =
      Nat.ofDigitChars 10 digits 0 * 10 ^ (zeros : Int) := by
    rw [zpow_natCast]
    push_cast
    ring
  rw [ofDigitChars_append_zeros, ofDigitChars_append_zeros, List.length_replicate, value] at read
  simpa using read

theorem unsignedFloat_among (valid : Digits digits) {point : Nat} (positive : 0 < point)
    (inside : point < digits.length) :
    Text.UnsignedFloat
      (String.ofList (digits.take point) ++ "." ++ String.ofList (digits.drop point)).toList
      (Nat.ofDigitChars 10 digits 0 * 10 ^ (-((digits.length - point : Nat) : Int))) := by
  have whole : Digits (digits.take point) :=
    ⟨by simp [valid.nonempty]; omega, fun c member => valid.digit c (List.mem_of_mem_take member)⟩
  have fraction : Digits (digits.drop point) :=
    ⟨by simp; omega, fun c member => valid.digit c (List.mem_of_mem_drop member)⟩
  have read := Text.UnsignedFloat.pointed whole fraction
  rw [List.take_append_drop, div_ten_pow, List.length_drop] at read
  simpa using read

theorem unsignedFloat_placed (valid : Digits digits) (point : Int) :
    Text.UnsignedFloat (placed digits point).toList
      (Nat.ofDigitChars 10 digits 0 * 10 ^ (point - digits.length)) := by
  unfold placed
  split
  · have places : point - digits.length = -(((-point).toNat + digits.length : Nat) : Int) := by omega
    rw [places]
    exact unsignedFloat_after valid _
  split
  · have places : point - digits.length = ((point.toNat - digits.length : Nat) : Int) := by omega
    rw [places]
    exact unsignedFloat_before valid _
  · have places : point - digits.length = -((digits.length - point.toNat : Nat) : Int) := by omega
    rw [places]
    exact unsignedFloat_among valid (by omega) (by omega)

theorem unsignedFloat_scientific (valid : Digits digits) (point : Int) :
    Text.UnsignedFloat (scientific "" digits point).toList
      (Nat.ofDigitChars 10 digits 0 * 10 ^ (point - digits.length)) := by
  obtain ⟨first, rest, rfl⟩ := List.exists_cons_of_ne_nil valid.nonempty
  have scale := Numeral.denotes_ofInt (point - 1)
  have power : (10 : ℚ) ^ (point - (first :: rest).length) = (10 ^ rest.length)⁻¹ * 10 ^ (point - 1) := by
    rw [← zpow_natCast, ← zpow_neg, ← zpow_add₀ (by norm_num)]
    congr 1
    simp
    ring
  cases rest with
  | nil =>
    have read := Text.UnsignedFloat.scientific (.whole valid) scale
    simpa [scientific] using read
  | cons second more =>
    have tail : Digits (second :: more) := ⟨by simp, fun c member => valid.digit c (by simp [member])⟩
    have head : Digits [first] := ⟨by simp, by simp [valid.digit first]⟩
    have read := Text.UnsignedFloat.scientific (.pointed head tail) scale
    rw [power, ← mul_assoc, ← div_eq_mul_inv]
    simpa [scientific] using read

theorem unsignedFloat_text (d : Decimal) : Text.UnsignedFloat (d.text .literal).toList d.value := by
  have digits := Numeral.toDigits_digits d.significand
  have size : d.value = Nat.ofDigitChars 10 (Nat.toDigits 10 d.significand) 0 *
      10 ^ ((Nat.toDigits 10 d.significand).length + d.exponent - (Nat.toDigits 10 d.significand).length) := by
    rw [Nat.ofDigitChars_ten_toDigits, add_sub_cancel_left, Decimal.value]
  unfold text
  dsimp only
  split
  · next zero =>
    have read := Text.UnsignedFloat.pointed ⟨by simp, zeros_digit 1⟩ ⟨by simp, zeros_digit 1⟩
    have value : d.value = 0 := by rw [Decimal.value, zero, Nat.cast_zero, zero_mul]
    rw [value]
    simpa [Nat.ofDigitChars_cons] using read
  · rw [size]
    split
    · exact unsignedFloat_placed digits _
    · exact unsignedFloat_scientific digits _

end Layout

section Shortest

open Binary64

variable {tie : Tie} {magnitude : Nat}

theorem nearestOnGrid?_holds {i : Interval} {exponent : Int} {d : Decimal}
    (found : nearestOnGrid? tie i exponent = some d) :
    i.holds (d.significand * (2 ^ 1075 * 10 ^ d.exponent.toNat)) (10 ^ (-d.exponent).toNat) = true := by
  unfold nearestOnGrid? at found
  generalize 1075 = digits at *
  dsimp only at found
  split at found
  · next chosen =>
    cases found
    rw [Bool.and_eq_true] at chosen
    exact chosen.1
  split at found
  · next lower =>
    cases found
    exact lower
  · cases found

theorem holds_centre (nonzero : magnitude ≠ 0) (scale : Nat) (positive : 0 < scale) :
    (Interval.ofMagnitude magnitude).holds (2 * units magnitude * scale) scale = true := by
  have below : units (magnitude - 1) < units magnitude := units_strictMono (by omega)
  have above : units magnitude < units (magnitude + 1) := units_strictMono (by omega)
  have low : (units (magnitude - 1) + units magnitude) * scale < 2 * units magnitude * scale :=
    Nat.mul_lt_mul_of_pos_right (by omega) positive
  have high : 2 * units magnitude * scale < (units magnitude + units (magnitude + 1)) * scale :=
    Nat.mul_lt_mul_of_pos_right (by omega) positive
  exact holds_iff.mpr ⟨low.le, high.le, fun _ => ⟨low, high⟩⟩

/-- Every whole multiple of a negative power of two is on the grid of that power of ten. -/
theorem two_pow_dvd (units : Nat) {power next : Nat} (succ : next = power + 1) :
    2 ^ next ∣ 2 * units * 10 ^ power := by
  refine ⟨units * 5 ^ power, ?_⟩
  rw [succ, show 10 = 2 * 5 from rfl, Nat.mul_pow, Nat.pow_succ]
  ring

theorem nearestOnGrid?_finest (nonzero : magnitude ≠ 0) :
    (nearestOnGrid? tie (.ofMagnitude magnitude) (-1074)).isSome = true := by
  have centre : (Interval.ofMagnitude magnitude).centre = 2 * units magnitude := rfl
  have divides := two_pow_dvd (units magnitude) (rfl : 1075 = 1074 + 1)
  have lower := holds_centre nonzero (10 ^ 1074) (Nat.pow_pos (by decide))
  unfold nearestOnGrid?
  dsimp only
  rw [show (-1074 : Int).toNat = 0 from rfl, show (- -1074 : Int).toNat = 1074 from rfl]
  -- the powers are too large to be computed
  generalize 1074 = power, 1075 = next at divides lower ⊢
  rw [Nat.pow_zero, Nat.mul_one, centre]
  rw [← Nat.div_mul_cancel divides] at lower
  rw [lower]
  split
  · exact Option.isSome_some
  · exact Option.isSome_some

theorem mem_grids (magnitude : Nat) : (-1074 : Int) ∈ grids magnitude := by
  unfold grids
  dsimp only
  rw [List.mem_map]
  generalize (if _ = 0 then 0 else (Nat.toDigits 10 _).length) = top
  exact ⟨top + 1074, List.mem_range.mpr (by omega), by omega⟩

/-- The scan of the grids comes upon a decimal, at the latest on the finest of them. -/
theorem shortest_found (tie : Tie) (nonzero : magnitude ≠ 0) :
    ∃ exponent, nearestOnGrid? tie (.ofMagnitude magnitude) exponent = some (shortest tie magnitude) := by
  rw [shortest, if_neg nonzero]
  cases found : (grids magnitude).findSome? (nearestOnGrid? tie (.ofMagnitude magnitude)) with
  | none =>
    have finest := List.findSome?_eq_none_iff.mp found (-1074) (mem_grids magnitude)
    have hit : (nearestOnGrid? tie (.ofMagnitude magnitude) (-1074)).isSome = true :=
      nearestOnGrid?_finest nonzero
    simp [finest] at hit
  | some d =>
    obtain ⟨exponent, _, hit⟩ := List.exists_of_findSome?_eq_some found
    exact ⟨exponent, hit⟩

/-- Stated for every power, so that none of them is computed. -/
theorem double_value_mul (d : Decimal) {power next : Nat} (succ : next = power + 1) :
    2 * (d.value * 2 ^ power) * ((10 ^ (-d.exponent).toNat : Nat) : ℚ) =
      (d.significand * (2 ^ next * 10 ^ d.exponent.toNat) : Nat) := by
  have scale : (10 : ℚ) ^ d.exponent * 10 ^ (-d.exponent).toNat = 10 ^ d.exponent.toNat := by
    rw [← zpow_natCast, ← zpow_natCast, ← zpow_add₀ (by norm_num)]
    congr 1
    omega
  rw [value, succ]
  push_cast
  rw [← scale]
  ring

theorem within_shortest (tie : Tie) (magnitude : Nat) :
    Within magnitude ((shortest tie magnitude).value * 2 ^ 1074) := by
  by_cases zero : magnitude = 0
  · have value : (shortest tie magnitude).value = 0 := by
      rw [shortest, if_pos zero, value, Nat.cast_zero, zero_mul]
    rw [value, zero_mul, zero]
    exact ⟨by simp [units_zero], by simp [units_zero], by simp⟩
  · obtain ⟨exponent, found⟩ := shortest_found tie zero
    have ratio := double_value_mul (shortest tie magnitude) (rfl : 1075 = 1074 + 1)
    have holds := nearestOnGrid?_holds found
    generalize 2 ^ 1075 = unit at ratio holds
    exact .of_holds (Nat.pow_pos (by decide)) ratio holds

end Shortest

end Decimal

section Doubles

open Text

/-- The double that a float literal is read as: the nearest to the number written, with the sign written. -/
def Text.FloatReads (text : List Char) (x : Binary64) : Prop :=
  ∃ size, FloatLiteral text x.negative size ∧ x.Nearest (signed x.negative size)

theorem Text.FloatReads.unique {text : List Char} {x y : Binary64} (first : FloatReads text x)
    (second : FloatReads text y) : x = y := by
  obtain ⟨size, literal, nearest⟩ := first
  obtain ⟨size', literal', nearest'⟩ := second
  obtain ⟨signs, rfl⟩ := literal.unique literal'
  rw [← signs] at nearest'
  exact nearest.unique nearest' signs

namespace Binary64

variable {x y : Binary64}

theorem not_isNaN_of_isFinite (finite : x.isFinite = true) : x.isNaN = false := by
  simp only [isFinite, isNaN, decide_eq_true_eq, decide_eq_false_iff_not] at *
  omega

theorem floatLiteral_text (finite : x.isFinite = true) :
    FloatLiteral (x.text .literal).toList x.negative (Decimal.shortest .up x.magnitude).value := by
  have unsigned := (Decimal.shortest .up x.magnitude).unsignedFloat_text
  have text : x.text .literal =
      if x.negative then "-" ++ (Decimal.shortest .up x.magnitude).text .literal
      else (Decimal.shortest .up x.magnitude).text .literal := by
    rw [Binary64.text, not_isNaN_of_isFinite finite, finite]
    rfl
  rw [text]
  cases x.negative with
  | false => exact .plain unsigned
  | true =>
    have minus := FloatLiteral.minus unsigned
    simpa using minus

theorem floatReads_text (finite : x.isFinite = true) : FloatReads (x.text .literal).toList x := by
  have nonneg : 0 ≤ (Decimal.shortest .up x.magnitude).value := by
    rw [Decimal.value]
    positivity
  exact ⟨_, floatLiteral_text finite, (Decimal.within_shortest .up x.magnitude).nearest finite nonneg⟩

theorem text_injective (finite : x.isFinite = true) (finite' : y.isFinite = true)
    (same : x.text .literal = y.text .literal) : x = y :=
  (floatReads_text finite).unique (same ▸ floatReads_text finite')

end Binary64

end Doubles

section Nodes

theorem natAbs_toInt_lt (value : Int64) : value.toInt.natAbs < 2 ^ 64 := by
  have low := value.le_toInt
  have high := value.toInt_lt
  omega

/-- A node that follows the rule of floats and holds an atom. -/
structure Node.IsFloat (setting : Setting) (node : Node) (atom : Atom) : Prop where
  resolved : setting.resolve? node.tag node.span = some .float
  holds : node.children = [.atom atom]

variable {setting : Setting} {node : Node}

theorem Node.IsFloat.renderWith {atom : Atom} {x : Binary64} (float : node.IsFloat setting atom)
    (double : atom.double? = some x) :
    node.renderWith setting =
      if x.isFinite then .ok (x.text .literal) else .error (.malformed node.tag .nonFinite) := by
  obtain ⟨tag, children, span⟩ := node
  obtain ⟨resolved, rfl⟩ := float
  have pieces : Rule.float.pieces tag span [Slot.atom (α := Node) atom] = [.text (x.text .literal)] := by
    simp [Rule.pieces, Slot.double, double]
  have fault : Rule.float.fault? setting.config.beginPolicy span [some atom] =
      if x.isFinite then none else some .nonFinite := by
    simp [Rule.fault?, Outline.countFault?, Outline.atomFault?, Outline.floatFault?, double]
  refine (Node.renderWith_text setting resolved pieces).trans ?_
  simp only [List.map_cons, List.map_nil, Child.outline, fault]
  cases x.isFinite <;> rfl

end Nodes

/-- A float node that holds a finite double is rendered as a float literal, which is no numeral and is read
as the double with the very same bits and no other; so doubles with other bits are rendered otherwise. An
integer is rendered as the nearest double is. A double that is not finite has no literal. -/
theorem float_literals_keep_their_bits (setting : Setting) (node : Node) :
    (∀ bits : UInt64, node.IsFloat setting (.float (.ofBits bits)) → (Binary64.ofBits bits).isFinite = true →
      ∃ literal : String, node.renderWith setting = .ok literal ∧
        (∃ negative size, Text.FloatLiteral literal.toList negative size) ∧
        (∀ value, ¬Numeral.Denotes literal.toList value) ∧
        (∀ x, Text.FloatReads literal.toList x ↔ x.toBits = bits) ∧
        ∀ (another : Node) (other : UInt64), another.IsFloat setting (.float (.ofBits other)) →
          another.renderWith setting = .ok literal → other = bits) ∧
    (∀ value : Int64, node.IsFloat setting (.integer value) →
      ∃ (x : Binary64) (literal : String), x.Nearest value.toInt ∧ x.negative = decide (value.toInt < 0) ∧
        Node.renderWith setting { node with children := [.atom (.float x)] } = .ok literal ∧
        node.renderWith setting = .ok literal) ∧
    ∀ bits : UInt64, node.IsFloat setting (.float (.ofBits bits)) → (Binary64.ofBits bits).isFinite = false →
      node.renderWith setting = .error (.malformed node.tag .nonFinite) := by
  refine ⟨fun bits float finite => ?_, fun value float => ?_, fun bits float infinite => ?_⟩
  · have rendered := float.renderWith rfl
    rw [if_pos finite] at rendered
    have literal := Binary64.floatLiteral_text finite
    refine ⟨_, rendered, ⟨_, _, literal⟩, literal.not_denotes, ?_, ?_⟩
    · intro x
      constructor
      · intro reads
        rw [reads.unique (Binary64.floatReads_text finite), Binary64.toBits_ofBits]
      · rintro rfl
        rw [Binary64.ofBits_toBits] at finite ⊢
        exact Binary64.floatReads_text finite
    · intro another other isFloat alike
      rw [isFloat.renderWith rfl] at alike
      split at alike
      · next finite' =>
        have same := Binary64.text_injective finite' finite (Except.ok.inj alike)
        rw [← Binary64.toBits_ofBits other, same, Binary64.toBits_ofBits]
      · cases alike
  · have small := natAbs_toInt_lt value
    have finite := Binary64.ofInt_isFinite small
    have same : Node.IsFloat setting { node with children := [.atom (.float (.ofInt value.toInt))] }
        (.float (.ofInt value.toInt)) := ⟨float.resolved, rfl⟩
    refine ⟨.ofInt value.toInt, (Binary64.ofInt value.toInt).text .literal, Binary64.ofInt_nearest small, rfl,
      ?_, ?_⟩
    · rw [same.renderWith rfl, if_pos finite]
    · rw [float.renderWith rfl, if_pos finite]
  · rw [float.renderWith rfl, infinite]
    rfl

theorem least_double_is_read_back :
    let node : Node := ⟨.known .float, [.atom (.float (.ofBits 1))], none⟩
    node.IsFloat {} (.float (.ofBits 1)) ∧ (Binary64.ofBits 1).isFinite = true ∧
    node.renderWith {} = .ok "5e-324" ∧ ∀ x, Text.FloatReads "5e-324".toList x ↔ x.toBits = 1 := by
  intro node
  have float : node.IsFloat {} (.float (.ofBits 1)) := ⟨rfl, rfl⟩
  have finite : (Binary64.ofBits 1).isFinite = true := by decide
  have text : (Binary64.ofBits 1).text .literal = "5e-324" := by decide +kernel
  have rendered : node.renderWith {} = .ok "5e-324" := by rw [float.renderWith rfl, if_pos finite, text]
  obtain ⟨literal, written, _, _, reads, _⟩ := (float_literals_keep_their_bits {} node).1 1 float finite
  obtain rfl := Except.ok.inj (written.symm.trans rendered)
  exact ⟨float, finite, rendered, reads⟩

end RubyTree
