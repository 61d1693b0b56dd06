import RubyTree.Proofs.Encoding
import RubyTree.Proofs.Parameters

/-!
Integers that a document gives by their numerals, and the literals they are rendered as. An integer of 64
bits is written anew from its value. A wider one is written as it was given, so that zeros in front of it
are kept, and Ruby takes a literal that begins with a zero for an octal one.
-/

namespace RubyTree

namespace Numeral

/-- The numeral of an integer as it is usually written: an optional minus sign, then digits of which the
first is not a zero, and a single zero for zero. -/
inductive Canonical : List Char → Int → Prop where
  | zero : Canonical ['0'] 0
  | plain {digits : List Char} (valid : Digits digits) (lead : digits.head? ≠ some '0') :
    Canonical digits (Nat.ofDigitChars 10 digits 0)
  | minus {digits : List Char} (valid : Digits digits) (lead : digits.head? ≠ some '0') :
    Canonical ('-' :: digits) (-(Nat.ofDigitChars 10 digits 0 : Int))

/-- A zero stands in front of other digits. -/
inductive Padded : List Char → Prop where
  | plain (c : Char) (rest : List Char) : Padded ('0' :: c :: rest)
  | minus (c : Char) (rest : List Char) : Padded ('-' :: '0' :: c :: rest)

theorem head_toDigits {value : Nat} (positive : value ≠ 0) :
    (Nat.toDigits 10 value).head? ≠ some '0' := by
  intro zero
  obtain ⟨rest, digits⟩ := List.head?_eq_some_iff.mp zero
  cases rest with
  | nil =>
    apply positive
    rw [← Nat.ofDigitChars_ten_toDigits (n := value), digits]
    rfl
  | cons c rest => exact toDigits_ne_zero_cons value c rest digits

theorem canonical_ofInt (value : Int) : Canonical (ofInt value).toList value := by
  have digits : Nat.ofDigitChars 10 (Nat.toDigits 10 value.natAbs) 0 = value.natAbs :=
    Nat.ofDigitChars_ten_toDigits
  by_cases zero : value = 0
  · subst zero
    exact .zero
  · have valid := toDigits_digits value.natAbs
    have lead := head_toDigits (Int.natAbs_ne_zero.mpr zero)
    unfold ofInt
    split
    · next negative =>
      have minus := Canonical.minus valid lead
      rw [digits, show -(value.natAbs : Int) = value by omega] at minus
      simpa [ofNat] using minus
    · next nonnegative =>
      have plain := Canonical.plain valid lead
      rw [digits, show (value.natAbs : Int) = value by omega] at plain
      simpa [ofNat] using plain

theorem Canonical.not_padded {text : List Char} {value : Int} (canonical : Canonical text value) :
    ¬Padded text := by
  intro padded
  cases padded with
  | plain c rest =>
    cases canonical with
    | plain valid lead => exact lead rfl
  | minus c rest =>
    cases canonical with
    | plain valid lead => exact valid.head_ne_minus rfl
    | minus valid lead => exact lead rfl

/-- A numeral of a number other than zero can only be spoilt by zeros in front. -/
theorem Denotes.canonical {text : List Char} {value : Int} (denotes : Denotes text value)
    (nonzero : value ≠ 0) (unpadded : ¬Padded text) : Canonical text value := by
  cases denotes with
  | plain valid =>
    refine .plain valid fun zero => ?_
    obtain ⟨rest, rfl⟩ := List.head?_eq_some_iff.mp zero
    cases rest with
    | nil => exact nonzero rfl
    | cons c rest => exact unpadded (.plain c rest)
  | minus valid =>
    refine .minus valid fun zero => ?_
    obtain ⟨rest, rfl⟩ := List.head?_eq_some_iff.mp zero
    cases rest with
    | nil => exact nonzero rfl
    | cons c rest => exact unpadded (.minus c rest)

end Numeral

section Loading

/-- What loading makes of a list of children where `room` more arrays and objects may be opened. -/
def loadChildren (buffer : Option Buffer) (room : Nat) (items : List Json) :
    Except LoadError (List Child) := do
  checkChildren buffer (← Decode.childList room items)

def Json.ofNumeral (numeral : String) : Json := .ofMembers [("int", .ofText numeral)]

variable {buffer : Option Buffer} {room : Nat} {numeral : String} {children : List Child}

theorem loadChildren_ofNumeral (accepted : loadChildren buffer room [.ofNumeral numeral] = .ok children) :
    ∃ atom, Atom.ofNumeral numeral = .ok atom ∧ children = [.atom atom] := by
  obtain ⟨drafts, decoded, checked⟩ := bind_eq_ok.mp accepted
  cases room with
  | zero => cases decoded
  | succ room =>
    cases decoded
    simp only [checkChildren] at checked
    obtain ⟨atom, loaded, checked⟩ := bind_eq_ok.mp checked
    cases checked
    exact ⟨atom, loaded, rfl⟩

theorem Atom.ofNumeral_eq_ok {atom : Atom} (loaded : Atom.ofNumeral numeral = .ok atom) :
    ∃ value, Numeral.Denotes numeral.toList value ∧
      (atom = .integer (Int64.ofInt value) ∧ -2 ^ 63 ≤ value ∧ value < 2 ^ 63 ∨
        atom = .bigInteger numeral ∧ Numeral.Wide value) := by
  cases Numeral.ofNumeral_eq_ok_iff.mp loaded with
  | @narrow word denotes =>
    exact ⟨word.toInt, denotes, .inl ⟨by rw [Int64.ofInt_toInt], word.le_toInt, word.toInt_lt⟩⟩
  | wide denotes wide => exact ⟨_, denotes, .inr ⟨rfl, wide⟩⟩

end Loading

section Rendering

variable (config : Config) (span : Option Span)

theorem renderWith_integer (value : Int64) :
    Node.renderWith ⟨.builtin, config⟩ ⟨.known .int, [.atom (.integer value)], span⟩ =
      .ok (Numeral.ofInt value.toInt) :=
  congrArg Outcome.result (Outcome.sequence_singleton _)

theorem renderWith_bigInteger (numeral : String) :
    Node.renderWith ⟨.builtin, config⟩ ⟨.known .int, [.atom (.bigInteger numeral)], span⟩ =
      .ok numeral :=
  congrArg Outcome.result (Outcome.sequence_singleton _)

end Rendering

/-- A numeral that loading accepts is rendered as a numeral of the same integer. It is the canonical one,
unless the integer is beyond 64 bits and given with zeros in front: then they are kept. -/
theorem integer_literals_are_canonical_iff (buffer : Option Buffer) (room : Nat) (numeral : String)
    (children : List Child) (accepted : loadChildren buffer room [.ofNumeral numeral] = .ok children) :
    ∃ value literal, Numeral.Denotes numeral.toList value ∧
      (∀ config span,
        Node.renderWith ⟨.builtin, config⟩ ⟨.known .int, children, span⟩ = .ok literal) ∧
      Numeral.Denotes literal.toList value ∧
      (Numeral.Canonical literal.toList value ↔
        ¬(Numeral.Wide value ∧ Numeral.Padded numeral.toList)) ∧
      (Numeral.Wide value → literal = numeral) := by
  obtain ⟨atom, loaded, rfl⟩ := loadChildren_ofNumeral accepted
  obtain ⟨value, denotes, ⟨rfl, low, high⟩ | ⟨rfl, wide⟩⟩ := Atom.ofNumeral_eq_ok loaded
  · have kept : (Int64.ofInt value).toInt = value := Int64.toInt_ofInt_of_le low high
    have narrow : ¬Numeral.Wide value := by
      unfold Numeral.Wide
      omega
    refine ⟨value, Numeral.ofInt value, denotes, fun config span => ?_, Numeral.denotes_ofInt value, ?_,
      fun wide => absurd wide narrow⟩
    · rw [renderWith_integer, kept]
    · exact iff_of_true (Numeral.canonical_ofInt value) fun both => narrow both.1
  · refine ⟨value, numeral, denotes, fun config span => renderWith_bigInteger config span numeral, denotes,
      ?_, fun _ => rfl⟩
    have nonzero : value ≠ 0 := by
      unfold Numeral.Wide at wide
      omega
    constructor
    · exact fun canonical both => canonical.not_padded both.2
    · exact fun plain => denotes.canonical nonzero fun padded => plain ⟨wide, padded⟩

theorem padded_least_integer_is_canonical :
    loadChildren none 1 [.ofNumeral "-0009223372036854775808"] =
      .ok [.atom (.integer (-9223372036854775808))] ∧
    Node.renderWith {} ⟨.known .int, [.atom (.integer (-9223372036854775808))], none⟩ =
      .ok "-9223372036854775808" ∧
    Numeral.Canonical "-9223372036854775808".toList (-9223372036854775808) := by
  have accepted : loadChildren none 1 [.ofNumeral "-0009223372036854775808"] =
      .ok [.atom (.integer (-9223372036854775808))] := by rfl
  have rendered : Node.renderWith {} ⟨.known .int, [.atom (.integer (-9223372036854775808))], none⟩ =
      .ok "-9223372036854775808" := by rfl
  have numeral : Numeral.value? "-0009223372036854775808".toList = some (-9223372036854775808) := by rfl
  obtain ⟨value, literal, denotes, written, _, canonical, _⟩ :=
    integer_literals_are_canonical_iff _ _ _ _ accepted
  obtain rfl := denotes.unique ((Numeral.value?_eq_some_iff _ _).mp numeral)
  obtain rfl := Except.ok.inj ((written {} none).symm.trans rendered)
  exact ⟨accepted, rendered, canonical.mpr fun both => by unfold Numeral.Wide at both; omega⟩

/-- The next integer after those of 64 bits, with a zero in front, is not rendered as a numeral of any
integer that is written as usual. -/
theorem padded_wide_integer_is_not_canonical :
    loadChildren none 1 [.ofNumeral "09223372036854775808"] =
      .ok [.atom (.bigInteger "09223372036854775808")] ∧
    Numeral.Denotes "09223372036854775808".toList 9223372036854775808 ∧
    Node.renderWith {} ⟨.known .int, [.atom (.bigInteger "09223372036854775808")], none⟩ =
      .ok "09223372036854775808" ∧
    ∀ value, ¬Numeral.Canonical "09223372036854775808".toList value := by
  refine ⟨by rfl, (Numeral.value?_eq_some_iff _ _).mp (by rfl), by rfl, fun value canonical => ?_⟩
  exact canonical.not_padded (.plain _ _)

end RubyTree
