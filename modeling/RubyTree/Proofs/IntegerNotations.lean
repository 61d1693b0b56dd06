import RubyTree.Proofs.IntegerLiterals

/-!
Integers in documents. A numeral of any length is taken for its value if that fits 64 bits, and is kept as
it is if it does not. An integer that JSON itself can write as a number may be written either way.
-/

namespace RubyTree

theorem Atom.ofNumeral_ofInt (value : Int) :
    Atom.ofNumeral (Numeral.ofInt value) = .ok (Decode.numberAtom (.integer value)) := by
  simp only [Atom.ofNumeral, (Numeral.value?_eq_some_iff _ _).mpr (Numeral.denotes_ofInt value),
    Decode.numberAtom]
  split <;> rfl

section Lists

theorem Decode.childList_append (room : Nat) (first rest : List Json) :
    Decode.childList room (first ++ rest) = do
      let list ← Decode.childList room first
      let more ← Decode.childList room rest
      return list ++ more := by
  induction first with
  | nil => simp [Decode.childList, ok_bind]
  | cons item first ih => simp [Decode.childList, ih]

theorem checkChildren_append (buffer : Option Buffer) (first rest : List DraftChild) :
    checkChildren buffer (first ++ rest) = do
      let children ← checkChildren buffer first
      let more ← checkChildren buffer rest
      return children ++ more := by
  induction first with
  | nil => simp [checkChildren, ok_bind]
  | cons child first ih => cases child <;> simp [checkChildren, ih]

variable {buffer : Option Buffer} {room : Nat}

/-- Two children are loaded alike, wherever they stand, if each decodes and both check alike. -/
theorem loadChildren_exchange {item other : Json} {draft another : DraftChild}
    (decodes : Decode.childList room [item] = .ok [draft])
    (alsoDecodes : Decode.childList room [other] = .ok [another])
    (alike : checkChildren buffer [draft] = checkChildren buffer [another]) (before after : List Json) :
    loadChildren buffer room (before ++ item :: after) = loadChildren buffer room (before ++ other :: after) := by
  have split (item : Json) : before ++ item :: after = before ++ ([item] ++ after) := rfl
  simp only [loadChildren, split, Decode.childList_append, decodes, alsoDecodes, checkChildren_append,
    bind_assoc, pure_bind, ok_bind, alike]

end Lists

section Notations

theorem Decode.childList_ofNumeral (room : Nat) (numeral : String) :
    Decode.childList (room + 1) [.ofNumeral numeral] = .ok [.integer numeral] := rfl

theorem Decode.childList_ofInt {value : Int} (low : -2 ^ 63 ≤ value) (high : value < 2 ^ 64) (room : Nat) :
    Decode.childList room [.ofInt value] = .ok [.atom (Decode.numberAtom (.integer value))] := by
  have sound : (Json.ofInt value).flaw? room = none :=
    Json.flaw?_eq_none _ room (Json.Literal.readable_ofInt value low high) (Nat.zero_le room)
  exact Decode.childList_cons_eq_ok.mpr ⟨sound, _, Decode.child_number low high room, _, rfl, rfl⟩

theorem loadChildren_numeral {buffer : Option Buffer} {room : Nat} {numeral : String} {atom : Atom}
    (kept : Numeral.KeptAs numeral atom) :
    loadChildren buffer (room + 1) [.ofNumeral numeral] = .ok [.atom atom] := by
  simp only [loadChildren, Decode.childList_ofNumeral, ok_bind, checkChildren,
    Numeral.ofNumeral_eq_ok_iff.mpr kept]
  rfl

theorem text_ofInt (value : Int) : (Json.ofInt value).text = (Numeral.ofInt value).toList := by
  by_cases negative : value < 0 <;>
    simp [Json.ofInt, Json.text, Json.Literal.text, Json.Literal.unsignedText, Json.Literal.ofInt,
      Json.fractionText, Json.exponentText, Numeral.ofInt, Numeral.ofNat, negative]

end Notations

/-- A numeral is accepted exactly if it is an optional minus sign and digits. It is loaded as an integer of
64 bits exactly if its value is one, whatever zeros it begins with, and as it is written otherwise. An
integer that JSON can write as a number is loaded alike from that number and from its numeral, in any place
in a list of children where the numeral is not too deep. -/
theorem integers_are_loaded_exactly (buffer : Option Buffer) (room : Nat) :
    (∀ numeral : String,
      ((∃ children, loadChildren buffer (room + 1) [.ofNumeral numeral] = .ok children) ↔
        ∃ value, Numeral.Denotes numeral.toList value) ∧
      ∀ value : Int, Numeral.Denotes numeral.toList value →
        ((∃ word : Int64, word.toInt = value ∧
            loadChildren buffer (room + 1) [.ofNumeral numeral] = .ok [.atom (.integer word)]) ↔
          -2 ^ 63 ≤ value ∧ value ≤ 2 ^ 63 - 1) ∧
        (loadChildren buffer (room + 1) [.ofNumeral numeral] = .ok [.atom (.bigInteger numeral)] ↔
          ¬(-2 ^ 63 ≤ value ∧ value ≤ 2 ^ 63 - 1))) ∧
    ∀ value : Int, -2 ^ 63 ≤ value → value ≤ 2 ^ 64 - 1 →
      (Json.ofInt value).text = (Numeral.ofInt value).toList ∧
      Numeral.Canonical (Numeral.ofInt value).toList value ∧
      (∃ atom, loadChildren buffer (room + 1) [.ofInt value] = .ok [.atom atom] ∧
        loadChildren buffer (room + 1) [.ofNumeral (Numeral.ofInt value)] = .ok [.atom atom]) ∧
      ∀ before after : List Json, loadChildren buffer (room + 1) (before ++ .ofInt value :: after) =
        loadChildren buffer (room + 1) (before ++ .ofNumeral (Numeral.ofInt value) :: after) := by
  refine ⟨fun numeral => ⟨?_, fun value denotes => ?_⟩, fun value low high => ?_⟩
  · constructor
    · rintro ⟨children, loaded⟩
      obtain ⟨atom, kept, _⟩ := loadChildren_ofNumeral loaded
      exact (Numeral.ofNumeral_eq_ok_iff.mp kept).denotes
    · rintro ⟨value, denotes⟩
      obtain ⟨atom, kept⟩ := denotes.exists_keptAs
      exact ⟨_, loadChildren_numeral kept⟩
  · obtain ⟨low, high, kept⟩ | ⟨wide, kept⟩ := denotes.keptAs
    · rw [loadChildren_numeral kept]
      have word : (Int64.ofInt value).toInt = value := Int64.toInt_ofInt_of_le low (by omega)
      constructor
      · exact iff_of_true ⟨_, word, rfl⟩ ⟨low, high⟩
      · exact iff_of_false (by simp) (not_not_intro ⟨low, high⟩)
    · rw [loadChildren_numeral kept]
      have outside : ¬(-2 ^ 63 ≤ value ∧ value ≤ 2 ^ 63 - 1) := by
        unfold Numeral.Wide at wide
        omega
      constructor
      · exact iff_of_false (by simp) outside
      · exact iff_of_true rfl outside
  · have wide : value < 2 ^ 64 := by omega
    have number := Decode.childList_ofInt low wide (room + 1)
    have numeral := Decode.childList_ofNumeral room (Numeral.ofInt value)
    have alike : checkChildren buffer [.atom (Decode.numberAtom (.integer value))] =
        checkChildren buffer [.integer (Numeral.ofInt value)] := by
      simp only [checkChildren, Atom.ofNumeral_ofInt, ok_bind]
    refine ⟨text_ofInt value, Numeral.canonical_ofInt value, ⟨Decode.numberAtom (.integer value), ?_, ?_⟩,
      loadChildren_exchange number numeral alike⟩
    · simp only [loadChildren, number, ok_bind, checkChildren]
      rfl
    · exact loadChildren_numeral (Numeral.ofNumeral_eq_ok_iff.mp (Atom.ofNumeral_ofInt value))

/-- Minus zero, with zeros in front, is zero; the first integer beyond 64 bits with sign is loaded alike in
both notations. -/
theorem minus_zero_and_first_wide_integer_are_loaded :
    loadChildren none 1 [.ofNumeral "-000"] = .ok [.atom (.integer 0)] ∧
    ∃ atom, loadChildren none 1 [.ofInt 9223372036854775808] = .ok [.atom atom] ∧
      loadChildren none 1 [.ofNumeral "9223372036854775808"] = .ok [.atom atom] := by
  obtain ⟨numerals, numbers⟩ := integers_are_loaded_exactly none 0
  have zero : Numeral.Denotes "-000".toList 0 := (Numeral.value?_eq_some_iff _ _).mp (by rfl)
  have first : Numeral.ofInt 9223372036854775808 = "9223372036854775808" := by rfl
  obtain ⟨word, isZero, loaded⟩ := (((numerals "-000").2 0 zero).1.mpr ⟨by decide, by decide⟩)
  obtain rfl : word = 0 := Int64.toInt_inj.mp isZero
  have alike := (numbers 9223372036854775808 (by decide) (by decide)).2.2.1
  rw [first] at alike
  exact ⟨loaded, alike⟩

end RubyTree
