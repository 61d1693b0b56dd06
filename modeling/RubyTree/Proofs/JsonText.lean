import RubyTree.Json.Read
import RubyTree.Proofs.Literals
import RubyTree.Proofs.Numerals

/-!
Writing JSON values as texts without blanks, and reading them back. Of a string only quotes, backslashes
and control characters are escaped.
-/

namespace RubyTree

namespace Json

section Writing

def charText (c : Char) : List Char :=
  if c = '"' ∨ c = '\\' then ['\\', c]
  else if c.toNat < 0x20 then
    ['\\', 'u', '0', '0', Nat.digitChar (c.toNat / 16), Nat.digitChar (c.toNat % 16)]
  else [c]

def stringText (text : String) : List Char := '"' :: text.toList.flatMap charText ++ ['"']

def fractionText (digits : List Char) : List Char := if digits.isEmpty then [] else '.' :: digits

def exponentText : Option (Bool × List Char) → List Char
  | none => []
  | some (true, digits) => 'e' :: '-' :: digits
  | some (false, digits) => 'e' :: digits

def Literal.unsignedText (literal : Literal) : List Char :=
  literal.whole ++ (fractionText literal.fraction ++ exponentText literal.exponent)

def Literal.text (literal : Literal) : List Char :=
  if literal.negative then '-' :: literal.unsignedText else literal.unsignedText

mutual

/-- A value as text. What breaks off has none. -/
def text : Json → List Char
  | .null => ['n', 'u', 'l', 'l']
  | .bool true => ['t', 'r', 'u', 'e']
  | .bool false => ['f', 'a', 'l', 's', 'e']
  | .number literal => literal.text
  | .string text => stringText (text.getD "")
  | .array items _ => '[' :: itemsText items
  | .object members _ => '{' :: membersText members
  | .broken _ => []

def itemsText : List Json → List Char
  | [] => [']']
  | [item] => item.text ++ [']']
  | item :: next :: rest => item.text ++ ',' :: itemsText (next :: rest)

def membersText : List Member → List Char
  | [] => ['}']
  | [⟨key, value⟩] => stringText (key.getD "") ++ ':' :: value.text ++ ['}']
  | ⟨key, value⟩ :: next :: rest =>
    stringText (key.getD "") ++ ':' :: value.text ++ ',' :: membersText (next :: rest)

end

/-- A number as the grammar has it, within the range of doubles. -/
structure Literal.Readable (literal : Literal) : Prop where
  whole : Numeral.Digits literal.whole
  noLeadingZero : ∀ c rest, literal.whole ≠ '0' :: c :: rest
  fraction : ∀ c ∈ literal.fraction, c.isDigit = true
  exponent : ∀ negative digits, literal.exponent = some (negative, digits) → Numeral.Digits digits
  value : literal.value?.isSome = true

mutual

/-- A value that is complete, and in which every string is a text and every number has a value. -/
def Readable : Json → Prop
  | .null | .bool _ => True
  | .number literal => literal.Readable
  | .string text => text.isSome = true
  | .array items stop => ItemsReadable items ∧ stop = none
  | .object members stop => MembersReadable members ∧ stop = none
  | .broken _ => False

def ItemsReadable : List Json → Prop
  | [] => True
  | item :: rest => item.Readable ∧ ItemsReadable rest

def MembersReadable : List Member → Prop
  | [] => True
  | ⟨key, value⟩ :: rest => key.isSome = true ∧ value.Readable ∧ MembersReadable rest

end

end Writing

section Strings

theorem value?_control (code : Nat) (control : code < 0x20) :
    Hex.value? ['0', '0', Nat.digitChar (code / 16), Nat.digitChar (code % 16)] = some code := by
  have zero : Hex.digit? '0' = some 0 := by decide
  have high := Hex.digit?_digitChar (code / 16) (by omega)
  have low := Hex.digit?_digitChar (code % 16) (by omega)
  simp [Hex.value?, zero, high, low, Nat.div_add_mod]

theorem units_charText (c : Char) (rest : List Char) :
    units (charText c ++ rest) = (.char c :: (units rest).1, (units rest).2) := by
  unfold charText
  split
  · next escaped => rcases escaped with rfl | rfl <;> rfl
  · next plain =>
    split
    · next control =>
      have unit : unitOfCode c.toNat = .char c := by
        rw [unitOfCode, if_neg (by simp; omega), Char.ofNat_toNat]
      simp [units, value?_control c.toNat control, unit]
    · next visible =>
      simp only [not_or] at plain
      simp [units, plain, visible]

theorem units_text (characters rest : List Char) :
    units (characters.flatMap charText ++ '"' :: rest) = (characters.map .char, .ok rest) := by
  induction characters with
  | nil => simp [units]
  | cons c characters ih => simp [units_charText, ih]

theorem joinHalves_chars (characters : List Char) :
    joinHalves none (characters.map .char) = .ok characters := by
  induction characters with
  | nil => rfl
  | cons c characters ih =>
    rw [List.map_cons, joinHalves, ih]
    rfl

theorem readString_text (text : String) (rest : List Char) :
    readString (text.toList.flatMap charText ++ '"' :: rest) = .ok (some text, rest) := by
  simp [readString, units_text, joinHalves_chars, Except.toOption]

end Strings

section Numbers

/-- What may follow a value: the end, or a character that no value goes on with. -/
def EndsValue (rest : List Char) : Prop := ∀ c ∈ rest.head?, c = ',' ∨ c = ']' ∨ c = '}'

theorem EndsValue.cons {c : Char} (rest : List Char) (ends : c = ',' ∨ c = ']' ∨ c = '}') :
    EndsValue (c :: rest) := by
  rintro _ ⟨⟩
  exact ends

theorem readDigits_append {digits rest : List Char} (valid : Numeral.Digits digits)
    (outside : ∀ c ∈ rest.head?, c.isDigit = false) :
    readDigits (digits ++ rest) = .ok (digits, rest) := by
  obtain ⟨first, more, rfl⟩ := List.exists_cons_of_ne_nil valid.nonempty
  have whole := Text.readWhile_append valid.digit outside
  simp only [Text.readWhile, Prod.mk.injEq] at whole
  simp only [List.cons_append] at whole ⊢
  rw [readDigits, if_pos (valid.digit first (by simp)), whole.1, whole.2]

theorem EndsValue.outside {rest : List Char} (ends : EndsValue rest) :
    ∀ c ∈ rest.head?, c.isDigit = false ∧ c ≠ '.' ∧ c ≠ 'e' ∧ c ≠ 'E' := by
  intro c follows
  rcases ends c follows with rfl | rfl | rfl <;> decide

theorem readWhole_append {literal : Literal} (valid : literal.Readable) {rest : List Char}
    (outside : ∀ c ∈ rest.head?, c.isDigit = false) :
    readWhole (literal.whole ++ rest) = .ok (literal.whole, rest) := by
  unfold readWhole
  simp only [readDigits_append valid.whole outside, bind, Except.bind]
  split
  · next zero => exact absurd zero (valid.noLeadingZero _ _)
  · rfl

theorem readFraction_append {digits : List Char} (valid : ∀ c ∈ digits, c.isDigit = true)
    {rest : List Char} (outside : ∀ c ∈ rest.head?, c.isDigit = false ∧ c ≠ '.') :
    readFraction (fractionText digits ++ rest) = .ok (digits, rest) := by
  cases digits with
  | nil =>
    cases rest with
    | nil => rfl
    | cons c rest =>
      have plain := (outside c rfl).2
      simp [fractionText, readFraction, plain]
  | cons first more =>
    exact readDigits_append ⟨by simp, valid⟩ fun c follows => (outside c follows).1

theorem exponentSign_digits {digits rest : List Char} (valid : Numeral.Digits digits) :
    exponentSign (digits ++ rest) = (false, digits ++ rest) := by
  obtain ⟨first, more, rfl⟩ := List.exists_cons_of_ne_nil valid.nonempty
  have digit := valid.digit first (by simp)
  have plus : first ≠ '+' := by rintro rfl; exact absurd digit (by decide)
  have minus := valid.head_ne_minus
  simp [exponentSign, plus, minus]

theorem readExponent_append {exponent : Option (Bool × List Char)}
    (valid : ∀ negative digits, exponent = some (negative, digits) → Numeral.Digits digits)
    {rest : List Char} (ends : EndsValue rest) :
    readExponent (exponentText exponent ++ rest) = .ok (exponent, rest) := by
  have outside : ∀ c ∈ rest.head?, c.isDigit = false := fun c follows => (ends.outside c follows).1
  rcases exponent with _ | ⟨_ | _, digits⟩
  · cases rest with
    | nil => rfl
    | cons c rest =>
      obtain ⟨_, _, small, large⟩ := ends.outside c rfl
      simp [exponentText, readExponent, small, large]
  · have read := readDigits_append (valid false digits rfl) outside
    simp [exponentText, readExponent, exponentSign_digits (valid false digits rfl), read, bind, Except.bind]
  · have read := readDigits_append (valid true digits rfl) outside
    simp [exponentText, readExponent, exponentSign, read, bind, Except.bind]

theorem head_exponentText (exponent : Option (Bool × List Char)) {rest : List Char}
    (ends : EndsValue rest) :
    ∀ c ∈ (exponentText exponent ++ rest).head?, c.isDigit = false ∧ c ≠ '.' := by
  intro c follows
  rcases exponent with _ | ⟨_ | _, digits⟩
  · exact ⟨(ends.outside c follows).1, (ends.outside c follows).2.1⟩
  · cases follows
    decide
  · cases follows
    decide

theorem head_fractionText (digits : List Char) {rest : List Char}
    (outside : ∀ c ∈ rest.head?, c.isDigit = false) :
    ∀ c ∈ (fractionText digits ++ rest).head?, c.isDigit = false := by
  intro c follows
  cases digits with
  | nil => exact outside c follows
  | cons first more =>
    cases follows
    decide

theorem readLiteral_text {literal : Literal} (valid : literal.Readable) {rest : List Char}
    (ends : EndsValue rest) :
    readLiteral literal.negative (literal.unsignedText ++ rest) = .ok (literal, rest) := by
  have afterFraction := head_exponentText literal.exponent ends
  have afterWhole := head_fractionText literal.fraction fun c follows => (afterFraction c follows).1
  simp only [readLiteral, Literal.unsignedText, List.append_assoc, readWhole_append valid afterWhole,
    readFraction_append valid.fraction afterFraction, readExponent_append valid.exponent ends, bind,
    Except.bind]

end Numbers

section Values

theorem skipBlanks_cons {c : Char} (visible : isBlank c = false) (rest : List Char) :
    skipBlanks (c :: rest) = c :: rest := by
  simp [skipBlanks, visible]

theorem not_isBlank_of_isDigit {c : Char} (digit : c.isDigit = true) : isBlank c = false := by
  simp only [isBlank, Bool.or_eq_false_iff, beq_eq_false_iff_ne]
  refine ⟨⟨⟨?_, ?_⟩, ?_⟩, ?_⟩ <;>
  · rintro rfl
    exact absurd digit (by decide)

/-- How the text of a value begins: not with a blank, and not as a list ends. -/
theorem text_head {value : Json} (valid : value.Readable) :
    ∃ c rest, value.text = c :: rest ∧ isBlank c = false ∧ c ≠ ']' := by
  cases value with
  | null => exact ⟨_, _, rfl, by decide, by decide⟩
  | bool value => cases value <;> exact ⟨_, _, rfl, by decide, by decide⟩
  | string text => exact ⟨_, _, rfl, by decide, by decide⟩
  | array items stop => exact ⟨_, _, rfl, by decide, by decide⟩
  | object members stop => exact ⟨_, _, rfl, by decide, by decide⟩
  | broken stop => exact valid.elim
  | number literal =>
    have valid : literal.Readable := valid
    obtain ⟨first, more, whole⟩ := List.exists_cons_of_ne_nil valid.whole.nonempty
    have digit : first.isDigit = true := valid.whole.digit first (by simp [whole])
    cases negative : literal.negative with
    | true =>
      exact ⟨'-', literal.unsignedText, by simp [text, Literal.text, negative], by decide, by decide⟩
    | false =>
      refine ⟨first, _, by simp [text, Literal.text, negative, Literal.unsignedText, whole]; rfl,
        not_isBlank_of_isDigit digit, ?_⟩
      rintro rfl
      exact absurd digit (by decide)

theorem readValue_number {literal : Literal} (valid : literal.Readable) {rest : List Char}
    (ends : EndsValue rest) (fuel : Nat) :
    readValue (fuel + 1) (literal.text ++ rest) = (.number literal, some rest) := by
  have read := readLiteral_text valid ends
  unfold Literal.text
  cases negative : literal.negative with
  | true =>
    rw [negative] at read
    simp [readValue, skipBlanks_cons, isBlank, read, found]
  | false =>
    rw [negative] at read
    obtain ⟨first, more, whole⟩ := List.exists_cons_of_ne_nil valid.whole.nonempty
    have digit : first.isDigit = true := valid.whole.digit first (by simp [whole])
    obtain ⟨tail, start⟩ : ∃ tail, literal.unsignedText ++ rest = first :: tail :=
      ⟨_, by simp [Literal.unsignedText, whole]; rfl⟩
    rw [start] at read
    simp only [Bool.false_eq_true, if_false, start, readValue,
      skipBlanks_cons (not_isBlank_of_isDigit digit)]
    -- A digit begins nothing but a number.
    split
    case h_8 => simp [digit, read, found]
    all_goals exact absurd digit (by decide)

theorem readValue_array {fuel : Nat} {text rest : List Char} {items : List Json}
    (read : readItems fuel text = ((items, none), some rest)) :
    readValue (fuel + 1) ('[' :: text) = (.array items none, some rest) := by
  simp [readValue, skipBlanks_cons, isBlank, read]

theorem readValue_object {fuel : Nat} {text rest : List Char} {members : List Member}
    (read : readMembers fuel text = ((members, none), some rest)) :
    readValue (fuel + 1) ('{' :: text) = (.object members none, some rest) := by
  simp [readValue, skipBlanks_cons, isBlank, read]

theorem readItemsFrom_last {fuel : Nat} {text rest : List Char} {item : Json}
    (read : readValue fuel text = (item, some (']' :: rest))) :
    readItemsFrom (fuel + 1) text = (([item], none), some rest) := by
  simp [readItemsFrom, read, skipBlanks_cons, isBlank, Listed.cons, Listed.closed]

theorem readItemsFrom_more {fuel : Nat} {text more rest : List Char} {item : Json} {items : List Json}
    (read : readValue fuel text = (item, some (',' :: more)))
    (others : readItemsFrom fuel more = ((items, none), some rest)) :
    readItemsFrom (fuel + 1) text = ((item :: items, none), some rest) := by
  simp [readItemsFrom, read, skipBlanks_cons, isBlank, others, Listed.cons]

theorem readMembersFrom_last {fuel : Nat} {text rest : List Char} {key : String} {value : Json}
    (read : readValue fuel text = (value, some ('}' :: rest))) :
    readMembersFrom (fuel + 1) (stringText key ++ ':' :: text) =
      (([⟨some key, value⟩], none), some rest) := by
  simp [readMembersFrom, stringText, skipBlanks_cons, isBlank, readString_text, read, Listed.cons,
    Listed.closed]

theorem readMembersFrom_more {fuel : Nat} {text more rest : List Char} {key : String} {value : Json}
    {members : List Member} (read : readValue fuel text = (value, some (',' :: more)))
    (others : readMembersFrom fuel more = ((members, none), some rest)) :
    readMembersFrom (fuel + 1) (stringText key ++ ':' :: text) =
      ((⟨some key, value⟩ :: members, none), some rest) := by
  simp [readMembersFrom, stringText, skipBlanks_cons, isBlank, readString_text, read, others, Listed.cons]

/-- Where there are items, their text does not begin as the end of the list does. -/
theorem readItems_text {items : List Json} (nonempty : items ≠ []) (valid : ItemsReadable items)
    {fuel : Nat} {rest : List Char} :
    readItems (fuel + 1) (itemsText items ++ rest) = readItemsFrom fuel (itemsText items ++ rest) := by
  obtain ⟨item, more, rfl⟩ := List.exists_cons_of_ne_nil nonempty
  obtain ⟨c, tail, head, visible, notEnd⟩ := text_head valid.1
  obtain ⟨tail, start⟩ : ∃ tail, itemsText (item :: more) ++ rest = c :: tail := by
    cases more <;> exact ⟨_, by simp only [itemsText, head, List.cons_append]; rfl⟩
  simp [start, readItems, skipBlanks_cons visible, notEnd]

theorem readMembers_text {members : List Member} (nonempty : members ≠ []) {fuel : Nat}
    {rest : List Char} :
    readMembers (fuel + 1) (membersText members ++ rest) =
      readMembersFrom fuel (membersText members ++ rest) := by
  obtain ⟨⟨key, value⟩, more, rfl⟩ := List.exists_cons_of_ne_nil nonempty
  obtain ⟨tail, start⟩ : ∃ tail, membersText (⟨key, value⟩ :: more) ++ rest = '"' :: tail := by
    cases more <;> exact ⟨_, by simp only [membersText, stringText, List.cons_append]; rfl⟩
  simp [start, readMembers, skipBlanks_cons, isBlank]

mutual

/-- Reading undoes writing, whatever follows. Three times the length of the text is fuel enough. -/
theorem readValue_text : ∀ (value : Json) (fuel : Nat) (rest : List Char), value.Readable →
    EndsValue rest → 3 * value.text.length ≤ fuel →
    readValue fuel (value.text ++ rest) = (value, some rest)
  | .null, fuel + 1, rest, _, _, _ => by
    simp [text, readValue, skipBlanks_cons, isBlank, readWord, found]
  | .bool true, fuel + 1, rest, _, _, _ => by
    simp [text, readValue, skipBlanks_cons, isBlank, readWord, found]
  | .bool false, fuel + 1, rest, _, _, _ => by
    simp [text, readValue, skipBlanks_cons, isBlank, readWord, found]
  | .number literal, fuel + 1, rest, valid, ends, _ => readValue_number valid ends fuel
  | .string (some text), fuel + 1, rest, _, _, _ => by
    simp [Json.text, stringText, readValue, skipBlanks_cons, isBlank, readString_text, found]
  | .array items none, fuel, rest, ⟨valid, _⟩, _, enough => by
    simp only [text, List.length_cons, List.cons_append] at enough ⊢
    obtain ⟨fuel, rfl⟩ : ∃ less, fuel = less + 2 := ⟨fuel - 2, by omega⟩
    apply readValue_array
    by_cases empty : items = []
    · subst empty
      rfl
    · rw [readItems_text empty valid]
      exact readItemsFrom_text items fuel rest empty valid (by omega)
  | .object members none, fuel, rest, ⟨valid, _⟩, _, enough => by
    simp only [text, List.length_cons, List.cons_append] at enough ⊢
    obtain ⟨fuel, rfl⟩ : ∃ less, fuel = less + 2 := ⟨fuel - 2, by omega⟩
    apply readValue_object
    by_cases empty : members = []
    · subst empty
      rfl
    · rw [readMembers_text empty]
      exact readMembersFrom_text members fuel rest empty valid (by omega)
  | .broken _, _, _, valid, _, _ => valid.elim
  | value, 0, _, valid, _, enough => by
    obtain ⟨c, rest, text, _⟩ := text_head valid
    simp [text] at enough

theorem readItemsFrom_text : ∀ (items : List Json) (fuel : Nat) (rest : List Char),
    items ≠ [] → ItemsReadable items → 3 * (itemsText items).length ≤ fuel →
    readItemsFrom fuel (itemsText items ++ rest) = ((items, none), some rest)
  | [], _, _, nonempty, _, _ => absurd rfl nonempty
  | [item], fuel, rest, _, valid, enough => by
    simp only [itemsText, List.append_assoc, List.length_append, List.length_cons] at enough ⊢
    obtain ⟨fuel, rfl⟩ : ∃ less, fuel = less + 1 := ⟨fuel - 1, by omega⟩
    exact readItemsFrom_last (readValue_text item fuel _ valid.1 (.cons _ (by simp)) (by omega))
  | item :: next :: more, fuel, rest, _, valid, enough => by
    simp only [itemsText, List.append_assoc, List.length_append, List.length_cons] at enough ⊢
    obtain ⟨fuel, rfl⟩ : ∃ less, fuel = less + 1 := ⟨fuel - 1, by omega⟩
    exact readItemsFrom_more (readValue_text item fuel _ valid.1 (.cons _ (by simp)) (by omega))
      (readItemsFrom_text (next :: more) fuel rest (by simp) valid.2 (by omega))

theorem readMembersFrom_text : ∀ (members : List Member) (fuel : Nat) (rest : List Char),
    members ≠ [] → MembersReadable members → 3 * (membersText members).length ≤ fuel →
    readMembersFrom fuel (membersText members ++ rest) = ((members, none), some rest)
  | [], _, _, nonempty, _, _ => absurd rfl nonempty
  | [⟨some key, value⟩], fuel, rest, _, ⟨_, valid, _⟩, enough => by
    simp only [membersText, List.append_assoc, List.length_append, List.length_cons] at enough ⊢
    obtain ⟨fuel, rfl⟩ : ∃ less, fuel = less + 1 := ⟨fuel - 1, by omega⟩
    exact readMembersFrom_last (readValue_text value fuel _ valid (.cons _ (by simp)) (by omega))
  | ⟨some key, value⟩ :: next :: more, fuel, rest, _, ⟨_, valid, others⟩, enough => by
    simp only [membersText, List.append_assoc, List.length_append, List.length_cons] at enough ⊢
    obtain ⟨fuel, rfl⟩ : ∃ less, fuel = less + 1 := ⟨fuel - 1, by omega⟩
    exact readMembersFrom_more (readValue_text value fuel _ valid (.cons _ (by simp)) (by omega))
      (readMembersFrom_text (next :: more) fuel rest (by simp) others (by omega))

end

end Values

/-- A text that was written for a value is read as this value, with nothing after it. -/
theorem read_text {value : Json} (valid : value.Readable) :
    read (String.ofList value.text) = (value, true) := by
  have whole := readValue_text value (3 * value.text.length + 3) [] valid (by simp [EndsValue]) (by omega)
  rw [List.append_nil] at whole
  simp [read, whole, skipBlanks]

end Json

end RubyTree
