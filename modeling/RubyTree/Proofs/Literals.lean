import RubyTree.Text.Hex
import RubyTree.Text.SymbolLiteral

/-!
Reading literals back. A reader of double-quoted literals that knows the escapes, refuses
interpolations and raw control characters, and says where the literal ends; and a reader of symbols,
which end at a comma, a parenthesis or a blank unless they are quoted. The double-quoted literals also
have a grammar, which the reader follows: what a text is quoted as has one reading, whatever follows.
-/

namespace RubyTree

theorem Hex.digit?_digitChar : ∀ digit < 16, Hex.digit? (Nat.digitChar digit) = some digit := by
  decide

theorem Hex.value?_toDigits (n : Nat) : Hex.value? (Nat.toDigits 16 n) = some n := by
  induction n using Nat.strongRecOn with
  | ind n ih =>
    by_cases small : n < 16
    · rw [Nat.toDigits_of_lt_base small]
      simp [Hex.value?, Hex.digit?_digitChar n small]
    · have last : n % 16 < 16 := Nat.mod_lt n (by decide)
      have split := Nat.toDigits_append_toDigits (b := 16) (n := n / 16) (d := n % 16)
        (by decide) (by omega) last
      rw [Nat.toDigits_of_lt_base last, Nat.div_add_mod] at split
      have front := ih (n / 16) (by omega)
      simp only [Hex.value?] at front
      rw [← split]
      simp [Hex.value?, List.foldlM_append, front, Hex.digit?_digitChar _ last, Nat.div_add_mod]

namespace Text

/-- What comes before the next character inside a literal. -/
inductive Mode where
  | plain
  | escaped
  | beforeBrace
  | codePoint (value : Nat)

def escape? : Char → Option Char
  | '\\' => some '\\'
  | '"' => some '"'
  | 'n' => some '\n'
  | 't' => some '\t'
  | 'r' => some '\r'
  | 'e' => some '\x1b'
  | '#' => some '#'
  | _ => none

def prepend (c : Char) (read : Option (List Char × List Char)) : Option (List Char × List Char) :=
  read.map fun (text, rest) => (c :: text, rest)

/-- The text of a literal from after its opening quote, and what follows its closing quote. -/
def readQuoted : Mode → List Char → Option (List Char × List Char)
  | _, [] => none
  | .plain, '"' :: rest => some ([], rest)
  | .plain, '\\' :: rest => readQuoted .escaped rest
  | .plain, c :: rest =>
    if isControl c || (c == '#' && opensInterpolation rest.head?) then none
    else prepend c (readQuoted .plain rest)
  | .escaped, 'u' :: rest => readQuoted .beforeBrace rest
  | .escaped, c :: rest => (escape? c).bind (prepend · (readQuoted .plain rest))
  | .beforeBrace, c :: rest => if c == '{' then readQuoted (.codePoint 0) rest else none
  | .codePoint value, '}' :: rest => prepend (Char.ofNat value) (readQuoted .plain rest)
  | .codePoint value, c :: rest =>
    (Hex.digit? c).bind fun digit => readQuoted (.codePoint (16 * value + digit)) rest

theorem readQuoted_codePoint {digits : List Char} {start value : Nat} (rest : List Char)
    (read : digits.foldlM (fun value c => (Hex.digit? c).map (16 * value + ·)) start = some value) :
    readQuoted (.codePoint start) (digits ++ '}' :: rest) =
      prepend (Char.ofNat value) (readQuoted .plain rest) := by
  induction digits generalizing start with
  | nil =>
    cases read
    simp [readQuoted]
  | cons c digits ih =>
    rw [List.foldlM_cons] at read
    obtain ⟨next, first, read⟩ := Option.bind_eq_some_iff.mp read
    obtain ⟨digit, valid, rfl⟩ := Option.map_eq_some_iff.mp first
    have inside : c ≠ '}' := by
      rintro rfl
      have none : Hex.digit? '}' = none := by decide
      rw [none] at valid
      cases valid
    simp [readQuoted, valid, ih read]

/-- The control characters of Unicode, its category Cc. -/
def Control (c : Char) : Prop := c.toNat ≤ 0x1f ∨ 0x7f ≤ c.toNat ∧ c.toNat ≤ 0x9f

/-- How a character stands at the beginning of an input, inside a literal: as itself, unless it would end
the literal, begin an escape or an interpolation, or is a control character; after a backslash; or by its
code point. The last argument is what follows it. -/
inductive Spells : List Char → Char → List Char → Prop where
  | itself {c : Char} {rest : List Char} (notQuote : c ≠ '"') (notBackslash : c ≠ '\\')
    (visible : ¬Control c) (noInterpolation : c = '#' → ∀ next ∈ rest.head?, next ∉ ['{', '@', '$']) :
    Spells (c :: rest) c rest
  | escaped {letter c : Char} (rest : List Char) (known : escape? letter = some c) :
    Spells ('\\' :: letter :: rest) c rest
  | code {digits : List Char} {c : Char} (rest : List Char) (nonempty : digits ≠ [])
    (value : Hex.value? digits = some c.toNat) :
    Spells (['\\', 'u', '{'] ++ digits ++ '}' :: rest) c rest

/-- A literal from after its opening quote up to the first quote that is not escaped, the text it stands
for, and what follows it. -/
inductive Reads : List Char → List Char → List Char → Prop where
  | closed (rest : List Char) : Reads ('"' :: rest) [] rest
  | char {input following text rest : List Char} {c : Char} (first : Spells input c following)
    (more : Reads following text rest) : Reads input (c :: text) rest

theorem isControl_iff (c : Char) : isControl c = true ↔ Control c := by
  simp only [isControl, Control, Bool.or_eq_true, Bool.and_eq_true, decide_eq_true_eq]
  omega

theorem opensInterpolation_some (c : Char) :
    opensInterpolation (some c) = true ↔ c ∈ ['{', '@', '$'] := by
  simp [opensInterpolation, or_assoc]

theorem Spells.readQuoted {input rest : List Char} {c : Char} (spells : Spells input c rest) :
    Text.readQuoted .plain input = prepend c (Text.readQuoted .plain rest) := by
  cases spells with
  | itself notQuote notBackslash visible noInterpolation =>
    have visible : isControl c = false := by rwa [Bool.eq_false_iff, ne_eq, isControl_iff]
    have noInterpolation : (c == '#' && opensInterpolation rest.head?) = false := by
      rw [Bool.eq_false_iff]
      intro both
      obtain ⟨hash, opens⟩ := Bool.and_eq_true_iff.mp both
      cases next : rest.head? with
      | none => simp [next, opensInterpolation] at opens
      | some d =>
        rw [next, opensInterpolation_some] at opens
        exact noInterpolation (beq_iff_eq.mp hash) d next opens
    simp [Text.readQuoted, visible, noInterpolation]
  | @escaped letter _ _ known =>
    have notCode : letter ≠ 'u' := by
      rintro rfl
      cases known
    simp [Text.readQuoted, known]
  | code _ nonempty value =>
    have digits := readQuoted_codePoint rest value
    rw [Char.ofNat_toNat] at digits
    simp [Text.readQuoted, digits]

/-- The reader follows the grammar, so a literal is spelt and ends in one way only. -/
theorem Reads.readQuoted {input text rest : List Char} (reads : Reads input text rest) :
    Text.readQuoted .plain input = some (text, rest) := by
  induction reads with
  | closed rest => simp [Text.readQuoted]
  | char first more ih =>
    rw [first.readQuoted, ih]
    rfl

/-- A quoted character is spelt as the grammar has it, if what follows it begins an interpolation exactly
when that was taken into account. -/
theorem spells_quotedChar (c : Char) (next : Option Char) (following : List Char)
    (agree : opensInterpolation following.head? = opensInterpolation next) :
    Spells (quotedChar c next ++ following) c following := by
  have hashAlone : opensInterpolation next = false → ∀ d ∈ following.head?, d ∉ ['{', '@', '$'] := by
    intro alone d first opens
    rw [← opensInterpolation_some, ← first, agree, alone] at opens
    cases opens
  unfold quotedChar
  split
  case h_7 =>
    cases opens : opensInterpolation next
    · exact .itself (by decide) (by decide) (by unfold Control; decide) fun _ => hashAlone opens
    · exact .escaped following rfl
  case h_8 backslash quote _ _ _ _ hash =>
    cases control : isControl c
    · refine .itself quote backslash ?_ fun isHash => absurd isHash hash
      rw [← isControl_iff, control]
      exact Bool.false_ne_true
    · have code := Spells.code following Nat.toDigits_ne_nil (Hex.value?_toDigits c.toNat)
      simpa [codePoint] using code
  all_goals exact .escaped following rfl

/-- A character that begins an interpolation after `#` is written as it stands, and no other way of
writing a character looks like one. -/
theorem opensInterpolation_quotedChar (c : Char) (next : Option Char) (following : List Char) :
    opensInterpolation (quotedChar c next ++ following).head? = opensInterpolation (some c) := by
  unfold quotedChar
  split
  case h_7 => split <;> rfl
  case h_8 =>
    cases control : isControl c
    · rfl
    · have ordinary : opensInterpolation (some c) = false := by
        simp only [opensInterpolation, Bool.or_eq_false_iff, beq_eq_false_iff_ne, ne_eq,
          Option.some.injEq]
        refine ⟨⟨?_, ?_⟩, ?_⟩ <;> rintro rfl <;> exact absurd control (by decide)
      rw [ordinary]
      rfl
  all_goals rfl

theorem reads_quotedChars (text rest : List Char) :
    Reads (quotedChars text ++ '"' :: rest) text rest := by
  induction text with
  | nil => exact .closed rest
  | cons c text ih =>
    have agree : opensInterpolation (quotedChars text ++ '"' :: rest).head? =
        opensInterpolation text.head? := by
      cases text with
      | nil => rfl
      | cons d text => rw [quotedChars, List.append_assoc, opensInterpolation_quotedChar]; rfl
    rw [quotedChars, List.append_assoc]
    exact .char (spells_quotedChar c _ _ agree) ih

theorem readQuoted_quotedChars (text rest : List Char) :
    readQuoted .plain (quotedChars text ++ '"' :: rest) = some (text, rest) :=
  (reads_quotedChars text rest).readQuoted

/-- In any surroundings, the literal for a text is read as this text and no other, and reading ends where
the literal does. -/
theorem quoted_text_is_read_back (text : String) (rest read left : List Char) :
    (∃ body, (quoted text).toList ++ rest = '"' :: body ∧ Reads body read left) ↔
      read = text.toList ∧ left = rest := by
  have body : (quoted text).toList ++ rest = '"' :: (quotedChars text.toList ++ '"' :: rest) := by
    simp [quoted]
  have reads := reads_quotedChars text.toList rest
  constructor
  · rintro ⟨input, same, other⟩
    rw [body] at same
    obtain rfl := (List.cons.inj same).2
    have unique := other.readQuoted.symm.trans reads.readQuoted
    simpa using unique
  · rintro ⟨rfl, rfl⟩
    exact ⟨_, body, reads⟩

section Words

def endsWord (c : Char) : Bool := c == ',' || c == ')' || c == ' '

/-- Nothing follows that a word before it could be confused with. -/
def EndsWord (rest : List Char) : Prop := ∀ c ∈ rest.head?, endsWord c = true

def readWhile (test : Char → Bool) (input : List Char) : List Char × List Char :=
  (input.takeWhile test, input.dropWhile test)

theorem readWhile_append {test : Char → Bool} {word rest : List Char}
    (inside : ∀ c ∈ word, test c = true) (outside : ∀ c ∈ rest.head?, test c = false) :
    readWhile test (word ++ rest) = (word, rest) := by
  simp only [readWhile, List.takeWhile_append_of_pos inside, List.dropWhile_append_of_pos inside]
  cases rest with
  | nil => simp
  | cons c rest => simp [outside c rfl]

theorem readWhile_word {word rest : List Char} (inside : ∀ c ∈ word, endsWord c = false)
    (ends : EndsWord rest) : readWhile (!endsWord ·) (word ++ rest) = (word, rest) := by
  apply readWhile_append
  · intro c member
    simp [inside c member]
  · intro c member
    simp [ends c member]

/-- A symbol from its colon on, and what follows it. -/
def readSymbol : List Char → Option (List Char × List Char)
  | ':' :: '"' :: rest => readQuoted .plain rest
  | ':' :: rest => some (readWhile (!endsWord ·) rest)
  | _ => none

/-- The same without saying how to read: a quoted literal if a quote follows the colon, and otherwise all up
to the first character that ends a word. -/
inductive ReadsSymbol : List Char → List Char → List Char → Prop where
  | quoted {body text rest : List Char} (reads : Reads body text rest) :
    ReadsSymbol (':' :: '"' :: body) text rest
  | bare {word rest : List Char} (unquoted : ∀ tail, word ++ rest ≠ '"' :: tail)
    (inside : ∀ c ∈ word, endsWord c = false) (ends : EndsWord rest) :
    ReadsSymbol (':' :: (word ++ rest)) word rest

theorem ReadsSymbol.readSymbol {input name rest : List Char} (reads : ReadsSymbol input name rest) :
    Text.readSymbol input = some (name, rest) := by
  cases reads with
  | quoted reads => exact reads.readQuoted
  | bare unquoted inside ends =>
    unfold Text.readSymbol
    split
    · next tail same => exact absurd (List.cons.inj same).2 (unquoted tail)
    · next tail _ same =>
      cases same
      rw [readWhile_word inside ends]
    · next other => exact absurd rfl (other _)

theorem continuesIdentifier_of_isIdentifier {name : List Char} (identifier : isIdentifier name = true) :
    ∀ c ∈ name, continuesIdentifier c = true := by
  cases name with
  | nil => simp
  | cons first rest =>
    simp only [isIdentifier, Bool.and_eq_true, List.all_eq_true] at identifier
    intro c member
    rcases List.mem_cons.mp member with rfl | member
    · simp [continuesIdentifier, identifier.1]
    · exact identifier.2 c member

def isDelimiter (c : Char) : Bool := endsWord c || c == '"'

theorem isDelimiter_cases {c : Char} (delimiter : isDelimiter c = true) :
    c = ',' ∨ c = ')' ∨ c = ' ' ∨ c = '"' := by
  simpa [isDelimiter, endsWord, or_assoc] using delimiter

theorem not_endsWord_of_not_isDelimiter {c : Char} (ordinary : isDelimiter c = false) :
    endsWord c = false := by
  simp only [isDelimiter, Bool.or_eq_false_iff] at ordinary
  exact ordinary.1

theorem not_isDelimiter_of_continuesIdentifier {c : Char} (continues : continuesIdentifier c = true) :
    isDelimiter c = false := by
  rw [Bool.eq_false_iff]
  intro delimiter
  rcases isDelimiter_cases delimiter with rfl | rfl | rfl | rfl <;> exact absurd continues (by decide)

theorem mem_withoutMark {name : List Char} {c : Char} (member : c ∈ name) :
    c ∈ withoutMark name ∨ c = '?' ∨ c = '!' ∨ c = '=' := by
  unfold withoutMark
  split
  · next last found =>
    split
    · next mark =>
      obtain ⟨front, rfl⟩ := List.getLast?_eq_some_iff.mp found
      rcases List.mem_append.mp member with member | member
      · exact .inl (by simpa using member)
      · cases List.mem_singleton.mp member
        exact .inr (by simpa [or_assoc] using mark)
    · exact .inl member
  · exact .inl member

theorem not_isDelimiter_of_isIdentifier {name : List Char} (identifier : isIdentifier name = true) :
    ∀ c ∈ name, isDelimiter c = false :=
  fun c member =>
    not_isDelimiter_of_continuesIdentifier (continuesIdentifier_of_isIdentifier identifier c member)

theorem not_isDelimiter_of_isBareName {name : List Char} (bare : isBareName name = true) :
    ∀ c ∈ name, isDelimiter c = false := by
  unfold isBareName at bare
  split at bare
  · simpa [isDelimiter, endsWord] using not_isDelimiter_of_isIdentifier bare
  · simpa [isDelimiter, endsWord] using not_isDelimiter_of_isIdentifier bare
  · simpa [isDelimiter, endsWord] using not_isDelimiter_of_isIdentifier bare
  · intro c member
    rcases mem_withoutMark member with member | rfl | rfl | rfl
    · exact not_isDelimiter_of_isIdentifier bare c member
    all_goals rfl

theorem not_isDelimiter_of_isPlainSymbol {name : String} (plain : isPlainSymbol name = true) :
    ∀ c ∈ name.toList, isDelimiter c = false := by
  have operator : operators.all (fun name => name.toList.all (!isDelimiter ·)) = true := by rfl
  simp only [List.all_eq_true, Bool.not_eq_true'] at operator
  simp only [isPlainSymbol, Bool.or_eq_true, List.contains_iff_mem] at plain
  rcases plain with listed | bare
  · exact operator name listed
  · exact not_isDelimiter_of_isBareName bare

theorem readsSymbol_symbolLiteral (name : String) (rest : List Char) (ends : EndsWord rest) :
    ReadsSymbol ((symbolLiteral name).toList ++ rest) name.toList rest := by
  by_cases plain : isPlainSymbol name = true
  · have ordinary := not_isDelimiter_of_isPlainSymbol plain
    have literal : (symbolLiteral name).toList ++ rest = ':' :: (name.toList ++ rest) := by
      simp [symbolLiteral, plain]
    rw [literal]
    refine .bare ?_ ?_ ends
    · intro tail same
      cases chars : name.toList with
      | nil =>
        rw [chars, List.nil_append] at same
        exact absurd (ends '"' (by simp [same])) (by decide)
      | cons first more =>
        rw [chars] at same ordinary
        cases same
        exact absurd (ordinary '"' (by simp)) (by decide)
    · exact fun c member => not_endsWord_of_not_isDelimiter (ordinary c member)
  · have literal : (symbolLiteral name).toList ++ rest =
        ':' :: '"' :: (quotedChars name.toList ++ '"' :: rest) := by
      simp [symbolLiteral, plain, quoted]
    rw [literal]
    exact .quoted (reads_quotedChars name.toList rest)

theorem readSymbol_symbolLiteral (name : String) (rest : List Char) (ends : EndsWord rest) :
    readSymbol ((symbolLiteral name).toList ++ rest) = some (name.toList, rest) :=
  (readsSymbol_symbolLiteral name rest ends).readSymbol

end Words

end Text

end RubyTree
