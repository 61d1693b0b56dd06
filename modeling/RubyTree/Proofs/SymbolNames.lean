import RubyTree.Proofs.CheckThenPrint
import RubyTree.Proofs.Literals

/-!
Names of symbols. The names that stand bare after a colon have a grammar of their own, which the test of
prefixes and suffixes decides; all others are quoted. Either way the name can be read back where a comma,
a parenthesis, a blank or nothing follows, so that no two names are written alike.
-/

namespace RubyTree

namespace Text

section Grammar

/-- An underscore, a letter of ASCII, or anything beyond ASCII. -/
def Letter (c : Char) : Prop := c = '_' ∨ c.isAlpha = true ∨ 0x80 ≤ c.toNat

/-- A letter, then letters and digits. -/
inductive Word : List Char → Prop where
  | mk {first : Char} {rest : List Char} (start : Letter first)
    (more : ∀ c ∈ rest, Letter c ∨ c.isDigit = true) : Word (first :: rest)

/-- The names of methods and of variables: a word, with a mark at its end or a sigil in front of it. -/
inductive BareName : List Char → Prop where
  | plain {name : List Char} (word : Word name) : BareName name
  | marked {name : List Char} {mark : Char} (word : Word name) (known : mark ∈ ['?', '!', '=']) :
    BareName (name ++ [mark])
  | withSigil (sigil : List Char) {name : List Char} (known : sigil ∈ [['@'], ['@', '@'], ['$']])
    (word : Word name) : BareName (sigil ++ name)

def PlainSymbol (name : String) : Prop := name ∈ operators ∨ BareName name.toList

end Grammar

section Deciding

theorem startsIdentifier_iff (c : Char) : startsIdentifier c = true ↔ Letter c := by
  simp [startsIdentifier, Letter, or_assoc]

theorem isIdentifier_cons {first : Char} {rest : List Char} :
    isIdentifier (first :: rest) = true ↔ Letter first ∧ ∀ c ∈ rest, Letter c ∨ c.isDigit = true := by
  simp only [isIdentifier, continuesIdentifier, Bool.and_eq_true, List.all_eq_true, Bool.or_eq_true,
    startsIdentifier_iff]

theorem isIdentifier_iff (name : List Char) : isIdentifier name = true ↔ Word name := by
  constructor
  · intro identifier
    cases name with
    | nil => cases identifier
    | cons first rest =>
      obtain ⟨start, more⟩ := isIdentifier_cons.mp identifier
      exact ⟨start, more⟩
  · rintro ⟨start, more⟩
    exact isIdentifier_cons.mpr ⟨start, more⟩

theorem Word.ordinary {name : List Char} (word : Word name) :
    ∀ c ∈ name, c ∉ ['@', '$', '?', '!', '='] := by
  intro c member listed
  have inside := continuesIdentifier_of_isIdentifier ((isIdentifier_iff name).mpr word) c member
  have outside : ['@', '$', '?', '!', '='].all (!continuesIdentifier ·) = true := by rfl
  simpa [inside] using List.all_eq_true.mp outside c listed

theorem Word.exists_cons {name : List Char} (word : Word name) :
    ∃ first rest, name = first :: rest ∧ first ≠ '@' ∧ first ≠ '$' := by
  cases word with
  | @mk first rest start more =>
    have ordinary := Word.ordinary ⟨start, more⟩ first List.mem_cons_self
    simp only [List.mem_cons, not_or] at ordinary
    exact ⟨first, rest, rfl, ordinary.1, ordinary.2.1⟩

theorem withoutMark_marked (name : List Char) {mark : Char} (known : mark ∈ ['?', '!', '=']) :
    withoutMark (name ++ [mark]) = name := by
  have known : mark = '?' ∨ mark = '!' ∨ mark = '=' := by simpa using known
  simp [withoutMark, known, or_assoc]

theorem withoutMark_word {name : List Char} (word : Word name) : withoutMark name = name := by
  cases found : name.getLast? with
  | none => simp [withoutMark, found]
  | some last =>
    have unmarked := word.ordinary last (List.mem_of_getLast? found)
    simp only [List.mem_cons, not_or] at unmarked
    simp [withoutMark, found, unmarked]

theorem bareName_of_withoutMark {name : List Char} (word : Word (withoutMark name)) : BareName name := by
  unfold withoutMark at word
  split at word
  · next last found =>
    split at word
    · next marked =>
      obtain ⟨front, rfl⟩ := List.getLast?_eq_some_iff.mp found
      rw [List.dropLast_concat] at word
      exact .marked word (by simpa [or_assoc] using marked)
    · exact .plain word
  · exact .plain word

/-- Without a sigil in front, only the end of a name matters. -/
theorem isBareName_cons {first : Char} (noAt : first ≠ '@') (noDollar : first ≠ '$') (rest : List Char) :
    isBareName (first :: rest) = isIdentifier (withoutMark (first :: rest)) := by
  unfold isBareName
  split
  · next same => exact absurd (List.cons.inj same).1 noAt
  · next same => exact absurd (List.cons.inj same).1 noAt
  · next same => exact absurd (List.cons.inj same).1 noDollar
  · rfl

theorem isBareName_iff (name : List Char) : isBareName name = true ↔ BareName name := by
  constructor
  · intro bare
    unfold isBareName at bare
    split at bare <;> have word := (isIdentifier_iff _).mp bare
    · exact .withSigil ['@', '@'] (by simp) word
    · exact .withSigil ['@'] (by simp) word
    · exact .withSigil ['$'] (by simp) word
    · exact bareName_of_withoutMark word
  · intro bare
    cases bare with
    | plain word =>
      obtain ⟨first, rest, rfl, noAt, noDollar⟩ := word.exists_cons
      rw [isBareName_cons noAt noDollar, withoutMark_word word, isIdentifier_iff]
      exact word
    | marked word known =>
      obtain ⟨first, rest, rfl, noAt, noDollar⟩ := word.exists_cons
      rw [List.cons_append, isBareName_cons noAt noDollar, ← List.cons_append, withoutMark_marked _ known,
        isIdentifier_iff]
      exact word
    | withSigil sigil known word =>
      obtain ⟨first, rest, rfl, noAt, noDollar⟩ := word.exists_cons
      have identifier := (isIdentifier_iff _).mpr word
      have known : sigil = ['@'] ∨ sigil = ['@', '@'] ∨ sigil = ['$'] := by simpa using known
      rcases known with rfl | rfl | rfl <;> simpa [isBareName, noAt] using identifier

theorem isPlainSymbol_iff (name : String) : isPlainSymbol name = true ↔ PlainSymbol name := by
  simp only [isPlainSymbol, PlainSymbol, Bool.or_eq_true, List.contains_iff_mem, isBareName_iff]

end Deciding

section Writing

theorem quotedChar_ne_nil (c : Char) (next : Option Char) : quotedChar c next ≠ [] := by
  unfold quotedChar
  split
  case h_7 => split <;> simp
  case h_8 => split <;> simp [codePoint]
  all_goals simp

theorem length_le_quotedChars (text : List Char) : text.length ≤ (quotedChars text).length := by
  induction text with
  | nil => simp
  | cons c rest ih =>
    have first := List.length_pos_iff.mpr (quotedChar_ne_nil c rest.head?)
    rw [quotedChars, List.length_append, List.length_cons]
    omega

theorem quoted_ne (text : String) : quoted text ≠ text := by
  intro same
  have lengths := congrArg (fun text => text.toList.length) same
  have longer := length_le_quotedChars text.toList
  simp only [quoted, String.toList_ofList, List.length_cons, List.length_append, List.cons_append] at lengths
  omega

theorem symbolLiteral_eq_bare_iff (name : String) : symbolLiteral name = ":" ++ name ↔ PlainSymbol name := by
  rw [← isPlainSymbol_iff]
  by_cases plain : isPlainSymbol name = true
  · simp [symbolLiteral, plain]
  · simp [symbolLiteral, plain, quoted_ne]

theorem symbolLiteral_eq_quoted_iff (name : String) :
    symbolLiteral name = ":" ++ quoted name ↔ ¬PlainSymbol name := by
  rw [← isPlainSymbol_iff]
  by_cases plain : isPlainSymbol name = true
  · simp [symbolLiteral, plain, (quoted_ne name).symm]
  · simp [symbolLiteral, plain]

theorem symbolLiteral_injective {name other : String} (same : symbolLiteral name = symbolLiteral other) :
    name = other := by
  have nothing : EndsWord [] := by simp [EndsWord]
  have first := readSymbol_symbolLiteral name [] nothing
  rw [same, readSymbol_symbolLiteral other [] nothing] at first
  exact String.toList_inj.mp (by simpa using first.symm)

end Writing

end Text

/-- A node that follows the rule of symbols and holds a name, as a symbol or as a string. -/
structure Node.IsSymbol (setting : Setting) (node : Node) (name : String) : Prop where
  resolved : setting.resolve? node.tag node.span = some .symbol
  named : node.children = [.atom (.symbol name)] ∨ node.children = [.atom (.str name)]

theorem Node.IsSymbol.renderWith {setting : Setting} {node : Node} {name : String}
    (symbol : node.IsSymbol setting name) :
    node.renderWith setting = .ok (Text.symbolLiteral name) := by
  obtain ⟨tag, children, span⟩ := node
  obtain ⟨resolved, rfl | rfl⟩ := symbol
  · rw [Node.renderWith_text setting resolved rfl]
    rfl
  · rw [Node.renderWith_text setting resolved rfl]
    rfl

open Text in
/-- A symbol stands bare after its colon exactly if its name is an operator, a word, a marked word or a word
with a sigil, and in quotes otherwise. In front of a comma, a parenthesis, a blank or nothing, it has one
reading, which is its name. -/
theorem symbols_are_quoted_exactly_when_needed (setting : Setting) (node : Node) (name : String)
    (symbol : node.IsSymbol setting name) :
    ∃ literal, node.renderWith setting = .ok literal ∧
      (literal = ":" ++ name ↔ PlainSymbol name) ∧
      (literal = ":" ++ quoted name ↔ ¬PlainSymbol name) ∧
      (∀ rest, EndsWord rest → ∀ read left,
        ReadsSymbol (literal.toList ++ rest) read left ↔ read = name.toList ∧ left = rest) ∧
      ∀ (another : Node) (other : String), another.IsSymbol setting other →
        another.renderWith setting = .ok literal → other = name := by
  refine ⟨symbolLiteral name, symbol.renderWith, symbolLiteral_eq_bare_iff name,
    symbolLiteral_eq_quoted_iff name, fun rest ends read left => ?_, fun another other isSymbol alike => ?_⟩
  · have reads := readsSymbol_symbolLiteral name rest ends
    constructor
    · intro otherwise
      have unique := otherwise.readSymbol.symm.trans reads.readSymbol
      simpa using unique
    · rintro ⟨rfl, rfl⟩
      exact reads
  · rw [isSymbol.renderWith] at alike
    exact symbolLiteral_injective (Except.ok.inj alike)

open Text in
/-- A marked word beyond ASCII stands bare, and in front of a comma it is read up to there. -/
theorem accented_question_stands_bare :
    Node.renderWith {} ⟨.known .sym, [.atom (.symbol "\u00e9t\u00e9?")], none⟩ = .ok ":\u00e9t\u00e9?" ∧
    EndsWord [',', ' ', 'x'] ∧
    ReadsSymbol (":\u00e9t\u00e9?".toList ++ [',', ' ', 'x']) "\u00e9t\u00e9?".toList [',', ' ', 'x'] := by
  have letter : Letter '\u00e9' := .inr (.inr (by decide))
  have word : Word ['\u00e9', 't', '\u00e9'] := ⟨letter, by simp [Letter]⟩
  have chars : "\u00e9t\u00e9?".toList = ['\u00e9', 't', '\u00e9'] ++ ['?'] := by rfl
  have plain : PlainSymbol "\u00e9t\u00e9?" := .inr (chars ▸ .marked word (by simp))
  have ends : EndsWord [',', ' ', 'x'] := by simp [EndsWord, endsWord]
  obtain ⟨literal, rendered, bare, _, reads, _⟩ :=
    symbols_are_quoted_exactly_when_needed {} ⟨.known .sym, [.atom (.symbol "\u00e9t\u00e9?")], none⟩
      "\u00e9t\u00e9?" ⟨rfl, .inl rfl⟩
  obtain rfl := bare.mpr plain
  exact ⟨rendered, ends, (reads _ ends _ _).mpr ⟨rfl, rfl⟩⟩

end RubyTree
