import Mathlib
import RubyTree.Proofs.Tags

/-!
Node types and their names correspond one to one, if `other` is kept for names that no kind has. The names
that a document may use are the words of a regular expression over letters, digits and the underscore.
-/

namespace RubyTree

/-- `other` is kept for names that no kind has. -/
inductive Tag.Canonical : Tag → Prop where
  | known (kind : Kind) : Canonical (.known kind)
  | other {name : String} (free : ∀ kind : Kind, kind.name ≠ name) : Canonical (.other name)

section Pattern

open RegularExpression

def charRange (first last : Char) : List Char :=
  (List.range' first.toNat (last.toNat + 1 - first.toNat)).map Char.ofNat

def oneOf (chars : List Char) : RegularExpression Char :=
  chars.foldr (fun c others => char c + others) 0

/-- `[A-Za-z_][A-Za-z0-9_]*` -/
def tagPattern : RegularExpression Char :=
  oneOf (charRange 'A' 'Z' ++ charRange 'a' 'z' ++ ['_']) *
    star (oneOf (charRange 'A' 'Z' ++ charRange 'a' 'z' ++ charRange '0' '9' ++ ['_']))

theorem mem_charRange {first last c : Char} (below : last.toNat < 0xd800) :
    c ∈ charRange first last ↔ first.toNat ≤ c.toNat ∧ c.toNat ≤ last.toNat := by
  rw [charRange, List.mem_map]
  constructor
  · rintro ⟨number, member, rfl⟩
    have bounds := List.mem_range'_1.mp member
    -- below the surrogates every number is that of a character
    have valid : number.isValidChar := .inl (by omega)
    rw [Char.toNat_ofNat, if_pos valid]
    omega
  · rintro ⟨lower, upper⟩
    exact ⟨c.toNat, List.mem_range'_1.mpr (by omega), c.ofNat_toNat⟩

theorem mem_oneOf {chars text : List Char} :
    text ∈ (oneOf chars).matches' ↔ ∃ c ∈ chars, text = [c] := by
  induction chars with
  | nil => simp [oneOf]
  | cons first rest ih =>
    have split : oneOf (first :: rest) = char first + oneOf rest := rfl
    rw [split, matches'_add, Language.mem_add, ih, matches'_char, List.exists_mem_cons_iff]
    exact or_congr_left Set.mem_singleton_iff

theorem mem_star_oneOf {chars text : List Char} :
    text ∈ (star (oneOf chars)).matches' ↔ ∀ c ∈ text, c ∈ chars := by
  rw [matches'_star, Language.mem_kstar]
  constructor
  · rintro ⟨words, rfl, each⟩ c member
    obtain ⟨word, isWord, inside⟩ := List.mem_flatten.mp member
    obtain ⟨d, listed, rfl⟩ := mem_oneOf.mp (each word isWord)
    rwa [List.mem_singleton.mp inside]
  · intro each
    refine ⟨text.map fun c => [c], (List.flatMap_singleton' text).symm, fun word isWord => ?_⟩
    obtain ⟨c, member, rfl⟩ := List.mem_map.mp isWord
    exact mem_oneOf.mpr ⟨c, each c member, rfl⟩

theorem isAlpha_iff (c : Char) : c.isAlpha = true ↔ c ∈ charRange 'A' 'Z' ∨ c ∈ charRange 'a' 'z' := by
  have upper : c.isUpper = true ↔ 'A'.toNat ≤ c.toNat ∧ c.toNat ≤ 'Z'.toNat := decide_eq_true_iff
  have lower : c.isLower = true ↔ 'a'.toNat ≤ c.toNat ∧ c.toNat ≤ 'z'.toNat :=
    Bool.and_eq_true_iff.trans (and_congr decide_eq_true_iff decide_eq_true_iff)
  rw [mem_charRange (by decide), mem_charRange (by decide), ← upper, ← lower]
  exact Bool.or_eq_true_iff

theorem isAlphanum_iff (c : Char) :
    c.isAlphanum = true ↔ c.isAlpha = true ∨ c ∈ charRange '0' '9' := by
  rw [mem_charRange (by decide), ← Char.isDigit_iff_toNat]
  exact Bool.or_eq_true_iff

theorem mem_tagPattern (text : List Char) : text ∈ tagPattern.matches' ↔ TagName text := by
  rw [tagPattern, matches'_mul, Language.mem_mul]
  constructor
  · rintro ⟨word, isFirst, rest, isRest, rfl⟩
    obtain ⟨first, listed, rfl⟩ := mem_oneOf.mp isFirst
    refine ⟨?_, fun c member => ?_⟩
    · simpa [isAlpha_iff, or_assoc] using listed
    · simpa [isAlphanum_iff, isAlpha_iff, or_assoc] using mem_star_oneOf.mp isRest c member
  · rintro ⟨start, more⟩
    refine ⟨[_], mem_oneOf.mpr ⟨_, ?_, rfl⟩, _, mem_star_oneOf.mpr fun c member => ?_, rfl⟩
    · simpa [isAlpha_iff, or_assoc] using start
    · simpa [isAlphanum_iff, isAlpha_iff, or_assoc] using more c member

end Pattern

theorem Tag.canonical_ofName (name : String) : (Tag.ofName name).Canonical := by
  cases named : Tag.ofName name with
  | known kind => exact .known kind
  | other other => exact .other (Tag.ne_of_ofName_other named)

theorem Tag.Canonical.ofName_name {tag : Tag} (canonical : tag.Canonical) : Tag.ofName tag.name = tag := by
  apply Tag.ofName_name_of_canonical
  rintro name rfl
  cases canonical with
  | other free => exact free

theorem Tag.bijOn_ofName : Set.BijOn Tag.ofName Set.univ {tag | tag.Canonical} := by
  refine ⟨fun name _ => Tag.canonical_ofName name, fun name _ other _ => Tag.ofName_inj.mp, ?_⟩
  intro tag canonical
  exact ⟨tag.name, trivial, canonical.ofName_name⟩

theorem Tag.parse_of_tagName {name : String} (valid : TagName name.toList) :
    Tag.parse name = .ok (.ofName name) :=
  if_pos ((tagName_iff _).mp valid)

theorem Tag.parse_of_not_tagName {name : String} (invalid : ¬TagName name.toList) :
    Tag.parse name = .error ⟨name⟩ :=
  if_neg (mt (tagName_iff _).mpr invalid)

/-- Every text names one type, and every type is that of its name if `other` is kept for names that no kind
has; naming keeps it so. A document may name a type by a letter or underscore of ASCII with letters, digits
and underscores behind it; any other text is refused and handed back. -/
theorem tags_correspond_to_names :
    (∀ name : String, (Tag.ofName name).name = name) ∧
    (∀ tag : Tag, tag.Canonical → Tag.ofName tag.name = tag) ∧
    (∀ (name : String) (kind : Kind), Tag.ofName name ≠ .other kind.name) ∧
    Set.BijOn Tag.ofName Set.univ {tag | tag.Canonical} ∧
    ∀ name : String,
      (∀ tag, Tag.parse name = .ok tag ↔ name.toList ∈ tagPattern.matches' ∧ tag = .ofName name) ∧
      ∀ fault, Tag.parse name = .error fault ↔ name.toList ∉ tagPattern.matches' ∧ fault = ⟨name⟩ := by
  refine ⟨Tag.name_ofName, fun _ => Tag.Canonical.ofName_name, ?_, Tag.bijOn_ofName, fun name => ?_⟩
  · intro name kind named
    exact Tag.ne_of_ofName_other named kind rfl
  · rw [mem_tagPattern]
    by_cases valid : TagName name.toList
    · simp [Tag.parse_of_tagName valid, valid, eq_comm]
    · simp [Tag.parse_of_not_tagName valid, valid, eq_comm]

theorem accented_self_is_refused :
    (Tag.other "sélf").Canonical ∧ Tag.ofName (Tag.other "sélf").name = .other "sélf" ∧
      "sélf".toList ∉ tagPattern.matches' ∧ Tag.parse "sélf" = .error ⟨"sélf"⟩ ∧
      "self".toList ∈ tagPattern.matches' ∧ Tag.parse "self" = .ok (.known .selfLit) := by
  obtain ⟨-, named, -, -, parsed⟩ := tags_correspond_to_names
  have canonical : (Tag.other "sélf").Canonical := .other fun kind => by cases kind <;> decide
  have invalid : "sélf".toList ∉ tagPattern.matches' := by
    rw [mem_tagPattern, tagName_iff]
    decide
  have valid : "self".toList ∈ tagPattern.matches' := by
    rw [mem_tagPattern, tagName_iff]
    decide
  exact ⟨canonical, named _ canonical, invalid, ((parsed "sélf").2 _).mpr ⟨invalid, rfl⟩, valid,
    ((parsed "self").1 _).mpr ⟨valid, rfl⟩⟩

end RubyTree
