import RubyTree.Proofs.Parameters

/-!
A reader of parameter lists. Names end at the first character that no name holds, literals end where
their own readers say, groups end at their closing parenthesis, and each of these is told apart by the
characters it begins with.
-/

namespace RubyTree

open Text

section Names

theorem not_isDigit_of_isAlpha {c : Char} (alpha : c.isAlpha = true) : c.isDigit = false := by
  rw [Bool.eq_false_iff]
  intro digit
  have zero : '0'.toNat = 48 := rfl
  have nine : '9'.toNat = 57 := rfl
  obtain ⟨lower, upper⟩ := Char.isDigit_iff_toNat.mp digit
  have digits : ∀ offset < 10, (Char.ofNat (48 + offset)).isAlpha = false := by decide
  have noAlpha := digits (c.toNat - 48) (by omega)
  rw [show 48 + (c.toNat - 48) = c.toNat by omega, Char.ofNat_toNat, alpha] at noAlpha
  cases noAlpha

/-- A name begins like no numeral and with no mark. -/
theorem startsName_cases {c : Char} (start : c.isAlpha = true ∨ c = '_') :
    c.isDigit = false ∧ c ≠ '-' ∧ c ≠ '@' := by
  rcases start with alpha | rfl
  · refine ⟨not_isDigit_of_isAlpha alpha, ?_, ?_⟩ <;> rintro rfl <;> exact absurd alpha (by decide)
  · decide

def isNameChar (c : Char) : Bool := c.isAlphanum || c == '_'

def Identifier.ofChars? (chars : List Char) : Option Identifier :=
  if named : isTagName chars = true ∧ String.ofList chars ∉ reserved then
    some ⟨String.ofList chars, by simpa using (tagName_iff chars).mpr named.1, named.2⟩
  else none

variable (name : Identifier)

@[simp] theorem Identifier.ofChars?_text : Identifier.ofChars? name.text.toList = some name := by
  have named : isTagName name.text.toList = true ∧ String.ofList name.text.toList ∉ reserved :=
    ⟨(tagName_iff _).mp name.valid, by simpa using name.free⟩
  rw [Identifier.ofChars?, dif_pos named]
  simp

theorem Identifier.isNameChar_of_mem : ∀ c ∈ name.text.toList, isNameChar c = true := by
  have valid := name.valid
  generalize name.text.toList = chars at valid
  obtain ⟨start, more⟩ := valid
  intro c member
  rcases List.mem_cons.mp member with rfl | member
  · rcases start with alpha | rfl
    · simp [isNameChar, Char.isAlphanum, alpha]
    · rfl
  · simpa [isNameChar] using more c member

theorem Identifier.text_head :
    ∃ c rest, name.text.toList = c :: rest ∧ (c.isAlpha = true ∨ c = '_') := by
  have valid := name.valid
  generalize name.text.toList = chars at valid
  obtain ⟨start, _⟩ := valid
  exact ⟨_, _, rfl, start⟩

/-- A name is read up to the first character that it cannot hold. -/
theorem readWhile_name (rest : List Char) (outside : ∀ c ∈ rest.head?, isNameChar c = false) :
    readWhile isNameChar (name.text.toList ++ rest) = (name.text.toList, rest) :=
  readWhile_append name.isNameChar_of_mem outside

end Names

section Defaults

def isWide (word : List Char) : Bool :=
  (Numeral.value? word).any fun value => value < -2 ^ 63 || 2 ^ 63 ≤ value

theorem isWide_iff (word : List Char) :
    isWide word = true ↔ ∃ value, Numeral.Denotes word value ∧ Numeral.Wide value := by
  simp [isWide, Option.any_eq_true, ← Numeral.value?_eq_some_iff, Numeral.Wide]

def WideNumeral.ofChars? (word : List Char) : Option WideNumeral :=
  if wide : isWide word = true then
    some ⟨String.ofList word, by simpa using (isWide_iff word).mp wide⟩
  else none

def Default.keyword? (word : List Char) : Option Default :=
  match String.ofList word with
  | "nil" => some .nilLit
  | "true" => some .trueLit
  | "false" => some .falseLit
  | "self" => some .selfLit
  | _ => none

/-- The name of a variable, with the mark of its sort. -/
def Default.named? : List Char → Option Default
  | '@' :: name => (Identifier.ofChars? name).map .ivar
  | name => (Identifier.ofChars? name).map .lvar

def Default.ofWord? (word : List Char) : Option Default :=
  ((WideNumeral.ofChars? word).map .wideInt).or <|
    ((Numeral.value? word).map fun value => .int (.ofInt value)).or <|
      (Default.keyword? word).or (Default.named? word)

def readDefault : List Char → Option (Default × List Char)
  | '"' :: rest =>
    (readQuoted .plain rest).map fun (text, rest) => (.str (String.ofList text), rest)
  | ':' :: rest =>
    (readSymbol (':' :: rest)).map fun (name, rest) => (.sym (String.ofList name), rest)
  | input =>
    let (word, rest) := readWhile (!endsWord ·) input
    (Default.ofWord? word).map (·, rest)

theorem Numeral.value?_eq_none (c : Char) (rest : List Char) (noDigit : c.isDigit = false)
    (noMinus : c ≠ '-') : Numeral.value? (c :: rest) = none := by
  simp [Numeral.value?, Numeral.value?.isDigits, noDigit, noMinus]

theorem WideNumeral.ofChars?_text (numeral : WideNumeral) :
    WideNumeral.ofChars? numeral.text.toList = some numeral := by
  rw [WideNumeral.ofChars?, dif_pos ((isWide_iff _).mpr numeral.wide)]
  simp

theorem WideNumeral.ofChars?_eq_none {word : List Char} (narrow : isWide word = false) :
    WideNumeral.ofChars? word = none := by
  simp [WideNumeral.ofChars?, narrow]

namespace Default

theorem ofWord?_int (value : Int64) :
    ofWord? (Numeral.ofInt value.toInt).toList = some (.int value) := by
  have denoted := (Numeral.value?_eq_some_iff _ _).mpr (Numeral.denotes_ofInt value.toInt)
  have narrow : isWide (Numeral.ofInt value.toInt).toList = false := by
    have lower := value.le_toInt
    have upper := value.toInt_lt
    simp only [isWide, denoted, Option.any_some, Bool.or_eq_false_iff, decide_eq_false_iff_not]
    omega
  simp [ofWord?, WideNumeral.ofChars?_eq_none narrow, denoted]

theorem ofWord?_wideInt (numeral : WideNumeral) :
    ofWord? numeral.text.toList = some (.wideInt numeral) := by
  simp [ofWord?, WideNumeral.ofChars?_text]

/-- What begins like no numeral is a keyword or a variable. -/
theorem ofWord?_eq_or (c : Char) (rest : List Char) (noDigit : c.isDigit = false)
    (noMinus : c ≠ '-') :
    ofWord? (c :: rest) = (keyword? (c :: rest)).or (named? (c :: rest)) := by
  have none := Numeral.value?_eq_none c rest noDigit noMinus
  have narrow : isWide (c :: rest) = false := by simp [isWide, none]
  simp [ofWord?, WideNumeral.ofChars?_eq_none narrow, none]

theorem keyword?_eq_none {word : List Char} (free : String.ofList word ∉ reserved) :
    keyword? word = none := by
  simp only [reserved, List.mem_cons, not_or] at free
  simp [keyword?, free]

theorem ofWord?_lvar (name : Identifier) : ofWord? name.text.toList = some (.lvar name) := by
  obtain ⟨c, rest, chars, start⟩ := name.text_head
  obtain ⟨noDigit, noMinus, noMark⟩ := startsName_cases start
  have named := name.ofChars?_text
  have free : String.ofList name.text.toList ∉ reserved := by simpa using name.free
  rw [chars] at named free ⊢
  rw [ofWord?_eq_or c rest noDigit noMinus, keyword?_eq_none free]
  simp [named?, noMark, named]

theorem ofWord?_ivar (name : Identifier) :
    ofWord? ('@' :: name.text.toList) = some (.ivar name) := by
  have unmarked : ∀ word ∈ reserved, word.toList.head? ≠ some '@' := by decide
  have free : String.ofList ('@' :: name.text.toList) ∉ reserved :=
    fun member => unmarked _ member (by simp)
  rw [ofWord?_eq_or '@' _ rfl (by decide), keyword?_eq_none free]
  simp [named?]

end Default

def isWordChar (c : Char) : Bool := isNameChar c || c == '-' || c == '@'

theorem isWordChar_of_isNameChar {c : Char} (inName : isNameChar c = true) : isWordChar c = true := by
  simp [isWordChar, inName]

theorem not_isDelimiter_of_isWordChar {c : Char} (inWord : isWordChar c = true) :
    isDelimiter c = false := by
  rw [Bool.eq_false_iff]
  intro delimiter
  rcases isDelimiter_cases delimiter with rfl | rfl | rfl | rfl <;> exact absurd inWord (by decide)

theorem isWordChar_of_denotes {text : List Char} {value : Int} (denotes : Numeral.Denotes text value) :
    ∀ c ∈ text, isWordChar c = true := by
  have digit {c : Char} (isDigit : c.isDigit = true) : isWordChar c = true := by
    simp [isWordChar, isNameChar, Char.isAlphanum, isDigit]
  rcases denotes with ⟨valid⟩ | ⟨valid⟩
  · exact fun c member => digit (valid.digit c member)
  · intro c member
    rcases List.mem_cons.mp member with rfl | member
    · rfl
    · exact digit (valid.digit c member)

theorem isWordChar_of_reserved : ∀ word ∈ reserved, ∀ c ∈ word.toList, isWordChar c = true := by
  have words : reserved.all (fun word => word.toList.all isWordChar) = true := by rfl
  simpa only [List.all_eq_true] using words

theorem readDefault_word {word rest : List Char} {value : Default}
    (inWord : ∀ c ∈ word, isWordChar c = true) (known : Default.ofWord? word = some value)
    (ends : EndsWord rest) : readDefault (word ++ rest) = some (value, rest) := by
  have whole := readWhile_word (fun c member =>
    not_endsWord_of_not_isDelimiter (not_isDelimiter_of_isWordChar (inWord c member))) ends
  have first : ∀ c ∈ (word ++ rest).head?, c ≠ '"' ∧ c ≠ ':' := by
    intro c member
    cases word with
    | nil =>
      have stops := ends c member
      constructor <;> rintro rfl <;> exact absurd stops (by decide)
    | cons first tail =>
      cases Option.mem_some.mp member
      have inside := inWord c (by simp)
      constructor <;> rintro rfl <;> exact absurd inside (by decide)
  unfold readDefault
  split
  · next same => exact absurd rfl (first '"' (by simp [same])).1
  · next same => exact absurd rfl (first ':' (by simp [same])).2
  · simp [whole, known]

theorem readDefault_keyword {word : String} {value : Default} {rest : List Char}
    (listed : word ∈ reserved) (known : Default.ofWord? word.toList = some value)
    (ends : EndsWord rest) : readDefault (word.toList ++ rest) = some (value, rest) :=
  readDefault_word (isWordChar_of_reserved word listed) known ends

theorem readDefault_text (value : Default) (rest : List Char) (ends : EndsWord rest) :
    readDefault (value.text.toList ++ rest) = some (value, rest) := by
  cases value with
  | int value =>
    exact readDefault_word (isWordChar_of_denotes (Numeral.denotes_ofInt _))
      (Default.ofWord?_int value) ends
  | wideInt numeral =>
    obtain ⟨_, denotes, _⟩ := numeral.wide
    exact readDefault_word (isWordChar_of_denotes denotes) (Default.ofWord?_wideInt numeral) ends
  | str text => simp [Default.text, quoted, readDefault, readQuoted_quotedChars]
  | sym name =>
    have read := readSymbol_symbolLiteral name rest ends
    have colon : ∃ tail, (symbolLiteral name).toList ++ rest = ':' :: tail := by
      unfold symbolLiteral
      split <;> simp
    obtain ⟨tail, chars⟩ := colon
    rw [chars] at read
    simp only [Default.text, chars, readDefault, read]
    simp
  | nilLit => exact readDefault_keyword (by simp [Default.text, reserved]) rfl ends
  | trueLit => exact readDefault_keyword (by simp [Default.text, reserved]) rfl ends
  | falseLit => exact readDefault_keyword (by simp [Default.text, reserved]) rfl ends
  | selfLit => exact readDefault_keyword (by simp [Default.text, reserved]) rfl ends
  | lvar name =>
    exact readDefault_word (fun c member => isWordChar_of_isNameChar (name.isNameChar_of_mem c member))
      (Default.ofWord?_lvar name) ends
  | ivar name =>
    have inWord : ∀ c ∈ '@' :: name.text.toList, isWordChar c = true := by
      intro c member
      rcases List.mem_cons.mp member with rfl | member
      · rfl
      · exact isWordChar_of_isNameChar (name.isNameChar_of_mem c member)
    simpa [Default.text] using readDefault_word inWord (Default.ofWord?_ivar name) ends

end Defaults

section Items

/-- What may follow a parameter in a list. -/
def EndsItem (rest : List Char) : Prop := ∀ c ∈ rest.head?, c = ',' ∨ c = ')'

/-- A parameter that begins with its name, told apart by what follows the name. -/
def readNamed (input : List Char) : Option (Param × List Char) :=
  let (word, rest) := readWhile isNameChar input
  (Identifier.ofChars? word).bind fun name =>
    match rest with
    | ' ' :: '=' :: ' ' :: rest =>
      (readDefault rest).map fun (value, rest) => (.optarg name value, rest)
    | ':' :: ' ' :: rest =>
      (readDefault rest).map fun (value, rest) => (.kwoptarg name value, rest)
    | ':' :: rest => some (.kwarg name, rest)
    | rest => some (.arg name, rest)

/-- What follows a star or two: a name, or nothing. -/
def readSplat (make : Option Identifier → Param) (input : List Char) : Option (Param × List Char) :=
  let (word, rest) := readWhile isNameChar input
  if word.isEmpty then some (make none, rest)
  else (Identifier.ofChars? word).map fun name => (make (some name), rest)

def readSingle : List Char → Option (Param × List Char)
  | '*' :: '*' :: rest => readSplat .kwrestarg rest
  | '*' :: rest => readSplat .restarg rest
  | '&' :: rest =>
    let (word, rest) := readWhile isNameChar rest
    (Identifier.ofChars? word).map fun name => (.blockarg name, rest)
  | input => readNamed input

mutual

/-- A parameter at the front of a text. Every round uses up fuel. -/
def readParam : Nat → List Char → Option (Param × List Char)
  | 0, _ => none
  | fuel + 1, '(' :: rest =>
    match readParams fuel rest with
    | some (items, ')' :: rest) => some (.mlhs items, rest)
    | _ => none
  | _ + 1, input => readSingle input

/-- The parameters up to a closing parenthesis or the end. -/
def readParams : Nat → List Char → Option (List Param × List Char)
  | 0, _ => none
  | _ + 1, [] => some ([], [])
  | _ + 1, ')' :: rest => some ([], ')' :: rest)
  | fuel + 1, input =>
    match readParam fuel input with
    | some (first, ',' :: ' ' :: rest) =>
      (readParams fuel rest).map fun (items, rest) => (first :: items, rest)
    | some (first, rest) => some ([first], rest)
    | none => none

end

def readParamList (text : String) : Option (List Param) :=
  match readParams (text.length + 2) text.toList with
  | some (params, []) => some params
  | _ => none

theorem EndsItem.endsWord {rest : List Char} (ends : EndsItem rest) : EndsWord rest := by
  intro c member
  rcases ends c member with rfl | rfl <;> rfl

theorem EndsItem.outside {rest : List Char} (ends : EndsItem rest) :
    ∀ c ∈ rest.head?, isNameChar c = false := by
  intro c member
  rcases ends c member with rfl | rfl <;> rfl

variable {rest : List Char} (ends : EndsItem rest)
include ends

theorem readNamed_arg (name : Identifier) :
    readNamed (name.text.toList ++ rest) = some (.arg name, rest) := by
  simp only [readNamed, readWhile_name name rest ends.outside, name.ofChars?_text, Option.bind_some]
  rcases rest with _ | ⟨c, rest⟩
  · rfl
  · rcases ends c rfl with rfl | rfl <;> rfl

theorem readNamed_optarg (name : Identifier) (value : Default) :
    readNamed (name.text.toList ++ ' ' :: '=' :: ' ' :: (value.text.toList ++ rest)) =
      some (.optarg name value, rest) := by
  have word := readWhile_name name (' ' :: '=' :: ' ' :: (value.text.toList ++ rest))
    (by simp [isNameChar])
  simp [readNamed, word, readDefault_text value rest ends.endsWord]

theorem readNamed_kwoptarg (name : Identifier) (value : Default) :
    readNamed (name.text.toList ++ ':' :: ' ' :: (value.text.toList ++ rest)) =
      some (.kwoptarg name value, rest) := by
  have word := readWhile_name name (':' :: ' ' :: (value.text.toList ++ rest)) (by simp [isNameChar])
  simp [readNamed, word, readDefault_text value rest ends.endsWord]

theorem readNamed_kwarg (name : Identifier) :
    readNamed (name.text.toList ++ ':' :: rest) = some (.kwarg name, rest) := by
  have word := readWhile_name name (':' :: rest) (by simp [isNameChar])
  simp only [readNamed, word, name.ofChars?_text, Option.bind_some]
  rcases rest with _ | ⟨c, rest⟩
  · rfl
  · rcases ends c rfl with rfl | rfl <;> rfl

theorem readSplat_name (make : Option Identifier → Param) (name : Option Identifier) :
    readSplat make (((name.map Identifier.text).getD "").toList ++ rest) = some (make name, rest) := by
  cases name with
  | none =>
    have word : readWhile isNameChar ([] ++ rest) = ([], rest) :=
      readWhile_append (by simp) ends.outside
    rw [List.nil_append] at word
    simp [readSplat, word]
  | some name =>
    obtain ⟨c, tail, chars, _⟩ := name.text_head
    have nonempty : name.text.toList.isEmpty = false := by rw [chars]; rfl
    simp [readSplat, readWhile_name name rest ends.outside, nonempty]

omit ends in
theorem readSingle_named (name : Identifier) (rest : List Char) :
    readSingle (name.text.toList ++ rest) = readNamed (name.text.toList ++ rest) := by
  obtain ⟨c, tail, chars, start⟩ := name.text_head
  have unmarked : c ≠ '*' ∧ c ≠ '&' := by
    constructor <;> rintro rfl <;> exact absurd start (by decide)
  simp [readSingle, chars, unmarked]

/-- Neither a name nor what ends an item begins with a second star. -/
theorem readSingle_restarg (name : Option Identifier) :
    readSingle ('*' :: (((name.map Identifier.text).getD "").toList ++ rest)) =
      some (.restarg name, rest) := by
  have oneStar : ∀ c ∈ (((name.map Identifier.text).getD "").toList ++ rest).head?, c ≠ '*' := by
    rintro c member rfl
    cases name with
    | none => exact absurd (ends '*' (by simpa using member)) (by decide)
    | some name =>
      obtain ⟨first, tail, chars, start⟩ := name.text_head
      simp only [Option.map_some, Option.getD_some, chars, List.cons_append, List.head?_cons,
        Option.mem_some] at member
      exact absurd (member ▸ start) (by decide)
  have read := readSplat_name ends .restarg name
  generalize ((name.map Identifier.text).getD "").toList ++ rest = input at oneStar read
  cases input with
  | nil => exact read
  | cons c tail =>
    have other := oneStar c rfl
    simpa [readSingle, other] using read

theorem readSingle_text (param : Param) (single : ∀ items, param ≠ .mlhs items) :
    readSingle (param.text.toList ++ rest) = some (param, rest) := by
  cases param with
  | arg name => exact (readSingle_named name rest).trans (readNamed_arg ends name)
  | optarg name value =>
    simpa [Param.text] using (readSingle_named name _).trans (readNamed_optarg ends name value)
  | restarg name => simpa [Param.text, splatText] using readSingle_restarg ends name
  | blockarg name =>
    simp [Param.text, readSingle, readWhile_name name rest ends.outside]
  | kwarg name =>
    simpa [Param.text] using (readSingle_named name _).trans (readNamed_kwarg ends name)
  | kwoptarg name value =>
    simpa [Param.text] using (readSingle_named name _).trans (readNamed_kwoptarg ends name value)
  | kwrestarg name =>
    simpa [Param.text, splatText, readSingle] using readSplat_name ends .kwrestarg name
  | mlhs items => exact absurd rfl (single items)

omit ends in
/-- A closing parenthesis begins no parameter, and an opening one begins a group. -/
theorem Param.text_head (param : Param) : ∃ c tail, param.text.toList = c :: tail ∧ c ≠ ')' ∧
    ((∀ items, param ≠ .mlhs items) → c ≠ '(') := by
  have named (name : Identifier) (after : List Char) :
      ∃ c tail, name.text.toList ++ after = c :: tail ∧ c ≠ ')' ∧
        ((∀ items, param ≠ .mlhs items) → c ≠ '(') := by
    obtain ⟨c, tail, chars, start⟩ := name.text_head
    refine ⟨c, tail ++ after, by simp [chars], ?_, fun _ => ?_⟩ <;>
      rintro rfl <;> exact absurd start (by decide)
  cases param with
  | arg name => simpa [Param.text] using named name []
  | optarg name value => simpa [Param.text] using named name (" = ".toList ++ value.text.toList)
  | kwarg name => simpa [Param.text] using named name [':']
  | kwoptarg name value => simpa [Param.text] using named name (": ".toList ++ value.text.toList)
  | restarg name => simp [Param.text, splatText]
  | blockarg name => simp [Param.text]
  | kwrestarg name => simp [Param.text, splatText]
  | mlhs items => simp [Param.text]

theorem readParam_single (param : Param) (single : ∀ items, param ≠ .mlhs items) (fuel : Nat) :
    readParam (fuel + 1) (param.text.toList ++ rest) = some (param, rest) := by
  have read := readSingle_text ends param single
  obtain ⟨c, tail, chars, _, noParen⟩ := param.text_head
  rw [chars, List.cons_append] at read ⊢
  rw [readParam]
  · exact read
  · exact fun _ same => noParen single (List.cons.inj same).1

end Items

section RoundTrip

def EndsList (rest : List Char) : Prop := ∀ c ∈ rest.head?, c = ')'

theorem EndsList.endsItem {rest : List Char} (ends : EndsList rest) : EndsItem rest :=
  fun c member => .inr (ends c member)

theorem readParams_nil (fuel : Nat) (rest : List Char) (ends : EndsList rest) :
    readParams (fuel + 1) rest = some ([], rest) := by
  cases rest with
  | nil => rfl
  | cons c rest =>
    cases ends c rfl
    rfl

/-- A list begins with its first item. -/
theorem readParams_first (first : Param) (fuel : Nat) (rest : List Char) :
    readParams (fuel + 1) (first.text.toList ++ rest) =
      match readParam fuel (first.text.toList ++ rest) with
      | some (first, ',' :: ' ' :: rest) =>
        (readParams fuel rest).map fun (items, rest) => (first :: items, rest)
      | some (first, rest) => some ([first], rest)
      | none => none := by
  obtain ⟨c, tail, chars, noParen, _⟩ := first.text_head
  rw [chars, List.cons_append, readParams]
  · simp
  · exact fun _ same => noParen (List.cons.inj same).1

theorem length_group (items : List Param) :
    (Param.mlhs items).text.length = (paramsText items).length + 2 := by
  have parens : "(".length = 1 ∧ ")".length = 1 := ⟨rfl, rfl⟩
  simp only [Param.text, String.length_append, parens]
  omega

theorem length_cons (first second : Param) (more : List Param) :
    (paramsText (first :: second :: more)).length =
      first.text.length + 2 + (paramsText (second :: more)).length := by
  have separator : ", ".length = 2 := rfl
  rw [paramsText]
  simp only [List.isEmpty_cons, Bool.false_eq_true, if_false, String.length_append, separator]
  omega

theorem chars_cons (first second : Param) (more : List Param) (rest : List Char) :
    (paramsText (first :: second :: more)).toList ++ rest =
      first.text.toList ++ ',' :: ' ' :: ((paramsText (second :: more)).toList ++ rest) := by
  rw [paramsText]
  simp

theorem readParam_group (items : List Param) (fuel : Nat) (rest : List Char)
    (read : readParams fuel ((paramsText items).toList ++ ')' :: rest) = some (items, ')' :: rest)) :
    readParam (fuel + 1) ((Param.mlhs items).text.toList ++ rest) = some (.mlhs items, rest) := by
  have chars : (Param.mlhs items).text.toList ++ rest =
      '(' :: ((paramsText items).toList ++ ')' :: rest) := by
    simp [Param.text]
  rw [chars, readParam, read]
  rfl

-- Each round spends one unit of fuel and reads at least one character, except for the round that
-- ends a list; one unit more than the characters of a list is left over for it.
mutual

theorem readParam_text : ∀ (param : Param) (fuel : Nat) (rest : List Char),
    param.text.length < fuel → EndsItem rest →
    readParam fuel (param.text.toList ++ rest) = some (param, rest)
  | .mlhs items, fuel + 1, rest, enough, ends => by
    rw [length_group] at enough
    exact readParam_group items fuel rest
      (readParams_text items fuel (')' :: rest) (by omega) (by simp [EndsList]))
  | .arg _, fuel + 1, _, _, ends | .optarg _ _, fuel + 1, _, _, ends
  | .restarg _, fuel + 1, _, _, ends | .blockarg _, fuel + 1, _, _, ends
  | .kwarg _, fuel + 1, _, _, ends | .kwoptarg _ _, fuel + 1, _, _, ends
  | .kwrestarg _, fuel + 1, _, _, ends => readParam_single ends _ (by simp) fuel

theorem readParams_text : ∀ (params : List Param) (fuel : Nat) (rest : List Char),
    (paramsText params).length + 1 < fuel → EndsList rest →
    readParams fuel ((paramsText params).toList ++ rest) = some (params, rest)
  | [], fuel + 1, rest, _, ends => by simpa [paramsText] using readParams_nil fuel rest ends
  | [first], fuel + 1, rest, enough, ends => by
    simp only [paramsText, List.isEmpty_nil, if_true, String.append_empty] at enough ⊢
    rw [readParams_first, readParam_text first fuel rest (by omega) ends.endsItem]
    rcases rest with _ | ⟨c, rest⟩
    · rfl
    · cases ends c rfl
      rfl
  | first :: second :: more, fuel + 1, rest, enough, ends => by
    rw [length_cons] at enough
    rw [chars_cons, readParams_first,
      readParam_text first fuel _ (by omega) (by simp [EndsItem])]
    simp only [readParams_text (second :: more) fuel rest (by omega) ends, Option.map_some]

end

/-- The reader gets every list of parameters back from its text. -/
theorem readParamList_paramsText (params : List Param) :
    readParamList (paramsText params) = some params := by
  have read := readParams_text params ((paramsText params).length + 2) [] (by omega) (by simp [EndsList])
  rw [List.append_nil] at read
  simp [readParamList, read]

end RoundTrip

/-- Rendering a list of parameters loses nothing: it succeeds, a reader recovers the list from the text
alone, and so lists with the same text are the same. -/
theorem parameter_lists_are_recoverable (params others : List Param) :
    ∃ text text',
      (Build.args (params.map Param.node)).render = .ok text ∧
      (Build.args (others.map Param.node)).render = .ok text' ∧
      readParamList text = some params ∧
      (text = text' → params = others) := by
  refine ⟨paramsText params, paramsText others, render_args params, render_args others,
    readParamList_paramsText params, ?_⟩
  intro same
  have read := readParamList_paramsText params
  rw [same, readParamList_paramsText] at read
  exact (Option.some.inj read).symm

end RubyTree
