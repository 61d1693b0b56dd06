import Mathlib
import RubyTree.Proofs.JsonText
import RubyTree.Proofs.LoadedTrees

/-!
Documents as JSON, and what loading makes of them. A document and a node are objects; a name is a string,
a text and a wide integer are objects of one member, and the rest is as plain as JSON has it.
-/

namespace RubyTree

section Encoding

def Json.Literal.ofInt (value : Int) : Json.Literal :=
  ⟨decide (value < 0), Nat.toDigits 10 value.natAbs, [], none⟩

def Json.ofInt (value : Int) : Json := .number (.ofInt value)

def Json.ofText (text : String) : Json := .string (some text)

def Json.ofItems (items : List Json) : Json := .array items none

def Json.ofMembers (members : List (String × Json)) : Json :=
  .object (members.map fun (key, value) => ⟨some key, value⟩) none

/-- An atom as a child. Doubles are left out of the encoding, so what stands for them is of no account. -/
def Atom.toJson : Atom → Json
  | .symbol name => .ofText name
  | .str text => .ofMembers [("str", .ofText text)]
  | .integer value => .ofInt value.toInt
  | .bigInteger numeral => .ofMembers [("int", .ofText numeral)]
  | .float _ | .nil => .null

def Span.toJson (span : Span) : Json := .ofItems [.ofInt span.start, .ofInt span.stop]

mutual

def Node.toJson : Node → Json
  | ⟨tag, children, span⟩ =>
    .ofMembers <|
      [("type", .ofText tag.name), ("children", .ofItems (childrenToJson children))] ++
        (span.map fun span => ("range", span.toJson)).toList

def childrenToJson : List Child → List Json
  | [] => []
  | .node value :: rest => value.toJson :: childrenToJson rest
  | .atom value :: rest => value.toJson :: childrenToJson rest

end

def Document.toJson (document : Document) : Json :=
  .ofMembers <|
    match document.buffer with
    | none => [("ast", document.root.toJson)]
    | some buffer =>
      [("source", .ofText buffer.text), ("name", .ofText buffer.name), ("ast", document.root.toJson)]

/-- A node that the encoding can express, apart from its child nodes: one that a document may hold, without
doubles, and with offsets of 64 bits. -/
structure Node.Encodable (buffer : Option Buffer) (node : Node) : Prop extends node.Loaded buffer where
  noDoubles : ∀ value, .atom (.float value) ∉ node.children
  words : ∀ span, node.span = some span → span.stop < 2 ^ 64

mutual

def Json.depth : Json → Nat
  | .array items _ => 1 + itemsDepth items
  | .object members _ => 1 + membersDepth members
  | _ => 0

def itemsDepth : List Json → Nat
  | [] => 0
  | item :: rest => max item.depth (itemsDepth rest)

def membersDepth : List Member → Nat
  | [] => 0
  | ⟨_, value⟩ :: rest => max value.depth (membersDepth rest)

end

end Encoding

section Numbers

namespace Json

theorem le_ofDigitChars (digits : List Char) (start : Nat) :
    start ≤ Nat.ofDigitChars 10 digits start := by
  rw [Nat.ofDigitChars_eq_ofDigitChars_zero]
  have : start ≤ 10 ^ digits.length * start := Nat.le_mul_of_pos_left start (by positivity)
  omega

theorem takeDigits_eq {digits : List Char} {start : Nat}
    (fits : Nat.ofDigitChars 10 digits start < 2 ^ 64) :
    takeDigits start digits = (Nat.ofDigitChars 10 digits start, 0) := by
  induction digits generalizing start with
  | nil => rfl
  | cons digit rest ih =>
    rw [Nat.ofDigitChars_cons] at fits ⊢
    rw [takeDigits, if_pos (lt_of_le_of_lt (le_ofDigitChars rest _) fits), ih fits]

namespace Literal

variable (value : Int)

/-- The integers that a JSON number stands for. -/
theorem value?_ofInt (low : -2 ^ 63 ≤ value) (high : value < 2 ^ 64) :
    (Literal.ofInt value).value? = some (.integer value) := by
  have digits : takeDigits 0 (Nat.toDigits 10 value.natAbs) = (value.natAbs, 0) := by
    have fits : value.natAbs < 2 ^ 64 := by omega
    rw [← Nat.ofDigitChars_ten_toDigits (n := value.natAbs)] at fits
    rw [takeDigits_eq fits, Nat.ofDigitChars_ten_toDigits]
  have sign : (Literal.ofInt value).integer value.natAbs = .integer value := by
    by_cases negative : value < 0
    · have inside : ¬(value.natAbs = 0 ∨ 2 ^ 63 < value.natAbs) := by omega
      have same : -(value.natAbs : Int) = value := by omega
      have minus : (Literal.ofInt value).negative = true := by simp [Literal.ofInt, negative]
      simp only [Literal.integer, minus, Bool.not_true, Bool.false_eq_true, if_false, Bool.or_eq_true,
        decide_eq_true_eq, inside, same]
    · have same : (value.natAbs : Int) = value := by omega
      have plus : (Literal.ofInt value).negative = false := by simp [Literal.ofInt, negative]
      simp only [Literal.integer, plus, Bool.not_false, if_true, same]
  unfold Literal.value?
  simp only [Literal.ofInt, digits] at sign ⊢
  simp [sign]

theorem readable_ofInt (low : -2 ^ 63 ≤ value) (high : value < 2 ^ 64) :
    (Literal.ofInt value).Readable where
  whole := Numeral.toDigits_digits _
  noLeadingZero := Numeral.toDigits_ne_zero_cons _
  fraction := by simp [Literal.ofInt]
  exponent := by simp [Literal.ofInt]
  value := by rw [value?_ofInt value low high]; rfl

end Literal

end Json

end Numbers

section Reading

namespace Json

theorem readable_ofItems {items : List Json} (each : ∀ item ∈ items, item.Readable) :
    (ofItems items).Readable := by
  refine ⟨?_, rfl⟩
  induction items with
  | nil => trivial
  | cons item rest ih => exact ⟨each item (by simp), ih fun other member => each other (by simp [member])⟩

theorem readable_ofMembers {members : List (String × Json)}
    (each : ∀ member ∈ members, member.2.Readable) : (ofMembers members).Readable := by
  refine ⟨?_, rfl⟩
  induction members with
  | nil => trivial
  | cons member rest ih =>
    exact ⟨rfl, each member (by simp), ih fun other isOther => each other (by simp [isOther])⟩

mutual

/-- Nothing but its nesting stands against a readable value. -/
theorem flaw?_eq_none : ∀ (value : Json) (room : Nat), value.Readable → value.depth ≤ room →
    value.flaw? room = none
  | .null, _, _, _ | .bool _, _, _, _ => rfl
  | .number literal, _, valid, _ => by
    have valid : literal.Readable := valid
    simp [flaw?, valid.value]
  | .string text, _, valid, _ => by
    have valid : text.isSome = true := valid
    simp [flaw?, valid]
  | .array items none, room + 1, valid, fits => by
    have fits : itemsDepth items ≤ room := by rw [depth] at fits; omega
    simp [flaw?, itemsFlaw?_eq_none items room valid.1 fits]
  | .object members none, room + 1, valid, fits => by
    have fits : membersDepth members ≤ room := by rw [depth] at fits; omega
    simp [flaw?, membersFlaw?_eq_none members room valid.1 fits]
  | .array _ none, 0, _, fits | .object _ none, 0, _, fits => by
    rw [depth] at fits
    omega
  | .broken _, _, valid, _ => valid.elim

theorem itemsFlaw?_eq_none : ∀ (items : List Json) (room : Nat), ItemsReadable items →
    itemsDepth items ≤ room → itemsFlaw? room items = none
  | [], _, _, _ => rfl
  | item :: rest, room, valid, fits => by
    rw [itemsDepth, max_le_iff] at fits
    simp [itemsFlaw?, flaw?_eq_none item room valid.1 fits.1, itemsFlaw?_eq_none rest room valid.2 fits.2]

theorem membersFlaw?_eq_none : ∀ (members : List Member) (room : Nat), MembersReadable members →
    membersDepth members ≤ room → membersFlaw? room members = none
  | [], _, _, _ => rfl
  | ⟨some key, value⟩ :: rest, room, valid, fits => by
    rw [membersDepth, max_le_iff] at fits
    simp [membersFlaw?, flaw?_eq_none value room valid.2.1 fits.1,
      membersFlaw?_eq_none rest room valid.2.2 fits.2]

end

end Json

end Reading

section Decoding

def Atom.draft : Atom → DraftChild
  | .bigInteger numeral => .integer numeral
  | value => .atom value

mutual

/-- What decoding makes of a node: its name, its children, and the offsets of its span. -/
def Node.draft : Node → DraftNode
  | ⟨tag, children, span⟩ =>
    ⟨tag.name, draftChildren children, span.map fun span => (span.start, span.stop)⟩

def draftChildren : List Child → List DraftChild
  | [] => []
  | .node value :: rest => .node value.draft :: draftChildren rest
  | .atom value :: rest => value.draft :: draftChildren rest

end

theorem Span.start_le_stop {span : Span} (covered : span.text?.isSome = true) : span.start ≤ span.stop := by
  by_contra reversed
  simp [Span.text?, sliceBytes?, reversed] at covered

/-- There is nothing to skim in an object that gives nothing but the fields. -/
theorem Json.formed_ofMembers {fields : List String} {members : List (String × Json)}
    (known : ∀ member ∈ members, member.1 ∈ fields) : (Json.ofMembers members).Formed fields := by
  intro member isMember
  obtain ⟨⟨name, value⟩, given, rfl⟩ := List.mem_map.mp isMember
  exact ⟨name, rfl, fun unknown => absurd (known _ given) unknown⟩

namespace Decode

theorem offset_ofInt {value : Nat} (fits : value < 2 ^ 64) : offset (.ofInt value) = .ok value := by
  have number := Json.Literal.value?_ofInt value (by omega) (by omega)
  simp [offset, Json.ofInt, number]

theorem range_toJson {span : Span} (covered : span.text?.isSome = true) (word : span.stop < 2 ^ 64)
    (room : Nat) : range (room + 1) span.toJson = .ok (span.start, span.stop) := by
  have order := Span.start_le_stop covered
  exact range_eq_ok.mpr ⟨room, _, _, rfl, rfl, offset_ofInt (by omega), offset_ofInt word⟩

theorem child_number {value : Int} (low : -2 ^ 63 ≤ value) (high : value < 2 ^ 64) (room : Nat) :
    child (.ofInt value) (node room (.ofInt value)) = .ok (.atom (numberAtom (.integer value))) := by
  have number := Json.Literal.value?_ofInt value low high
  simp only [Json.ofInt, node, unexpected, number, fail, child, leaf]

theorem child_ofInt (value : Int64) (room : Nat) :
    child (.ofInt value.toInt) (node room (.ofInt value.toInt)) = .ok (.atom (.integer value)) := by
  have low := value.le_toInt
  have high := value.toInt_lt
  have word : numberAtom (.integer value.toInt) = .integer value := by
    rw [numberAtom, if_pos (by simp only [Bool.and_eq_true, decide_eq_true_eq]; exact ⟨low, high⟩),
      Int64.ofInt_toInt]
  rw [child_number low (by omega), word]

/-- No atom is taken for a node or for another kind of atom. -/
theorem child_toJson (value : Atom) (noDouble : ∀ x, value ≠ .float x) {room : Nat}
    (fits : value.toJson.depth ≤ room) : child value.toJson (node room value.toJson) = .ok value.draft := by
  cases value with
  | symbol name => rfl
  | integer value => exact child_ofInt value room
  | float x => exact absurd rfl (noDouble x)
  | nil => rfl
  | str text =>
    cases room with
    | zero => simp [Atom.toJson, Json.ofMembers, Json.depth] at fits
    | succ room => rfl
  | bigInteger numeral =>
    cases room with
    | zero => simp [Atom.toJson, Json.ofMembers, Json.depth] at fits
    | succ room => rfl

/-- The object of a node is decoded field by field, once its children are. -/
theorem node_ofMembers {items : List Json} {list : List DraftChild} {room : Nat} (tag : String)
    (decoded : childList room items = .ok list) {span : Option Span}
    (covered : ∀ s, span = some s → s.text?.isSome = true ∧ s.stop < 2 ^ 64) :
    node (room + 2) (.ofMembers <| [("type", .ofText tag), ("children", .ofItems items)] ++
      (span.map fun span => ("range", span.toJson)).toList) =
      .ok ⟨tag, list, span.map fun span => (span.start, span.stop)⟩ := by
  have found : children (room + 1) (.ofItems items) = .ok list :=
    children_eq_ok.mpr ⟨room, items, rfl, rfl, decoded⟩
  refine node_eq_ok.mpr ⟨room + 1, rfl, .object _, ?_⟩
  cases span with
  | none => exact ⟨Json.formed_ofMembers (by simp [nodeNames]), rfl, found, rfl⟩
  | some span =>
    obtain ⟨text, word⟩ := covered span rfl
    have offsets : optional (range (room + 1)) span.toJson = .ok (some (span.start, span.stop)) := by
      show (range (room + 1) span.toJson).map some = _
      rw [range_toJson text word]
      rfl
    exact ⟨Json.formed_ofMembers (by simp [nodeNames]), rfl, found, offsets⟩

end Decode

theorem Atom.readable_toJson (value : Atom) : value.toJson.Readable := by
  cases value with
  | symbol name => rfl
  | float x => trivial
  | nil => trivial
  | str text => exact Json.readable_ofMembers (by simp; rfl)
  | bigInteger numeral => exact Json.readable_ofMembers (by simp; rfl)
  | integer value =>
    have high := value.toInt_lt
    exact Json.Literal.readable_ofInt value.toInt value.le_toInt (by omega)

theorem Span.readable_toJson {span : Span} (covered : span.text?.isSome = true)
    (word : span.stop < 2 ^ 64) : span.toJson.Readable := by
  have order := Span.start_le_stop covered
  apply Json.readable_ofItems
  intro item member
  rcases List.mem_pair.mp member with rfl | rfl
  · exact Json.Literal.readable_ofInt _ (by omega) (by omega)
  · exact Json.Literal.readable_ofInt _ (by omega) (by omega)

variable {buffer : Option Buffer}

mutual

theorem Node.readable_toJson : ∀ node : Node, (∀ below ∈ node.nodes, below.Encodable buffer) →
    node.toJson.Readable
  | ⟨tag, children, span⟩, encodable => by
    have here := encodable _ (Node.mem_nodes_self _)
    have items := readable_childrenToJson children fun below member =>
      encodable below (List.mem_cons_of_mem _ member)
    apply Json.readable_ofMembers
    intro member isMember
    rcases List.mem_append.mp isMember with first | last
    · rcases List.mem_pair.mp first with rfl | rfl
      · rfl
      · exact Json.readable_ofItems items
    · cases span with
      | none => cases last
      | some span =>
        obtain rfl := List.mem_singleton.mp last
        exact Span.readable_toJson (here.span span rfl).2 (here.words span rfl)

theorem readable_childrenToJson : ∀ children : List Child,
    (∀ below ∈ nodesBelow children, below.Encodable buffer) →
    ∀ item ∈ childrenToJson children, item.Readable
  | [], _ => by simp [childrenToJson]
  | .atom value :: rest, encodable => by
    intro item member
    rcases List.mem_cons.mp member with rfl | later
    · exact value.readable_toJson
    · exact readable_childrenToJson rest encodable item later
  | .node value :: rest, encodable => by
    intro item member
    rcases List.mem_cons.mp member with rfl | later
    · exact value.readable_toJson fun below inside => encodable below (List.mem_append_left _ inside)
    · exact readable_childrenToJson rest
        (fun below after => encodable below (List.mem_append_right _ after)) item later

end

mutual

/-- A node is decoded through its object, its children within an array of it. -/
theorem Decode.node_toJson : ∀ (node : Node) (room : Nat),
    (∀ below ∈ node.nodes, below.Encodable buffer) → node.toJson.depth ≤ room →
    Decode.node room node.toJson = .ok node.draft
  | ⟨tag, children, span⟩, room, encodable, fits => by
    have here := encodable _ (Node.mem_nodes_self _)
    obtain ⟨room, rfl, inside⟩ : ∃ less, room = less + 2 ∧
        itemsDepth (childrenToJson children) ≤ less := by
      simp only [Node.toJson, Json.ofMembers, Json.depth, List.cons_append, List.map_cons, membersDepth,
        Json.ofText, Json.ofItems] at fits
      exact ⟨room - 2, by omega, by omega⟩
    have decoded := Decode.childList_toJson children room
      (fun below member => encodable below (List.mem_cons_of_mem _ member)) here.noDoubles inside
    exact Decode.node_ofMembers tag.name decoded fun span isSpan =>
      ⟨(here.span span isSpan).2, here.words span isSpan⟩

theorem Decode.childList_toJson : ∀ (children : List Child) (room : Nat),
    (∀ below ∈ nodesBelow children, below.Encodable buffer) →
    (∀ value, .atom (.float value) ∉ children) → itemsDepth (childrenToJson children) ≤ room →
    Decode.childList room (childrenToJson children) = .ok (draftChildren children)
  | [], _, _, _, _ => rfl
  | .atom value :: rest, room, encodable, noDoubles, fits => by
    rw [childrenToJson, itemsDepth, max_le_iff] at fits
    have noDouble : ∀ x, value ≠ .float x := by
      rintro x rfl
      exact noDoubles x List.mem_cons_self
    have more := Decode.childList_toJson rest room encodable
      (fun x member => noDoubles x (List.mem_cons_of_mem _ member)) fits.2
    exact Decode.childList_cons_eq_ok.mpr ⟨Json.flaw?_eq_none _ room value.readable_toJson fits.1, _,
      Decode.child_toJson value noDouble fits.1, _, more, rfl⟩
  | .node value :: rest, room, encodable, noDoubles, fits => by
    rw [childrenToJson, itemsDepth, max_le_iff] at fits
    have inside : ∀ below ∈ value.nodes, below.Encodable buffer :=
      fun below member => encodable below (List.mem_append_left _ member)
    have more := Decode.childList_toJson rest room
      (fun below member => encodable below (List.mem_append_right _ member))
      (fun x member => noDoubles x (List.mem_cons_of_mem _ member)) fits.2
    refine Decode.childList_cons_eq_ok.mpr
      ⟨Json.flaw?_eq_none _ room (value.readable_toJson inside) fits.1, .node value.draft, ?_, _, more, rfl⟩
    rw [Decode.node_toJson value room inside fits.1]
    rfl

end

end Decoding

section Checking

variable {buffer : Option Buffer}

theorem Tag.parse_name {tag : Tag} (valid : TagName tag.name.toList)
    (canonical : ∀ name, tag = .other name → ∀ kind : Kind, kind.name ≠ name) :
    Tag.parse tag.name = .ok tag := by
  rw [Tag.parse, if_pos ((tagName_iff _).mp valid), Tag.ofName_name_of_canonical canonical]

theorem checkRange_offsets {tag : Tag} {span : Option Span}
    (covered : ∀ s, span = some s → buffer = some s.buffer ∧ s.text?.isSome = true) :
    checkRange buffer tag (span.map fun span => (span.start, span.stop)) = .ok span := by
  cases span with
  | none => rfl
  | some span =>
    obtain ⟨rfl, text⟩ := covered span rfl
    simp [checkRange, text]

theorem checkChildren_atom {value : Atom} {drafts : List DraftChild} {children : List Child}
    (loaded : value.Loaded) (others : checkChildren buffer drafts = .ok children) :
    checkChildren buffer (value.draft :: drafts) = .ok (.atom value :: children) := by
  cases value with
  | bigInteger numeral =>
    obtain ⟨value, denoted, wide⟩ := loaded
    have kept := Numeral.ofNumeral_eq_ok_iff.mpr (.wide denoted wide)
    simp [Atom.draft, checkChildren, kept, others, bind, Except.bind, pure, Except.pure]
  | symbol | str | integer | float | nil =>
    simp [Atom.draft, checkChildren, others, bind, Except.bind, pure, Except.pure]

mutual

/-- The check finds nothing wrong and puts types and spans back. -/
theorem Node.check_draft : ∀ node : Node, (∀ below ∈ node.nodes, below.Loaded buffer) →
    node.draft.check buffer = .ok node
  | ⟨tag, children, span⟩, loaded => by
    have here := loaded _ (Node.mem_nodes_self _)
    have below := checkChildren_draft children
      (fun below member => loaded below (List.mem_cons_of_mem _ member)) here.atoms
    simp [Node.draft, DraftNode.check, Tag.parse_name here.tagName here.otherTag, Except.mapError,
      checkRange_offsets here.span, below, bind, Except.bind, pure, Except.pure]

theorem checkChildren_draft : ∀ children : List Child,
    (∀ below ∈ nodesBelow children, below.Loaded buffer) →
    (∀ value, .atom value ∈ children → value.Loaded) →
    checkChildren buffer (draftChildren children) = .ok children
  | [], _, _ => rfl
  | .atom value :: rest, loaded, atoms =>
    checkChildren_atom (atoms value List.mem_cons_self)
      (checkChildren_draft rest loaded fun other member => atoms other (List.mem_cons_of_mem _ member))
  | .node value :: rest, loaded, atoms => by
    have first := value.check_draft fun below member => loaded below (List.mem_append_left _ member)
    have others := checkChildren_draft rest
      (fun below member => loaded below (List.mem_append_right _ member))
      fun other member => atoms other (List.mem_cons_of_mem _ member)
    simp [draftChildren, checkChildren, first, others, bind, Except.bind, pure, Except.pure]

end

end Checking

section Documents

theorem Document.readable_toJson {document : Document}
    (encodable : ∀ node ∈ document.root.nodes, node.Encodable document.buffer) :
    document.toJson.Readable := by
  have root := document.root.readable_toJson encodable
  apply Json.readable_ofMembers
  intro member isMember
  cases found : document.buffer with
  | none =>
    simp only [found] at isMember
    obtain rfl := List.mem_singleton.mp isMember
    exact root
  | some buffer =>
    simp only [found, List.mem_cons, List.not_mem_nil, or_false] at isMember
    rcases isMember with rfl | rfl | rfl
    · rfl
    · rfl
    · exact root

theorem Document.decode_toJson {document : Document}
    (encodable : ∀ node ∈ document.root.nodes, node.Encodable document.buffer)
    (nesting : document.toJson.depth < 128) :
    Draft.ofJson document.toJson =
      .ok ⟨document.buffer.map Buffer.text, document.buffer.map Buffer.name, document.root.draft⟩ := by
  obtain ⟨buffer, root⟩ := document
  have fits : root.toJson.depth ≤ 126 := by
    cases buffer <;>
      simp only [Document.toJson, Json.ofMembers, Json.depth, List.map_cons, membersDepth] at nesting <;> omega
  have decoded := Decode.node_toJson root 126 encodable fits
  refine Decode.document_eq_ok.mpr ⟨126, rfl, .object _, ?_⟩
  cases buffer <;> exact ⟨Json.formed_ofMembers (by simp [Decode.documentNames]), rfl, rfl, decoded⟩

theorem Document.check_draft {document : Document}
    (loaded : ∀ node ∈ document.root.nodes, node.Loaded document.buffer) :
    Draft.check ⟨document.buffer.map Buffer.text, document.buffer.map Buffer.name, document.root.draft⟩ =
      .ok document := by
  obtain ⟨buffer, root⟩ := document
  have found :
      Draft.buffer? ⟨buffer.map Buffer.text, buffer.map Buffer.name, root.draft⟩ = buffer := by
    cases buffer <;> rfl
  simp only [Draft.check, found, root.check_draft loaded]
  rfl

/-- A document without doubles is loaded back as it was from its encoding, if no more than 127 arrays and
objects of the encoding are open at a time. This goes for every text that reads as the encoding, and
there is such a text. -/
theorem loading_undoes_encoding (document : Document)
    (encodable : ∀ node ∈ document.root.nodes, node.Encodable document.buffer)
    (nesting : document.toJson.depth < 128) :
    (∀ text, Json.read text = (document.toJson, true) → Document.load text = .ok document) ∧
    Json.read (String.ofList document.toJson.text) = (document.toJson, true) := by
  refine ⟨?_, Json.read_text (Document.readable_toJson encodable)⟩
  intro text read
  have checked := Document.check_draft fun node member => (encodable node member).toLoaded
  simp only [Document.load, read, Document.decode_toJson encodable nesting, if_true]
  exact checked

def accentedCall : Document :=
  let source : Buffer := ⟨"é.rb", "é(1)"⟩
  ⟨some source,
    ⟨.other "send",
      [.atom .nil, .atom (.symbol "é"),
        .node ⟨.known .arg, [.atom (.str "\n\"")], some ⟨source, 0, 2⟩⟩,
        .atom (.bigInteger "-09223372036854775809"), .atom (.integer (-1))],
      some ⟨source, 2, 5⟩⟩⟩

theorem accentedCall_encodable : ∀ node ∈ accentedCall.root.nodes, node.Encodable accentedCall.buffer := by
  have numeral : Numeral.value? "-09223372036854775809".toList = some (-9223372036854775809) := by
    decide +kernel
  have wide : (Atom.bigInteger "-09223372036854775809").Loaded :=
    ⟨_, (Numeral.value?_eq_some_iff _ _).mp numeral, by unfold Numeral.Wide; omega⟩
  intro node member
  simp only [accentedCall, Node.nodes, nodesBelow, List.append_nil, List.mem_cons, List.not_mem_nil,
    or_false] at member
  rcases member with rfl | rfl
  · refine ⟨⟨(tagName_iff _).mpr (by decide), ?otherTag, ?span, ?atoms⟩, by simp, ?words⟩
    case otherTag =>
      rintro _ ⟨⟩ kind
      cases kind <;> decide
    case span =>
      rintro _ ⟨⟩
      exact ⟨rfl, by decide +kernel⟩
    case atoms =>
      intro value member
      simp only [List.mem_cons, Child.atom.injEq, List.not_mem_nil, or_false, false_or,
        reduceCtorEq] at member
      rcases member with rfl | rfl | rfl | rfl
      exacts [trivial, trivial, wide, trivial]
    case words =>
      rintro _ ⟨⟩
      decide
  · refine ⟨⟨(tagName_iff _).mpr (by decide), by simp, ?span, ?atoms⟩, by simp, ?words⟩
    case span =>
      rintro _ ⟨⟩
      exact ⟨rfl, by decide +kernel⟩
    case atoms =>
      intro value member
      cases List.mem_singleton.mp member
      trivial
    case words =>
      rintro _ ⟨⟩
      decide

theorem accented_call_is_loaded_back :
    (∀ node ∈ accentedCall.root.nodes, node.Encodable accentedCall.buffer) ∧
    accentedCall.toJson.depth = 6 ∧
    Document.load (String.ofList accentedCall.toJson.text) = .ok accentedCall := by
  have nesting : accentedCall.toJson.depth = 6 := by decide +kernel
  have loaded := loading_undoes_encoding accentedCall accentedCall_encodable (by omega)
  exact ⟨accentedCall_encodable, nesting, loaded.1 _ loaded.2⟩

end Documents

end RubyTree
