import Mathlib
import RubyTree.Document.Load
import RubyTree.Proofs.Results

/-!
What decoding looks at. A node and a document are decoded from the values that are given for each of their
fields, whether by name or by place, and from nothing else; members with other names only have to be
grammatical. A child that is not a node is decoded from the values that are given for two more names.
-/

namespace RubyTree

section Flaws

namespace Json

theorem itemsFlaw?_eq_none_iff {room : Nat} {items : List Json} :
    itemsFlaw? room items = none ↔ ∀ item ∈ items, item.flaw? room = none := by
  induction items with
  | nil => simp [itemsFlaw?]
  | cons item rest ih => simp [itemsFlaw?, Option.or_eq_none_iff, ih]

theorem membersFlaw?_eq_none_iff {room : Nat} {members : List Member} :
    membersFlaw? room members = none ↔
      ∀ member ∈ members, member.key ≠ none ∧ member.value.flaw? room = none := by
  induction members with
  | nil => simp [membersFlaw?]
  | cons member rest ih =>
    obtain ⟨key, value⟩ := member
    cases key <;> simp [membersFlaw?, Option.or_eq_none_iff, ih]

theorem itemsSkimFlaw?_eq_none_iff {items : List Json} :
    itemsSkimFlaw? items = none ↔ ∀ item ∈ items, item.skimFlaw? = none := by
  induction items with
  | nil => simp [itemsSkimFlaw?]
  | cons item rest ih => simp [itemsSkimFlaw?, Option.or_eq_none_iff, ih]

theorem membersSkimFlaw?_eq_none_iff {members : List Member} :
    membersSkimFlaw? members = none ↔ ∀ member ∈ members, member.value.skimFlaw? = none := by
  induction members with
  | nil => simp [membersSkimFlaw?]
  | cons member rest ih =>
    obtain ⟨key, value⟩ := member
    simp [membersSkimFlaw?, Option.or_eq_none_iff, ih]

theorem flaw?_array {room : Nat} {items : List Json} :
    (array items none).flaw? (room + 1) = none ↔ ∀ item ∈ items, item.flaw? room = none := by
  simp [flaw?, itemsFlaw?_eq_none_iff]

theorem flaw?_object {room : Nat} {members : List Member} :
    (object members none).flaw? (room + 1) = none ↔
      ∀ member ∈ members, member.key ≠ none ∧ member.value.flaw? room = none := by
  simp [flaw?, membersFlaw?_eq_none_iff]

theorem skimFlaw?_array {items : List Json} :
    (array items none).skimFlaw? = none ↔ ∀ item ∈ items, item.skimFlaw? = none := by
  simp [skimFlaw?, itemsSkimFlaw?_eq_none_iff]

theorem skimFlaw?_object {members : List Member} :
    (object members none).skimFlaw? = none ↔ ∀ member ∈ members, member.value.skimFlaw? = none := by
  simp [skimFlaw?, membersSkimFlaw?_eq_none_iff]

mutual

/-- Whoever can read a value can skim it. -/
theorem skimFlaw?_of_flaw? : ∀ {value : Json} {room : Nat}, value.flaw? room = none →
    value.skimFlaw? = none
  | .null, _, _ | .bool _, _, _ | .number _, _, _ | .string _, _, _ => rfl
  | .array items stop, room + 1, sound => by
    simp only [flaw?, skimFlaw?, Option.or_eq_none_iff, Option.map_eq_none_iff] at sound ⊢
    exact ⟨itemsSkimFlaw?_of_itemsFlaw? sound.1, sound.2⟩
  | .object members stop, room + 1, sound => by
    simp only [flaw?, skimFlaw?, Option.or_eq_none_iff, Option.map_eq_none_iff] at sound ⊢
    exact ⟨membersSkimFlaw?_of_membersFlaw? sound.1, sound.2⟩

theorem itemsSkimFlaw?_of_itemsFlaw? : ∀ {items : List Json} {room : Nat},
    itemsFlaw? room items = none → itemsSkimFlaw? items = none
  | [], _, _ => rfl
  | item :: rest, room, sound => by
    simp only [itemsFlaw?, itemsSkimFlaw?, Option.or_eq_none_iff] at sound ⊢
    exact ⟨skimFlaw?_of_flaw? sound.1, itemsSkimFlaw?_of_itemsFlaw? sound.2⟩

theorem membersSkimFlaw?_of_membersFlaw? : ∀ {members : List Member} {room : Nat},
    membersFlaw? room members = none → membersSkimFlaw? members = none
  | [], _, _ => rfl
  | ⟨some key, value⟩ :: rest, room, sound => by
    simp only [membersFlaw?, membersSkimFlaw?, Option.isNone_some, Bool.false_eq_true, if_false,
      Option.or_eq_none_iff] at sound ⊢
    exact ⟨skimFlaw?_of_flaw? sound.1, membersSkimFlaw?_of_membersFlaw? sound.2⟩
  | ⟨none, value⟩ :: rest, room, sound => by
    simp [membersFlaw?] at sound

end

end Json

end Flaws

section Fields

/-- All values that are given for a name. -/
def valuesOf (name : String) (members : List Member) : List Json :=
  members.filterMap fun member => if member.key = some name then some member.value else none

theorem valuesOf_cons (name : String) (key : Option String) (value : Json) (rest : List Member) :
    valuesOf name (⟨key, value⟩ :: rest) =
      if key = some name then value :: valuesOf name rest else valuesOf name rest := by
  unfold valuesOf
  split <;> simp_all

/-- An array or object that does not break off. -/
inductive Json.IsContainer : Json → Prop
  | array (items : List Json) : IsContainer (.array items none)
  | object (members : List Member) : IsContainer (.object members none)

theorem Json.isContainer_array {items : List Json} {stop : Option Break} :
    (array items stop).IsContainer ↔ stop = none := by
  constructor
  · rintro ⟨⟩
    rfl
  · rintro rfl
    exact .array items

theorem Json.isContainer_object {members : List Member} {stop : Option Break} :
    (object members stop).IsContainer ↔ stop = none := by
  constructor
  · rintro ⟨⟩
    rfl
  · rintro rfl
    exact .object members

/-- The values that are given for one of some fields, by its name or by its place among them. -/
def Json.given (fields : List String) (name : String) : Json → List Json
  | .object members _ => valuesOf name members
  | .array items _ => items[fields.idxOf name]?.toList
  | _ => []

/-- Every member has a name, and unless it is a known one, its value can be skimmed. -/
def Skims (known : List String) (members : List Member) : Prop :=
  ∀ member ∈ members, ∃ name, member.key = some name ∧ (name ∉ known → member.value.skimFlaw? = none)

/-- Besides some fields nothing is given but members that can be skimmed. -/
def Json.Formed (fields : List String) : Json → Prop
  | .object members _ => Skims fields members
  | .array items _ => items.length ≤ fields.length
  | _ => False

namespace Decode

variable {α : Type} {decode : Json → Result α}

/-- A field as it comes of the values that are given for it: one at most, and a default for none. -/
def FieldOf (decode : Json → Result α) (default : Option α) (result : α) : List Json → Prop
  | [] => default = some result
  | [value] => decode value = .ok result
  | _ :: _ :: _ => False

/-- A field after more values have been met, if at most one is met in all. -/
def Met (decode : Json → Result α) (after : Option α) : Option α → List Json → Prop
  | before, [] => after = before
  | none, value :: rest => ∃ found, decode value = .ok found ∧ Met decode after (some found) rest
  | some _, _ :: _ => False

theorem met_cons {after before : Option α} {value : Json} {rest : List Json} :
    Met decode after before (value :: rest) ↔
      before = none ∧ ∃ found, decode value = .ok found ∧ Met decode after (some found) rest := by
  cases before <;> simp [Met]

theorem field_iff_met {default : Option α} {result : α} {values : List Json} :
    FieldOf decode default result values ↔
      ∃ after, Met decode after none values ∧ after.or default = some result := by
  match values with
  | [] => simp [FieldOf, Met]
  | [value] =>
    constructor
    · intro decoded
      exact ⟨some result, ⟨result, decoded, rfl⟩, rfl⟩
    · rintro ⟨_, ⟨found, decoded, rfl⟩, same⟩
      cases same
      exact decoded
  | _ :: _ :: _ => simp [FieldOf, Met]

theorem FieldOf.default_or_decoded {default : Option α} {result : α} {values : List Json}
    (field : FieldOf decode default result values) :
    default = some result ∨ ∃ value ∈ values, decode value = .ok result := by
  obtain _ | ⟨value, _ | ⟨_, _⟩⟩ := values
  · exact .inl field
  · exact .inr ⟨value, List.mem_singleton.mpr rfl, field⟩
  · exact field.elim

theorem unexpected_ne_ok {α : Type} (value : Json) (expected : Expected) (result : α) :
    unexpected value expected ≠ .ok result := by
  intro decoded
  unfold unexpected fail at decoded
  split at decoded
  case h_3 => split at decoded <;> cases decoded
  all_goals cases decoded

/-- A field is decoded from a value if none was met before. -/
theorem once_bind_eq_ok {β : Type} {name : String} {known : Option α} {value : Json}
    {next : α → Result β} {result : β} :
    (do once name known; next (← decode value)) = .ok result ↔
      known = none ∧ ∃ found, decode value = .ok found ∧ next found = .ok result := by
  cases known with
  | none => simp [once, ok_bind, bind_eq_ok]
  | some _ => simp [once, fail, bind, Except.bind]

theorem checkFlaw_eq_ok {flaw : Option Flaw} {done : Unit} : checkFlaw flaw = .ok done ↔ flaw = none := by
  cases flaw <;> simp [checkFlaw]

theorem close_eq_ok {rest : List Json} {stop : Option Break} {done : Unit} :
    close rest stop = .ok done ↔ rest = [] ∧ stop = none := by
  cases rest <;> simp [close, checkFlaw_eq_ok]

theorem enter_eq_ok {room inner : Nat} : enter room = .ok inner ↔ room = inner + 1 := by
  cases room <;> simp [enter]

theorem skims_cons {known : List String} {name : String} {value : Json} {rest : List Member} :
    Skims known (⟨some name, value⟩ :: rest) ↔
      (name ∉ known → value.skimFlaw? = none) ∧ Skims known rest := by
  simp [Skims]

theorem not_skims_unnamed {known : List String} {value : Json} {rest : List Member} :
    ¬ Skims known (⟨none, value⟩ :: rest) := by
  simp [Skims]

def nodeNames : List String := ["type", "children", "range"]

/-- The fields of a node gather what is given for each of their names. -/
theorem nodeFields_eq_ok {room : Nat} {members : List Member} {fields result : NodeFields} :
    nodeFields room fields members = .ok result ↔
      Skims nodeNames members ∧
      Met string result.tag fields.tag (valuesOf "type" members) ∧
      Met (children room) result.children fields.children (valuesOf "children" members) ∧
      Met (optional (range room)) result.range fields.range (valuesOf "range" members) := by
  induction members generalizing fields with
  | nil =>
    obtain ⟨tag, list, span⟩ := fields
    obtain ⟨tag', list', span'⟩ := result
    simp [nodeFields, Skims, valuesOf, Met, eq_comm]
  | cons member rest ih =>
    obtain ⟨_ | name, value⟩ := member
    · simp [nodeFields, key, not_skims_unnamed, bind, Except.bind]
    · simp only [nodeFields, key, ok_bind, skims_cons, valuesOf_cons]
      split
      · rw [once_bind_eq_ok]
        grind [met_cons, nodeNames]
      · rw [once_bind_eq_ok]
        grind [met_cons, nodeNames]
      · rw [once_bind_eq_ok]
        grind [met_cons, nodeNames]
      · next isType isChildren isRange =>
        have unknown : name ≠ "type" ∧ name ≠ "children" ∧ name ≠ "range" := ⟨isType, isChildren, isRange⟩
        simp [bind_eq_ok, checkFlaw_eq_ok, ih, nodeNames, unknown, and_assoc]

def documentNames : List String := ["source", "name", "ast"]

theorem documentFields_eq_ok {room : Nat} {members : List Member} {fields result : DocumentFields} :
    documentFields room fields members = .ok result ↔
      Skims documentNames members ∧
      Met (optional string) result.source fields.source (valuesOf "source" members) ∧
      Met (optional string) result.name fields.name (valuesOf "name" members) ∧
      Met (node room) result.root fields.root (valuesOf "ast" members) := by
  induction members generalizing fields with
  | nil =>
    obtain ⟨source, name, root⟩ := fields
    obtain ⟨source', name', root'⟩ := result
    simp [documentFields, Skims, valuesOf, Met, eq_comm]
  | cons member rest ih =>
    obtain ⟨_ | name, value⟩ := member
    · simp [documentFields, key, not_skims_unnamed, bind, Except.bind]
    · simp only [documentFields, key, ok_bind, skims_cons, valuesOf_cons]
      split
      · rw [once_bind_eq_ok]
        grind [met_cons, documentNames]
      · rw [once_bind_eq_ok]
        grind [met_cons, documentNames]
      · rw [once_bind_eq_ok]
        grind [met_cons, documentNames]
      · next isSource isName isRoot =>
        have unknown : name ≠ "source" ∧ name ≠ "name" ∧ name ≠ "ast" := ⟨isSource, isName, isRoot⟩
        simp [bind_eq_ok, checkFlaw_eq_ok, ih, documentNames, unknown, and_assoc]

theorem NodeFields.node_eq_ok {fields : NodeFields} {draft : DraftNode} :
    fields.node = .ok draft ↔ fields.tag.or none = some draft.tag ∧
      fields.children.or (some []) = some draft.children ∧
      fields.range.or (some none) = some draft.range := by
  obtain ⟨tag, list, span⟩ := fields
  obtain ⟨tag', list', span'⟩ := draft
  cases tag <;> cases list <;> cases span <;> simp [NodeFields.node, fail]

theorem DocumentFields.draft_eq_ok {fields : DocumentFields} {draft : Draft} :
    fields.draft = .ok draft ↔ fields.source.or (some none) = some draft.source ∧
      fields.name.or (some none) = some draft.name ∧ fields.root.or none = some draft.root := by
  obtain ⟨source, name, root⟩ := fields
  obtain ⟨source', name', root'⟩ := draft
  cases source <;> cases name <;> cases root <;> simp [DocumentFields.draft, fail]

theorem node_object_eq_ok {room : Nat} {members : List Member} {stop : Option Break} {draft : DraftNode} :
    node room (.object members stop) = .ok draft ↔ ∃ inner, room = inner + 1 ∧ stop = none ∧
      Skims nodeNames members ∧
      FieldOf string none draft.tag (valuesOf "type" members) ∧
      FieldOf (children inner) (some []) draft.children (valuesOf "children" members) ∧
      FieldOf (optional (range inner)) (some none) draft.range (valuesOf "range" members) := by
  simp only [node, bind_eq_ok, enter_eq_ok, checkFlaw_eq_ok, Option.map_eq_none_iff, nodeFields_eq_ok,
    NodeFields.node_eq_ok, field_iff_met]
  refine exists_congr fun inner => and_congr_right fun _ => ?_
  constructor
  · rintro ⟨fields, ⟨skims, tag, list, span⟩, _, whole, tagged, listed, spanned⟩
    exact ⟨whole, skims, ⟨_, tag, tagged⟩, ⟨_, list, listed⟩, ⟨_, span, spanned⟩⟩
  · rintro ⟨whole, skims, ⟨_, tag, tagged⟩, ⟨_, list, listed⟩, ⟨_, span, spanned⟩⟩
    exact ⟨⟨_, _, _⟩, ⟨skims, tag, list, span⟩, (), whole, tagged, listed, spanned⟩

/-- A node comes of the values that are given for its fields. All but its type have a default. -/
theorem node_eq_ok {room : Nat} {value : Json} {draft : DraftNode} :
    node room value = .ok draft ↔ ∃ inner, room = inner + 1 ∧ value.IsContainer ∧
      value.Formed nodeNames ∧
      FieldOf string none draft.tag (value.given nodeNames "type") ∧
      FieldOf (children inner) (some []) draft.children (value.given nodeNames "children") ∧
      FieldOf (optional (range inner)) (some none) draft.range (value.given nodeNames "range") := by
  match value with
  | .object members stop =>
    rw [node_object_eq_ok, Json.isContainer_object]
    exact Iff.rfl
  | .array items stop =>
    obtain ⟨tag, list, span⟩ := draft
    obtain _ | ⟨_, _ | ⟨_, _ | ⟨_, _ | _⟩⟩⟩ := items
    · simp [node, bind_eq_ok, fail, Json.given, FieldOf]
    all_goals
      cases stop <;>
      simp [node, bind_eq_ok, enter_eq_ok, close_eq_ok, Json.isContainer_array, pure, Except.pure,
        Json.Formed, Json.given, nodeNames, FieldOf]
  | .null | .bool _ | .number _ | .string _ | .broken _ => simp [node, unexpected_ne_ok, Json.Formed]

theorem document_object_eq_ok {room : Nat} {members : List Member} {stop : Option Break} {draft : Draft} :
    document room (.object members stop) = .ok draft ↔ ∃ inner, room = inner + 1 ∧ stop = none ∧
      Skims documentNames members ∧
      FieldOf (optional string) (some none) draft.source (valuesOf "source" members) ∧
      FieldOf (optional string) (some none) draft.name (valuesOf "name" members) ∧
      FieldOf (node inner) none draft.root (valuesOf "ast" members) := by
  simp only [document, bind_eq_ok, enter_eq_ok, checkFlaw_eq_ok, Option.map_eq_none_iff,
    documentFields_eq_ok, DocumentFields.draft_eq_ok, field_iff_met]
  refine exists_congr fun inner => and_congr_right fun _ => ?_
  constructor
  · rintro ⟨fields, ⟨skims, source, name, root⟩, _, whole, sourced, named, rooted⟩
    exact ⟨whole, skims, ⟨_, source, sourced⟩, ⟨_, name, named⟩, ⟨_, root, rooted⟩⟩
  · rintro ⟨whole, skims, ⟨_, source, sourced⟩, ⟨_, name, named⟩, ⟨_, root, rooted⟩⟩
    exact ⟨⟨_, _, _⟩, ⟨skims, source, name, root⟩, (), whole, sourced, named, rooted⟩

theorem shortDocument_ne_ok (items : List Json) (stop : Option Break) (draft : Draft) :
    shortDocument items stop ≠ .ok draft := by
  simp [shortDocument, bind_eq_ok, fail]

/-- A document comes of the values that are given for its fields. Its tree has no default. -/
theorem document_eq_ok {room : Nat} {value : Json} {draft : Draft} :
    document room value = .ok draft ↔ ∃ inner, room = inner + 1 ∧ value.IsContainer ∧
      value.Formed documentNames ∧
      FieldOf (optional string) (some none) draft.source (value.given documentNames "source") ∧
      FieldOf (optional string) (some none) draft.name (value.given documentNames "name") ∧
      FieldOf (node inner) none draft.root (value.given documentNames "ast") := by
  match value with
  | .object members stop =>
    rw [document_object_eq_ok, Json.isContainer_object]
    exact Iff.rfl
  | .array items stop =>
    obtain ⟨source, name, root⟩ := draft
    obtain _ | ⟨_, _ | ⟨_, _ | ⟨_, _ | _⟩⟩⟩ := items
    iterate 3
      simp [document, bind_eq_ok, shortDocument_ne_ok, Json.given, documentNames, FieldOf]
    all_goals
      cases stop <;>
      simp [document, bind_eq_ok, enter_eq_ok, close_eq_ok, Json.isContainer_array, pure, Except.pure,
        Json.Formed, Json.given, documentNames, FieldOf]
  | .null | .bool _ | .number _ | .string _ | .broken _ => simp [document, unexpected_ne_ok, Json.Formed]

theorem children_eq_ok {room : Nat} {value : Json} {list : List DraftChild} :
    children room value = .ok list ↔
      ∃ inner items, room = inner + 1 ∧ value = .array items none ∧ childList inner items = .ok list := by
  match value with
  | .array items stop =>
    cases stop <;> simp [children, bind_eq_ok, enter_eq_ok, checkFlaw_eq_ok, pure, Except.pure]
  | .null | .bool _ | .number _ | .string _ | .object _ _ | .broken _ => simp [children, unexpected_ne_ok]

/-- A span is a pair of offsets. -/
theorem range_eq_ok {room : Nat} {value : Json} {span : Nat × Nat} :
    range room value = .ok span ↔ ∃ inner start finish, room = inner + 1 ∧
      value = .array [start, finish] none ∧ offset start = .ok span.1 ∧ offset finish = .ok span.2 := by
  obtain ⟨first, last⟩ := span
  match value with
  | .array items stop =>
    obtain _ | ⟨_, _ | ⟨_, _ | _⟩⟩ := items <;> cases stop <;>
      simp [range, bind_eq_ok, enter_eq_ok, close_eq_ok, fail, pure, Except.pure]
  | .null | .bool _ | .number _ | .string _ | .object _ _ | .broken _ => simp [range, unexpected_ne_ok]

theorem childList_cons_eq_ok {room : Nat} {item : Json} {rest : List Json} {list : List DraftChild} :
    childList room (item :: rest) = .ok list ↔ item.flaw? room = none ∧
      ∃ first, child item (node room item) = .ok first ∧
        ∃ more, childList room rest = .ok more ∧ first :: more = list := by
  simp [childList, checkFlaw_eq_ok, bind_eq_ok, pure, Except.pure]

theorem valuesOf_eq_map (name : String) (members : List Member) :
    valuesOf name members = (members.filter fun member => member.key == some name).map Member.value := by
  induction members with
  | nil => rfl
  | cons member rest ih =>
    obtain ⟨key, value⟩ := member
    rw [valuesOf_cons, ih, List.filter_cons]
    split <;> simp_all

theorem string_eq_ok {value : Json} {text : String} :
    string value = .ok text ↔ value = .string (some text) := by
  match value with
  | .string (some _) => simp [string]
  | .string none | .null | .bool _ | .number _ | .array _ _ | .object _ _ | .broken _ =>
    simp [string, unexpected_ne_ok]

/-- A text that is not in a node is looked up as if it were the field of one. -/
theorem textMember?_eq_some {name text : String} {members : List Member} :
    textMember? name members = some text ↔ FieldOf string none text (valuesOf name members) := by
  unfold textMember?
  rw [valuesOf_eq_map]
  generalize (members.filter fun member => member.key == some name) = found
  match found with
  | [] | _ :: _ :: _ => simp [FieldOf]
  | [⟨_, .string _⟩] => simp [FieldOf, string_eq_ok]
  | [⟨_, .null⟩] | [⟨_, .bool _⟩] | [⟨_, .number _⟩] | [⟨_, .array _ _⟩] | [⟨_, .object _ _⟩]
  | [⟨_, .broken _⟩] => simp [FieldOf, string_eq_ok]

end Decode

end Fields

section Containers

namespace Json.IsContainer

variable {value : Json} (container : value.IsContainer)
include container

theorem string_ne_ok (text : String) : Decode.string value ≠ .ok text := by
  intro decoded
  rw [Decode.string_eq_ok.mp decoded] at container
  cases container

theorem optional_ne_ok {α : Type} {decode : Json → Decode.Result α}
    (refused : ∀ result, decode value ≠ .ok result) (result : Option α) :
    Decode.optional decode value ≠ .ok result := by
  have some_of : Decode.optional decode value = (decode value).map some := by
    cases container <;> rfl
  rw [some_of]
  cases decoded : decode value with
  | ok found => exact absurd decoded (refused found)
  | error fault => simp [Except.map]

theorem offset_ne_ok (offset : Nat) : Decode.offset value ≠ .ok offset := by
  cases container <;> simp [Decode.offset, Decode.unexpected_ne_ok]

theorem range_ne_ok {room : Nat} {items : List Json} (item : value ∈ items) (span : Nat × Nat) :
    Decode.range room (.array items none) ≠ .ok span := by
  intro decoded
  obtain ⟨_, start, finish, _, pair, first, last⟩ := Decode.range_eq_ok.mp decoded
  cases pair
  obtain rfl | rfl : value = start ∨ value = finish := by simpa using item
  · exact container.offset_ne_ok _ first
  · exact container.offset_ne_ok _ last

theorem flaw?_zero : value.flaw? 0 ≠ none := by
  cases container <;> simp [Json.flaw?]

end Json.IsContainer

end Containers

section Comparisons

variable {α : Type} {decode : Json → Decode.Result α} {default : Option α} {result : α}
  {name : String} {key : Option String} {value other : Json}

theorem valuesOf_append (name : String) (before after : List Member) :
    valuesOf name (before ++ after) = valuesOf name before ++ valuesOf name after :=
  List.filterMap_append

theorem valuesOf_perm {members others : List Member} (same : members.Perm others) (name : String) :
    (valuesOf name members).Perm (valuesOf name others) :=
  same.filterMap _

theorem valuesOf_absent {members : List Member} (absent : ∀ m ∈ members, m.key ≠ some name) :
    valuesOf name members = [] := by
  simp only [valuesOf, List.filterMap_eq_nil_iff]
  intro m member
  simp [absent m member]

theorem valuesOf_listed {x y z : String} (distinct : [x, y, z].Nodup) (known : name ∈ [x, y, z])
    (first second third : Json) :
    valuesOf name [⟨some x, first⟩, ⟨some y, second⟩, ⟨some z, third⟩] =
      [first, second, third][[x, y, z].idxOf name]?.toList := by
  obtain ⟨⟨xy, xz⟩, yz⟩ : (x ≠ y ∧ x ≠ z) ∧ y ≠ z := by simpa using distinct
  simp only [List.mem_cons, List.not_mem_nil, or_false] at known
  obtain rfl | rfl | rfl := known
  · simp [valuesOf, xy.symm, xz.symm]
  · simp [valuesOf, xy, yz.symm]
  · simp [valuesOf, xz, yz]

theorem valuesOf_other {members : List Member} (apart : key ≠ some name) :
    valuesOf name (⟨key, value⟩ :: members) = valuesOf name members := by
  simp [valuesOf_cons, apart]

namespace Decode

/-- Two lists of values of which one is as good as the other: they are the same but for one place, and
the values of that place are alike. -/
theorem field_replaced (alike : ∀ result, decode value = .ok result ↔ decode other = .ok result) :
    ∀ before after : List Json, FieldOf decode default result (before ++ value :: after) ↔
      FieldOf decode default result (before ++ other :: after)
  | [], [] => alike result
  | [], _ :: _ | [_], _ | _ :: _ :: _, _ => Iff.rfl

theorem field_perm {values others : List Json} (same : values.Perm others) :
    FieldOf decode default result values ↔ FieldOf decode default result others := by
  match values, same with
  | [], same => rw [same.nil_eq]
  | [value], same => rw [List.singleton_perm.mp same]
  | _ :: _ :: _, same =>
    match others, same.length_eq with
    | _ :: _ :: _, _ => exact Iff.rfl

theorem field_member_replaced (before after : List Member)
    (alike : key = some name → ∀ result, decode value = .ok result ↔ decode other = .ok result) :
    FieldOf decode default result (valuesOf name (before ++ ⟨key, value⟩ :: after)) ↔
      FieldOf decode default result (valuesOf name (before ++ ⟨key, other⟩ :: after)) := by
  simp only [valuesOf_append]
  by_cases known : key = some name
  · simp only [valuesOf_cons, if_pos known]
    exact field_replaced (alike known) _ _
  · rw [valuesOf_other known, valuesOf_other known]

theorem field_item_replaced {place : Nat} (before after : List Json)
    (alike : before.length = place → ∀ result, decode value = .ok result ↔ decode other = .ok result) :
    FieldOf decode default result (before ++ value :: after)[place]?.toList ↔
      FieldOf decode default result (before ++ other :: after)[place]?.toList := by
  by_cases here : before.length = place
  · subst here
    simpa [FieldOf] using alike rfl result
  · have unchanged : (before ++ value :: after)[place]? = (before ++ other :: after)[place]? := by
      grind
    rw [unchanged]

/-- A default that is written down. -/
theorem field_default {given : α} (decoded : decode value = .ok given) :
    FieldOf decode (some given) result [] ↔ FieldOf decode (some given) result [value] := by
  simp [FieldOf, decoded]

theorem skims_perm {known : List String} {members others : List Member} (same : members.Perm others) :
    Skims known members ↔ Skims known others := by
  simp [Skims, same.mem_iff]

theorem skims_replaced {known : List String} (before after : List Member)
    (alike : value.skimFlaw? = none ↔ other.skimFlaw? = none) :
    Skims known (before ++ ⟨key, value⟩ :: after) ↔ Skims known (before ++ ⟨key, other⟩ :: after) := by
  simp only [Skims, List.forall_mem_append, List.forall_mem_cons, alike]

theorem leaf_congr {members others : List Member} {stop : Option Break}
    (alike : ∀ name ∈ ["str", "int"], ∀ text, FieldOf string none text (valuesOf name members) ↔
      FieldOf string none text (valuesOf name others)) :
    leaf (.object members stop) = leaf (.object others stop) := by
  have same : ∀ name ∈ ["str", "int"], textMember? name members = textMember? name others := by
    intro name known
    ext text
    exact textMember?_eq_some.trans ((alike name known text).trans textMember?_eq_some.symm)
  simp [leaf, same "str", same "int"]

end Decode

end Comparisons

end RubyTree
