import Mathlib
import RubyTree.Proofs.DecodedFields

/-!
Documents that are written differently and mean the same. A change of spelling shuffles the members of an
object, adds a member that nobody asks for, writes down a default or puts the fields of an object in an
array. A member of a child has to be one that can be read, since children are read as a whole before they
are decoded; elsewhere a member that is not known may be anything.

Besides what a node decodes to, a change keeps whether a value can be skimmed, whether it can be read, and
what it stands for when it is not a node. These carry the argument through the children, which are tried as
nodes first.
-/

namespace RubyTree

/-- What a value of a document is decoded as. Values that are `aside` are not looked into. -/
inductive Position where
  | document
  | root
  | children
  | child
  | aside
  deriving DecidableEq

namespace Position

def member : Position → Option String → Position
  | .document, key => if key = some "ast" then .root else .aside
  | .root, key | .child, key => if key = some "children" then .children else .aside
  | .children, _ | .aside, _ => .aside

def item : Position → Nat → Position
  | .document, place => if place = 2 then .root else .aside
  | .root, place | .child, place => if place = 1 then .children else .aside
  | .children, _ => .child
  | .aside, _ => .aside

def fields : Position → List String
  | .document => Decode.documentNames
  | .root | .child => Decode.nodeNames
  | .children | .aside => []

/-- What may be written for a field that is absent. -/
def default? : Position → String → Option Json
  | .document, name => if name = "source" ∨ name = "name" then some .null else none
  | .root, name | .child, name =>
    if name = "children" then some (.array [] none) else if name = "range" then some .null else none
  | .children, _ | .aside, _ => none

/-- The values that a member may have whose name is not known. -/
def Admits : Position → Nat → Json → Prop
  | .document, _, value | .root, _, value => value.skimFlaw? = none
  | .child, room, value => value.flaw? room = none
  | .children, _, _ | .aside, _, _ => False

end Position

def fieldNames : List String := Decode.documentNames ++ Decode.nodeNames ++ ["str", "int"]

/-- One change of spelling at any depth of a value in which `room` more arrays and objects may be opened. -/
inductive Respelling : Position → Nat → Json → Json → Prop
  | shuffled {position : Position} {room : Nat} {members others : List Member}
    (same : members.Perm others) :
    Respelling position room (.object members none) (.object others none)
  | added {position : Position} {room : Nat} (name : String) (value : Json) (members : List Member)
    (unknown : name ∉ fieldNames) (admitted : position.Admits (room - 1) value) :
    Respelling position room (.object members none) (.object (⟨some name, value⟩ :: members) none)
  | filledIn {position : Position} {room : Nat} (name : String) (value : Json) (members : List Member)
    (default : position.default? name = some value) (absent : ∀ m ∈ members, m.key ≠ some name) :
    Respelling position room (.object members none) (.object (⟨some name, value⟩ :: members) none)
  | extended {position : Position} {room : Nat} (name : String) (value : Json) (items : List Json)
    (next : position.fields[items.length]? = some name) (default : position.default? name = some value) :
    Respelling position room (.array items none) (.array (items ++ [value]) none)
  | listed {position : Position} {room : Nat} (x y z : String) (first second third : Json)
    (fields : position.fields = [x, y, z]) :
    Respelling position room (.object [⟨some x, first⟩, ⟨some y, second⟩, ⟨some z, third⟩] none)
      (.array [first, second, third] none)
  | member {position : Position} {room : Nat} {value other : Json} (key : Option String)
    (before after : List Member) (inside : Respelling (position.member key) (room - 1) value other) :
    Respelling position room (.object (before ++ ⟨key, value⟩ :: after) none)
      (.object (before ++ ⟨key, other⟩ :: after) none)
  | item {position : Position} {room : Nat} {value other : Json} (before after : List Json)
    (inside : Respelling (position.item before.length) (room - 1) value other) :
    Respelling position room (.array (before ++ value :: after) none)
      (.array (before ++ other :: after) none)

section Positions

namespace Position

/-- Nodes and lists of children take turns, so that there is room for an empty list in every node that
there is room for. -/
def Fits : Position → Nat → Prop
  | .document, room | .children, room => room % 2 = 1
  | .root, room | .child, room => room % 2 = 0
  | .aside, _ => True

/-- A value that is not the document or the root of its tree. -/
def Below : Position → Prop
  | .document | .root => False
  | .children | .child | .aside => True

variable {position : Position} {room : Nat}

theorem Fits.member (fits : position.Fits (room + 1)) (key : Option String) :
    (position.member key).Fits room := by
  cases position <;> grind [Fits, Position.member]

theorem Fits.item (fits : position.Fits (room + 1)) (place : Nat) : (position.item place).Fits room := by
  cases position <;> grind [Fits, Position.item]

theorem Fits.exists_succ (node : position = .root ∨ position = .child) (fits : position.Fits (room + 1)) :
    ∃ deeper, room = deeper + 1 := by
  have odd : room % 2 = 1 := by
    obtain rfl | rfl := node <;> simp only [Fits] at fits <;> omega
  exact ⟨room - 1, by omega⟩

theorem Below.member (below : position.Below) (key : Option String) : (position.member key).Below := by
  cases position <;> grind [Below, Position.member]

theorem Below.item (below : position.Below) (place : Nat) : (position.item place).Below := by
  cases position <;> grind [Below, Position.item]

theorem Admits.skimFlaw? {value : Json} (admitted : position.Admits room value) : value.skimFlaw? = none := by
  cases position with
  | document | root => exact admitted
  | child => exact Json.skimFlaw?_of_flaw? admitted
  | children | aside => exact admitted.elim

theorem Admits.flaw? {value : Json} (admitted : position.Admits room value) (below : position.Below) :
    value.flaw? room = none := by
  cases position with
  | document | root => exact below.elim
  | child => exact admitted
  | children | aside => exact admitted.elim

theorem not_mem_fields (position : Position) {name : String} (text : name ∈ ["str", "int"]) :
    name ∉ position.fields := by
  cases position <;> grind [fields, Decode.documentNames, Decode.nodeNames]

theorem nodup_fields (position : Position) : position.fields.Nodup := by
  cases position <;> decide

theorem fields_subset (position : Position) : position.fields ⊆ fieldNames := by
  cases position <;> simp [fields, fieldNames]

theorem item_idxOf (position : Position) {name : String} (known : name ∈ position.fields) :
    position.item (position.fields.idxOf name) = position.member (some name) := by
  cases position <;> simp only [fields, Decode.documentNames, Decode.nodeNames, List.mem_cons,
    List.not_mem_nil, or_false] at known
  all_goals
    obtain rfl | rfl | rfl := known <;> decide

variable {name : String} {value : Json} (default : position.default? name = some value)
include default

/-- A default is null, or the empty list of the children of a node. -/
theorem default?_cases : value = .null ∨
    (position = .root ∨ position = .child) ∧ name = "children" ∧ value = .array [] none := by
  cases position <;> grind [default?]

theorem mem_fields_of_default : name ∈ position.fields := by
  cases position <;> grind [default?, fields, Decode.documentNames, Decode.nodeNames]

theorem skimFlaw?_default : value.skimFlaw? = none := by
  obtain rfl | ⟨_, _, rfl⟩ := default?_cases default <;> rfl

theorem flaw?_default (fits : position.Fits (room + 1)) : value.flaw? room = none := by
  obtain rfl | ⟨node, _, rfl⟩ := default?_cases default
  · rfl
  · obtain ⟨deeper, rfl⟩ := fits.exists_succ node
    rfl

end Position

end Positions

namespace Respelling

variable {position : Position} {room : Nat} {value other : Json}

theorem containers (change : Respelling position room value other) :
    value.IsContainer ∧ other.IsContainer := by
  cases change <;> constructor <;> constructor

theorem skimFlaw?_iff (change : Respelling position room value other) :
    value.skimFlaw? = none ↔ other.skimFlaw? = none := by
  induction change with
  | shuffled same => simp only [Json.skimFlaw?_object, same.mem_iff]
  | added name value members unknown admitted =>
    simp only [Json.skimFlaw?_object, List.forall_mem_cons, admitted.skimFlaw?, true_and]
  | filledIn name value members default absent =>
    simp only [Json.skimFlaw?_object, List.forall_mem_cons, Position.skimFlaw?_default default, true_and]
  | extended name value items next default =>
    simp only [Json.skimFlaw?_array, List.forall_mem_append, List.forall_mem_singleton,
      Position.skimFlaw?_default default, and_true]
  | listed x y z first second third fields => simp [Json.skimFlaw?_object, Json.skimFlaw?_array]
  | member key before after inside ih =>
    simp only [Json.skimFlaw?_object, List.forall_mem_append, List.forall_mem_cons, ih]
  | item before after inside ih =>
    simp only [Json.skimFlaw?_array, List.forall_mem_append, List.forall_mem_cons, ih]

/-- Below the root, where an added member can be read, a value can be read after a change if it could be
before. -/
theorem flaw?_iff (change : Respelling position room value other) (fits : position.Fits room)
    (below : position.Below) : value.flaw? room = none ↔ other.flaw? room = none := by
  induction room generalizing position value other with
  | zero =>
    obtain ⟨left, right⟩ := change.containers
    exact iff_of_false left.flaw?_zero right.flaw?_zero
  | succ room ih =>
    cases change with
    | shuffled same => simp only [Json.flaw?_object, same.mem_iff]
    | added name value members unknown admitted =>
      have reads := admitted.flaw? below
      rw [Nat.add_sub_cancel] at reads
      simp [Json.flaw?_object, reads]
    | filledIn name value members default absent =>
      simp [Json.flaw?_object, Position.flaw?_default default fits]
    | extended name value items next default =>
      simp only [Json.flaw?_array, List.forall_mem_append, List.forall_mem_singleton,
        Position.flaw?_default default fits, and_true]
    | listed x y z first second third fields => simp [Json.flaw?_object, Json.flaw?_array]
    | member key before after inside =>
      simp only [Json.flaw?_object, List.forall_mem_append, List.forall_mem_cons,
        ih inside (fits.member _) (below.member _)]
    | item before after inside =>
      simp only [Json.flaw?_array, List.forall_mem_append, List.forall_mem_cons,
        ih inside (fits.item _) (below.item _)]

theorem string_iff (change : Respelling position room value other) (text : String) :
    Decode.string value = .ok text ↔ Decode.string other = .ok text :=
  iff_of_false (change.containers.1.string_ne_ok text) (change.containers.2.string_ne_ok text)

/-- No change touches a text or a number that is a child by itself. -/
theorem leaf_eq (change : Respelling position room value other) : Decode.leaf value = Decode.leaf other := by
  cases change with
  | shuffled same =>
    exact Decode.leaf_congr fun name _ _ => Decode.field_perm (valuesOf_perm same name)
  | added name value members unknown admitted =>
    apply Decode.leaf_congr
    intro known field text
    have apart : some name ≠ some known := by
      rintro ⟨⟩
      exact unknown (List.mem_append_right _ field)
    rw [valuesOf_other apart]
  | filledIn name value members default absent =>
    apply Decode.leaf_congr
    intro known field text
    have apart : some name ≠ some known := by
      rintro ⟨⟩
      exact position.not_mem_fields field (Position.mem_fields_of_default default)
    rw [valuesOf_other apart]
  | extended name value items next default => rfl
  | listed x y z first second third fields =>
    -- None of the fields is looked at, so the object is as good as an empty one.
    have unread : Decode.leaf (.object [⟨some x, first⟩, ⟨some y, second⟩, ⟨some z, third⟩] none) =
        Decode.leaf (.object [] none) := by
      apply Decode.leaf_congr
      intro known field text
      have apart := position.not_mem_fields field
      rw [fields] at apart
      rw [valuesOf_absent]
      · rfl
      · grind
    exact unread
  | member key before after inside =>
    apply Decode.leaf_congr
    intro _ _ _
    exact Decode.field_member_replaced before after fun _ => inside.string_iff
  | item before after inside => rfl

theorem range_ne_ok (change : Respelling .aside room value other) (span : Nat × Nat) :
    Decode.range room value ≠ .ok span ∧ Decode.range room other ≠ .ok span := by
  cases change with
  | shuffled | added | filledIn | member =>
    simp [Decode.range_eq_ok]
  | extended name value items next default => cases default
  | listed x y z first second third fields => cases fields
  | item before after inside =>
    obtain ⟨left, right⟩ := inside.containers
    exact ⟨left.range_ne_ok (by simp) span, right.range_ne_ok (by simp) span⟩

theorem optional_string_iff (change : Respelling position room value other) (text : Option String) :
    Decode.optional Decode.string value = .ok text ↔ Decode.optional Decode.string other = .ok text :=
  iff_of_false (change.containers.1.optional_ne_ok change.containers.1.string_ne_ok text)
    (change.containers.2.optional_ne_ok change.containers.2.string_ne_ok text)

theorem optional_range_iff (change : Respelling .aside room value other) (span : Option (Nat × Nat)) :
    Decode.optional (Decode.range room) value = .ok span ↔
      Decode.optional (Decode.range room) other = .ok span :=
  iff_of_false (change.containers.1.optional_ne_ok (fun span => (change.range_ne_ok span).1) span)
    (change.containers.2.optional_ne_ok (fun span => (change.range_ne_ok span).2) span)

section Steps

open Decode

variable {α : Type} {decode : Json → Result α} {default : Option α} {result : α} {name : String}

theorem formed_iff (change : Respelling position room value other) :
    value.Formed position.fields ↔ other.Formed position.fields := by
  cases change with
  | shuffled same => exact skims_perm same
  | added name value members unknown admitted =>
    exact (skims_cons.trans (and_iff_right fun _ => admitted.skimFlaw?)).symm
  | filledIn name value members default absent =>
    refine (skims_cons.trans (and_iff_right fun unknown => ?_)).symm
    exact absurd (Position.mem_fields_of_default default) unknown
  | extended name value items next default =>
    obtain ⟨inside, _⟩ := List.getElem?_eq_some_iff.mp next
    simp only [Json.Formed, List.length_append, List.length_singleton]
    omega
  | listed x y z first second third order =>
    simp [Json.Formed, order, Skims]
  | member key before after inside => exact skims_replaced before after inside.skimFlaw?_iff
  | item before after inside => simp [Json.Formed]

/-- What is given for a field is decoded alike after a change, if it is after a change to the value of the
field and if a default may be written down. -/
theorem field_iff (change : Respelling position (room + 1) value other) (known : name ∈ position.fields)
    (inside : ∀ {value other}, Respelling (position.member (some name)) room value other →
      ∀ result, decode value = .ok result ↔ decode other = .ok result)
    (written : ∀ value, position.default? name = some value →
      ∃ given, default = some given ∧ decode value = .ok given) :
    FieldOf decode default result (value.given position.fields name) ↔
      FieldOf decode default result (other.given position.fields name) := by
  cases change with
  | shuffled same => exact field_perm (valuesOf_perm same name)
  | added added value members unknown admitted =>
    have apart : some added ≠ some name := by
      rintro ⟨⟩
      exact unknown (position.fields_subset known)
    simp only [Json.given, valuesOf_other apart]
  | filledIn filled value members default absent =>
    by_cases same : filled = name
    · subst same
      obtain ⟨given, rfl, decoded⟩ := written value default
      simp only [Json.given, valuesOf_cons, valuesOf_absent absent, if_true]
      exact field_default decoded
    · have apart : some filled ≠ some name := fun equal => same (Option.some.inj equal)
      simp only [Json.given, valuesOf_other apart]
  | extended filled value items next default =>
    obtain ⟨inside, found⟩ := List.getElem?_eq_some_iff.mp next
    have place : position.fields.idxOf filled = items.length := by
      rw [← found]
      exact position.nodup_fields.idxOf_getElem _ inside
    by_cases same : filled = name
    · subst same
      obtain ⟨given, rfl, decoded⟩ := written value default
      simp only [Json.given, place, List.getElem?_concat_length, List.getElem?_length]
      exact field_default decoded
    · have apart : position.fields.idxOf name ≠ items.length := by
        intro equal
        exact same ((List.idxOf_inj (List.mem_of_getElem? next)).mp (place.trans equal.symm))
      have unchanged : (items ++ [value])[position.fields.idxOf name]? =
          items[position.fields.idxOf name]? := by
        grind
      simp only [Json.given, unchanged]
  | listed x y z first second third order =>
    have distinct := position.nodup_fields
    rw [order] at known distinct ⊢
    simp only [Json.given, valuesOf_listed distinct known]
  | member key before after changed =>
    refine field_member_replaced before after ?_
    rintro rfl
    exact inside changed
  | item before after changed =>
    refine field_item_replaced before after ?_
    intro place
    rw [place, position.item_idxOf known] at changed
    exact inside changed

theorem node_iff (node : position = .root ∨ position = .child)
    (change : Respelling position (room + 1) value other) (fits : position.Fits (room + 1))
    (lists : ∀ {value other}, Respelling .children room value other →
      ∀ list, children room value = .ok list ↔ children room other = .ok list)
    (draft : DraftNode) :
    Decode.node (room + 1) value = .ok draft ↔ Decode.node (room + 1) other = .ok draft := by
  have fields : position.fields = nodeNames := by obtain rfl | rfl := node <;> rfl
  simp only [node_eq_ok, change.containers, Nat.add_right_cancel_iff, exists_eq_left', true_and, ← fields]
  refine and_congr change.formed_iff (and_congr ?_ (and_congr ?_ ?_))
  · refine change.field_iff (by simp [fields, nodeNames]) (fun inner => inner.string_iff) ?_
    intro value default
    obtain rfl | rfl := node <;> cases default
  · refine change.field_iff (by simp [fields, nodeNames]) ?_ ?_
    · obtain rfl | rfl := node <;> exact lists
    · intro value default
      obtain ⟨deeper, rfl⟩ := fits.exists_succ node
      obtain rfl | rfl := node <;> cases default <;> exact ⟨[], rfl, rfl⟩
  · refine change.field_iff (by simp [fields, nodeNames]) ?_ ?_
    · obtain rfl | rfl := node <;> exact optional_range_iff
    · intro value default
      obtain rfl | rfl := node <;> cases default <;> exact ⟨none, rfl, rfl⟩

theorem document_iff (change : Respelling .document (room + 1) value other)
    (roots : ∀ {value other}, Respelling .root room value other →
      ∀ draft, Decode.node room value = .ok draft ↔ Decode.node room other = .ok draft)
    (draft : Draft) :
    document (room + 1) value = .ok draft ↔ document (room + 1) other = .ok draft := by
  simp only [document_eq_ok, change.containers, Nat.add_right_cancel_iff, exists_eq_left', true_and]
  refine and_congr change.formed_iff (and_congr ?_ (and_congr ?_ ?_))
  · refine change.field_iff (by decide) (fun inner => inner.optional_string_iff) ?_
    rintro value ⟨⟩
    exact ⟨none, rfl, rfl⟩
  · refine change.field_iff (by decide) (fun inner => inner.optional_string_iff) ?_
    rintro value ⟨⟩
    exact ⟨none, rfl, rfl⟩
  · refine change.field_iff (by decide) roots ?_
    rintro value ⟨⟩

/-- What is tried as a node first and comes to the same as one is the same child. -/
theorem child_iff (change : Respelling position room value other)
    (nodes : ∀ draft, Decode.node room value = .ok draft ↔ Decode.node room other = .ok draft)
    (found : DraftChild) :
    child value (Decode.node room value) = .ok found ↔ child other (Decode.node room other) = .ok found := by
  cases left : Decode.node room value with
  | ok draft => rw [(nodes draft).mp left]; exact Iff.rfl
  | error _ =>
    cases right : Decode.node room other with
    | ok draft =>
      rw [(nodes draft).mpr right] at left
      cases left
    | error _ => rw [child, child, change.leaf_eq]

theorem childList_iff {before after : List Json} (reads : value.flaw? room = none ↔ other.flaw? room = none)
    (found : ∀ found, child value (Decode.node room value) = .ok found ↔
      child other (Decode.node room other) = .ok found) (list : List DraftChild) :
    childList room (before ++ value :: after) = .ok list ↔
      childList room (before ++ other :: after) = .ok list := by
  induction before generalizing list with
  | nil => simp only [List.nil_append, childList_cons_eq_ok, reads, found]
  | cons first rest ih => simp only [List.cons_append, childList_cons_eq_ok, ih]

theorem children_iff (change : Respelling .children (room + 1) value other)
    (fits : Position.children.Fits (room + 1))
    (nodes : ∀ {value other}, Respelling .child room value other →
      ∀ draft, Decode.node room value = .ok draft ↔ Decode.node room other = .ok draft)
    (list : List DraftChild) :
    children (room + 1) value = .ok list ↔ children (room + 1) other = .ok list := by
  cases change with
  | shuffled | added | filledIn | member =>
    simp [children_eq_ok]
  | extended name value items next default => cases default
  | listed x y z first second third order => cases order
  | item before after inside =>
    simp only [children_eq_ok, Nat.add_right_cancel_iff, Json.array.injEq, and_true, exists_and_left,
      exists_eq_left']
    exact childList_iff (inside.flaw?_iff (fits.item _) trivial) (inside.child_iff (nodes inside)) list

end Steps

end Respelling

/-- Two values are decoded alike, unless nobody decodes them. -/
def Position.Alike : Position → Nat → Json → Json → Prop
  | .document, room, value, other =>
    ∀ draft, Decode.document room value = .ok draft ↔ Decode.document room other = .ok draft
  | .root, room, value, other | .child, room, value, other =>
    ∀ draft, Decode.node room value = .ok draft ↔ Decode.node room other = .ok draft
  | .children, room, value, other =>
    ∀ list, Decode.children room value = .ok list ↔ Decode.children room other = .ok list
  | .aside, _, _, _ => True

theorem Respelling.alike {position : Position} {room : Nat} {value other : Json}
    (change : Respelling position room value other) (fits : position.Fits room) :
    position.Alike room value other := by
  -- By induction on the room, which shrinks from a value to the values in it as the depth grows.
  induction room generalizing position value other with
  | zero =>
    cases position with
    | document => simp [Position.Alike, Decode.document_eq_ok]
    | root | child => simp [Position.Alike, Decode.node_eq_ok]
    | children => simp [Position.Alike, Decode.children_eq_ok]
    | aside => trivial
  | succ room ih =>
    cases position with
    | document => exact change.document_iff fun inner => ih inner (fits.member (some "ast"))
    | root => exact change.node_iff (.inl rfl) fits fun inner => ih inner (fits.member (some "children"))
    | child => exact change.node_iff (.inr rfl) fits fun inner => ih inner (fits.member (some "children"))
    | children => exact change.children_iff fits fun inner => ih inner (fits.item 0)
    | aside => trivial

section Documents

/-- Any number of changes to the spelling of a document. -/
def Json.Respelled : Json → Json → Prop :=
  Relation.ReflTransGen (Respelling .document Json.maxNesting)

theorem Json.Respelled.ofJson {value other : Json} (respelled : value.Respelled other) (draft : Draft) :
    Draft.ofJson value = .ok draft ↔ Draft.ofJson other = .ok draft := by
  induction respelled with
  | refl => rfl
  | tail _ change ih => exact ih.trans (change.alike rfl draft)

theorem Document.load_eq_ok {text : String} {value : Json} (read : Json.read text = (value, true))
    {document : Document} :
    Document.load text = .ok document ↔
      ∃ draft, Draft.ofJson value = .ok draft ∧ draft.check = .ok document := by
  simp [Document.load, read, bind_eq_ok]

/-- Texts that differ in the spelling of a document are loaded as the same document, or both are not
loaded. -/
theorem loading_ignores_the_spelling {text other : String} {value changed : Json}
    (read : Json.read text = (value, true)) (reread : Json.read other = (changed, true))
    (respelled : value.Respelled changed) (document : Document) :
    Document.load text = .ok document ↔ Document.load other = .ok document := by
  simp only [Document.load_eq_ok read, Document.load_eq_ok reread, respelled.ofJson]

/-- Fields are put in order and in arrays, defaults are written down, and a text gets a note. -/
theorem noted_text_in_arrays_is_loaded_alike :
    let text := "\x7b\"ast\":\x7b\"children\":[\x7b\"str\":\"x\"\x7d],\"type\":\"a\"\x7d\x7d"
    let other := "[null,null,[\"a\",[\x7b\"note\":[true],\"str\":\"x\"\x7d],null]]"
    let document : Document := ⟨none, ⟨.other "a", [.atom (.str "x")], none⟩⟩
    ∃ value changed, Json.read text = (value, true) ∧ Json.read other = (changed, true) ∧
      value.Respelled changed ∧ Document.load text = .ok document ∧ Document.load other = .ok document := by
  intro text other document
  let str : Member := ⟨some "str", .string (some "x")⟩
  let note : Member := ⟨some "note", .array [.bool true] none⟩
  let tag : Member := ⟨some "type", .string (some "a")⟩
  let list (members : List Member) : Member := ⟨some "children", .array [.object members none] none⟩
  let span : Member := ⟨some "range", .null⟩
  let whole (root : Json) : Json := .object [⟨some "ast", root⟩] none
  let fields : Json := .array [tag.value, (list [note, str]).value, span.value] none
  have read : Json.read text = (whole (.object [list [str], tag] none), true) := by
    set_option maxRecDepth 2000 in
    cbv
  have reread : Json.read other = (.array [.null, .null, fields] none, true) := by
    set_option maxRecDepth 2000 in
    cbv
  have loaded : Document.load text = .ok document := (Document.load_eq_ok read).mpr ⟨_, rfl, rfl⟩
  have inRoot {value other : Json} (change : Respelling .root 126 value other) :
      Respelling .document Json.maxNesting (whole value) (whole other) := .member (some "ast") [] [] change
  have noted : Respelling .root 126 (.object [list [str], tag] none) (.object [list [note, str], tag] none) :=
    .member (some "children") [] [tag] (.item [] [] (.added "note" _ [str] (by decide) (by rfl)))
  have shuffled : Respelling .root 126 (.object [list [note, str], tag] none)
      (.object [tag, list [note, str]] none) := .shuffled (List.Perm.swap _ _ _)
  have spanned : Respelling .root 126 (.object [tag, list [note, str]] none)
      (.object [span, tag, list [note, str]] none) := .filledIn "range" .null _ rfl (by decide)
  have ordered : Respelling .root 126 (.object [span, tag, list [note, str]] none)
      (.object [tag, list [note, str], span] none) :=
    .shuffled (List.perm_append_singleton span [tag, list [note, str]]).symm
  have listed : Respelling .root 126 (.object [tag, list [note, str], span] none) fields :=
    .listed "type" "children" "range" _ _ _ rfl
  have respelled : Json.Respelled (whole (.object [list [str], tag] none))
      (.array [.null, .null, fields] none) :=
    .head (inRoot noted) <| .head (inRoot shuffled) <| .head (inRoot spanned) <| .head (inRoot ordered) <|
    .head (inRoot listed) <| .head (.filledIn "name" .null _ rfl (by decide)) <|
    .head (.filledIn "source" .null _ rfl (by decide)) <| .single (.listed "source" "name" "ast" _ _ _ rfl)
  exact ⟨_, _, read, reread, respelled, loaded,
    (loading_ignores_the_spelling read reread respelled document).mp loaded⟩

/-- A child has to be read as a whole: a number that is too large keeps the document from being loaded,
although nobody asks for it. In the root it would do no harm. -/
theorem unreadable_note_of_a_child_is_refused :
    let document : Document := ⟨none, ⟨.known .args, [.node ⟨.known .nilLit, [], none⟩], none⟩⟩
    Document.load "\x7b\"ast\":\x7b\"type\":\"args\",\"children\":[\x7b\"type\":\"nil\"\x7d]\x7d\x7d" =
      .ok document ∧
    Document.load
      "\x7b\"ast\":\x7b\"type\":\"args\",\"children\":[\x7b\"type\":\"nil\"\x7d],\"note\":1e999\x7d\x7d" =
      .ok document ∧
    Document.load
      "\x7b\"ast\":\x7b\"type\":\"args\",\"children\":[\x7b\"type\":\"nil\",\"note\":1e999\x7d]\x7d\x7d" =
      .error (.json .malformed) := by
  intro document
  let large : Json.Literal := ⟨false, ['1'], [], some (false, ['9', '9', '9'])⟩
  let child : Json := .object [⟨some "type", .string (some "nil")⟩, ⟨some "note", .number large⟩] none
  let root : Json :=
    .object [⟨some "type", .string (some "args")⟩, ⟨some "children", .array [child] none⟩] none
  have read : Json.read
      "\x7b\"ast\":\x7b\"type\":\"args\",\"children\":[\x7b\"type\":\"nil\",\"note\":1e999\x7d]\x7d\x7d" =
      (.object [⟨some "ast", root⟩] none, true) := by
    set_option maxRecDepth 2000 in
    cbv
  have unreadable : child.flaw? 124 = some .malformed := by
    have noValue : large.value? = none := by decide +kernel
    simp [child, Json.flaw?, Json.membersFlaw?, noValue]
  refine ⟨?plain, ?noted, ?refused⟩
  case plain =>
    set_option maxRecDepth 2000 in
    cbv
  case noted =>
    set_option maxRecDepth 2000 in
    cbv
  case refused =>
    simp [Document.load, read, root, Draft.ofJson, Json.maxNesting, Decode.document, Decode.documentFields,
      Decode.key, Decode.once, Decode.node, Decode.nodeFields, Decode.string, Decode.children,
      Decode.childList, Decode.enter, Decode.checkFlaw, unreadable, bind, Except.bind]

end Documents

end RubyTree
