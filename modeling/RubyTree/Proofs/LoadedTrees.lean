import Mathlib
import RubyTree.Proofs.CheckThenPrint
import RubyTree.Proofs.DecodedFields
import RubyTree.Proofs.FiniteDoubles
import RubyTree.Proofs.Numerals
import RubyTree.Proofs.Tags

/-!
What holds of every node of a loaded document, at every depth, and which errors of rendering it rules
out. Doubles and integers are vouched for by decoding, types and spans by the check that follows it.
-/

namespace RubyTree

/-- An atom as a loaded document may hold it. -/
def Atom.Loaded : Atom → Prop
  | .bigInteger numeral => ∃ value, Numeral.Denotes numeral.toList value ∧ Numeral.Wide value
  | .float value => value.isFinite = true
  | _ => True

/-- A node as a document with the given source may hold it, apart from its child nodes. -/
structure Node.Loaded (buffer : Option Buffer) (node : Node) : Prop where
  tagName : TagName node.tag.name.toList
  otherTag : ∀ name, node.tag = .other name → ∀ kind : Kind, kind.name ≠ name
  span : ∀ span, node.span = some span → buffer = some span.buffer ∧ span.text?.isSome = true
  atoms : ∀ value, .atom value ∈ node.children → value.Loaded

section Decoding

mutual

def DraftNode.AtomsLoaded : DraftNode → Prop
  | ⟨_, children, _⟩ => DraftAtomsLoaded children

def DraftAtomsLoaded : List DraftChild → Prop
  | [] => True
  | .node value :: rest => value.AtomsLoaded ∧ DraftAtomsLoaded rest
  | .atom value :: rest => value.Loaded ∧ DraftAtomsLoaded rest
  | .integer _ :: rest => DraftAtomsLoaded rest

end

theorem numberAtom_loaded {literal : Json.Literal} {number : Json.Number}
    (value : literal.value? = some number) : (Decode.numberAtom number).Loaded := by
  cases number with
  | float x => exact Json.Literal.value?_isFinite value
  | integer found =>
    simp only [Decode.numberAtom]
    split
    · trivial
    · next outside => exact ⟨found, Numeral.denotes_ofInt found, .of_outside outside⟩

theorem leaf_loaded {value : Json} {child : DraftChild} (decoded : Decode.leaf value = .ok child) :
    DraftAtomsLoaded [child] := by
  unfold Decode.leaf at decoded
  split at decoded
  · split at decoded
    · cases decoded; exact ⟨trivial, trivial⟩
    · split at decoded <;> cases decoded
      trivial
  · split at decoded
    · next found => cases decoded; exact ⟨numberAtom_loaded found, trivial⟩
    · cases decoded
  · cases decoded; exact ⟨trivial, trivial⟩
  · cases decoded; exact ⟨trivial, trivial⟩
  · cases decoded

theorem child_loaded {value : Json} {node : Decode.Result DraftNode} {child : DraftChild}
    (loaded : ∀ draft, node = .ok draft → draft.AtomsLoaded)
    (decoded : Decode.child value node = .ok child) : DraftAtomsLoaded [child] := by
  cases node with
  | ok draft => cases decoded; exact ⟨loaded draft rfl, trivial⟩
  | error fault => exact leaf_loaded decoded

theorem draftAtomsLoaded_cons {child : DraftChild} {rest : List DraftChild}
    (first : DraftAtomsLoaded [child]) (more : DraftAtomsLoaded rest) :
    DraftAtomsLoaded (child :: rest) := by
  cases child with
  | node value => exact ⟨first.1, more⟩
  | atom value => exact ⟨first.1, more⟩
  | integer numeral => exact more

theorem childList_loaded {room : Nat}
    (nodes : ∀ {value draft}, Decode.node room value = .ok draft → draft.AtomsLoaded) {items : List Json}
    {list : List DraftChild} (decoded : Decode.childList room items = .ok list) : DraftAtomsLoaded list := by
  induction items generalizing list with
  | nil =>
    cases decoded
    trivial
  | cons item rest ih =>
    obtain ⟨_, first, found, more, others, rfl⟩ := Decode.childList_cons_eq_ok.mp decoded
    exact draftAtomsLoaded_cons (child_loaded (fun _ => nodes) found) (ih others)

theorem node_loaded {room : Nat} {value : Json} {draft : DraftNode}
    (decoded : Decode.node room value = .ok draft) : draft.AtomsLoaded := by
  -- By induction on the room, of which every array and object takes some.
  induction room using Nat.strongRecOn generalizing value draft with
  | ind room ih =>
    obtain ⟨tag, list, span⟩ := draft
    obtain ⟨inner, rfl, _, _, _, children, _⟩ := Decode.node_eq_ok.mp decoded
    show DraftAtomsLoaded list
    rcases children.default_or_decoded with default | ⟨_, _, found⟩
    · cases default
      trivial
    · obtain ⟨deeper, items, rfl, _, found⟩ := Decode.children_eq_ok.mp found
      exact childList_loaded (ih deeper (by omega)) found

/-- Decoding vouches for the numbers of a document. -/
theorem ofJson_loaded {value : Json} {draft : Draft} (decoded : Draft.ofJson value = .ok draft) :
    draft.root.AtomsLoaded := by
  obtain ⟨inner, _, _, _, _, _, root⟩ := Decode.document_eq_ok.mp decoded
  rcases root.default_or_decoded with default | ⟨_, _, found⟩
  · cases default
  · exact node_loaded found

end Decoding

section Checking

theorem ofNumeral_loaded {numeral : String} {atom : Atom} (checked : Atom.ofNumeral numeral = .ok atom) :
    atom.Loaded := by
  cases Numeral.ofNumeral_eq_ok_iff.mp checked with
  | narrow denotes => trivial
  | wide denotes wide => exact ⟨_, denotes, wide⟩

theorem parse_loaded {name : String} {tag : Tag} (parsed : Tag.parse name = .ok tag) :
    TagName tag.name.toList ∧ ∀ other, tag = .other other → ∀ kind : Kind, kind.name ≠ other := by
  unfold Tag.parse at parsed
  split at parsed
  · next valid =>
    cases parsed
    refine ⟨?_, fun other unknown => Tag.ne_of_ofName_other unknown⟩
    rw [Tag.name_ofName]
    exact (tagName_iff _).mpr valid
  · cases parsed

theorem checkRange_loaded {buffer : Option Buffer} {tag : Tag} {range : Option (Nat × Nat)}
    {result : Option Span} (checked : checkRange buffer tag range = .ok result) :
    ∀ span, result = some span → buffer = some span.buffer ∧ span.text?.isSome = true := by
  unfold checkRange at checked
  split at checked
  · cases checked
    intro span impossible
    cases impossible
  · split at checked
    · cases checked
    · dsimp only at checked
      split at checked
      · next covered =>
        cases checked
        rintro _ ⟨⟩
        exact ⟨rfl, covered⟩
      · cases checked

mutual

/-- The check vouches for types and spans, and for integers given by their numerals. -/
theorem check_loaded {buffer : Option Buffer} : ∀ {draft : DraftNode} {node : Node},
    draft.check buffer = .ok node → draft.AtomsLoaded → ∀ below ∈ node.nodes, below.Loaded buffer
  | ⟨name, drafts, range⟩, node, checked, loaded => by
    simp only [DraftNode.check] at checked
    obtain ⟨tag, parsed, checked⟩ := bind_eq_ok.mp checked
    obtain ⟨span, ranged, checked⟩ := bind_eq_ok.mp checked
    obtain ⟨children, descended, checked⟩ := bind_eq_ok.mp checked
    cases checked
    have types := parse_loaded (mapError_eq_ok.mp parsed)
    have below := checkChildren_loaded descended loaded
    intro other member
    rcases List.mem_cons.mp member with rfl | deeper
    · exact ⟨types.1, types.2, checkRange_loaded ranged, below.2⟩
    · exact below.1 other deeper

theorem checkChildren_loaded {buffer : Option Buffer} :
    ∀ {drafts : List DraftChild} {children : List Child},
    checkChildren buffer drafts = .ok children → DraftAtomsLoaded drafts →
    (∀ below ∈ nodesBelow children, below.Loaded buffer) ∧
      ∀ value, .atom value ∈ children → value.Loaded
  | [], children, checked, loaded => by
    cases checked
    simp [nodesBelow]
  | .node draft :: rest, children, checked, loaded => by
    simp only [checkChildren] at checked
    obtain ⟨node, first, checked⟩ := bind_eq_ok.mp checked
    obtain ⟨others, more, checked⟩ := bind_eq_ok.mp checked
    cases checked
    have here := check_loaded first loaded.1
    have there := checkChildren_loaded more loaded.2
    refine ⟨?_, by simpa using there.2⟩
    intro below member
    rcases List.mem_append.mp member with inside | after
    · exact here below inside
    · exact there.1 below after
  | .atom value :: rest, children, checked, loaded => by
    simp only [checkChildren] at checked
    obtain ⟨others, more, checked⟩ := bind_eq_ok.mp checked
    cases checked
    have there := checkChildren_loaded more loaded.2
    refine ⟨there.1, ?_⟩
    intro atom member
    rcases List.mem_cons.mp member with same | after
    · cases same; exact loaded.1
    · exact there.2 atom after
  | .integer numeral :: rest, children, checked, loaded => by
    simp only [checkChildren] at checked
    obtain ⟨value, first, checked⟩ := bind_eq_ok.mp checked
    obtain ⟨others, more, checked⟩ := bind_eq_ok.mp checked
    cases checked
    have there := checkChildren_loaded more loaded
    refine ⟨there.1, ?_⟩
    intro atom member
    rcases List.mem_cons.mp member with same | after
    · cases same; exact ofNumeral_loaded first
    · exact there.2 atom after

end

end Checking

theorem load_loaded {text : String} {document : Document} (loaded : Document.load text = .ok document) :
    ∀ node ∈ document.root.nodes, node.Loaded document.buffer := by
  unfold Document.load at loaded
  dsimp only at loaded
  obtain ⟨draft, decoded, loaded⟩ := bind_eq_ok.mp loaded
  split at loaded
  · unfold Draft.check at loaded
    obtain ⟨root, checked, loaded⟩ := bind_eq_ok.mp loaded
    cases loaded
    exact check_loaded checked (ofJson_loaded decoded)
  · cases loaded

section Visiting

/-- Rendering visits nothing but the nodes of the tree. -/
theorem visitOrder_subset_nodes (setting : Setting) (node : Node) :
    node.visitOrder setting ⊆ node.nodes := by
  induction node using Node.induction with
  | step node ih =>
    intro visited member
    rw [Node.visitOrder_eq] at member
    rcases List.mem_cons.mp member with rfl | deeper
    · exact Node.mem_nodes_self visited
    · split at deeper
      · cases deeper
      · obtain ⟨child, isVisited, below⟩ := List.mem_flatMap.mp deeper
        have isChild := Node.mem_children_of_mem_visited isVisited
        exact Node.nodes_child isChild (ih child isChild below)

def Reason.preventable : Reason → Bool
  | .outsideBuffer _ | .nonFinite => true
  | _ => false

namespace Outline

variable {outline : Outline} {index : Nat} {reason : Reason}

theorem countFault?_kept {least most : Nat} (fault : countFault? least most outline = some reason) :
    reason.preventable = false := by
  unfold countFault? at fault
  split at fault <;> cases fault
  rfl

theorem nodeFault?_kept (fault : nodeFault? index outline = some reason) :
    reason.preventable = false := by
  unfold nodeFault? at fault
  split at fault <;> cases fault <;> rfl

theorem atomFault?_kept {fault? : Atom → Option Reason}
    (kept : ∀ value, some value ∈ outline → ∀ reason, fault? value = some reason →
      reason.preventable = false)
    (fault : atomFault? fault? index outline = some reason) : reason.preventable = false := by
  unfold atomFault? at fault
  split at fault
  · cases fault; rfl
  · cases fault; rfl
  · next value found => exact kept value (List.mem_of_getElem? found) reason fault

theorem nameFault?_kept {value : Atom} (fault : nameFault? index value = some reason) :
    reason.preventable = false := by
  unfold nameFault? at fault
  split at fault <;> cases fault
  rfl

theorem integerFault?_kept {value : Atom} (fault : integerFault? value = some reason) :
    reason.preventable = false := by
  unfold integerFault? at fault
  split at fault <;> cases fault
  rfl

theorem double?_isFinite {value : Atom} {x : Binary64} (loaded : value.Loaded)
    (converted : value.double? = some x) : x.isFinite = true := by
  cases value with
  | float y => cases converted; exact loaded
  | integer y =>
    cases converted
    apply Binary64.ofInt_isFinite
    have low := y.le_toInt
    have high := y.toInt_lt
    omega
  | symbol | str | bigInteger | nil => cases converted

theorem floatFault?_kept {value : Atom} (loaded : value.Loaded)
    (fault : floatFault? value = some reason) : reason.preventable = false := by
  unfold floatFault? at fault
  split at fault
  · next x converted =>
    rw [if_pos (double?_isFinite loaded converted)] at fault
    cases fault
  · cases fault; rfl

theorem optionalNameFault?_kept (fault : optionalNameFault? index outline = some reason) :
    reason.preventable = false := by
  unfold optionalNameFault? at fault
  split at fault
  · cases fault
  · cases fault
  · exact atomFault?_kept (fun _ _ _ => nameFault?_kept) fault

theorem listFault?_kept (fault : listFault? outline = some reason) : reason.preventable = false := by
  obtain ⟨_, _, rfl⟩ := Option.map_eq_some_iff.mp fault
  rfl

theorem bodyFault?_kept {policy : BeginPolicy} (fault : bodyFault? policy outline = some reason) :
    reason.preventable = false := by
  unfold bodyFault? at fault
  split at fault
  · cases fault; rfl
  · exact nodeFault?_kept fault
  · exact nodeFault?_kept fault
  · cases fault; rfl

theorem sourceFault?_kept {span : Option Span}
    (covered : ∀ s, span = some s → s.text?.isSome = true) (fault : sourceFault? span = some reason) :
    reason.preventable = false := by
  cases span with
  | none => cases fault; rfl
  | some s => simp [sourceFault?, covered s rfl] at fault

end Outline

open Outline in
theorem Rule.fault?_kept {rule : Rule} {policy : BeginPolicy} {span : Option Span} {outline : Outline}
    {reason : Reason} (covered : ∀ s, span = some s → s.text?.isSome = true)
    (loaded : ∀ value, some value ∈ outline → value.Loaded)
    (fault : rule.fault? policy span outline = some reason) : reason.preventable = false := by
  cases rule
  case arguments | mlhs => exact listFault?_kept fault
  case begin => exact bodyFault?_kept fault
  case keyword => exact countFault?_kept fault
  case source => exact sourceFault?_kept covered fault
  all_goals
    rcases Option.or_eq_some_iff.mp fault with count | ⟨_, fault⟩
    · exact countFault?_kept count
  case restarg | kwrestarg => exact optionalNameFault?_kept fault
  case argExpr | blockPass => exact nodeFault?_kept fault
  case optarg | kwoptarg =>
    rcases Option.or_eq_some_iff.mp fault with name | ⟨_, node⟩
    · exact atomFault?_kept (fun _ _ _ => nameFault?_kept) name
    · exact nodeFault?_kept node
  case integer => exact atomFault?_kept (fun _ _ _ => integerFault?_kept) fault
  case float =>
    exact atomFault?_kept (fun value member _ => floatFault?_kept (loaded value member)) fault
  all_goals exact atomFault?_kept (fun _ _ _ => nameFault?_kept) fault

theorem Node.Loaded.fault?_kept {setting : Setting} {buffer : Option Buffer} {node : Node} {tag : Tag}
    {reason : Reason} (loaded : node.Loaded buffer)
    (fault : node.fault? setting = some (.malformed tag reason)) : reason.preventable = false := by
  unfold Node.fault? Setting.fault? at fault
  split at fault
  · cases fault
  · obtain ⟨found, malformed, same⟩ := Option.map_eq_some_iff.mp fault
    cases same
    refine Rule.fault?_kept (fun s spanned => (loaded.span s spanned).2) ?_ malformed
    intro value member
    obtain ⟨child, isChild, outlined⟩ := List.mem_map.mp member
    cases child with
    | node => cases outlined
    | atom found => cases outlined; exact loaded.atoms _ isChild

end Visiting

/-- Every node of a loaded document, at every depth, has a proper type, a span that covers a part of the
document's source if it has one at all, and numbers in range. So no rules and no choices can make
rendering fail for a span outside its buffer or for a double that is not finite. -/
theorem loaded_document_is_sound (text : String) (document : Document)
    (loaded : Document.load text = .ok document) :
    (∀ node ∈ document.root.nodes, node.Loaded document.buffer) ∧
    ∀ (setting : Setting) (tag : Tag),
      (∀ span, document.root.renderWith setting ≠ .error (.malformed tag (.outsideBuffer span))) ∧
      document.root.renderWith setting ≠ .error (.malformed tag .nonFinite) := by
  have sound := load_loaded loaded
  have kept (setting : Setting) (tag : Tag) (reason : Reason)
      (failed : document.root.renderWith setting = .error (.malformed tag reason)) :
      reason.preventable = false := by
    rw [Node.renderWith_eq] at failed
    split at failed
    · next found =>
      cases failed
      obtain ⟨node, visited, fault⟩ := List.exists_of_findSome?_eq_some found
      exact (sound node (visitOrder_subset_nodes setting _ visited)).fault?_kept fault
    · cases failed
  refine ⟨sound, fun setting tag => ⟨fun span failed => ?_, fun failed => ?_⟩⟩
  · cases kept setting tag _ failed
  · cases kept setting tag _ failed

/-- A document with a source, a span, a wide integer and a nested node. -/
theorem wide_integer_document_is_sound :
    ∃ document,
      Document.load "[\"ab\",null,[\"send\",[\x7b\"int\":\"-9223372036854775809\"\x7d,[\"arg\",[\"x\"]]],[0,2]]]" =
        .ok document ∧
      document.root.children.length = 2 ∧
      (∀ node ∈ document.root.nodes, node.Loaded document.buffer) ∧
      document.root.renderWith {} ≠ .error (.malformed (.other "send") .nonFinite) := by
  have loaded :
      Document.load "[\"ab\",null,[\"send\",[\x7b\"int\":\"-9223372036854775809\"\x7d,[\"arg\",[\"x\"]]],[0,2]]]" =
        .ok ⟨some ⟨"(string)", "ab"⟩,
          ⟨.other "send", [.atom (.bigInteger "-9223372036854775809"),
              .node ⟨.known .arg, [.atom (.symbol "x")], none⟩],
            some ⟨⟨"(string)", "ab"⟩, 0, 2⟩⟩⟩ := by
    set_option maxRecDepth 2000 in
    cbv
  have sound := loaded_document_is_sound _ _ loaded
  exact ⟨_, loaded, rfl, sound.1, (sound.2 {} (.other "send")).2⟩

end RubyTree
