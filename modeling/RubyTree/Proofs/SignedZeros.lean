import RubyTree.Proofs.CheckThenPrint

/-!
Equal trees and their texts. Two trees that are equal as numbers go are visited in step, fail at the
same node or not at all, and can differ only in the signs of zeros. What a rendering shows of its
doubles therefore decides whether it is the same for both.
-/

namespace RubyTree

section Atoms

/-- Atoms that are identical or zeros of opposite signs. -/
inductive Atom.Alike : Atom → Atom → Prop
  | refl (value : Atom) : Alike value value
  | zeros (x y : Binary64) (zero : x.magnitude = 0) (zero' : y.magnitude = 0)
      (signs : x.negative ≠ y.negative) : Alike (.float x) (.float y)

theorem Binary64.eq_or_zeros_of_same {x y : Binary64} (same : x.same y = true) :
    x = y ∨ x.magnitude = 0 ∧ y.magnitude = 0 ∧ x.negative ≠ y.negative := by
  obtain ⟨sign, magnitude, bound⟩ := x
  obtain ⟨sign', magnitude', bound'⟩ := y
  simp only [Binary64.same, isZero, Bool.and_eq_true, Bool.or_eq_true, beq_iff_eq] at same
  obtain ⟨⟨_, rfl⟩, signs | zero⟩ := same
  · exact .inl (by simp [signs])
  · by_cases signs : sign = sign'
    · exact .inl (by simp [signs])
    · exact .inr ⟨zero, zero, signs⟩

theorem Atom.zeros_ne {x y : Binary64} (signs : x.negative ≠ y.negative) :
    Atom.float x ≠ Atom.float y := by
  intro same
  exact signs (congrArg Binary64.negative (Atom.float.inj same))

theorem Atom.alike_of_same {x y : Atom} (same : x.same y = true) : x.Alike y := by
  unfold Atom.same at same
  split at same
  · next x y =>
    rcases Binary64.eq_or_zeros_of_same same with rfl | ⟨zero, zero', signs⟩
    · exact .refl _
    · exact .zeros x y zero zero' signs
  · exact beq_iff_eq.mp same ▸ .refl _

end Atoms

section Texts

/-- Texts that part at some character, so that nothing after it can make them equal. -/
def Apart (text text' : String) : Prop :=
  ∃ common c c' rest rest', c ≠ c' ∧
    text.toList = common ++ c :: rest ∧ text'.toList = common ++ c' :: rest'

namespace Apart

variable {text text' : String}

theorem ne (apart : Apart text text') : text ≠ text' := by
  obtain ⟨common, c, c', rest, rest', differ, parts, parts'⟩ := apart
  rintro rfl
  rw [parts] at parts'
  simp [differ] at parts'

theorem symm (apart : Apart text text') : Apart text' text := by
  obtain ⟨common, c, c', rest, rest', differ, parts, parts'⟩ := apart
  exact ⟨common, c', c, rest', rest, differ.symm, parts', parts⟩

theorem after (before : String) (apart : Apart text text') :
    Apart (before ++ text) (before ++ text') := by
  obtain ⟨common, c, c', rest, rest', differ, parts, parts'⟩ := apart
  exact ⟨before.toList ++ common, c, c', rest, rest', differ, by simp [parts], by simp [parts']⟩

theorem before (apart : Apart text text') (next next' : String) :
    Apart (text ++ next) (text' ++ next') := by
  obtain ⟨common, c, c', rest, rest', differ, parts, parts'⟩ := apart
  exact ⟨common, c, c', rest ++ next.toList, rest' ++ next'.toList, differ, by simp [parts],
    by simp [parts']⟩

end Apart

theorem Binary64.text_zero (x : Binary64) (zero : x.magnitude = 0) :
    x.text .literal = if x.negative then "-0.0" else "0.0" := by
  obtain ⟨sign, magnitude, bound⟩ := x
  cases zero
  cases sign <;> rfl

theorem Binary64.text_zeros_apart {x y : Binary64} (zero : x.magnitude = 0) (zero' : y.magnitude = 0)
    (signs : x.negative ≠ y.negative) : Apart (x.text .literal) (y.text .literal) := by
  have apart : Apart "-0.0" "0.0" := ⟨[], '-', '0', "0.0".toList, ".0".toList, by decide, rfl, rfl⟩
  rw [x.text_zero zero, y.text_zero zero']
  cases negative : x.negative <;> cases negative' : y.negative
  · exact absurd (negative.trans negative'.symm) signs
  · exact apart.symm
  · exact apart
  · exact absurd (negative.trans negative'.symm) signs

/-- Two texts and the atoms that they show: both are the same, or the atoms differ and the texts part. -/
structure Telling (shown shown' : List Atom) (text text' : String) : Prop where
  length : shown.length = shown'.length
  outcome : shown = shown' ∧ text = text' ∨ shown ≠ shown' ∧ Apart text text'

namespace Telling

variable {shown shown' next next' : List Atom} {text text' rest rest' : String}

theorem refl (shown : List Atom) (text : String) : Telling shown shown text text :=
  ⟨rfl, .inl ⟨rfl, rfl⟩⟩

/-- As many atoms are shown before on either side, so a difference there is not made up for later. -/
theorem append (first : Telling shown shown' text text') (second : Telling next next' rest rest') :
    Telling (shown ++ next) (shown' ++ next') (text ++ rest) (text' ++ rest') := by
  refine ⟨by simp [first.length, second.length], ?_⟩
  rcases first.outcome with ⟨rfl, rfl⟩ | ⟨differ, apart⟩
  · rcases second.outcome with ⟨rfl, rfl⟩ | ⟨differ, apart⟩
    · exact .inl ⟨rfl, rfl⟩
    · exact .inr ⟨by simpa using differ, apart.after text⟩
  · refine .inr ⟨fun same => differ ?_, apart.before rest rest'⟩
    exact (List.append_inj same first.length).1

theorem eq_iff (telling : Telling shown shown' text text') : text = text' ↔ shown = shown' := by
  rcases telling.outcome with ⟨rfl, rfl⟩ | ⟨differ, apart⟩
  · simp
  · simp [differ, apart.ne]

end Telling

end Texts

section Faults

def Reason.atom? : Reason → Option Atom
  | .expectedName _ found | .expectedInteger found | .expectedFloat found => some found
  | _ => none

def RenderError.atom? : RenderError → Option Atom
  | .unhandled _ => none
  | .malformed _ reason => reason.atom?

/-- Reasons that are identical, or show different atoms in messages that part. -/
def Reason.Telling (reason reason' : Reason) : Prop :=
  reason = reason' ∨ reason.atom? ≠ reason'.atom? ∧ Apart reason.message reason'.message

def RenderError.Telling (error error' : RenderError) : Prop :=
  error = error' ∨ error.atom? ≠ error'.atom? ∧ Apart error.message error'.message

theorem Atom.described_zeros_apart {x y : Binary64} (zero : x.magnitude = 0)
    (zero' : y.magnitude = 0) (signs : x.negative ≠ y.negative) :
    Apart (Atom.float x).described (Atom.float y).described :=
  ((Binary64.text_zeros_apart zero zero' signs).after "Float(").before ")" ")"

abbrev Outline.Alike (outline outline' : Outline) : Prop :=
  List.Forall₂ (Option.Rel Atom.Alike) outline outline'

abbrev FaultsTell (fault fault' : Option Reason) : Prop := Option.Rel Reason.Telling fault fault'

theorem FaultsTell.refl (fault : Option Reason) : FaultsTell fault fault := by
  cases fault with
  | none => exact .none
  | some reason => exact .some (.inl rfl)

theorem FaultsTell.or {first first' second second' : Option Reason}
    (tell : FaultsTell first first') (tell' : FaultsTell second second') :
    FaultsTell (first.or second) (first'.or second') := by
  cases tell with
  | none => exact tell'
  | some telling => exact .some telling

/-- A message that ends in the atom it shows tells the zeros apart. -/
theorem FaultsTell.zeros (reason : Atom → Reason) (before : String)
    (shows : ∀ found, (reason found).atom? = some found ∧
      (reason found).message = before ++ found.described)
    {x y : Binary64} (zero : x.magnitude = 0) (zero' : y.magnitude = 0)
    (signs : x.negative ≠ y.negative) :
    FaultsTell (some (reason (.float x))) (some (reason (.float y))) := by
  refine .some (.inr ⟨?_, ?_⟩)
  · rw [(shows _).1, (shows _).1]
    exact fun same => Atom.zeros_ne signs (Option.some.inj same)
  · rw [(shows _).2, (shows _).2]
    exact (Atom.described_zeros_apart zero zero' signs).after before

theorem FaultsTell.malformed {fault fault' : Option Reason} (tell : FaultsTell fault fault')
    (tag : Tag) :
    Option.Rel RenderError.Telling (fault.map (.malformed tag)) (fault'.map (.malformed tag)) := by
  cases tell with
  | none => exact .none
  | some telling =>
    rcases telling with rfl | ⟨atoms, apart⟩
    · exact .some (.inl rfl)
    · exact .some (.inr ⟨atoms, apart.after _⟩)

namespace Outline

variable {outline outline' : Outline}

theorem countFault?_tell (alike : Alike outline outline') (least most : Nat) :
    FaultsTell (countFault? least most outline) (countFault? least most outline') := by
  unfold countFault?
  rw [alike.length_eq]
  exact .refl _

theorem nodeFault?_tell (alike : Alike outline outline') (index : Nat) :
    FaultsTell (nodeFault? index outline) (nodeFault? index outline') := by
  unfold nodeFault?
  have child := getElem?_rel alike index
  generalize outline[index]? = found, outline'[index]? = found' at child
  rcases child with ⟨_ | _⟩ | _ <;> exact .refl _

theorem atomFault?_tell {fault? : Atom → Option Reason} (alike : Alike outline outline') (index : Nat)
    (tell : ∀ value value' : Atom, value.Alike value' → FaultsTell (fault? value) (fault? value')) :
    FaultsTell (atomFault? fault? index outline) (atomFault? fault? index outline') := by
  unfold atomFault?
  have child := getElem?_rel alike index
  generalize outline[index]? = found, outline'[index]? = found' at child
  cases child with
  | none => exact .refl _
  | some child =>
    cases child with
    | none => exact .refl _
    | some values => exact tell _ _ values

/-- A zero is no name, and the message shows its sign. -/
theorem nameFault?_tell (index : Nat) (value value' : Atom) (alike : value.Alike value') :
    FaultsTell (nameFault? index value) (nameFault? index value') := by
  cases alike with
  | refl => exact .refl _
  | zeros x y zero zero' signs => exact .zeros _ _ (fun _ => ⟨rfl, rfl⟩) zero zero' signs

theorem integerFault?_tell (value value' : Atom) (alike : value.Alike value') :
    FaultsTell (integerFault? value) (integerFault? value') := by
  cases alike with
  | refl => exact .refl _
  | zeros x y zero zero' signs => exact .zeros _ _ (fun _ => ⟨rfl, rfl⟩) zero zero' signs

theorem floatFault?_tell (value value' : Atom) (alike : value.Alike value') :
    FaultsTell (floatFault? value) (floatFault? value') := by
  cases alike with
  | refl => exact .refl _
  | zeros x y zero zero' signs =>
    simp only [floatFault?, Atom.double?, Binary64.isFinite, zero, zero']
    exact .refl _

theorem optionalNameFault?_tell (alike : Alike outline outline') (index : Nat) :
    FaultsTell (optionalNameFault? index outline) (optionalNameFault? index outline') := by
  have present := atomFault?_tell alike index (nameFault?_tell index)
  have child := getElem?_rel alike index
  unfold optionalNameFault?
  generalize outline[index]? = found, outline'[index]? = found' at child
  cases child with
  | none => exact .refl _
  | some child =>
    cases child with
    | none => exact present
    | some values =>
      cases values with
      | zeros => exact present
      | refl =>
        rename_i value
        cases value
        case nil => exact .refl _
        all_goals exact present

theorem listFault?_tell (alike : Alike outline outline') :
    FaultsTell (listFault? outline) (listFault? outline') := by
  have gaps : outline.map Option.isSome = outline'.map Option.isSome := by
    induction alike with
    | nil => rfl
    | cons first _ ih => cases first <;> simp [ih]
  have index (outline : Outline) :
      outline.findIdx? Option.isSome = (outline.map Option.isSome).findIdx? id := by
    simp [List.findIdx?_map]
  unfold listFault?
  rw [index outline, index outline', gaps]
  exact .refl _

theorem bodyFault?_tell (alike : Alike outline outline') (policy : BeginPolicy) :
    FaultsTell (bodyFault? policy outline) (bodyFault? policy outline') := by
  unfold bodyFault?
  rw [alike.length_eq]
  split
  · exact .refl _
  · exact nodeFault?_tell alike 0
  · exact nodeFault?_tell alike 0
  · exact .refl _

end Outline

open Outline in
/-- No rule tells alike outlines apart except by what its message shows. -/
theorem Rule.fault?_tell (rule : Rule) (policy : BeginPolicy) (span : Option Span)
    {outline outline' : Outline} (alike : Outline.Alike outline outline') :
    FaultsTell (rule.fault? policy span outline) (rule.fault? policy span outline') := by
  have count (least most : Nat) := countFault?_tell alike least most
  have name := atomFault?_tell alike 0 (nameFault?_tell 0)
  have node (index : Nat) := nodeFault?_tell alike index
  cases rule
  case restarg | kwrestarg => exact (count 0 1).or (optionalNameFault?_tell alike 0)
  case optarg | kwoptarg => exact (count 2 2).or (name.or (node 1))
  case argExpr | blockPass => exact (count 1 1).or (node 0)
  case arguments | mlhs => exact listFault?_tell alike
  case begin => exact bodyFault?_tell alike policy
  case integer => exact (count 1 1).or (atomFault?_tell alike 0 integerFault?_tell)
  case float => exact (count 1 1).or (atomFault?_tell alike 0 floatFault?_tell)
  case keyword => exact count 0 0
  case source => exact .refl _
  all_goals exact (count 1 1).or name

end Faults

section Nodes

inductive Child.Alike : Child → Child → Prop
  | atom {value value' : Atom} (alike : value.Alike value') : Alike (.atom value) (.atom value')
  | node {node node' : Node} (same : node.same node' = true) : Alike (.node node) (.node node')

theorem alike_of_sameChildren : ∀ {children children' : List Child},
    sameChildren children children' = true → List.Forall₂ Child.Alike children children'
  | [], [], _ => .nil
  | .node a :: rest, .node b :: rest', same => by
    simp only [sameChildren, Bool.and_eq_true] at same
    exact .cons (.node same.1) (alike_of_sameChildren same.2)
  | .atom a :: rest, .atom b :: rest', same => by
    simp only [sameChildren, Bool.and_eq_true] at same
    exact .cons (.atom (Atom.alike_of_same same.1)) (alike_of_sameChildren same.2)
  | [], _ :: _, same | _ :: _, [], same | .node _ :: _, .atom _ :: _, same
  | .atom _ :: _, .node _ :: _, same => by simp [sameChildren] at same

theorem Node.alike_of_same {a b : Node} (same : a.same b = true) :
    a.tag = b.tag ∧ a.span = b.span ∧ List.Forall₂ Child.Alike a.children b.children := by
  cases a
  cases b
  simp only [Node.same, Bool.and_eq_true, beq_iff_eq] at same
  exact ⟨same.1.1, same.2, alike_of_sameChildren same.1.2⟩

inductive Slot.Alike : Slot Node → Slot Node → Prop
  | atom {value value' : Atom} (alike : value.Alike value') : Alike (.atom value) (.atom value')
  | node (isGroup : Bool) {node node' : Node} (same : node.same node' = true) :
    Alike (.node isGroup node) (.node isGroup node')

inductive Piece.Alike : Piece Node → Piece Node → Prop
  | text (value : String) : Alike (.text value) (.text value)
  | child {node node' : Node} (same : node.same node' = true) : Alike (.child node) (.child node')

theorem Child.Alike.slot {child child' : Child} (alike : child.Alike child') :
    Slot.Alike (child.slot id) (child'.slot id) := by
  cases alike with
  | atom alike => exact .atom alike
  | node same =>
    simp only [Child.slot, (Node.alike_of_same same).1]
    exact .node _ same

theorem Child.Alike.outline {child child' : Child} (alike : child.Alike child') :
    Option.Rel Atom.Alike child.outline child'.outline := by
  cases alike with
  | atom alike => exact .some alike
  | node same => exact .none

section Slots

variable {slot slot' : Option (Slot Node)} (alike : Option.Rel Slot.Alike slot slot')
include alike

theorem Slot.name_alike : Slot.name slot = Slot.name slot' := by
  rcases alike with ⟨⟨_ | _⟩ | _⟩ | _ <;> rfl

theorem Slot.child_alike : List.Forall₂ Piece.Alike (Slot.child slot) (Slot.child slot') := by
  rcases alike with ⟨_ | ⟨_, same⟩⟩ | _
  · exact .nil
  · exact .cons (.child same) .nil
  · exact .nil

theorem Slot.numeral_alike
    (passes : ∀ value, slot = some (.atom value) → Outline.integerFault? value = none) :
    Slot.numeral slot = Slot.numeral slot' := by
  rcases alike with ⟨⟨_ | _⟩ | _⟩ | _
  · rfl
  · cases passes _ rfl
  · rfl
  · rfl

end Slots

theorem Slot.item_alike {slot slot' : Slot Node} (alike : slot.Alike slot') :
    List.Forall₂ Piece.Alike slot.item slot'.item := by
  cases alike with
  | atom alike => exact .nil
  | node isGroup same =>
    cases isGroup with
    | false => exact .cons (.child same) .nil
    | true => exact .cons (.text _) (.cons (.child same) (.cons (.text _) .nil))

theorem items_alike {slots slots' : List (Slot Node)} (alike : List.Forall₂ Slot.Alike slots slots') :
    List.Forall₂ Piece.Alike ([.text ", "].intercalate (slots.map Slot.item))
      ([.text ", "].intercalate (slots'.map Slot.item)) := by
  cases alike with
  | nil => exact .nil
  | cons first rest =>
    simp only [List.map_cons, intercalate_cons_eq_flatMap, List.flatMap_map]
    refine List.rel_append (Slot.item_alike first) (List.rel_flatMap rest ?_)
    intro slot slot' alike
    exact .cons (.text _) (Slot.item_alike alike)

/-- Only a float writes different texts for alike atoms. -/
theorem Rule.pieces_alike (rule : Rule) (policy : BeginPolicy) (tag : Tag) (span : Option Span)
    {slots slots' : List (Slot Node)} (alike : List.Forall₂ Slot.Alike slots slots')
    (passes : rule.fault? policy span (slots.map Slot.outline) = none) (notFloat : rule ≠ .float) :
    List.Forall₂ Piece.Alike (rule.pieces tag span slots) (rule.pieces tag span slots') := by
  have name := Slot.name_alike (getElem?_rel alike 0)
  have child (index : Nat) := Slot.child_alike (getElem?_rel alike index)
  have text (value : String) : List.Forall₂ Piece.Alike [.text value] [.text value] :=
    .cons (.text value) .nil
  cases rule
  case arguments | mlhs => exact items_alike alike
  case optarg | kwoptarg =>
    simp only [Rule.pieces, name]
    exact .cons (.text _) (child 1)
  case argExpr => exact .cons (.text _) (List.rel_append (child 0) (text _))
  case blockPass => exact .cons (.text _) (child 0)
  case begin => exact child 0
  case float => exact absurd rfl notFloat
  case keyword | source => exact text _
  case integer =>
    have numeral := Slot.numeral_alike (getElem?_rel alike 0) <| by
      intro value found
      have passes := (Option.or_eq_none_iff.mp passes).2
      simpa [Outline.atomFault?, found, Slot.outline] using passes
    simp only [Rule.pieces, numeral]
    exact text _
  all_goals
    simp only [Rule.pieces, name]
    exact text _

end Nodes

section Run

variable (setting : Setting)

def Node.number? (node : Node) : Option Atom :=
  match setting.resolve? node.tag node.span with
  | some .float => node.children[0]?.bind Child.outline
  | _ => none

/-- The numbers that are written as floats, in the order of the visit. -/
def Node.numbers (node : Node) : List Atom :=
  (node.visitOrder setting).filterMap (Node.number? setting)

/-- What a rendering shows of the atoms that equality does not fix: in the text, the floats, and in an
error, the atom that was found. -/
def Node.shownAtoms (node : Node) : List Atom :=
  match (node.visitOrder setting).findSome? (Node.fault? setting) with
  | some error => error.atom?.toList
  | none => node.numbers setting

variable {a b : Node}

theorem Node.outline_alike (same : a.same b = true) :
    Outline.Alike (a.children.map Child.outline) (b.children.map Child.outline) :=
  List.rel_map (R := Child.Alike) (fun _ _ alike => alike.outline) (alike_of_same same).2.2

theorem Node.fault?_tell (same : a.same b = true) :
    Option.Rel RenderError.Telling (a.fault? setting) (b.fault? setting) := by
  obtain ⟨tags, spans, _⟩ := alike_of_same same
  unfold Node.fault? Setting.fault?
  rw [tags, spans]
  split
  · exact .some (.inl rfl)
  · exact (Rule.fault?_tell _ _ _ (outline_alike same)).malformed b.tag

theorem Node.pieces_alike (same : a.same b = true) (passes : a.fault? setting = none)
    (notFloat : setting.resolve? a.tag a.span ≠ some .float) :
    List.Forall₂ Piece.Alike (a.pieces setting) (b.pieces setting) := by
  obtain ⟨tags, spans, children⟩ := alike_of_same same
  have slots : List.Forall₂ Slot.Alike (a.children.map (Child.slot id)) (b.children.map (Child.slot id)) :=
    List.rel_map (R := Child.Alike) (fun _ _ alike => alike.slot) children
  have outlines : Slot.outline ∘ Child.slot id = Child.outline := by
    funext child
    cases child <;> rfl
  unfold Node.fault? Setting.fault? at passes
  unfold Node.pieces Setting.pieces
  rw [← tags, ← spans]
  cases resolved : setting.resolve? a.tag a.span with
  | none => exact .nil
  | some rule =>
    simp only [resolved, Option.map_eq_none_iff] at passes
    refine rule.pieces_alike setting.config.beginPolicy _ _ slots ?_ ?_
    · rwa [List.map_map, outlines]
    · rintro rfl
      exact notFloat resolved

theorem Node.pieces_float (node : Node) (float : setting.resolve? node.tag node.span = some .float) :
    node.pieces setting = [.text (Slot.double (node.children.map (Child.slot id))[0]?)] := by
  simp [Node.pieces, Setting.pieces, float, Rule.pieces]

theorem Node.visited_alike (same : a.same b = true) (passes : a.fault? setting = none) :
    List.Forall₂ (fun x y => x.same y = true) (a.visited setting) (b.visited setting) := by
  obtain ⟨tags, spans, _⟩ := alike_of_same same
  unfold Node.visited
  by_cases float : setting.resolve? a.tag a.span = some .float
  · rw [pieces_float setting a float, pieces_float setting b (by rwa [← tags, ← spans])]
    exact .nil
  · refine List.rel_filterMap ?_ (pieces_alike setting same passes float)
    rintro _ _ (_ | same)
    · exact .none
    · exact .some same

/-- Equal trees are visited in step: nothing fails in either, or the first faults tell. -/
theorem Node.firstFault_tell (same : a.same b = true) :
    Option.Rel RenderError.Telling ((a.visitOrder setting).findSome? (Node.fault? setting))
      ((b.visitOrder setting).findSome? (Node.fault? setting)) := by
  induction a using Node.induction generalizing b with
  | step a ih =>
    have own := Node.fault?_tell setting same
    rw [Node.visitOrder_eq, Node.visitOrder_eq, List.findSome?_cons, List.findSome?_cons]
    cases fault : a.fault? setting with
    | some error =>
      rw [fault] at own
      generalize b.fault? setting = fault' at own
      cases own with
      | some telling => exact .some telling
    | none =>
      have visited := Node.visited_alike setting same fault
      rw [fault] at own
      generalize b.fault? setting = fault' at own
      cases own with
      | none =>
        simp only [findSome?_flatMap]
        exact findSome?_rel visited fun child member other same =>
          ih child (Node.mem_children_of_mem_visited member) same

theorem Node.numbers_eq (node : Node) (passes : node.fault? setting = none) :
    node.numbers setting =
      (node.number? setting).toList ++ (node.visited setting).flatMap (Node.numbers setting) := by
  have own : [node].filterMap (Node.number? setting) = (node.number? setting).toList := by
    cases number : node.number? setting <;> simp [number]
  unfold Node.numbers
  rw [Node.visitOrder_eq, passes, ← List.singleton_append, List.filterMap_append, own,
    List.filterMap_flatMap]

theorem Child.double_tell {child child' : Option Child} (alike : Option.Rel Child.Alike child child') :
    Telling (child.bind Child.outline).toList (child'.bind Child.outline).toList
      (Slot.double (child.map (Child.slot id))) (Slot.double (child'.map (Child.slot id))) := by
  rcases alike with ⟨⟨_ | ⟨x, y, zero, zero', signs⟩⟩ | _⟩ | _
  · exact .refl _ _
  · refine ⟨rfl, .inr ⟨?_, Binary64.text_zeros_apart zero zero' signs⟩⟩
    simpa [Child.outline] using Atom.zeros_ne signs
  · exact .refl _ _
  · exact .refl _ _

/-- Texts around children that tell make a text that tells. -/
theorem Piece.join_tell {pieces pieces' : List (Piece Node)}
    (alike : List.Forall₂ Piece.Alike pieces pieces')
    (each : ∀ x ∈ pieces.filterMap Piece.content?, ∀ y : Node, x.same y = true →
      Telling (x.numbers setting) (y.numbers setting) (x.print setting) (y.print setting)) :
    Telling ((pieces.filterMap Piece.content?).flatMap (Node.numbers setting))
      ((pieces'.filterMap Piece.content?).flatMap (Node.numbers setting))
      (Piece.join (pieces.map (Piece.map (Node.print setting))))
      (Piece.join (pieces'.map (Piece.map (Node.print setting)))) := by
  induction alike with
  | nil => exact .refl _ _
  | cons first _ ih =>
    cases first with
    | text value => exact (Telling.refl [] value).append (ih each)
    | @child x y same =>
      have rest := ih fun z member => each z (by simp [member])
      exact (each x (by simp) y same).append rest

theorem Node.print_tell (same : a.same b = true)
    (passes : ∀ node ∈ a.visitOrder setting, node.fault? setting = none) :
    Telling (a.numbers setting) (b.numbers setting) (a.print setting) (b.print setting) := by
  induction a using Node.induction generalizing b with
  | step a ih =>
    obtain ⟨tags, spans, children⟩ := Node.alike_of_same same
    have own : a.fault? setting = none := passes a (by simp [Node.visitOrder_eq])
    have own' : b.fault? setting = none := by
      have tell := Node.fault?_tell setting same
      rw [own] at tell
      generalize b.fault? setting = fault at tell
      cases tell
      rfl
    rw [Node.numbers_eq setting a own, Node.numbers_eq setting b own', Node.print_eq, Node.print_eq]
    by_cases float : setting.resolve? a.tag a.span = some .float
    · have float' : setting.resolve? b.tag b.span = some .float := by rwa [← tags, ← spans]
      simpa [Node.number?, Node.visited, Node.pieces_float, float, float', Piece.map, Piece.join,
        List.filterMap_cons] using Child.double_tell (getElem?_rel children 0)
    · have silent : a.number? setting = none := by
        unfold Node.number?
        split <;> simp_all
      have silent' : b.number? setting = none := by
        unfold Node.number?
        rw [← tags, ← spans]
        split <;> simp_all
      rw [silent, silent']
      refine Piece.join_tell setting (Node.pieces_alike setting same own float) ?_
      intro child member other same
      refine ih child (Node.mem_children_of_mem_visited member) same ?_
      intro node visited
      apply passes
      rw [Node.visitOrder_eq, own]
      exact List.mem_cons_of_mem _ (List.mem_flatMap.mpr ⟨child, member, visited⟩)

end Run

/-- Equal trees both have a text or both have none. What they give is the same, the message of an error
included, exactly if it shows the same atoms: equality leaves the signs of zeros open and nothing
else. -/
theorem equal_trees_render_alike_iff (setting : Setting) (a b : Node) (same : a.same b = true) :
    (a.renderWith setting).isOk = (b.renderWith setting).isOk ∧
    (a.renderWith setting = b.renderWith setting ↔
      a.shownAtoms setting = b.shownAtoms setting) ∧
    ((a.renderWith setting).mapError RenderError.message =
        (b.renderWith setting).mapError RenderError.message ↔
      a.shownAtoms setting = b.shownAtoms setting) := by
  have faults := Node.firstFault_tell setting same
  have texts (passes : (a.visitOrder setting).findSome? (Node.fault? setting) = none) :=
    Node.print_tell setting same (List.findSome?_eq_none_iff.mp passes)
  rw [Node.renderWith_eq, Node.renderWith_eq]
  unfold Node.shownAtoms
  generalize (a.visitOrder setting).findSome? (Node.fault? setting) = fault,
    (b.visitOrder setting).findSome? (Node.fault? setting) = fault' at faults texts
  cases faults with
  | none => simp [Except.mapError, Except.isOk, Except.toBool, (texts rfl).eq_iff]
  | @some error error' telling =>
    rcases telling with rfl | ⟨atoms, apart⟩
    · simp
    · have errors : error ≠ error' := fun same => atoms (congrArg RenderError.atom? same)
      have lists : error.atom?.toList ≠ error'.atom?.toList :=
        fun same => atoms (by simpa using congrArg List.head? same)
      simp [Except.mapError, Except.isOk, Except.toBool, errors, lists, apart.ne]

/-- Under the lenient policy nothing but the first body is written, so the sign of a zero in another
does not count, and the sign of one in the first does. -/
theorem hidden_zero_renders_alike :
    let float (negative : Bool) : Node :=
      ⟨.known .float, [.atom (.float ⟨negative, 0, by decide⟩)], none⟩
    let body (first second : Bool) : Node :=
      ⟨.known .begin, [.node (float first), .node (float second)], none⟩
    let lenient : Setting := { config := { beginPolicy := .firstChild } }
    (body true false).same (body true true) = true ∧
      (body true false).renderWith lenient = (body true true).renderWith lenient ∧
      (body true false).same (body false false) = true ∧
      (body true false).renderWith lenient ≠ (body false false).renderWith lenient := by
  intro float body lenient
  have shown (sign sign' : Bool) :
      (body sign sign').shownAtoms lenient = [.float ⟨sign, 0, by decide⟩] := by
    cases sign <;> cases sign' <;> rfl
  refine ⟨by rfl, ?_, by rfl, ?_⟩
  · rw [(equal_trees_render_alike_iff lenient _ _ (by rfl)).2.1, shown, shown]
  · rw [ne_eq, (equal_trees_render_alike_iff lenient _ _ (by rfl)).2.1, shown, shown]
    decide

/-- The two zeros are equal as numbers, and their literals differ. -/
theorem equal_zeros_render_differently :
    ∃ a b : Node, a.same b = true ∧ a.render = .ok "0.0" ∧ b.render = .ok "-0.0" := by
  refine ⟨⟨.known .float, [.atom (.float ⟨false, 0, by decide⟩)], none⟩,
    ⟨.known .float, [.atom (.float ⟨true, 0, by decide⟩)], none⟩, ?_, ?_, ?_⟩ <;> rfl

end RubyTree
