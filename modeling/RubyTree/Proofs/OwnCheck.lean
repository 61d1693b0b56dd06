import RubyTree.Proofs.Lists
import RubyTree.Render

/-!
What a rule asks of a node and what it writes, apart from each other. The check sees the node's span,
its atoms and where its child nodes stand, and nothing of these nodes. A node that passes is written as
a fixed sequence of texts and children.
-/

namespace RubyTree

variable {α β : Type}

/-- The double that a number is written as when it stands for a float. -/
def Atom.double? : Atom → Option Binary64
  | .float value => some value
  | .integer value => some (.ofInt value.toInt)
  | _ => none

/-- What a check sees of a node's children: the atoms, and a gap for every node. -/
abbrev Outline := List (Option Atom)

namespace Outline

def countFault? (least most : Nat) (outline : Outline) : Option Reason :=
  if least ≤ outline.length ∧ outline.length ≤ most then none
  else some (.childCount least most outline.length)

def nodeFault? (index : Nat) (outline : Outline) : Option Reason :=
  match outline[index]? with
  | none => some (.missingChild index)
  | some (some _) => some (.expectedNode index)
  | some none => none

/-- The fault of the child at `index` if it has to be an atom without a fault of its own. -/
def atomFault? (fault? : Atom → Option Reason) (index : Nat) (outline : Outline) : Option Reason :=
  match outline[index]? with
  | none => some (.missingChild index)
  | some none => some (.expectedAtom index)
  | some (some value) => fault? value

def nameFault? (index : Nat) : Atom → Option Reason
  | .symbol _ | .str _ => none
  | found => some (.expectedName index found)

def integerFault? : Atom → Option Reason
  | .integer _ | .bigInteger _ => none
  | found => some (.expectedInteger found)

def floatFault? (found : Atom) : Option Reason :=
  match found.double? with
  | some value => if value.isFinite then none else some .nonFinite
  | none => some (.expectedFloat found)

/-- A missing child, or nil in its place, is fine. -/
def optionalNameFault? (index : Nat) (outline : Outline) : Option Reason :=
  match outline[index]? with
  | none | some (some .nil) => none
  | some _ => atomFault? (nameFault? index) index outline

def listFault? (outline : Outline) : Option Reason :=
  (outline.findIdx? Option.isSome).map .expectedNode

def bodyFault? (policy : BeginPolicy) (outline : Outline) : Option Reason :=
  match outline.length, policy with
  | 0, _ => some .noBody
  | 1, _ | _, .firstChild => nodeFault? 0 outline
  | count, .strict => some (.severalBodies count)

def sourceFault? : Option Span → Option Reason
  | none => some .noSpan
  | some span => if span.text?.isSome then none else some (.outsideBuffer span)

end Outline

open Outline in
/-- What is wrong with a node under a rule, if its own type, span, atoms and child positions are not as
the rule asks. -/
def Rule.fault? (rule : Rule) (policy : BeginPolicy) (span : Option Span) (outline : Outline) :
    Option Reason :=
  match rule with
  | .argument | .variable | .blockarg | .kwarg | .str | .symbol =>
    (countFault? 1 1 outline).or (atomFault? (nameFault? 0) 0 outline)
  | .restarg | .kwrestarg => (countFault? 0 1 outline).or (optionalNameFault? 0 outline)
  | .optarg | .kwoptarg =>
    (countFault? 2 2 outline).or
      ((atomFault? (nameFault? 0) 0 outline).or (nodeFault? 1 outline))
  | .argExpr | .blockPass => (countFault? 1 1 outline).or (nodeFault? 0 outline)
  | .arguments | .mlhs => listFault? outline
  | .begin => bodyFault? policy outline
  | .integer => (countFault? 1 1 outline).or (atomFault? integerFault? 0 outline)
  | .float => (countFault? 1 1 outline).or (atomFault? floatFault? 0 outline)
  | .keyword => countFault? 0 0 outline
  | .source => sourceFault? span

/-- The children that a node visits under a rule, in order. -/
def Rule.visits (rule : Rule) (children : List α) : List α :=
  match rule with
  | .arguments | .mlhs => children
  | .optarg | .kwoptarg => (children.drop 1).take 1
  | .argExpr | .blockPass | .begin => children.take 1
  | _ => []

namespace Slot

def outline : Slot α → Option Atom
  | .atom value => some value
  | .node _ _ => none

def name : Option (Slot α) → String
  | some (.atom (.symbol name)) => name
  | some (.atom (.str text)) => text
  | _ => ""

def numeral : Option (Slot α) → String
  | some (.atom value) => value.text
  | _ => ""

def double : Option (Slot α) → String
  | some (.atom value) => (value.double?.map (Binary64.text .literal)).getD ""
  | _ => ""

def child : Option (Slot α) → List (Piece α)
  | some (.node _ content) => [.child content]
  | _ => []

/-- An item of a list, with groups in parentheses. -/
def item : Slot α → List (Piece α)
  | .node true content => [.text "(", .child content, .text ")"]
  | .node false content => [.child content]
  | .atom _ => []

end Slot

/-- What a node that passes its check is made of. -/
def Rule.pieces (rule : Rule) (tag : Tag) (span : Option Span) (slots : List (Slot α)) :
    List (Piece α) :=
  match rule with
  | .argument | .variable => [.text (Slot.name slots[0]?)]
  | .blockarg => [.text ("&" ++ Slot.name slots[0]?)]
  | .kwarg => [.text (Slot.name slots[0]? ++ ":")]
  | .restarg => [.text ("*" ++ Slot.name slots[0]?)]
  | .kwrestarg => [.text ("**" ++ Slot.name slots[0]?)]
  | .optarg => .text (Slot.name slots[0]? ++ " = ") :: Slot.child slots[1]?
  | .kwoptarg => .text (Slot.name slots[0]? ++ ": ") :: Slot.child slots[1]?
  | .argExpr => .text "(" :: Slot.child slots[0]? ++ [.text ")"]
  | .blockPass => .text "&" :: Slot.child slots[0]?
  | .begin => Slot.child slots[0]?
  | .arguments | .mlhs => [.text ", "].intercalate (slots.map Slot.item)
  | .integer => [.text (Slot.numeral slots[0]?)]
  | .float => [.text (Slot.double slots[0]?)]
  | .str => [.text (Text.quoted (Slot.name slots[0]?))]
  | .symbol => [.text (Text.symbolLiteral (Slot.name slots[0]?))]
  | .keyword => [.text tag.name]
  | .source => [.text ((span.bind Span.text?).getD "")]

def checked (fault : Option Reason) (value : α) : Except Reason α :=
  match fault with
  | some reason => .error reason
  | none => .ok value

@[simp] theorem checked_none (value : α) : checked none value = .ok value := rfl

@[simp] theorem checked_some (reason : Reason) (value : α) :
    checked (some reason) value = .error reason := rfl

theorem pure_eq_checked (value : α) : (pure value : Except Reason α) = checked none value := rfl

theorem checked_bind (first : Option Reason) (second : α → Option Reason) (value : α) (f : α → β) :
    (checked first value >>= fun x => checked (second x) (f x)) =
      checked (first.or (second value)) (f value) := by
  cases first <;> rfl

section Accessors

variable (slots : List (Slot α))

theorem checkCount_eq_checked (least most : Nat) :
    Slot.checkCount slots least most =
      checked (Outline.countFault? least most (slots.map Slot.outline)) () := by
  simp only [Slot.checkCount, Outline.countFault?, List.length_map, Bool.or_eq_true, decide_eq_true_eq]
  by_cases inside : least ≤ slots.length ∧ slots.length ≤ most
  · rw [if_neg (by omega), if_pos inside]
    rfl
  · rw [if_pos (by omega), if_neg inside]
    rfl

theorem nameAt_eq_checked (index : Nat) :
    Slot.nameAt slots index =
      checked (Outline.atomFault? (Outline.nameFault? index) index (slots.map Slot.outline))
        (Slot.name slots[index]?) := by
  simp only [Slot.nameAt, Slot.atomAt, Outline.atomFault?, List.getElem?_map]
  rcases slots[index]? with _ | value | _
  · rfl
  · cases value <;> rfl
  · rfl

theorem optionalNameAt_eq_checked (index : Nat) :
    Slot.optionalNameAt slots index =
      checked (Outline.optionalNameFault? index (slots.map Slot.outline))
        (Slot.name slots[index]?) := by
  simp only [Slot.optionalNameAt, Outline.optionalNameFault?, nameAt_eq_checked, Outline.atomFault?,
    List.getElem?_map]
  rcases slots[index]? with _ | value | _
  · rfl
  · cases value <;> rfl
  · rfl

/-- Whatever a rule writes around a child node, it fails exactly if there is no node. -/
theorem nodeAt_bind_eq_checked (index : Nat) (around : List (Piece α) → List (Piece α)) :
    (Slot.nodeAt slots index >>= fun content => pure (around [.child content])) =
      checked (Outline.nodeFault? index (slots.map Slot.outline)) (around (Slot.child slots[index]?)) := by
  simp only [Slot.nodeAt, Outline.nodeFault?, List.getElem?_map]
  rcases slots[index]? with _ | _ | _ <;> rfl

end Accessors

namespace Piece

variable (slots : List (Slot α))

theorem name_eq_checked (before after : String) :
    name before after slots =
      checked ((Outline.countFault? 1 1 (slots.map Slot.outline)).or
          (Outline.atomFault? (Outline.nameFault? 0) 0 (slots.map Slot.outline)))
        [.text (before ++ Slot.name slots[0]? ++ after)] := by
  simp only [name, checkCount_eq_checked, nameAt_eq_checked, pure_eq_checked, checked_bind,
    Option.or_none]

theorem literal_eq_checked (write : String → String) :
    literal write slots =
      checked ((Outline.countFault? 1 1 (slots.map Slot.outline)).or
          (Outline.atomFault? (Outline.nameFault? 0) 0 (slots.map Slot.outline)))
        [.text (write (Slot.name slots[0]?))] := by
  simp only [literal, checkCount_eq_checked, nameAt_eq_checked, pure_eq_checked, checked_bind,
    Option.or_none]

theorem splat_eq_checked (mark : String) :
    splat mark slots =
      checked ((Outline.countFault? 0 1 (slots.map Slot.outline)).or
          (Outline.optionalNameFault? 0 (slots.map Slot.outline)))
        [.text (mark ++ Slot.name slots[0]?)] := by
  simp only [splat, checkCount_eq_checked, optionalNameAt_eq_checked, pure_eq_checked, checked_bind,
    Option.or_none]

theorem defaulted_eq_checked (between : String) :
    defaulted between slots =
      checked ((Outline.countFault? 2 2 (slots.map Slot.outline)).or
          ((Outline.atomFault? (Outline.nameFault? 0) 0 (slots.map Slot.outline)).or
            (Outline.nodeFault? 1 (slots.map Slot.outline))))
        (.text (Slot.name slots[0]? ++ between) :: Slot.child slots[1]?) := by
  have value (name : String) := nodeAt_bind_eq_checked slots 1 (.text (name ++ between) :: ·)
  simp only [defaulted, checkCount_eq_checked, nameAt_eq_checked, value, checked_bind]

theorem wrapped_eq_checked (before after : List (Piece α)) :
    wrapped before after slots =
      checked ((Outline.countFault? 1 1 (slots.map Slot.outline)).or
          (Outline.nodeFault? 0 (slots.map Slot.outline)))
        (before ++ Slot.child slots[0]? ++ after) := by
  have value := nodeAt_bind_eq_checked slots 0 (before ++ · ++ after)
  simp only [wrapped, checkCount_eq_checked, value, checked_bind]

theorem body_eq_checked (policy : BeginPolicy) :
    body policy slots =
      checked (Outline.bodyFault? policy (slots.map Slot.outline)) (Slot.child slots[0]?) := by
  have value := nodeAt_bind_eq_checked slots 0 id
  simp only [id_eq] at value
  simp only [body, value, Outline.bodyFault?, List.length_map]
  rcases slots with _ | ⟨first, _ | ⟨second, rest⟩⟩
  · rfl
  · rfl
  · cases policy <;> simp

theorem integer_eq_checked :
    integer slots =
      checked ((Outline.countFault? 1 1 (slots.map Slot.outline)).or
          (Outline.atomFault? Outline.integerFault? 0 (slots.map Slot.outline)))
        [.text (Slot.numeral slots[0]?)] := by
  simp only [integer, checkCount_eq_checked, Slot.atomAt, Outline.atomFault?, List.getElem?_map]
  cases Outline.countFault? 1 1 (slots.map Slot.outline) with
  | some reason => rfl
  | none =>
    rcases slots[0]? with _ | value | _
    · rfl
    · cases value <;> rfl
    · rfl

/-- What is done with the double is kept abstract, so that nothing computes it. -/
theorem double_bind (found : Atom) (next : Binary64 → Except Reason β) :
    (do
      let value ← match found with
        | .float value => .ok value
        | .integer value => .ok (Binary64.ofInt value.toInt)
        | found => .error (.expectedFloat found)
      next value) =
    match found.double? with
    | some value => next value
    | none => .error (.expectedFloat found) := by
  cases found <;> rfl

theorem float_eq_checked :
    float slots =
      checked ((Outline.countFault? 1 1 (slots.map Slot.outline)).or
          (Outline.atomFault? Outline.floatFault? 0 (slots.map Slot.outline)))
        [.text (Slot.double slots[0]?)] := by
  simp only [float, checkCount_eq_checked, Slot.atomAt, Outline.atomFault?, List.getElem?_map]
  cases Outline.countFault? 1 1 (slots.map Slot.outline) with
  | some reason => rfl
  | none =>
    rcases slots[0]? with _ | value | _
    · rfl
    · refine (double_bind value fun x =>
        if x.isFinite then pure [Piece.text (x.text .literal)] else .error .nonFinite).trans ?_
      simp only [Option.map_some, Slot.outline, Outline.floatFault?, Slot.double]
      cases value.double? with
      | none => rfl
      | some x => cases finite : x.isFinite <;> simp [finite, pure, Except.pure]
    · rfl

theorem keyword_eq_checked (tag : Tag) :
    keyword tag slots =
      checked (Outline.countFault? 0 0 (slots.map Slot.outline)) [.text tag.name] := by
  simp only [keyword, checkCount_eq_checked, pure_eq_checked, checked_bind, Option.or_none]

theorem source_eq_checked (span : Option Span) :
    source span =
      checked (Outline.sourceFault? span)
        ([.text ((span.bind Span.text?).getD "")] : List (Piece α)) := by
  rcases span with _ | span
  · rfl
  · simp only [source, Outline.sourceFault?, Option.bind_some]
    rcases span.text? with _ | _ <;> rfl

/-- From any place on, a separator precedes every item except at the start of the list. -/
theorem listFrom_eq_checked (index : Nat) :
    listFrom index slots =
      checked (((slots.map Slot.outline).findIdx? Option.isSome).map (.expectedNode <| index + ·))
        (if index = 0 then [.text ", "].intercalate (slots.map Slot.item)
          else slots.flatMap ([.text ", "] ++ ·.item)) := by
  induction slots generalizing index with
  | nil => cases index <;> rfl
  | cons slot rest ih =>
    cases slot with
    | atom value => rfl
    | node isGroup content =>
      have shift (first : Nat) : index + 1 + first = index + (first + 1) := by omega
      have item : (if isGroup then [.text "(", .child content, .text ")"] else [.child content]) =
          (Slot.node isGroup content).item := by
        cases isGroup <;> rfl
      simp only [listFrom, ih, pure_eq_checked, checked_bind, Option.or_none, item]
      congr 1
      · simp [Slot.outline, List.findIdx?_cons, shift, Function.comp_def]
      · cases index with
        | zero => simp [separator, intercalate_cons_eq_flatMap, List.flatMap_map]
        | succ index => simp [separator]

end Piece

/-- Laying out a node is checking it and then, if it passes, putting its pieces together. -/
theorem Rule.arrange_eq_checked (rule : Rule) (policy : BeginPolicy) (tag : Tag)
    (span : Option Span) (slots : List (Slot α)) :
    rule.arrange policy tag span slots =
      checked (rule.fault? policy span (slots.map Slot.outline)) (rule.pieces tag span slots) := by
  cases rule
  case arguments | mlhs =>
    simpa [Rule.arrange, Rule.fault?, Rule.pieces, Outline.listFault?] using Piece.listFrom_eq_checked slots 0
  all_goals simp [Rule.arrange, Rule.fault?, Rule.pieces, Piece.name_eq_checked,
    Piece.literal_eq_checked, Piece.splat_eq_checked, Piece.defaulted_eq_checked,
    Piece.wrapped_eq_checked, Piece.body_eq_checked, Piece.integer_eq_checked,
    Piece.float_eq_checked, Piece.keyword_eq_checked, Piece.source_eq_checked]

namespace Setting

section Resolution

variable {setting : Setting} {tag : Tag} {rule : Rule}

theorem resolve?_registered (registered : setting.book.lookup? tag = some rule) (span : Option Span) :
    setting.resolve? tag span = some rule := by
  simp only [resolve?, registered]

theorem resolve?_unregistered (unregistered : setting.book.lookup? tag = none) (span : Option Span) :
    setting.resolve? tag span =
      if setting.config.sourceFallback && span.isSome then some .source else none := by
  simp only [resolve?, unregistered]

theorem resolve?_builtin (builtin : setting.book = .builtin) (kind : Kind) (span : Option Span) :
    setting.resolve? (.known kind) span = some (.ofKind kind) := by
  apply resolve?_registered
  rw [builtin]
  cases kind <;> rfl

/-- Only the rule that copies the source can come from anywhere but the book. -/
theorem lookup?_of_resolve? {span : Option Span} (resolved : setting.resolve? tag span = some rule)
    (written : rule ≠ .source) : setting.book.lookup? tag = some rule := by
  cases registered : setting.book.lookup? tag with
  | some entry => rwa [resolve?_registered registered] at resolved
  | none =>
    rw [resolve?_unregistered registered] at resolved
    split at resolved
    · exact absurd (Option.some.inj resolved).symm written
    · cases resolved

end Resolution

/-- What is wrong with a node itself: no rule, or not what its rule asks for. -/
def fault? (setting : Setting) (tag : Tag) (span : Option Span) (outline : Outline) :
    Option RenderError :=
  match setting.resolve? tag span with
  | none => some (.unhandled tag)
  | some rule => (rule.fault? setting.config.beginPolicy span outline).map (.malformed tag)

def visits (setting : Setting) (tag : Tag) (span : Option Span) (children : List α) : List α :=
  match setting.resolve? tag span with
  | none => []
  | some rule => rule.visits children

def pieces (setting : Setting) (tag : Tag) (span : Option Span) (slots : List (Slot α)) :
    List (Piece α) :=
  match setting.resolve? tag span with
  | none => []
  | some rule => rule.pieces tag span slots

theorem arrange_eq (setting : Setting) (tag : Tag) (span : Option Span) (slots : List (Slot α)) :
    setting.arrange tag span slots =
      match setting.fault? tag span (slots.map Slot.outline) with
      | some error => .error error
      | none => .ok (setting.pieces tag span slots) := by
  unfold arrange fault? pieces
  cases setting.resolve? tag span with
  | none => rfl
  | some rule =>
    simp only [Rule.arrange_eq_checked]
    cases rule.fault? setting.config.beginPolicy span (slots.map Slot.outline) <;> rfl

theorem fault?_tag (setting : Setting) (tag : Tag) (span : Option Span) (outline : Outline)
    (error : RenderError) (fault : setting.fault? tag span outline = some error) :
    error.tag = tag := by
  unfold fault? at fault
  split at fault
  · cases fault; rfl
  · obtain ⟨reason, _, rfl⟩ := Option.map_eq_some_iff.mp fault
    rfl

end Setting

section Contents

def Slot.content? : Slot α → Option α
  | .atom _ => none
  | .node _ content => some content

def Piece.content? : Piece α → Option α
  | .text _ => none
  | .child content => some content

@[simp] theorem Piece.content?_text (value : String) : (Piece.text value : Piece α).content? = none := rfl

@[simp] theorem Piece.content?_child (content : α) : (Piece.child content).content? = some content := rfl

theorem Slot.contents_item (slot : Slot α) :
    slot.item.filterMap Piece.content? = slot.content?.toList := by
  rcases slot with _ | ⟨_ | _, _⟩ <;> rfl

theorem contents_separated (slots : List (Slot α)) :
    ((slots.map Slot.item).flatMap ([.text ", "] ++ ·)).filterMap Piece.content? =
      slots.filterMap Slot.content? := by
  induction slots with
  | nil => rfl
  | cons first rest ih =>
    rw [List.map_cons, List.flatMap_cons, List.filterMap_append, ih, List.filterMap_append,
      Slot.contents_item]
    rcases first with _ | _ <;> rfl

theorem contents_items (slots : List (Slot α)) :
    ([.text ", "].intercalate (slots.map Slot.item)).filterMap Piece.content? =
      slots.filterMap Slot.content? := by
  cases slots with
  | nil => rfl
  | cons first rest =>
    rw [List.map_cons, intercalate_cons_eq_flatMap, List.filterMap_append,
      contents_separated, Slot.contents_item]
    rcases first with _ | _ <;> rfl

/-- The children that a node has among its pieces are those that its rule visits. -/
theorem Rule.contents_pieces (rule : Rule) (tag : Tag) (span : Option Span)
    (slots : List (Slot α)) :
    (rule.pieces tag span slots).filterMap Piece.content? =
      (rule.visits slots).filterMap Slot.content? := by
  cases rule
  case arguments | mlhs => exact contents_items slots
  case optarg | kwoptarg =>
    rcases slots with _ | ⟨_, _ | ⟨_ | _, _⟩⟩ <;> rfl
  case argExpr | blockPass | begin =>
    rcases slots with _ | ⟨_ | _, _⟩ <;> rfl
  all_goals rfl

def Slot.map (f : α → β) : Slot α → Slot β
  | .atom value => .atom value
  | .node isGroup content => .node isGroup (f content)

def Piece.map (f : α → β) : Piece α → Piece β
  | .text value => .text value
  | .child content => .child (f content)

variable (f : α → β)

theorem Slot.name_map (slot : Option (Slot α)) : Slot.name (slot.map (Slot.map f)) = Slot.name slot := by
  rcases slot with _ | value | _
  · rfl
  · cases value <;> rfl
  · rfl

theorem Slot.numeral_map (slot : Option (Slot α)) :
    Slot.numeral (slot.map (Slot.map f)) = Slot.numeral slot := by
  rcases slot with _ | _ | _ <;> rfl

theorem Slot.double_map (slot : Option (Slot α)) :
    Slot.double (slot.map (Slot.map f)) = Slot.double slot := by
  rcases slot with _ | _ | _ <;> rfl

theorem Slot.child_map (slot : Option (Slot α)) :
    Slot.child (slot.map (Slot.map f)) = (Slot.child slot).map (Piece.map f) := by
  rcases slot with _ | _ | _ <;> rfl

theorem Slot.item_map (slot : Slot α) : (slot.map f).item = slot.item.map (Piece.map f) := by
  rcases slot with _ | ⟨_ | _, _⟩ <;> rfl

theorem items_map (slots : List (Slot α)) :
    [.text ", "].intercalate ((slots.map (Slot.map f)).map Slot.item) =
      ([.text ", "].intercalate (slots.map Slot.item)).map (Piece.map f) := by
  cases slots with
  | nil => rfl
  | cons first rest =>
    simp only [List.map_cons, intercalate_cons_eq_flatMap, List.map_append, List.map_flatMap,
      List.flatMap_map, Slot.item_map]
    rfl

/-- Every rule treats what stands for a child as opaque. -/
theorem Rule.pieces_map (rule : Rule) (tag : Tag) (span : Option Span) (slots : List (Slot α)) :
    rule.pieces tag span (slots.map (Slot.map f)) =
      (rule.pieces tag span slots).map (Piece.map f) := by
  cases rule
  case arguments | mlhs => exact items_map f slots
  all_goals simp [Rule.pieces, Slot.name_map, Slot.numeral_map, Slot.double_map, Slot.child_map, Piece.map]

end Contents

end RubyTree
