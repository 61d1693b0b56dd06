import Mathlib
import RubyTree.Build
import RubyTree.Proofs.FloatLiterals
import RubyTree.Proofs.Literals

/-!
The commas and parentheses of a text. Where neither the atoms of a tree nor the source that is copied bring
in any, those that are written come from the lists and the wrapped groups alone. Each rule writes its
parentheses around a whole child, so they are balanced, and it writes a comma only between two items of a
list and never without a space behind it.
-/

namespace RubyTree

section Marks

/-- Neither a comma nor a parenthesis. -/
def Unmarked (text : List Char) : Prop := ∀ c ∈ text, c ∉ ['(', ')', ',']

/-- Every comma has a space behind it. -/
def Spaced (text : List Char) : Prop :=
  ∀ before after, text = before ++ ',' :: after → ∃ rest, after = ' ' :: rest

/-- A text has so many pairs of parentheses, which close in no prefix before they open, and so many commas,
each with a space behind it. -/
structure Punctuated (text : List Char) (pairs commas : Nat) : Prop where
  opening : text.count '(' = pairs
  closing : text.count ')' = pairs
  nested : ∀ front, front <+: text → front.count ')' ≤ front.count '('
  commas : text.count ',' = commas
  spaced : Spaced text

theorem Unmarked.append {first second : List Char} (plain : Unmarked first) (plain' : Unmarked second) :
    Unmarked (first ++ second) :=
  List.forall_mem_append.mpr ⟨plain, plain'⟩

theorem Unmarked.append_string {first second : String} (plain : Unmarked first.toList)
    (plain' : Unmarked second.toList) : Unmarked (first ++ second).toList := by
  rw [String.toList_append]
  exact plain.append plain'

theorem Unmarked.not_mem {text : List Char} (plain : Unmarked text) {c : Char} (mark : c ∈ ['(', ')', ',']) :
    c ∉ text :=
  fun member => plain c member mark

section Spacing

variable {first second : List Char}

theorem Spaced.of_not_mem (absent : ',' ∉ first) : Spaced first := by
  rintro before after rfl
  exact absurd (by simp) absent

theorem Spaced.append (front : Spaced first) (back : Spaced second) : Spaced (first ++ second) := by
  intro before after split
  rcases List.append_eq_append_iff.mp split with ⟨between, rfl, rest⟩ | ⟨between, rest, behind⟩
  · exact back between after rest
  · rcases between with _ | ⟨c, between⟩
    · exact back [] after behind.symm
    · -- The comma is in the first text, and so is the space behind it.
      obtain ⟨rfl, rfl⟩ : ',' = c ∧ after = between ++ second := by simpa using behind
      obtain ⟨inner, rfl⟩ := front before between rest
      exact ⟨inner ++ second, rfl⟩

end Spacing

namespace Punctuated

variable {first second text : List Char} {pairs pairs' commas commas' : Nat}

theorem of_unmarked (plain : Unmarked text) : Punctuated text 0 0 where
  opening := List.count_eq_zero.mpr (plain.not_mem (by decide))
  closing := List.count_eq_zero.mpr (plain.not_mem (by decide))
  nested := by
    intro front isPrefix
    have absent : ')' ∉ front := fun member => plain.not_mem (by decide) (isPrefix.subset member)
    simp [List.count_eq_zero.mpr absent]
  commas := List.count_eq_zero.mpr (plain.not_mem (by decide))
  spaced := .of_not_mem (plain.not_mem (by decide))

theorem congr (counted : Punctuated text pairs commas) (samePairs : pairs = pairs')
    (sameCommas : commas = commas') : Punctuated text pairs' commas' :=
  samePairs ▸ sameCommas ▸ counted

theorem separator : Punctuated [',', ' '] 0 1 where
  opening := rfl
  closing := rfl
  nested := by
    intro front isPrefix
    have absent : ')' ∉ front := fun member => absurd (isPrefix.subset member) (by decide)
    simp [List.count_eq_zero.mpr absent]
  commas := rfl
  spaced := by
    intro before after split
    rcases before with _ | ⟨c, _ | ⟨d, rest⟩⟩
    · exact ⟨[], (List.cons.inj split).2.symm⟩
    · simp at split
    · simp at split

/-- One text behind the other: the first has closed its parentheses, and does not end with a comma. -/
theorem append (front : Punctuated first pairs commas) (back : Punctuated second pairs' commas') :
    Punctuated (first ++ second) (pairs + pairs') (commas + commas') where
  opening := by rw [List.count_append, front.opening, back.opening]
  closing := by rw [List.count_append, front.closing, back.closing]
  nested := by
    intro part isPrefix
    rcases prefix_append_cases isPrefix with within | ⟨rest, within, rfl⟩
    · exact front.nested part within
    · have inner := back.nested rest within
      rw [List.count_append, List.count_append, front.closing, front.opening]
      omega
  commas := by rw [List.count_append, front.commas, back.commas]
  spaced := front.spaced.append back.spaced

theorem parentheses (inner : Punctuated text pairs commas) :
    Punctuated ('(' :: (text ++ [')'])) (1 + pairs) commas where
  opening := by simp [inner.opening, Nat.add_comm]
  closing := by simp [inner.closing, Nat.add_comm]
  nested := by
    intro part isPrefix
    rcases List.prefix_cons_iff.mp isPrefix with rfl | ⟨front, rfl, within⟩
    · simp
    · have counts : front.count ')' ≤ front.count '(' + 1 := by
        rcases prefix_append_cases within with before | ⟨rest, atEnd, rfl⟩
        · exact Nat.le_succ_of_le (inner.nested front before)
        · have last : rest.count ')' ≤ 1 := atEnd.sublist.count_le ')'
          rw [List.count_append, List.count_append, inner.closing, inner.opening]
          omega
      simpa using counts
  commas := by simp [inner.commas]
  spaced := by
    have opened : Spaced ['('] := .of_not_mem (by decide)
    have closed : Spaced [')'] := .of_not_mem (by decide)
    exact opened.append (inner.spaced.append closed)

end Punctuated

end Marks

section Texts

namespace Hex

theorem isSome_digit?_of_foldlM {digits : List Char} {start value : Nat}
    (read : digits.foldlM (fun value c => (digit? c).map (16 * value + ·)) start = some value) :
    ∀ c ∈ digits, (digit? c).isSome = true := by
  induction digits generalizing start with
  | nil => simp
  | cons c rest ih =>
    rw [List.foldlM_cons] at read
    obtain ⟨next, first, others⟩ := Option.bind_eq_some_iff.mp read
    obtain ⟨digit, found, _⟩ := Option.map_eq_some_iff.mp first
    exact List.forall_mem_cons.mpr ⟨by simp [found], ih others⟩

theorem unmarked_toDigits (n : Nat) : Unmarked (Nat.toDigits 16 n) := by
  intro c member mark
  have digit := isSome_digit?_of_foldlM (value?_toDigits n) c member
  simp only [List.mem_cons, List.not_mem_nil, or_false] at mark
  rcases mark with rfl | rfl | rfl <;> exact absurd digit (by decide)

end Hex

namespace Text

theorem unmarked_quotedChar {c : Char} (plain : c ∉ ['(', ')', ',']) (next : Option Char) :
    Unmarked (quotedChar c next) := by
  have own : Unmarked [c] := List.forall_mem_singleton.mpr plain
  have opening : Unmarked ['\\', 'u', '{'] := by simp [Unmarked]
  have closing : Unmarked ['}'] := by simp [Unmarked]
  unfold quotedChar
  split
  case h_7 => split <;> simp [Unmarked]
  case h_8 =>
    split
    · exact (opening.append (Hex.unmarked_toDigits _)).append closing
    · exact own
  all_goals simp [Unmarked]

theorem unmarked_quotedChars {text : List Char} (plain : Unmarked text) : Unmarked (quotedChars text) := by
  induction text with
  | nil => simp [quotedChars, Unmarked]
  | cons c rest ih =>
    obtain ⟨own, others⟩ := List.forall_mem_cons.mp plain
    exact (unmarked_quotedChar own _).append (ih others)

theorem unmarked_quoted {text : String} (plain : Unmarked text.toList) : Unmarked (quoted text).toList := by
  have quote : Unmarked ['"'] := by simp [Unmarked]
  rw [quoted, String.toList_ofList]
  exact quote.append ((unmarked_quotedChars plain).append quote)

theorem unmarked_symbolLiteral {name : String} (plain : Unmarked name.toList) :
    Unmarked (symbolLiteral name).toList := by
  have colon : Unmarked ":".toList := by simp [Unmarked]
  unfold symbolLiteral
  split
  · exact colon.append_string plain
  · exact colon.append_string (unmarked_quoted plain)

end Text

theorem Binary64.unmarked_text {x : Binary64} (finite : x.isFinite = true) : Unmarked (x.text .literal).toList := by
  intro c member mark
  simp only [List.mem_cons, List.not_mem_nil, or_false] at mark
  rcases mark with rfl | rfl | rfl <;>
    exact (Binary64.floatLiteral_text finite).not_mem (by decide) (by decide) member

/-- An integer may be written as another double, but never as one that is not finite. -/
theorem Atom.unmarked_double {value : Atom} {x : Binary64} (double : value.double? = some x)
    (plain : Unmarked value.text.toList) : Unmarked (x.text .literal).toList := by
  cases value with
  | float y =>
    obtain rfl : y = x := Option.some.inj double
    exact plain
  | integer value =>
    have nearest : Binary64.ofInt value.toInt = x := Option.some.inj double
    exact Binary64.unmarked_text (nearest ▸ Binary64.ofInt_isFinite (natAbs_toInt_lt value))
  | _ => cases double

end Texts

section Counts

def Child.groups (children : List Child) : List Node :=
  (children.filterMap Child.node?).filter fun item => item.tag == .known .mlhs

def Node.isParameterList (node : Node) : Bool := node.tag == .known .args || node.tag == .known .mlhs

/-- How many pairs of parentheses nodes account for: one for each wrapped expression and one for each group
that is an item of a list. -/
def pairsOf (nodes : List Node) : Nat :=
  (nodes.filter fun node => node.tag == .known .argExpr).length +
    ((nodes.filter Node.isParameterList).flatMap fun list => Child.groups list.children).length

/-- How many commas nodes account for: one less than a list has items. -/
def commasOf (nodes : List Node) : Nat :=
  ((nodes.filter Node.isParameterList).map fun list => list.children.length - 1).sum

theorem pairsOf_append (first second : List Node) :
    pairsOf (first ++ second) = pairsOf first + pairsOf second := by
  simp only [pairsOf, List.filter_append, List.flatMap_append, List.length_append]
  omega

theorem commasOf_append (first second : List Node) :
    commasOf (first ++ second) = commasOf first + commasOf second := by
  simp only [commasOf, List.filter_append, List.map_append, List.sum_append]

/-- What is counted in the parts of a list is counted in the whole. -/
theorem count_flatMap {count : List Node → Nat} (empty : count [] = 0)
    (append : ∀ first second, count (first ++ second) = count first + count second)
    (nodes : List Node) (f : Node → List Node) :
    count (nodes.flatMap f) = (nodes.map fun node => count (f node)).sum := by
  induction nodes with
  | nil => exact empty
  | cons node rest ih => rw [List.flatMap_cons, append, ih, List.map_cons, List.sum_cons]

def Child.total (f : Node → Nat) (children : List Child) : Nat :=
  ((children.filterMap Child.node?).map f).sum

theorem Child.groups_cons (child : Child) (rest : List Child) :
    Child.groups (child :: rest) = Child.groups [child] ++ Child.groups rest := by
  unfold Child.groups
  rw [← List.filter_append, ← List.filterMap_append]
  rfl

theorem Child.total_cons (f : Node → Nat) (child : Child) (rest : List Child) :
    Child.total f (child :: rest) = Child.total f [child] + Child.total f rest := by
  unfold Child.total
  rw [← List.sum_append, ← List.map_append, ← List.filterMap_append]
  rfl

end Counts

section Slots

variable {α : Type} {slot : Option (Slot α)}
variable (plain : ∀ value, slot = some (.atom value) → Unmarked value.text.toList)
include plain

theorem Slot.unmarked_name : Unmarked (Slot.name slot).toList := by
  rcases slot with _ | value | _
  · simp [Slot.name, Unmarked]
  · have own := plain value rfl
    cases value with
    | symbol name => exact own
    | str text => exact own
    | _ => simp [Slot.name, Unmarked]
  · simp [Slot.name, Unmarked]

theorem Slot.unmarked_numeral : Unmarked (Slot.numeral slot).toList := by
  rcases slot with _ | value | _
  · simp [Slot.numeral, Unmarked]
  · exact plain value rfl
  · simp [Slot.numeral, Unmarked]

theorem Slot.unmarked_double : Unmarked (Slot.double slot).toList := by
  rcases slot with _ | value | _
  · simp [Slot.double, Unmarked]
  · rw [Slot.double]
    cases double : value.double? with
    | none => simp [Unmarked]
    | some x => exact Atom.unmarked_double double (plain value rfl)
  · simp [Slot.double, Unmarked]

end Slots

section Pieces

-- The texts of child nodes, and what has been counted in each.
variable {print : Node → String} {pairs commas : Node → Nat}

theorem Punctuated.text {text : String} (plain : Unmarked text.toList) :
    Punctuated (Piece.join [.text text]).toList 0 0 := by
  rw [Piece.join, Piece.join, String.append_empty]
  exact .of_unmarked plain

theorem Punctuated.child {found : Option Child}
    (texts : ∀ node, .node node ∈ found.toList → Punctuated (print node).toList (pairs node) (commas node)) :
    Punctuated (Piece.join (Slot.child (found.map (Child.slot print)))).toList
      (Child.total pairs found.toList) (Child.total commas found.toList) := by
  have empty : Punctuated [] 0 0 := .of_unmarked (by simp [Unmarked])
  rcases found with _ | node | value
  · exact empty
  · have own := texts node (by simp)
    simpa [Slot.child, Child.slot, Piece.join, Child.total] using own
  · exact empty

theorem Punctuated.text_child {text : String} (plain : Unmarked text.toList) {found : Option Child}
    (texts : ∀ node, .node node ∈ found.toList → Punctuated (print node).toList (pairs node) (commas node)) :
    Punctuated (Piece.join (.text text :: Slot.child (found.map (Child.slot print)))).toList
      (0 + Child.total pairs found.toList) (0 + Child.total commas found.toList) := by
  rw [Piece.join, String.toList_append]
  exact (Punctuated.of_unmarked plain).append (.child texts)

theorem Punctuated.item {child : Child}
    (texts : ∀ node, child = .node node → Punctuated (print node).toList (pairs node) (commas node)) :
    Punctuated (Piece.join (child.slot print).item).toList
      ((Child.groups [child]).length + Child.total pairs [child]) (Child.total commas [child]) := by
  cases child with
  | atom value => exact .of_unmarked (by simp [Child.slot, Slot.item, Piece.join, Unmarked])
  | node node =>
    have own := texts node rfl
    cases group : node.tag.isGroup with
    | true =>
      have isGroup : (node.tag == .known .mlhs) = true := group
      simpa [Child.slot, Slot.item, Piece.join, Child.groups, Child.total, group, isGroup] using own.parentheses
    | false =>
      have isGroup : (node.tag == .known .mlhs) = false := group
      simpa [Child.slot, Slot.item, Piece.join, Child.groups, Child.total, group, isGroup] using own

theorem Punctuated.separated {children : List Child}
    (texts : ∀ node, .node node ∈ children → Punctuated (print node).toList (pairs node) (commas node)) :
    Punctuated
      (Piece.join (((children.map (Child.slot print)).map Slot.item).flatMap ([.text ", "] ++ ·))).toList
      ((Child.groups children).length + Child.total pairs children)
      (children.length + Child.total commas children) := by
  induction children with
  | nil => exact .of_unmarked (by simp [Piece.join, Unmarked])
  | cons child rest ih =>
    have first := Punctuated.item fun node isNode => texts node (isNode ▸ List.mem_cons_self)
    have others := ih fun node member => texts node (List.mem_cons_of_mem child member)
    have comma : (Piece.join [.text ", "]).toList = [',', ' '] := by simp [Piece.join]
    simp only [List.map_cons, List.flatMap_cons, Piece.join_append, String.toList_append, comma]
    apply ((separator.append first).append others).congr
    · rw [Child.groups_cons child rest, Child.total_cons pairs child rest, List.length_append]
      omega
    · rw [Child.total_cons commas child rest, List.length_cons]
      omega

theorem Punctuated.items {children : List Child}
    (texts : ∀ node, .node node ∈ children → Punctuated (print node).toList (pairs node) (commas node)) :
    Punctuated (Piece.join ([.text ", "].intercalate ((children.map (Child.slot print)).map Slot.item))).toList
      ((Child.groups children).length + Child.total pairs children)
      (children.length - 1 + Child.total commas children) := by
  cases children with
  | nil => exact .of_unmarked (by simp [Piece.join, Unmarked])
  | cons child rest =>
    have first := Punctuated.item fun node isNode => texts node (isNode ▸ List.mem_cons_self)
    have others := Punctuated.separated fun node member => texts node (List.mem_cons_of_mem child member)
    rw [List.map_cons, List.map_cons, intercalate_cons_eq_flatMap, Piece.join_append, String.toList_append]
    apply (first.append others).congr
    · rw [Child.groups_cons child rest, Child.total_cons pairs child rest, List.length_append]
      omega
    · rw [Child.total_cons commas child rest, List.length_cons]
      omega

end Pieces

section Rules

def Rule.pairs (rule : Rule) (children : List Child) : Nat :=
  match rule with
  | .argExpr => 1
  | .arguments | .mlhs => (Child.groups children).length
  | _ => 0

def Rule.commas (rule : Rule) (children : List Child) : Nat :=
  match rule with
  | .arguments | .mlhs => children.length - 1
  | _ => 0

variable {children : List Child}

theorem unmarked_of_slot {print : Node → String} {value : Atom} {index : Nat}
    (atoms : ∀ value, .atom value ∈ children → Unmarked value.text.toList)
    (found : (children.map (Child.slot print))[index]? = some (.atom value)) : Unmarked value.text.toList := by
  rw [List.getElem?_map] at found
  obtain ⟨child, isChild, isAtom⟩ := Option.map_eq_some_iff.mp found
  cases child with
  | node node => cases isAtom
  | atom other =>
    cases isAtom
    exact atoms value (List.mem_of_getElem? isChild)

/-- What a rule writes itself, and what the children that it visits add. -/
theorem Rule.punctuated_pieces {print : Node → String} {pairs commas : Node → Nat} (rule : Rule) (tag : Tag)
    (span : Option Span) (atoms : ∀ value, .atom value ∈ children → Unmarked value.text.toList)
    (keyword : rule = .keyword → Unmarked tag.name.toList)
    (source : rule = .source → Unmarked ((span.bind Span.text?).getD "").toList)
    (texts : ∀ node, .node node ∈ rule.visits children →
      Punctuated (print node).toList (pairs node) (commas node)) :
    Punctuated (Piece.join (rule.pieces tag span (children.map (Child.slot print)))).toList
      (rule.pairs children + Child.total pairs (rule.visits children))
      (rule.commas children + Child.total commas (rule.visits children)) := by
  have first : children.take 1 = children[0]?.toList := by cases children <;> rfl
  have second : (children.drop 1).take 1 = children[1]?.toList := by
    rcases children with _ | ⟨_, _ | ⟨_, _⟩⟩ <;> rfl
  have own (value : Atom) (found : (children.map (Child.slot print))[0]? = some (.atom value)) :=
    unmarked_of_slot atoms found
  have name := Slot.unmarked_name own
  cases rule
  case arguments | mlhs => exact .items texts
  case optarg | kwoptarg =>
    simp only [Rule.visits, second] at texts ⊢
    simp only [Rule.pieces, List.getElem?_map (i := 1)]
    exact .text_child (name.append_string (by simp [Unmarked])) texts
  case argExpr =>
    simp only [Rule.visits, first] at texts ⊢
    simp only [Rule.pieces, List.getElem?_map, List.cons_append, Piece.join, Piece.join_append,
      String.toList_append]
    apply (Punctuated.child texts).parentheses.congr
    · rfl
    · simp [Rule.commas]
  case blockPass =>
    simp only [Rule.visits, first] at texts ⊢
    simp only [Rule.pieces, List.getElem?_map]
    exact .text_child (by simp [Unmarked]) texts
  case begin =>
    simp only [Rule.visits, first] at texts ⊢
    simp only [Rule.pieces, List.getElem?_map]
    apply (Punctuated.child texts).congr <;> simp [Rule.pairs, Rule.commas]
  -- All other rules write one text and visit nothing.
  case blockarg | restarg | kwrestarg =>
    exact .text (Unmarked.append_string (by simp [Unmarked]) name)
  case kwarg => exact .text (name.append_string (by simp [Unmarked]))
  case integer => exact .text (Slot.unmarked_numeral own)
  case float => exact .text (Slot.unmarked_double own)
  case str => exact .text (Text.unmarked_quoted name)
  case symbol => exact .text (Text.unmarked_symbolLiteral name)
  case keyword => exact .text (keyword rfl)
  case source => exact .text (source rfl)
  all_goals exact .text name

end Rules

section Trees

variable {setting : Setting} {node : Node} {rule : Rule}

/-- Neither the atoms of a node nor the source that is copied for it hold a comma or a parenthesis. -/
structure Node.PlainTexts (setting : Setting) (node : Node) : Prop where
  atoms : ∀ value, .atom value ∈ node.children → Unmarked value.text.toList
  copied : ∀ span slice, setting.resolve? node.tag node.span = some .source → node.span = some span →
    span.text? = some slice → Unmarked slice.toList

theorem Node.PlainTexts.source (plain : node.PlainTexts setting)
    (resolved : setting.resolve? node.tag node.span = some rule) (copies : rule = .source) :
    Unmarked ((node.span.bind Span.text?).getD "").toList := by
  cases covered : node.span.bind Span.text? with
  | none => simp [Unmarked]
  | some slice =>
    obtain ⟨span, isSpan, isSlice⟩ := Option.bind_eq_some_iff.mp covered
    exact plain.copied span slice (copies ▸ resolved) isSpan isSlice

variable (builtin : setting.book = .builtin)
include builtin

theorem Setting.resolve?_other {name : String} {span : Option Span}
    (resolved : setting.resolve? (.other name) span = some rule) : rule = .source := by
  have unregistered : setting.book.lookup? (.other name) = none := by
    rw [builtin]
    rfl
  rw [Setting.resolve?_unregistered unregistered] at resolved
  split at resolved
  · exact (Option.some.inj resolved).symm
  · cases resolved

/-- What the rule of a node writes itself is told by the type of the node. -/
theorem Node.counts_of_resolve? (resolved : setting.resolve? node.tag node.span = some rule) :
    rule.pairs node.children = pairsOf [node] ∧ rule.commas node.children = commasOf [node] := by
  obtain ⟨tag, children, span⟩ := node
  cases tag with
  | other name =>
    cases Setting.resolve?_other builtin resolved
    exact ⟨rfl, rfl⟩
  | known kind =>
    rw [Setting.resolve?_builtin builtin] at resolved
    cases resolved
    cases kind
    case args | mlhs =>
      simp [pairsOf, commasOf, Rule.pairs, Rule.commas, Rule.ofKind, Node.isParameterList]
    all_goals exact ⟨rfl, rfl⟩

theorem Node.unmarked_keyword (resolved : setting.resolve? node.tag node.span = some .keyword) :
    Unmarked node.tag.name.toList := by
  cases type : node.tag with
  | other name =>
    rw [type] at resolved
    cases Setting.resolve?_other builtin resolved
  | known kind =>
    rw [type, Setting.resolve?_builtin builtin] at resolved
    cases kind
    case nilLit | trueLit | falseLit | selfLit => simp [Unmarked, Tag.name, Kind.name]
    all_goals cases resolved

/-- The text of a tree has the commas and parentheses that the nodes visited in it account for. -/
theorem Node.punctuated_print (node : Node)
    (passes : ∀ visited ∈ node.visitOrder setting, visited.fault? setting = none)
    (plain : ∀ visited ∈ node.visitOrder setting, visited.PlainTexts setting) :
    Punctuated (node.print setting).toList (pairsOf (node.visitOrder setting))
      (commasOf (node.visitOrder setting)) := by
  induction node using Node.induction with
  | step node ih =>
    have isFirst : node ∈ node.visitOrder setting := by simp [Node.visitOrder_eq]
    have order : node.visitOrder setting =
        [node] ++ (node.visited setting).flatMap (Node.visitOrder setting) := by
      rw [Node.visitOrder_eq, passes node isFirst]
      rfl
    have texts : ∀ child ∈ node.visited setting, Punctuated (child.print setting).toList
        (pairsOf (child.visitOrder setting)) (commasOf (child.visitOrder setting)) := by
      intro child visited
      have below : child.visitOrder setting ⊆ node.visitOrder setting := by
        intro lower inside
        rw [order]
        exact List.mem_append_right _ (List.mem_flatMap.mpr ⟨child, visited, inside⟩)
      apply ih child (Node.mem_children_of_mem_visited visited)
      · exact fun lower inside => passes lower (below inside)
      · exact fun lower inside => plain lower (below inside)
    cases resolved : setting.resolve? node.tag node.span with
    | none => cases (Node.fault?_unresolved resolved).symm.trans (passes node isFirst)
    | some rule =>
      have own := plain node isFirst
      obtain ⟨samePairs, sameCommas⟩ := Node.counts_of_resolve? builtin resolved
      have keyword (isKeyword : rule = .keyword) := Node.unmarked_keyword builtin (isKeyword ▸ resolved)
      rw [order, pairsOf_append, commasOf_append, count_flatMap rfl pairsOf_append,
        count_flatMap rfl commasOf_append, ← samePairs, ← sameCommas, Node.print_resolved resolved]
      rw [Node.visited_resolved resolved] at texts ⊢
      refine rule.punctuated_pieces node.tag node.span own.atoms keyword (own.source resolved) ?_
      exact fun child visited => texts child (List.mem_filterMap.mpr ⟨_, visited, rfl⟩)

end Trees

/-- A tree that renders under the built-in rules, where no atom of a visited node and no source that is
copied holds a comma or a parenthesis. Its text has one pair of parentheses for each visited node that wraps
an expression and for each group that is an item of a visited list, and nowhere does one close before it
opens. It has as many commas as the visited lists have items beyond their first, each before a space. -/
theorem punctuation_is_accounted_for (setting : Setting) (builtin : setting.book = .builtin) (node : Node)
    (text : String) (rendered : node.renderWith setting = .ok text)
    (plain : ∀ visited ∈ node.visitOrder setting, visited.PlainTexts setting) :
    Punctuated text.toList (pairsOf (node.visitOrder setting)) (commasOf (node.visitOrder setting)) := by
  rw [Node.renderWith_eq] at rendered
  split at rendered
  · cases rendered
  · next passes =>
    cases rendered
    exact node.punctuated_print builtin (List.findSome?_eq_none_iff.mp passes) plain

/-- A group in a group, and a call that is copied into parentheses. -/
theorem groups_and_wrapped_call_are_counted :
    let setting := Setting.ofConfig { beginPolicy := .firstChild }
    let call := Build.sourced "send" "foo bar" 0 3
    let node := Build.args [Build.mlhs [Build.arg "a", Build.mlhs [Build.arg "b"]], Build.argExpr call]
    node.renderWith setting = .ok "(a, (b)), (foo)" ∧ Punctuated "(a, (b)), (foo)".toList 3 2 := by
  intro setting call node
  have rendered : node.renderWith setting = .ok "(a, (b)), (foo)" := rfl
  have order : node.visitOrder setting =
      [node, Build.mlhs [Build.arg "a", Build.mlhs [Build.arg "b"]], Build.arg "a", Build.mlhs [Build.arg "b"],
        Build.arg "b", Build.argExpr call, call] := rfl
  have nodes (name : String) (items : List Node) : (Build.nodes name items).PlainTexts setting :=
    ⟨by simp [Build.nodes, Build.node], by simp [Build.nodes, Build.node]⟩
  have arg (name : String) (bare : Unmarked name.toList) : (Build.arg name).PlainTexts setting :=
    ⟨by simpa [Build.arg, Build.named, Build.node, Atom.text] using bare,
      by simp [Build.arg, Build.named, Build.node]⟩
  have copied : call.PlainTexts setting := by
    refine ⟨by simp [call, Build.sourced], ?_⟩
    intro span slice _ isSpan isSlice
    have covered : call.span.bind Span.text? = some "foo" := rfl
    obtain rfl : slice = "foo" := by simpa [isSpan, isSlice] using covered
    simp [Unmarked]
  have plain : ∀ visited ∈ node.visitOrder setting, visited.PlainTexts setting := by
    rw [order]
    simp only [List.forall_mem_cons]
    exact ⟨nodes _ _, nodes _ _, arg "a" (by simp [Unmarked]), nodes _ _, arg "b" (by simp [Unmarked]),
      nodes _ _, copied, by simp⟩
  have counted := punctuation_is_accounted_for setting rfl node _ rendered plain
  rw [order] at counted
  exact ⟨rendered, counted⟩

end RubyTree
