import RubyTree.Config
import RubyTree.RenderError
import RubyTree.Text.SymbolLiteral

/-!
How one node is laid out. A rule looks at the node's own type, span and atoms, and at which of its
children are nodes and which of these are groups; it never looks into a child. If the node passes, the
result is the sequence of texts to write and children to visit. What stands for a child node is left
open, so the same rules give the texts of children their places and name the children to be visited.
-/

namespace RubyTree

/-- What a rule sees of a child. -/
inductive Slot (α : Type) where
  | atom (value : Atom)
  | node (isGroup : Bool) (content : α)

/-- What a node contributes to the output: a text of its own, or a child in its place. -/
inductive Piece (α : Type) where
  | text (value : String)
  | child (content : α)

variable {α : Type}

namespace Slot

def checkCount (slots : List (Slot α)) (least most : Nat) : Except Reason Unit :=
  if slots.length < least || most < slots.length then
    .error (.childCount least most slots.length)
  else .ok ()

def nodeAt (slots : List (Slot α)) (index : Nat) : Except Reason α :=
  match slots[index]? with
  | none => .error (.missingChild index)
  | some (.atom _) => .error (.expectedNode index)
  | some (.node _ content) => .ok content

def atomAt (slots : List (Slot α)) (index : Nat) : Except Reason Atom :=
  match slots[index]? with
  | none => .error (.missingChild index)
  | some (.node _ _) => .error (.expectedAtom index)
  | some (.atom value) => .ok value

/-- A symbol or a string will do as a name. -/
def nameAt (slots : List (Slot α)) (index : Nat) : Except Reason String := do
  match ← atomAt slots index with
  | .symbol name => .ok name
  | .str text => .ok text
  | found => .error (.expectedName index found)

/-- A missing child, or nil in its place, is no name. -/
def optionalNameAt (slots : List (Slot α)) (index : Nat) : Except Reason String :=
  match slots[index]? with
  | none => .ok ""
  | some (.atom .nil) => .ok ""
  | some _ => nameAt slots index

end Slot

namespace Piece

def separator (index : Nat) : List (Piece α) :=
  if index = 0 then [] else [.text ", "]

/-- The items of a list from `index` on, with groups in parentheses. -/
def listFrom (index : Nat) : List (Slot α) → Except Reason (List (Piece α))
  | [] => .ok []
  | .atom _ :: _ => .error (.expectedNode index)
  | .node isGroup content :: rest => do
    let item := if isGroup then [.text "(", .child content, .text ")"] else [.child content]
    return separator index ++ item ++ (← listFrom (index + 1) rest)

def name (before after : String) (slots : List (Slot α)) : Except Reason (List (Piece α)) := do
  Slot.checkCount slots 1 1
  return [.text (before ++ (← Slot.nameAt slots 0) ++ after)]

def splat (mark : String) (slots : List (Slot α)) : Except Reason (List (Piece α)) := do
  Slot.checkCount slots 0 1
  return [.text (mark ++ (← Slot.optionalNameAt slots 0))]

def defaulted (between : String) (slots : List (Slot α)) : Except Reason (List (Piece α)) := do
  Slot.checkCount slots 2 2
  let name ← Slot.nameAt slots 0
  let value ← Slot.nodeAt slots 1
  return [.text (name ++ between), .child value]

def wrapped (before after : List (Piece α)) (slots : List (Slot α)) :
    Except Reason (List (Piece α)) := do
  Slot.checkCount slots 1 1
  return before ++ [.child (← Slot.nodeAt slots 0)] ++ after

/-- A wrapper is written as what it wraps. -/
def body (policy : BeginPolicy) (slots : List (Slot α)) : Except Reason (List (Piece α)) :=
  if slots.isEmpty then .error .noBody
  else if slots.length = 1 || policy == .firstChild then do
    return [.child (← Slot.nodeAt slots 0)]
  else .error (.severalBodies slots.length)

def integer (slots : List (Slot α)) : Except Reason (List (Piece α)) := do
  Slot.checkCount slots 1 1
  match ← Slot.atomAt slots 0 with
  | .integer value => return [.text (Atom.integer value).text]
  | .bigInteger numeral => return [.text (Atom.bigInteger numeral).text]
  | found => .error (.expectedInteger found)

/-- An integer is written as the double nearest to it. -/
def float (slots : List (Slot α)) : Except Reason (List (Piece α)) := do
  Slot.checkCount slots 1 1
  let value ← match ← Slot.atomAt slots 0 with
    | .float value => .ok value
    | .integer value => .ok (Binary64.ofInt value.toInt)
    | found => .error (.expectedFloat found)
  if value.isFinite then return [.text (value.text .literal)] else .error .nonFinite

def literal (write : String → String) (slots : List (Slot α)) :
    Except Reason (List (Piece α)) := do
  Slot.checkCount slots 1 1
  return [.text (write (← Slot.nameAt slots 0))]

def keyword (tag : Tag) (slots : List (Slot α)) : Except Reason (List (Piece α)) := do
  Slot.checkCount slots 0 0
  return [.text tag.name]

def source (span : Option Span) : Except Reason (List (Piece α)) :=
  match span with
  | none => .error .noSpan
  | some span =>
    match span.text? with
    | none => .error (.outsideBuffer span)
    | some slice => .ok [.text slice]

end Piece

def Rule.arrange (rule : Rule) (policy : BeginPolicy) (tag : Tag) (span : Option Span)
    (slots : List (Slot α)) : Except Reason (List (Piece α)) :=
  match rule with
  | .argument | .variable => Piece.name "" "" slots
  | .arguments | .mlhs => Piece.listFrom 0 slots
  | .argExpr => Piece.wrapped [.text "("] [.text ")"] slots
  | .optarg => Piece.defaulted " = " slots
  | .restarg => Piece.splat "*" slots
  | .blockarg => Piece.name "&" "" slots
  | .blockPass => Piece.wrapped [.text "&"] [] slots
  | .kwarg => Piece.name "" ":" slots
  | .kwoptarg => Piece.defaulted ": " slots
  | .kwrestarg => Piece.splat "**" slots
  | .begin => Piece.body policy slots
  | .integer => Piece.integer slots
  | .float => Piece.float slots
  | .str => Piece.literal Text.quoted slots
  | .symbol => Piece.literal Text.symbolLiteral slots
  | .keyword => Piece.keyword tag slots
  | .source => Piece.source span

structure Setting where
  book : RuleBook := .builtin
  config : Config := {}

def Setting.ofConfig (config : Config) : Setting := ⟨.ofConfig config, config⟩

namespace Setting

/-- The rule for a node of a type: its entry in the book, or else its source if there is one and that is
allowed. -/
def resolve? (setting : Setting) (tag : Tag) (span : Option Span) : Option Rule :=
  match setting.book.lookup? tag with
  | some rule => some rule
  | none => if setting.config.sourceFallback && span.isSome then some .source else none

def arrange (setting : Setting) (tag : Tag) (span : Option Span) (slots : List (Slot α)) :
    Except RenderError (List (Piece α)) :=
  match setting.resolve? tag span with
  | none => .error (.unhandled tag)
  | some rule =>
    (rule.arrange setting.config.beginPolicy tag span slots).mapError (.malformed tag)

end Setting

end RubyTree
