import RubyTree.Document.Draft

/-!
Decoding of JSON values into drafts. A document and a node are objects, or arrays of their fields in
order. Values are looked at in the order of the text, and the first problem is reported. Fields that
are not known are skimmed. A child is read as a whole first; if it does not decode as a node it may
still be one of the other forms of a child.
-/

namespace RubyTree

-- Powers of numbers are the core library's, also where other instances are in scope.
attribute [local instance (20000)] instPowNat

namespace Decode

abbrev Result (α : Type) := Except LoadError α

def fail {α : Type} (mismatch : Mismatch) : Result α := .error (.shape mismatch)

def checkFlaw : Option Flaw → Result Unit
  | none => .ok ()
  | some flaw => .error (.json flaw)

/-- A value that does not have the expected shape. One that cannot be read is reported as such. -/
def unexpected {α : Type} (value : Json) (expected : Expected) : Result α :=
  match value with
  | .null => fail (.wrongType .null expected)
  | .bool value => fail (.wrongType (.bool value) expected)
  | .number literal =>
    match literal.value? with
    | some number => fail (.wrongType (.number number) expected)
    | none => .error (.json .malformed)
  | .string (some text) => fail (.wrongType (.string text) expected)
  | .string none => .error (.json .malformed)
  | .array _ _ => fail (.wrongType .sequence expected)
  | .object _ _ => fail (.wrongType .map expected)
  | .broken stop => .error (.json stop.reading)

def string : Json → Result String
  | .string (some text) => .ok text
  | value => unexpected value .string

def optional {α : Type} (decode : Json → Result α) : Json → Result (Option α)
  | .null => .ok none
  | value => (decode value).map some

def enter : Nat → Result Nat
  | 0 => .error (.json .malformed)
  | room + 1 => .ok room

def close (rest : List Json) (stop : Option Break) : Result Unit :=
  if rest.isEmpty then checkFlaw (stop.map Break.reading) else .error (.json .malformed)

def offset (value : Json) : Result Nat :=
  match value with
  | .number literal =>
    match literal.value? with
    | some (.integer found) =>
      if found < 0 then fail (.wrongValue (.number (.integer found)) .offset)
      else .ok found.natAbs
    | _ => unexpected value .offset
  | _ => unexpected value .offset

def range (room : Nat) : Json → Result (Nat × Nat)
  | .array items stop => do
    let _ ← enter room
    match items with
    | start :: finish :: rest => do
      let start ← offset start
      let finish ← offset finish
      close rest stop
      return (start, finish)
    | [start] => do
      let _ ← offset start
      close [] stop
      fail (.wrongLength 1 .pair)
    | [] => do
      close [] stop
      fail (.wrongLength 0 .pair)
  | value => unexpected value .pair

def once {α : Type} (name : String) (known : Option α) : Result Unit :=
  if known.isSome then fail (.duplicateField name) else .ok ()

/-- The key of a member, which is read even if its value is only skimmed. -/
def key : Option String → Result String
  | some key => .ok key
  | none => .error (.json .malformed)

def textMember? (name : String) (members : List Member) : Option String :=
  match members.filter fun member => member.key == some name with
  | [⟨_, .string text⟩] => text
  | _ => none

/-- An integer of 64 bits without a sign is too large for an integer atom from the middle on. -/
def numberAtom : Json.Number → Atom
  | .integer value =>
    if -2 ^ (63 : Nat) ≤ value && value < 2 ^ (63 : Nat) then .integer (Int64.ofInt value)
    else .bigInteger (Numeral.ofInt value)
  | .float value => .float value

/-- The forms of a child that are not nodes. -/
def leaf : Json → Result DraftChild
  | .object members _ =>
    match textMember? "str" members with
    | some text => .ok (.atom (.str text))
    | none =>
      match textMember? "int" members with
      | some numeral => .ok (.integer numeral)
      | none => fail .notChild
  | .number literal =>
    match literal.value? with
    | some number => .ok (.atom (numberAtom number))
    | none => fail .notChild
  | .string (some name) => .ok (.atom (.symbol name))
  | .null => .ok (.atom .nil)
  | _ => fail .notChild

def child (value : Json) : Result DraftNode → Result DraftChild
  | .ok node => .ok (.node node)
  | .error _ => leaf value

structure NodeFields where
  tag : Option String := none
  children : Option (List DraftChild) := none
  range : Option (Option (Nat × Nat)) := none

def NodeFields.node (fields : NodeFields) : Result DraftNode :=
  match fields.tag with
  | some tag => .ok ⟨tag, fields.children.getD [], fields.range.getD none⟩
  | none => fail (.missingField "type")

mutual

/-- A node, if `room` more arrays and objects may be opened. -/
def node (room : Nat) : Json → Result DraftNode
  | .array [] stop => do
    let _ ← enter room
    close [] stop
    fail (.wrongLength 0 .node)
  | .array [tag] stop => do
    let _ ← enter room
    let tag ← string tag
    close [] stop
    return ⟨tag, [], none⟩
  | .array [tag, list] stop => do
    let room ← enter room
    let tag ← string tag
    let list ← children room list
    close [] stop
    return ⟨tag, list, none⟩
  | .array (tag :: list :: span :: rest) stop => do
    let room ← enter room
    let tag ← string tag
    let list ← children room list
    let span ← optional (range room) span
    close rest stop
    return ⟨tag, list, span⟩
  | .object members stop => do
    let room ← enter room
    let fields ← nodeFields room {} members
    checkFlaw (stop.map Break.reading)
    fields.node
  | value => unexpected value .node

def children (room : Nat) : Json → Result (List DraftChild)
  | .array items stop => do
    let room ← enter room
    let list ← childList room items
    checkFlaw (stop.map Break.reading)
    return list
  | value => unexpected value .sequence

def childList (room : Nat) : List Json → Result (List DraftChild)
  | [] => .ok []
  | item :: rest => do
    checkFlaw (item.flaw? room)
    let first ← child item (node room item)
    return first :: (← childList room rest)

def nodeFields (room : Nat) (fields : NodeFields) : List Member → Result NodeFields
  | [] => .ok fields
  | ⟨name, value⟩ :: rest => do
    match ← key name with
    | "type" =>
      once "type" fields.tag
      nodeFields room { fields with tag := some (← string value) } rest
    | "children" =>
      once "children" fields.children
      nodeFields room { fields with children := some (← children room value) } rest
    | "range" =>
      once "range" fields.range
      nodeFields room { fields with range := some (← optional (range room) value) } rest
    | _ =>
      checkFlaw value.skimFlaw?
      nodeFields room fields rest

end

structure DocumentFields where
  source : Option (Option String) := none
  name : Option (Option String) := none
  root : Option DraftNode := none

def DocumentFields.draft (fields : DocumentFields) : Result Draft :=
  match fields.root with
  | some root => .ok ⟨fields.source.getD none, fields.name.getD none, root⟩
  | none => fail (.missingField "ast")

def documentFields (room : Nat) (fields : DocumentFields) :
    List Member → Result DocumentFields
  | [] => .ok fields
  | ⟨name, value⟩ :: rest => do
    match ← key name with
    | "source" =>
      once "source" fields.source
      documentFields room { fields with source := some (← optional string value) } rest
    | "name" =>
      once "name" fields.name
      documentFields room { fields with name := some (← optional string value) } rest
    | "ast" =>
      once "ast" fields.root
      documentFields room { fields with root := some (← node room value) } rest
    | _ =>
      checkFlaw value.skimFlaw?
      documentFields room fields rest

/-- Fields of a document that is an array without a tree are read before it is found too short. -/
def shortDocument (items : List Json) (stop : Option Break) : Result Draft := do
  for item in items do
    let _ ← optional string item
  close [] stop
  fail (.wrongLength 2 .document)

def document (room : Nat) : Json → Result Draft
  | .array items stop => do
    let room ← enter room
    match items with
    | source :: name :: root :: rest => do
      let source ← optional string source
      let name ← optional string name
      let root ← node room root
      close rest stop
      return ⟨source, name, root⟩
    | short => shortDocument short stop
  | .object members stop => do
    let room ← enter room
    let fields ← documentFields room {} members
    checkFlaw (stop.map Break.reading)
    fields.draft
  | value => unexpected value .document

end Decode

def Draft.ofJson (value : Json) : Except LoadError Draft :=
  Decode.document Json.maxNesting value

end RubyTree
