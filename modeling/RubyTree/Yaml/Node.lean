import RubyTree.Yaml.Scanner

/-!
From the tokens of a YAML text to the one document that it holds: a tree of scalars, sequences and
mappings. Anchors and references are numbered, so that a reference is the number of its anchor.
-/

namespace RubyTree

namespace Yaml

structure TaggedScalar where
  value : Scalar
  tag : Option Octets := none
  deriving DecidableEq, Repr

inductive Node where
  | scalar (value : TaggedScalar)
  | sequence (items : List Node)
  | mapping (entries : List (Node × Node))
  | reference (number : Nat)

def Node.absent : Node := .scalar { value := .absent }

structure Anchors where
  /-- The names that are in use, each with its number. -/
  numbers : List (String × Nat) := []
  /-- What the numbers stand for, if it is a scalar, the last anchor first. -/
  targets : List (Nat × Option TaggedScalar) := []

namespace Anchors

/-- Numbers an anchor by how many names are in use. A name that comes again gets a new number and gives up
its old one, so that two names can have one number; the last anchor then counts for both. -/
def add (anchors : Anchors) (name : String) (target : Option TaggedScalar) : Anchors :=
  let number := anchors.numbers.length
  ⟨(name, number) :: anchors.numbers.filter (·.1 != name), (number, target) :: anchors.targets⟩

def number? (anchors : Anchors) (name : String) : Option Nat := anchors.numbers.lookup name

def scalar? (anchors : Anchors) (number : Nat) : Option TaggedScalar :=
  (anchors.targets.lookup number).join

end Anchors

abbrev Handles := List (String × Octets)

def Handles.standard : Handles :=
  [("!", "!".toUTF8.toList), ("!!", "tag:yaml.org,2002:".toUTF8.toList)]

def Handles.expand? (handles : Handles) (tag : TagName) : Option Octets :=
  if tag.handle = "" then some tag.suffix
  else (handles.lookup tag.handle).map (· ++ tag.suffix)

structure Unread where
  tokens : List Token
  anchors : Anchors := {}

abbrev NodeReader := StateT Unread Option

namespace NodeReader

def peek : NodeReader (Option Token) := do return (← get).tokens.head?

def skip : NodeReader Unit := modify fun unread => { unread with tokens := unread.tokens.drop 1 }

def skip? (token : Token) : NodeReader Bool := do
  if (← peek) == some token then
    skip
    return true
  else return false

def expect (token : Token) : NodeReader Unit := do
  if ← skip? token then return else failure

def nextIsIn (tokens : List Token) : NodeReader Bool := do
  return (← peek).any tokens.contains

def anchor? : NodeReader (Option String) := do
  match ← peek with
  | some (.anchor name) =>
    skip
    return some name
  | _ => return none

def tag? (handles : Handles) : NodeReader (Option Octets) := do
  match ← peek with
  | some (.tag name) =>
    skip
    return some (← handles.expand? name)
  | _ => return none

/-- An anchor and a tag in either order. -/
def properties (handles : Handles) : NodeReader (Option String × Option Octets) := do
  match ← anchor? with
  | some name => return (some name, ← tag? handles)
  | none =>
    let tag ← tag? handles
    if tag.isSome then return (← anchor?, tag) else return (none, none)

def addAnchor (name : Option String) (target : Option TaggedScalar) : NodeReader Unit :=
  match name with
  | some name => modify fun unread => { unread with anchors := unread.anchors.add name target }
  | none => return

def scalar (anchor : Option String) (value : TaggedScalar) : NodeReader Node := do
  addAnchor anchor (some value)
  return .scalar value

mutual

/-- A node. A block collection is one only in block style, and a list whose dashes stand in the column of
the keys only as part of a mapping. -/
def node (handles : Handles) (block inMapping : Bool) : Nat → NodeReader Node
  | 0 => failure
  | fuel + 1 => do
    if let some (.reference name) ← peek then
      skip
      return .reference (← (← get).anchors.number? name)
    let (anchor, tag) ← properties handles
    match ← peek with
    | some (.scalar value) =>
      skip
      scalar anchor ⟨value, tag⟩
    | some .flowSequence =>
      skip
      addAnchor anchor none
      return .sequence (← flowItems handles fuel)
    | some .flowMapping =>
      skip
      addAnchor anchor none
      return .mapping (← flowEntries handles fuel)
    | token =>
      if inMapping && token == some .blockEntry then
        addAnchor anchor none
        return .sequence (← alignedItems handles fuel)
      else if block && token == some .blockSequence then
        skip
        addAnchor anchor none
        return .sequence (← blockItems handles fuel)
      else if block && token == some .blockMapping then
        skip
        addAnchor anchor none
        return .mapping (← blockEntries handles fuel)
      else if anchor.isSome || tag.isSome then scalar anchor ⟨.absent, tag⟩
      else failure

def nodeBefore (handles : Handles) (block inMapping : Bool) (ends : List Token) : Nat → NodeReader Node
  | 0 => failure
  | fuel + 1 => do
    if ← nextIsIn ends then return .absent else node handles block inMapping fuel

def blockItems (handles : Handles) : Nat → NodeReader (List Node)
  | 0 => failure
  | fuel + 1 => do
    if ← skip? .blockEntry then
      let item ← nodeBefore handles true false [.blockEntry, .blockEnd] fuel
      return item :: (← blockItems handles fuel)
    else
      expect .blockEnd
      return []

/-- The items of a list whose dashes stand in the column of the keys. -/
def alignedItems (handles : Handles) : Nat → NodeReader (List Node)
  | 0 => failure
  | fuel + 1 => do
    if ← skip? .blockEntry then
      let item ← nodeBefore handles true false [.blockEntry, .key, .value, .blockEnd] fuel
      return item :: (← alignedItems handles fuel)
    else return []

def blockEntries (handles : Handles) : Nat → NodeReader (List (Node × Node))
  | 0 => failure
  | fuel + 1 => do
    let ends := [.key, .value, .blockEnd]
    if ← skip? .key then
      let key ← nodeBefore handles true true ends fuel
      let value ← if ← skip? .value then nodeBefore handles true true ends fuel else pure .absent
      return (key, value) :: (← blockEntries handles fuel)
    else
      expect .blockEnd
      return []

/-- The items of a flow list from one of them or its closing bracket on. A key among them is a mapping with
one entry. -/
def flowItems (handles : Handles) : Nat → NodeReader (List Node)
  | 0 => failure
  | fuel + 1 => do
    if ← skip? .flowSequenceEnd then return []
    let item ←
      if ← skip? .key then do
        let key ← nodeBefore handles false false [.value, .flowEntry, .flowSequenceEnd] fuel
        let value ←
          if ← skip? .value then nodeBefore handles false false [.flowEntry, .flowSequenceEnd] fuel
          else pure .absent
        pure (.mapping [(key, value)])
      else node handles false false fuel
    if ← skip? .flowEntry then return item :: (← flowItems handles fuel)
    else
      expect .flowSequenceEnd
      return [item]

/-- The entries of a flow mapping from one of them or its closing brace on. What no key mark or colon makes
a key has no value. -/
def flowEntries (handles : Handles) : Nat → NodeReader (List (Node × Node))
  | 0 => failure
  | fuel + 1 => do
    if ← skip? .flowMappingEnd then return []
    let entry ←
      if ← skip? .key then do
        let key ← nodeBefore handles false false [.value, .flowEntry, .flowMappingEnd] fuel
        let value ←
          if ← skip? .value then nodeBefore handles false false [.flowEntry, .flowMappingEnd] fuel
          else pure .absent
        pure (key, value)
      else do
        let key ← node handles false false fuel
        pure (key, .absent)
    if ← skip? .flowEntry then return entry :: (← flowEntries handles fuel)
    else
      expect .flowMappingEnd
      return [entry]

end

end NodeReader

section Documents

structure Document where
  root : Option Node
  anchors : Anchors

/-- The handles that some directives give, before the standard ones. There may be one version, 1.1 or 1.2,
and one meaning for each handle. -/
def Handles.ofDirectives? (directives : List Directive) : Option Handles := do
  let versions := directives.filterMap fun
    | .version major minor => some (major, minor)
    | .handle _ _ => none
  let given := directives.filterMap fun
    | .version _ _ => none
    | .handle name meaning => some (name, meaning)
  if versions.length ≤ 1 && versions.all (fun v => v == (1, 1) || v == (1, 2)) &&
      (given.map (·.1)).eraseDups.length == given.length then
    some (given ++ Handles.standard)
  else none

/-- The document of a sequence of tokens, if there is only one. Without a start mark it has no directives
and is not empty; without any token there is none. -/
def Document.ofTokens? (tokens : List Token) : Option Document := do
  let directives := tokens.map Token.directive? |>.takeWhile Option.isSome |>.filterMap id
  let rest := tokens.drop directives.length
  let read (handles : Handles) (tokens : List Token) : Option (Node × Unread) :=
    NodeReader.node handles true false (3 * tokens.length + 3) { tokens }
  let (root, unread) ← match rest with
    | .documentStart :: content => do
      let handles ← Handles.ofDirectives? directives
      if content.head?.all Token.endsDocument then some (some .absent, { tokens := content })
      else (read handles content).map fun (root, unread) => (some root, unread)
    | [] => if directives.isEmpty then some (none, { tokens := [] }) else none
    | content =>
      if directives.isEmpty then
        (read Handles.standard content).map fun (root, unread) => (some root, unread)
      else none
  if unread.tokens.all (· == .documentEnd) then some ⟨root, unread.anchors⟩ else none

def Document.read? (text : String) : Option Document := (tokens? text).bind Document.ofTokens?

end Documents

end Yaml

end RubyTree
