import RubyTree.Yaml.Token

/-!
From a YAML text to its tokens. A colon makes a key of what stands before it on the line, so the start of
everything that might be one is remembered until then.
-/

namespace RubyTree

namespace Yaml

/-- The start of what may turn out to be a key: how many tokens stand before it, and its place. One that
stands in the column of its collection has to be a key. -/
structure PossibleKey where
  index : Nat
  line : Nat
  column : Nat
  required : Bool
  deriving DecidableEq, Repr

/-- A key and its colon stand on one line, not more than 1024 characters apart. -/
def PossibleKey.isLate (key : PossibleKey) (place : Place) : Bool :=
  key.line < place.line || key.column + 1024 < place.column

/-- Gives up a possible key, which no required one allows. -/
def giveUp? : Option PossibleKey → Option (Option PossibleKey)
  | some key => if key.required then none else some none
  | none => some none

structure Scanner where
  place : Place
  /-- The tokens so far, the last one first. -/
  tokens : List Token := []
  /-- The columns of the open block collections, the innermost first. -/
  columns : List Nat := []
  /-- Whether a key can start here. -/
  keyAllowed : Bool := true
  /-- The possible key inside the innermost open bracket, or outside of all. -/
  key : Option PossibleKey := none
  /-- The possible keys outside the open brackets, the innermost first. -/
  outerKeys : List (Option PossibleKey) := []

namespace Scanner

def inFlow (s : Scanner) : Bool := !s.outerKeys.isEmpty

/-- The first column that is inside the innermost block collection. -/
def margin (s : Scanner) : Nat := s.columns.head?.elim 0 (· + 1)

section Tokens

def emit (s : Scanner) (token : Token) : Scanner := { s with tokens := token :: s.tokens }

def insert (s : Scanner) (index : Nat) (token : Token) : Scanner :=
  let (after, before) := s.tokens.splitAt (s.tokens.length - index)
  { s with tokens := after ++ token :: before }

def mark (s : Scanner) (token : Token) : Scanner :=
  { s.emit token with place := s.place.skip 1 }

end Tokens

section Keys

def giveUpLate? (s : Scanner) : Option Scanner := do
  let check (key : Option PossibleKey) : Option (Option PossibleKey) :=
    if key.any (·.isLate s.place) then giveUp? key else some key
  some { s with key := ← check s.key, outerKeys := ← s.outerKeys.mapM check }

def giveUpKey? (s : Scanner) : Option Scanner := do
  some { s with key := ← giveUp? s.key }

def startKey? (s : Scanner) : Option Scanner :=
  if s.keyAllowed then do
    let s ← s.giveUpKey?
    let required := !s.inFlow && s.columns.head? == some s.place.column
    some { s with key := some ⟨s.tokens.length, s.place.line, s.place.column, required⟩ }
  else some s

end Keys

section Indentation

/-- Opens a block collection if its column is inside the innermost open one. -/
def openBlock (s : Scanner) (column index : Nat) (token : Token) : Scanner :=
  if !s.inFlow && s.columns.head?.all (· < column) then
    { s.insert index token with columns := column :: s.columns }
  else s

def closeBlocks (s : Scanner) (test : Nat → Bool) : Scanner :=
  if s.inFlow then s
  else
    let closed := s.columns.takeWhile test
    { s with
      tokens := closed.map (fun _ => Token.blockEnd) ++ s.tokens
      columns := s.columns.drop closed.length }

end Indentation

section Blanks

/-- Passes over blanks, comments and line breaks. In block style a key can start on a new line, and no tab
may stand where one can. A mark of the byte order may stand at the start of a line. Gives the place after
them, and whether a key can start there. -/
def toContent (flow keyAllowed comment : Bool) (line column : Nat) : List Char → Bool × Place
  | [] => (keyAllowed, ⟨line, column, []⟩)
  | c :: rest =>
    if isBreak c then toContent flow (keyAllowed || !flow) false (line + 1) 0 rest
    else if comment || c == '#' then toContent flow keyAllowed true line (column + 1) rest
    else if c == ' ' || (c == '\t' && (flow || !keyAllowed)) || (c == '\ufeff' && column == 0) then
      toContent flow keyAllowed false line (column + 1) rest
    else (keyAllowed, ⟨line, column, c :: rest⟩)

def skipBlanks (s : Scanner) : Scanner :=
  let (keyAllowed, place) :=
    toContent s.inFlow s.keyAllowed false s.place.line s.place.column s.place.rest
  { s with keyAllowed, place }

end Blanks

section Steps

def endDocument? (s : Scanner) : Option Scanner := do
  let s ← (s.closeBlocks fun _ => true).giveUpKey?
  some { s with keyAllowed := false }

def readDirective? (s : Scanner) : Option Scanner := do
  let s ← s.endDocument?
  let (directive, place) ← Yaml.readDirective? s.place
  some { s.emit (.directive directive) with place }

def readMarker? (s : Scanner) (token : Token) : Option Scanner := do
  let s ← s.endDocument?
  some { s.emit token with place := s.place.skip 3 }

def openFlow? (s : Scanner) (token : Token) : Option Scanner := do
  let s ← s.startKey?
  some ({ s with outerKeys := s.key :: s.outerKeys, key := none, keyAllowed := true }.mark token)

def closeFlow? (s : Scanner) (token : Token) : Option Scanner := do
  let s ← s.giveUpKey?
  let s := match s.outerKeys with
    | key :: outerKeys => { s with key, outerKeys }
    | [] => s
  some ({ s with keyAllowed := false }.mark token)

def readFlowEntry? (s : Scanner) : Option Scanner := do
  some ({ ← s.giveUpKey? with keyAllowed := true }.mark .flowEntry)

def readBlockEntry? (s : Scanner) : Option Scanner :=
  if s.inFlow || s.keyAllowed then do
    let s ← (s.openBlock s.place.column s.tokens.length .blockSequence).giveUpKey?
    some ({ s with keyAllowed := true }.mark .blockEntry)
  else none

def readKey? (s : Scanner) : Option Scanner :=
  if s.inFlow || s.keyAllowed then do
    let s ← (s.openBlock s.place.column s.tokens.length .blockMapping).giveUpKey?
    some ({ s with keyAllowed := !s.inFlow }.mark .key)
  else none

def readValue? (s : Scanner) : Option Scanner :=
  match s.key with
  | some key =>
    let s := (s.insert key.index .key).openBlock key.column key.index .blockMapping
    some ({ s with key := none, keyAllowed := false }.mark .value)
  | none =>
    if s.inFlow || s.keyAllowed then
      let s := s.openBlock s.place.column s.tokens.length .blockMapping
      some ({ s with keyAllowed := !s.inFlow }.mark .value)
    else none

def readAnchor? (s : Scanner) (token : String → Token) : Option Scanner := do
  let s ← s.startKey?
  let (name, place) ← anchorName? s.place
  some { s.emit (token name) with keyAllowed := false, place }

def readTag? (s : Scanner) : Option Scanner := do
  let s ← s.startKey?
  let (name, place) ← tagName? s.inFlow s.place
  some { s.emit (.tag name) with keyAllowed := false, place }

def readBlockScalar? (s : Scanner) (style : Style) : Option Scanner := do
  let s ← s.giveUpKey?
  let (text, place) ← blockScalar (style = .folded) s.columns.head? (s.place.skip 1)
  some { s.emit (.scalar ⟨String.ofList text, style⟩) with keyAllowed := true, place }

def readSingleQuoted? (s : Scanner) : Option Scanner := do
  let s ← s.startKey?
  let start := s.place.skip 1
  let (text, place) ← singleQuoted .none start.line start.column start.rest
  some { s.emit (.scalar ⟨String.ofList text, .singleQuoted⟩) with keyAllowed := false, place }

def readDoubleQuoted? (s : Scanner) : Option Scanner := do
  let s ← s.startKey?
  let start := s.place.skip 1
  let (text, place) ← doubleQuoted .none start.line start.column start.rest
  some { s.emit (.scalar ⟨String.ofList text, .doubleQuoted⟩) with keyAllowed := false, place }

/-- A key can start after a plain scalar if a line break follows it. -/
def readPlain? (s : Scanner) : Option Scanner := do
  let s ← s.startKey?
  let (text, gap, place) ←
    plain s.inFlow s.margin .none s.place.line s.place.column s.place.rest
  some { s.emit (.scalar ⟨String.ofList text, .plain⟩) with keyAllowed := gap.hasBreak, place }

def read? (s : Scanner) (c : Char) (rest : List Char) : Option Scanner :=
  let next := rest.head?
  let atWord := s.inFlow || endsWord next
  if s.place.column == 0 && c == '%' then s.readDirective?
  else if s.place.column == 0 && startsMarker (c :: rest) then
    s.readMarker? (if c == '-' then .documentStart else .documentEnd)
  else if c == '[' then s.openFlow? .flowSequence
  else if c == '{' then s.openFlow? .flowMapping
  else if c == ']' then s.closeFlow? .flowSequenceEnd
  else if c == '}' then s.closeFlow? .flowMappingEnd
  else if c == ',' then s.readFlowEntry?
  else if c == '-' && endsWord next then s.readBlockEntry?
  else if c == '?' && atWord then s.readKey?
  else if c == ':' && atWord then s.readValue?
  else if c == '*' then s.readAnchor? .reference
  else if c == '&' then s.readAnchor? .anchor
  else if c == '!' then s.readTag?
  else if c == '|' && !s.inFlow then s.readBlockScalar? .literal
  else if c == '>' && !s.inFlow then s.readBlockScalar? .folded
  else if c == '\'' then s.readSingleQuoted?
  else if c == '"' then s.readDoubleQuoted?
  else if startsPlain s.inFlow c next then s.readPlain?
  else none

/-- All tokens from a place on. Each uses up one unit of fuel. -/
def run? : Nat → Scanner → Option (List Token)
  | 0, _ => none
  | fuel + 1, s => do
    let s ← s.skipBlanks.giveUpLate?
    let s := s.closeBlocks (s.place.column < ·)
    match s.place.rest with
    | [] => (← s.endDocument?).tokens.reverse
    | c :: rest => run? fuel (← s.read? c rest)

end Steps

end Scanner

def tokens? (text : String) : Option (List Token) :=
  let characters := text.toList
  if characters.all isAllowed then
    Scanner.run? (characters.length + 1) { place := ⟨0, 0, normalised characters⟩ }
  else none

end Yaml

end RubyTree
