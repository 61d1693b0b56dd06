import RubyTree.Json.Basic
import RubyTree.Text.Hex

/-!
From text to JSON values.
-/

namespace RubyTree

namespace Json

def isBlank (c : Char) : Bool := c == ' ' || c == '\t' || c == '\n' || c == '\r'

def skipBlanks (text : List Char) : List Char := text.dropWhile isBlank

abbrev Reading (α : Type) := Except Break (α × List Char)

def unfinished {α : Type} : Reading α := .error (.of .unfinished)

def malformed {α : Type} : Reading α := .error (.of .malformed)

section Strings

inductive CodeUnit where
  | char (value : Char)
  | half (value : Nat)

def unitOfCode (code : Nat) : CodeUnit :=
  if 0xd800 ≤ code && code < 0xe000 then .half code else .char (Char.ofNat code)

def escaped? : Char → Option Char
  | '"' => some '"'
  | '\\' => some '\\'
  | '/' => some '/'
  | 'b' => some '\x08'
  | 'f' => some '\x0c'
  | 'n' => some '\n'
  | 'r' => some '\r'
  | 't' => some '\t'
  | _ => none

/-- The contents of a string, and what follows its closing quote. Where the text ends within the four
bytes of an escape, it is unfinished whatever they are. -/
def units : List Char → List CodeUnit × Except Flaw (List Char)
  | [] => ([], .error .unfinished)
  | '"' :: rest => ([], .ok rest)
  | '\\' :: 'u' :: a :: b :: c :: d :: rest =>
    match Hex.value? [a, b, c, d] with
    | some code =>
      let (more, rest) := units rest
      (unitOfCode code :: more, rest)
    | none => ([], .error .malformed)
  | '\\' :: 'u' :: short =>
    if (String.ofList short).utf8ByteSize < 4 then ([], .error .unfinished) else ([], .error .malformed)
  | '\\' :: c :: rest =>
    match escaped? c with
    | some value =>
      let (more, rest) := units rest
      (.char value :: more, rest)
    | none => ([], .error .malformed)
  | '\\' :: [] => ([], .error .unfinished)
  | c :: rest =>
    if c.toNat < 0x20 then ([], .error .malformed)
    else
      let (more, rest) := units rest
      (.char c :: more, rest)

/-- Joins the halves of pairs. A half that has no partner is the first problem of the string, unless the
string breaks off before it could have come; then that is. -/
def joinHalves (stop : Option Flaw) : List CodeUnit → Except Flaw (List Char)
  | [] => match stop with
    | some flaw => .error flaw
    | none => .ok []
  | .char c :: rest => (joinHalves stop rest).map (c :: ·)
  | .half high :: .half low :: rest =>
    if high < 0xdc00 && 0xdc00 ≤ low then
      let code := 0x10000 + (high - 0xd800) * 0x400 + (low - 0xdc00)
      (joinHalves stop rest).map (Char.ofNat code :: ·)
    else .error .malformed
  | .half high :: [] =>
    if high < 0xdc00 then .error (stop.getD .malformed) else .error .malformed
  | .half _ :: .char _ :: _ => .error .malformed

def readString (text : List Char) : Reading (Option String) :=
  match units text with
  | (contents, .ok rest) =>
    .ok ((joinHalves none contents).toOption.map String.ofList, rest)
  | (contents, .error flaw) =>
    match joinHalves (some flaw) contents with
    | .error reading => .error ⟨reading, flaw⟩
    | .ok _ => .error (.of flaw)

end Strings

section Numbers

/-- One or more digits. Someone who skims takes a missing digit for a wrong one even at the end. -/
def readDigits (text : List Char) : Reading (List Char) :=
  match text with
  | [] => .error ⟨.unfinished, .malformed⟩
  | c :: _ =>
    if c.isDigit then .ok (text.takeWhile Char.isDigit, text.dropWhile Char.isDigit)
    else malformed

/-- Digits without a leading zero, unless it is the only one. -/
def readWhole (text : List Char) : Except Break (List Char × List Char) := do
  let (found, rest) ← readDigits text
  match found with
  | '0' :: _ :: _ => malformed
  | found => .ok (found, rest)

def readFraction : List Char → Reading (List Char)
  | '.' :: rest => readDigits rest
  | rest => .ok ([], rest)

def exponentSign : List Char → Bool × List Char
  | '+' :: rest => (false, rest)
  | '-' :: rest => (true, rest)
  | rest => (false, rest)

def readExponent (text : List Char) :
    Except Break (Option (Bool × List Char) × List Char) :=
  match text with
  | c :: rest =>
    if c == 'e' || c == 'E' then do
      let (negative, rest) := exponentSign rest
      let (found, rest) ← readDigits rest
      .ok (some (negative, found), rest)
    else .ok (none, text)
  | [] => .ok (none, [])

def readLiteral (negative : Bool) (text : List Char) : Except Break (Literal × List Char) := do
  let (whole, rest) ← readWhole text
  let (fraction, rest) ← readFraction rest
  let (exponent, rest) ← readExponent rest
  .ok (⟨negative, whole, fraction, exponent⟩, rest)

end Numbers

def readWord : List Char → List Char → Reading Unit
  | [], text => .ok ((), text)
  | _ :: _, [] => unfinished
  | expected :: more, c :: text => if c = expected then readWord more text else malformed

abbrev Found (α : Type) := α × Option (List Char)

def found {α : Type} (make : α → Json) : Reading α → Found Json
  | .ok (value, rest) => (make value, some rest)
  | .error stop => (.broken stop, none)

abbrev Listed (α : Type) := Found (List α × Option Break)

def Listed.cons {α : Type} (item : α) : Listed α → Listed α
  | ((items, stop), rest) => ((item :: items, stop), rest)

def Listed.stopped {α : Type} (flaw : Flaw) : Listed α := (([], some (.of flaw)), none)

def Listed.closed {α : Type} (rest : List Char) : Listed α := (([], none), some rest)

mutual

/-- Reads a value. An opening bracket costs three calls, any other item one, which bounds the fuel. -/
def readValue : Nat → List Char → Found Json
  | 0, _ => (.broken (.of .unfinished), none)
  | fuel + 1, text =>
    match skipBlanks text with
    | [] => (.broken (.of .unfinished), none)
    | c :: rest =>
      match c with
      | 'n' => found (fun _ => .null) (readWord ['u', 'l', 'l'] rest)
      | 't' => found (fun _ => .bool true) (readWord ['r', 'u', 'e'] rest)
      | 'f' => found (fun _ => .bool false) (readWord ['a', 'l', 's', 'e'] rest)
      | '"' => found .string (readString rest)
      | '-' => found .number (readLiteral true rest)
      | '[' =>
        let ((found, stop), rest) := readItems fuel rest
        (.array found stop, rest)
      | '{' =>
        let ((found, stop), rest) := readMembers fuel rest
        (.object found stop, rest)
      | c =>
        if c.isDigit then found .number (readLiteral false (c :: rest))
        else (.broken (.of .malformed), none)

def readItems (fuel : Nat) (text : List Char) : Listed Json :=
  match fuel with
  | 0 => .stopped .unfinished
  | fuel + 1 =>
    match skipBlanks text with
    | [] => .stopped .unfinished
    | ']' :: rest => .closed rest
    | _ => readItemsFrom fuel text

def readItemsFrom (fuel : Nat) (text : List Char) : Listed Json :=
  match fuel with
  | 0 => .stopped .unfinished
  | fuel + 1 =>
    match readValue fuel text with
    | (item, none) => (([item], none), none)
    | (item, some rest) =>
      .cons item <|
        match skipBlanks rest with
        | ']' :: rest => .closed rest
        | ',' :: rest => readItemsFrom fuel rest
        | [] => .stopped .unfinished
        | _ => .stopped .malformed

def readMembers (fuel : Nat) (text : List Char) : Listed Member :=
  match fuel with
  | 0 => .stopped .unfinished
  | fuel + 1 =>
    match skipBlanks text with
    | '}' :: rest => .closed rest
    | _ => readMembersFrom fuel text

/-- Reads the members of an object from one of them on. A missing colon is a break in the value. -/
def readMembersFrom (fuel : Nat) (text : List Char) : Listed Member :=
  match fuel with
  | 0 => .stopped .unfinished
  | fuel + 1 =>
    match skipBlanks text with
    | [] => .stopped .unfinished
    | '"' :: rest =>
      match readString rest with
      | .error stop => (([], some stop), none)
      | .ok (key, rest) =>
        let found := match skipBlanks rest with
          | [] => (Json.broken (.of .unfinished), none)
          | ':' :: rest => readValue fuel rest
          | _ => (Json.broken (.of .malformed), none)
        match found with
        | (value, none) => (([⟨key, value⟩], none), none)
        | (value, some rest) =>
          .cons ⟨key, value⟩ <|
            match skipBlanks rest with
            | '}' :: rest => .closed rest
            | ',' :: rest => readMembersFrom fuel rest
            | [] => .stopped .unfinished
            | _ => .stopped .malformed
    | _ => .stopped .malformed

end

/-- Reads a text as one value, and tells whether nothing but blanks follows it. -/
def read (text : String) : Json × Bool :=
  let characters := text.toList
  let (value, rest) := readValue (3 * characters.length + 3) characters
  (value, (rest.map fun rest => (skipBlanks rest).isEmpty).getD true)

end Json

end RubyTree
