import RubyTree.Decimal.Layout
import RubyTree.Json.Basic
import RubyTree.Tag
import RubyTree.Text.Described

/-!
Why a text is not a document: it is not JSON, its values are not of the expected shapes, or a node of
it is not valid.
-/

namespace RubyTree

inductive Expected where
  | document
  | node
  | string
  | sequence
  | pair
  | offset
  deriving DecidableEq, Repr

def Expected.message : Expected → String
  | .document => "struct RawDocument"
  | .node => "struct RawNode"
  | .string => "a string"
  | .sequence => "a sequence"
  | .pair => "a tuple of size 2"
  | .offset => "usize"

/-- A value of the wrong shape, as far as a message tells about it. -/
inductive Unexpected where
  | null
  | bool (value : Bool)
  | number (value : Json.Number)
  | string (text : String)
  | sequence
  | map
  deriving DecidableEq, Repr

/-- In messages all places are written from a hundred-thousandth up to ten quadrillion. -/
def Decimal.Layout.message : Decimal.Layout := ⟨.even, -4, 16, "+"⟩

def Unexpected.message : Unexpected → String
  | .null => "null"
  | .bool true => "boolean `true`"
  | .bool false => "boolean `false`"
  | .number (.integer value) => "integer `" ++ Numeral.ofInt value ++ "`"
  | .number (.float value) => "floating point `" ++ value.text .message ++ "`"
  | .string text => "string " ++ Text.described text
  | .sequence => "sequence"
  | .map => "map"

inductive Mismatch where
  | missingField (name : String)
  | duplicateField (name : String)
  | wrongType (found : Unexpected) (expected : Expected)
  | wrongValue (found : Unexpected) (expected : Expected)
  | wrongLength (found : Nat) (expected : Expected)
  | notChild
  deriving DecidableEq, Repr

def Mismatch.message : Mismatch → String
  | .missingField name => "missing field `" ++ name ++ "`"
  | .duplicateField name => "duplicate field `" ++ name ++ "`"
  | .wrongType found expected =>
    "invalid type: " ++ found.message ++ ", expected " ++ expected.message
  | .wrongValue found expected =>
    "invalid value: " ++ found.message ++ ", expected " ++ expected.message
  | .wrongLength found expected =>
    let size := match expected with
      | .document | .node => " with 3 elements"
      | _ => ""
    "invalid length " ++ Numeral.ofNat found ++ ", expected " ++ expected.message ++ size
  | .notChild => "data did not match any variant of untagged enum RawChild"

inductive LoadError where
  | json (flaw : Flaw)
  | shape (mismatch : Mismatch)
  | invalidTag (fault : InvalidTag)
  | missingSource (tag : Tag)
  | invalidRange (start stop : Nat)
  | invalidInteger (text : String)
  deriving DecidableEq, Repr

def LoadError.message : LoadError → String
  | .json .unfinished => "malformed AST document: the text ends too early"
  | .json .malformed => "malformed AST document: the text is not JSON"
  | .shape mismatch => "malformed AST document: " ++ mismatch.message
  | .invalidTag fault => fault.message
  | .missingSource tag =>
    "node `" ++ tag.name ++ "` has a source range but the document carries no source text"
  | .invalidRange start stop =>
    "source range " ++ Numeral.ofNat start ++ ".." ++ Numeral.ofNat stop ++
      " does not fit the document source"
  | .invalidInteger text => "`" ++ text ++ "` is not a decimal integer"

end RubyTree
