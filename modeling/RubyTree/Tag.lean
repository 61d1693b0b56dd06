/-!
Node types. A type is one of the kinds with a rule of their own, or any other name;
every text names exactly one type, and a document may only use identifiers.
-/

namespace RubyTree

inductive Kind where
  | arg | args | optarg | restarg | blockarg | blockPass | argExpr | mlhs
  | kwarg | kwoptarg | kwrestarg | begin | int | float | str | sym
  | nilLit | trueLit | falseLit | selfLit | lvar | ivar
  deriving DecidableEq, Repr

/-- Every kind once, in the order in which they are listed to users. -/
def Kind.all : List Kind :=
  [.arg, .args, .optarg, .restarg, .blockarg, .blockPass, .argExpr, .mlhs,
    .kwarg, .kwoptarg, .kwrestarg, .begin, .int, .float, .str, .sym,
    .nilLit, .trueLit, .falseLit, .selfLit, .lvar, .ivar]

def Kind.name : Kind → String
  | .arg => "arg"
  | .args => "args"
  | .optarg => "optarg"
  | .restarg => "restarg"
  | .blockarg => "blockarg"
  | .blockPass => "block_pass"
  | .argExpr => "arg_expr"
  | .mlhs => "mlhs"
  | .kwarg => "kwarg"
  | .kwoptarg => "kwoptarg"
  | .kwrestarg => "kwrestarg"
  | .begin => "begin"
  | .int => "int"
  | .float => "float"
  | .str => "str"
  | .sym => "sym"
  | .nilLit => "nil"
  | .trueLit => "true"
  | .falseLit => "false"
  | .selfLit => "self"
  | .lvar => "lvar"
  | .ivar => "ivar"

def Kind.ofName? (name : String) : Option Kind :=
  Kind.all.find? fun kind => kind.name == name

/-- A node type. `other` is meant for names that no kind has; `Tag.ofName` never breaks this. -/
inductive Tag where
  | known (kind : Kind)
  | other (name : String)
  deriving DecidableEq, Repr

def Tag.name : Tag → String
  | .known kind => kind.name
  | .other name => name

def Tag.ofName (name : String) : Tag :=
  match Kind.ofName? name with
  | some kind => .known kind
  | none => .other name

/-- Groups are set in parentheses when they stand in a list of parameters. -/
def Tag.isGroup (tag : Tag) : Bool := tag == .known .mlhs

/-- Letters, digits and underscores of ASCII, and no digit in front. -/
def isTagName : List Char → Bool
  | [] => false
  | c :: rest => (c.isAlpha || c == '_') && rest.all fun c => c.isAlphanum || c == '_'

structure InvalidTag where
  name : String
  deriving DecidableEq, Repr

def InvalidTag.message (fault : InvalidTag) : String :=
  "invalid node type `" ++ fault.name ++ "`"

def Tag.parse (name : String) : Except InvalidTag Tag :=
  if isTagName name.toList then .ok (.ofName name) else .error ⟨name⟩

end RubyTree
