import RubyTree.Tag

/-!
The rules by which nodes are written, and the book that says which rule a node type follows.
-/

namespace RubyTree

inductive Rule where
  | argument | arguments | argExpr | optarg | restarg | blockarg | blockPass | mlhs
  | kwarg | kwoptarg | kwrestarg | begin | integer | float | str | symbol
  | keyword | variable | source
  deriving DecidableEq, Repr

/-- The rule that each kind follows unless the book says otherwise. -/
def Rule.ofKind : Kind → Rule
  | .arg => .argument
  | .args => .arguments
  | .optarg => .optarg
  | .restarg => .restarg
  | .blockarg => .blockarg
  | .blockPass => .blockPass
  | .argExpr => .argExpr
  | .mlhs => .mlhs
  | .kwarg => .kwarg
  | .kwoptarg => .kwoptarg
  | .kwrestarg => .kwrestarg
  | .begin => .begin
  | .int => .integer
  | .float => .float
  | .str => .str
  | .sym => .symbol
  | .nilLit | .trueLit | .falseLit | .selfLit => .keyword
  | .lvar | .ivar => .variable

def Rule.ofTag? : Tag → Option Rule
  | .known kind => some (.ofKind kind)
  | .other _ => none

/-- Entries for node types, the latest first. -/
structure RuleBook where
  entries : List (Tag × Rule)
  deriving DecidableEq, Repr

namespace RuleBook

def empty : RuleBook := ⟨[]⟩

def builtin : RuleBook := ⟨Kind.all.map fun kind => (.known kind, .ofKind kind)⟩

/-- Puts nodes of all the given types under one rule, whatever rule they followed before. -/
def registerTags (book : RuleBook) (tags : List Tag) (rule : Rule) : RuleBook :=
  ⟨tags.map (fun tag => (tag, rule)) ++ book.entries⟩

def register (book : RuleBook) (names : List String) (rule : Rule) : RuleBook :=
  book.registerTags (names.map .ofName) rule

def lookup? (book : RuleBook) (tag : Tag) : Option Rule :=
  (book.entries.find? fun entry => entry.1 == tag).map Prod.snd

end RuleBook

end RubyTree
