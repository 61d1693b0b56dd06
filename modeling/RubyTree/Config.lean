import RubyTree.Rule

/-!
What a user can choose about rendering.
-/

namespace RubyTree

/-- What becomes of a `begin` node with more than one child. -/
inductive BeginPolicy where
  | strict
  | firstChild
  deriving DecidableEq, Repr

structure Config where
  beginPolicy : BeginPolicy := .strict
  /-- Whether nodes without a rule are copied from their source. -/
  sourceFallback : Bool := true
  /-- Node types that are copied from their source even if they have a rule. -/
  verbatimTags : List String := []
  deriving DecidableEq, Repr

/-- The built-in rules, except that the verbatim node types follow the source. -/
def RuleBook.ofConfig (config : Config) : RuleBook :=
  RuleBook.builtin.register config.verbatimTags .source

end RubyTree
