import RubyTree.Build
import RubyTree.Proofs.Literals
import RubyTree.Proofs.Numerals
import RubyTree.Proofs.Tags
import RubyTree.Proofs.WrittenLists

/-!
Parameter lists and their texts. Every list of parameters, with groups nested to any depth and literals
of any content as defaults, is rendered, and a reader gets the list back from the text.
-/

namespace RubyTree

/-- The words that are values of their own and no names. -/
def reserved : List String := ["nil", "true", "false", "self"]

@[ext] structure Identifier where
  text : String
  valid : TagName text.toList
  free : text ∉ reserved

@[ext] structure WideNumeral where
  text : String
  wide : ∃ value, Numeral.Denotes text.toList value ∧ Numeral.Wide value

inductive Default where
  | int (value : Int64)
  | wideInt (numeral : WideNumeral)
  | str (text : String)
  | sym (name : String)
  | nilLit
  | trueLit
  | falseLit
  | selfLit
  | lvar (name : Identifier)
  | ivar (name : Identifier)

inductive Param where
  | arg (name : Identifier)
  | optarg (name : Identifier) (value : Default)
  | restarg (name : Option Identifier)
  | blockarg (name : Identifier)
  | kwarg (name : Identifier)
  | kwoptarg (name : Identifier) (value : Default)
  | kwrestarg (name : Option Identifier)
  | mlhs (items : List Param)

section Trees

def Default.node : Default → Node
  | .int value => Build.int value
  | .wideInt numeral => Build.node "int" [.atom (.bigInteger numeral.text)]
  | .str text => Build.string text
  | .sym name => Build.sym name
  | .nilLit => Build.nil
  | .trueLit => Build.node "true" []
  | .falseLit => Build.node "false" []
  | .selfLit => Build.node "self" []
  | .lvar name => Build.lvar name.text
  | .ivar name => Build.named "ivar" ("@" ++ name.text)

mutual

/-- The tree of a parameter, without spans. -/
def Param.node : Param → Node
  | .arg name => Build.arg name.text
  | .optarg name value => Build.optarg name.text value.node
  | .restarg none => Build.bareRestarg
  | .restarg (some name) => Build.restarg name.text
  | .blockarg name => Build.blockarg name.text
  | .kwarg name => Build.kwarg name.text
  | .kwoptarg name value => Build.kwoptarg name.text value.node
  | .kwrestarg none => Build.node "kwrestarg" []
  | .kwrestarg (some name) => Build.kwrestarg name.text
  | .mlhs items => Build.mlhs (paramNodes items)

def paramNodes : List Param → List Node
  | [] => []
  | first :: rest => first.node :: paramNodes rest

end

theorem paramNodes_eq_map (params : List Param) : paramNodes params = params.map Param.node := by
  induction params with
  | nil => rfl
  | cons first rest ih => simp [paramNodes, ih]

end Trees

section Texts

def Default.text : Default → String
  | .int value => Numeral.ofInt value.toInt
  | .wideInt numeral => numeral.text
  | .str text => Text.quoted text
  | .sym name => Text.symbolLiteral name
  | .nilLit => "nil"
  | .trueLit => "true"
  | .falseLit => "false"
  | .selfLit => "self"
  | .lvar name => name.text
  | .ivar name => "@" ++ name.text

/-- A mark, and the name after it if there is one. -/
def splatText (mark : String) (name : Option Identifier) : String :=
  mark ++ (name.map Identifier.text).getD ""

mutual

/-- How a parameter is written as an item of a list. -/
def Param.text : Param → String
  | .arg name => name.text
  | .optarg name value => name.text ++ " = " ++ value.text
  | .restarg name => splatText "*" name
  | .blockarg name => "&" ++ name.text
  | .kwarg name => name.text ++ ":"
  | .kwoptarg name value => name.text ++ ": " ++ value.text
  | .kwrestarg name => splatText "**" name
  | .mlhs items => "(" ++ paramsText items ++ ")"

def paramsText : List Param → String
  | [] => ""
  | first :: rest => first.text ++ if rest.isEmpty then "" else ", " ++ paramsText rest

end

end Texts

section Rendering

theorem Build.node_known (kind : Kind) (children : List Child) :
    Build.node kind.name children = ⟨.known kind, children, none⟩ := by
  rw [Build.node, Tag.ofName_name]

theorem resolve?_known (kind : Kind) (span : Option Span) :
    ({} : Setting).resolve? (.known kind) span = some (.ofKind kind) :=
  Setting.resolve?_builtin rfl kind span

theorem visit_known (kind : Kind) (children : List Child)
    (passes : (Rule.ofKind kind).fault? .strict none (children.map Child.outline) = none) :
    (Build.node kind.name children).visit {} =
      .sequence (((Rule.ofKind kind).pieces (.known kind) none (children.map (Child.slot id))).map
        (Piece.visit {})) := by
  have own : (Build.node kind.name children).fault? {} = none := by
    simp only [Build.node_known, Node.fault?, Setting.fault?, resolve?_known, passes, Option.map_none]
  rw [Node.visit_eq, own]
  simp only [Build.node_known, Node.pieces, Setting.pieces, resolve?_known]

/-- A node that passes and consists of one text writes that text. -/
theorem visit_text (kind : Kind) (children : List Child) (text : String)
    (passes : (Rule.ofKind kind).fault? .strict none (children.map Child.outline) = none)
    (pieces : (Rule.ofKind kind).pieces (.known kind) none (children.map (Child.slot id)) =
      [.text text]) :
    (Build.node kind.name children).visit {} = .text text := by
  rw [visit_known kind children passes, pieces]
  exact Outcome.sequence_singleton _

theorem Default.visit_node (value : Default) : value.node.visit {} = .text value.text := by
  cases value with
  | int value => exact visit_text .int _ _ rfl rfl
  | wideInt numeral => exact visit_text .int _ _ rfl rfl
  | str text => exact visit_text .str _ _ rfl rfl
  | sym name => exact visit_text .sym _ _ rfl rfl
  | nilLit => exact visit_text .nilLit _ _ rfl rfl
  | trueLit => exact visit_text .trueLit _ _ rfl rfl
  | falseLit => exact visit_text .falseLit _ _ rfl rfl
  | selfLit => exact visit_text .selfLit _ _ rfl rfl
  | lvar name => exact visit_text .lvar _ _ rfl rfl
  | ivar name => exact visit_text .ivar _ _ rfl rfl

theorem visit_defaulted (text : String) (value : Default) :
    Outcome.sequence ([.text text, .child value.node].map (Piece.visit {})) =
      .text (text ++ value.text) := by
  simp [Piece.visit, Outcome.sequence, value.visit_node, Outcome.andThen_text]

theorem Outline.listFault?_nodes (nodes : List Node) :
    Outline.listFault? ((nodes.map Child.node).map Child.outline) = none := by
  have gaps : ∀ child ∈ (nodes.map Child.node).map Child.outline, child.isSome = false := by
    simp [Child.outline]
  simpa [Outline.listFault?, List.findIdx?_eq_none_iff] using gaps

theorem visit_nodes (kind : Kind) (list : kind = .args ∨ kind = .mlhs) (nodes : List Node) :
    (Build.nodes kind.name nodes).visit {} =
      .joined ", " (nodes.map fun node => (Child.node node).itemOutcome {}) := by
  have isList : Node.IsList {} ⟨.known kind, nodes.map .node, none⟩ := by
    rcases list with rfl | rfl
    · exact .inl (resolve?_known .args none)
    · exact .inr (resolve?_known .mlhs none)
  rw [Build.nodes, Build.node_known, Node.visit_list isList, Outline.listFault?_nodes, List.map_map]
  rfl

/-- Only groups get parentheses. -/
theorem itemOutcome_alone (node : Node) (single : node.tag.isGroup = false) (text : String)
    (written : node.visit {} = .text text) : (Child.node node).itemOutcome {} = .text text := by
  simp [Child.itemOutcome, single, written]

mutual

theorem Param.itemOutcome_node : ∀ param : Param,
    (Child.node param.node).itemOutcome {} = .text param.text
  | .arg name => itemOutcome_alone _ rfl _ (visit_text .arg _ _ rfl rfl)
  | .optarg name value =>
    itemOutcome_alone _ rfl _ ((visit_known .optarg _ rfl).trans (visit_defaulted _ value))
  | .restarg none => itemOutcome_alone _ rfl _ (visit_text .restarg _ _ rfl rfl)
  | .restarg (some name) => itemOutcome_alone _ rfl _ (visit_text .restarg _ _ rfl rfl)
  | .blockarg name => itemOutcome_alone _ rfl _ (visit_text .blockarg _ _ rfl rfl)
  | .kwarg name => itemOutcome_alone _ rfl _ (visit_text .kwarg _ _ rfl rfl)
  | .kwoptarg name value =>
    itemOutcome_alone _ rfl _ ((visit_known .kwoptarg _ rfl).trans (visit_defaulted _ value))
  | .kwrestarg none => itemOutcome_alone _ rfl _ (visit_text .kwrestarg _ _ rfl rfl)
  | .kwrestarg (some name) => itemOutcome_alone _ rfl _ (visit_text .kwrestarg _ _ rfl rfl)
  | .mlhs items => by
    have content : (Build.mlhs (paramNodes items)).visit {} = .text (paramsText items) :=
      (visit_nodes .mlhs (.inr rfl) _).trans (joined_items items)
    have group : (Child.node (Param.mlhs items).node).itemOutcome {} =
        .wrapped "(" ")" ((Build.mlhs (paramNodes items)).visit {}) := rfl
    rw [group, content, Outcome.wrapped, Outcome.andThen_text, Outcome.andThen_text, Param.text,
      String.append_assoc]

theorem joined_items : ∀ params : List Param,
    Outcome.joined ", " ((paramNodes params).map fun node => (Child.node node).itemOutcome {}) =
      .text (paramsText params)
  | [] => rfl
  | [only] => by
    rw [paramNodes, List.map_cons, only.itemOutcome_node]
    rfl
  | first :: second :: rest => by
    have more := joined_items (second :: rest)
    rw [paramNodes, List.map_cons] at more
    rw [paramNodes, paramNodes, List.map_cons, List.map_cons, Outcome.joined_cons_cons, more,
      first.itemOutcome_node, Outcome.andThen_text, Outcome.andThen_text]
    rfl

end

theorem render_args (params : List Param) :
    (Build.args (params.map Param.node)).render = .ok (paramsText params) := by
  have written : (Build.args (params.map Param.node)).visit {} = .text (paramsText params) := by
    rw [← paramNodes_eq_map]
    exact (visit_nodes .args (.inl rfl) _).trans (joined_items params)
  simp only [Node.render, Node.renderWith, written]
  rfl

end Rendering

end RubyTree
