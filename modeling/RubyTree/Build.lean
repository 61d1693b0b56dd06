import RubyTree.Node

/-!
Short forms for building trees by hand.
-/

namespace RubyTree

namespace Build

/-- A node of a named type, without a span. -/
def node (name : String) (children : List Child) : Node := ⟨.ofName name, children, none⟩

def nodes (name : String) (children : List Node) : Node := node name (children.map .node)

def named (type name : String) : Node := node type [.atom (.symbol name)]

def defaulted (type name : String) (value : Node) : Node :=
  node type [.atom (.symbol name), .node value]

def arg (name : String) : Node := named "arg" name

def optarg (name : String) (value : Node) : Node := defaulted "optarg" name value

def restarg (name : String) : Node := named "restarg" name

def bareRestarg : Node := node "restarg" []

def blockarg (name : String) : Node := named "blockarg" name

def blockPass (value : Node) : Node := nodes "block_pass" [value]

def argExpr (group : Node) : Node := nodes "arg_expr" [group]

def args (items : List Node) : Node := nodes "args" items

def mlhs (items : List Node) : Node := nodes "mlhs" items

def kwarg (name : String) : Node := named "kwarg" name

def kwoptarg (name : String) (value : Node) : Node := defaulted "kwoptarg" name value

def kwrestarg (name : String) : Node := named "kwrestarg" name

def begin (body : List Node) : Node := nodes "begin" body

def int (value : Int64) : Node := node "int" [.atom (.integer value)]

def float (value : Binary64) : Node := node "float" [.atom (.float value)]

def string (text : String) : Node := node "str" [.atom (.str text)]

def sym (name : String) : Node := named "sym" name

def lvar (name : String) : Node := named "lvar" name

def nil : Node := node "nil" []

/-- A node without children that covers a part of a source text. -/
def sourced (name source : String) (start stop : Nat) : Node :=
  ⟨.ofName name, [], some ⟨⟨"(test)", source⟩, start, stop⟩⟩

end Build

end RubyTree
