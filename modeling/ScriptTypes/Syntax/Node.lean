import ScriptTypes.Span

/-!
# Syntax trees

A parser turns a source into a tree of nodes. Each node has a kind, which for a bare
token is the token itself, a range of byte offsets, the bytes in that range, and the
field of its parent that it fills, if any. What the kinds and fields are is the
grammar's business; the rest of the library looks for those that it knows.

Nothing here assumes that a tree is sensible: kinds and fields may be anything, ranges
may be reversed or lie outside the source, and the bytes may be cut inside a
character.
-/

namespace ScriptTypes.Syntax

/-- What a node says of itself. -/
structure NodeData where
  /-- A label that tells nodes apart; no rule looks at it. -/
  id : Nat
  /-- The kind, or the text of a bare token. -/
  kind : String
  /-- The offset where the node starts. -/
  start : Nat
  /-- The offset where it ends. -/
  stop : Nat
  /-- Whether the node is more than a bare token. -/
  named : Bool
  /-- The field of the parent that the node fills. -/
  field : Option String
  /-- The bytes of the source in the node's range. -/
  bytes : List UInt8
deriving DecidableEq, Repr

/-- A node and everything below it. -/
inductive Node where
  /-- A node with its children in the order of the source. -/
  | mk (data : NodeData) (children : List Node)
deriving Repr

namespace Node

/-- What the node says of itself. -/
def data : Node → NodeData
  | mk d _ => d

/-- The children, in the order of the source. -/
def children : Node → List Node
  | mk _ cs => cs

@[simp] theorem data_mk (d : NodeData) (cs : List Node) : (mk d cs).data = d := rfl

@[simp] theorem children_mk (d : NodeData) (cs : List Node) : (mk d cs).children = cs := rfl

@[simp] theorem mk_data_children (n : Node) : mk n.data n.children = n := by cases n; rfl

/-- The label of the node. -/
def id (n : Node) : Nat := n.data.id

/-- The kind of the node. -/
def kind (n : Node) : String := n.data.kind

/-- The offset where the node starts. -/
def start (n : Node) : Nat := n.data.start

/-- The offset where the node ends. -/
def stop (n : Node) : Nat := n.data.stop

/-- Whether the node is more than a bare token. -/
def named (n : Node) : Bool := n.data.named

/-- The range of the node. -/
def span (n : Node) : Except Fault Span := Span.between n.start n.stop

/-- The text of the node. -/
def text (n : Node) : Except Fault String := textOf n.data.bytes

/-- The first of the nodes that fills the field. -/
def firstIn (field : String) (nodes : List Node) : Option Node :=
  nodes.find? fun n => n.data.field == some field

/-- The first child that fills the field. -/
def field? (n : Node) (field : String) : Option Node := firstIn field n.children

/-- Whether the node says something: it is neither a bare token nor a comment. -/
def isContent (n : Node) : Bool := n.named && n.kind != "comment"

/-- The children that are neither bare tokens nor comments. -/
def namedChildren (n : Node) : List Node := n.children.filter isContent

/-- The node itself, if it is of one of the kinds. -/
def ofKind? (n : Node) (kinds : List String) : Option Node :=
  if n.kind ∈ kinds then some n else none

/-- The first child of one of the kinds. -/
def childOfKind? (n : Node) (kinds : List String) : Option Node :=
  n.children.find? fun c => decide (c.kind ∈ kinds)

/-- Whether a child has the kind. -/
def hasChild (n : Node) (kind : String) : Bool := n.children.any (·.kind == kind)

/-- Whether two nodes have the same kind and the same range. -/
def alike (a b : Node) : Bool := a.kind == b.kind && a.start == b.start && a.stop == b.stop

/-- Whether the child fills the field of the parent, as far as kind and range tell. -/
def isField (parent : Node) (field : String) (child : Node) : Bool :=
  match parent.field? field with
  | some n => n.alike child
  | none => false

end Node

end ScriptTypes.Syntax
