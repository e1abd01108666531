import ScriptTypes.Syntax.Node

/-!
# Nodes in their surroundings

Some questions about a node are about what stands around it: which function is a
parameter of, does a member access go on in its parent? A `Focus` is a node together
with its ancestors, nearest first. Walking down a tree hands the ancestors along, so
looking up needs no links in the tree.
-/

namespace ScriptTypes.Syntax

/-- A node and its ancestors. -/
structure Focus where
  /-- The node. -/
  node : Node
  /-- Its ancestors, nearest first. -/
  above : List Node

namespace Focus

/-- The root of a tree. -/
def ofRoot (root : Node) : Focus := ⟨root, []⟩

/-- The parent. -/
def parent? (f : Focus) : Option Focus :=
  match f.above with
  | [] => none
  | p :: ps => some ⟨p, ps⟩

/-- A child, whose nearest ancestor is this node. -/
def child (f : Focus) (c : Node) : Focus := ⟨c, f.node :: f.above⟩

@[simp] theorem parent?_child (f : Focus) (c : Node) : (f.child c).parent? = some f := rfl

/-- The ancestors in a list, each with the ones that follow it above it. -/
def chain : List Node → List Focus
  | [] => []
  | p :: ps => ⟨p, ps⟩ :: chain ps

/-- The ancestors, nearest first. -/
def ancestors (f : Focus) : List Focus := chain f.above

/-- The nearest ancestor of one of the kinds. -/
def findAncestor? (f : Focus) (kinds : List String) : Option Focus :=
  f.ancestors.find? fun a => decide (a.node.kind ∈ kinds)

mutual

/-- A node and everything below it, in the order of the source. -/
def walk (above : List Node) : Node → List Focus
  | .mk d cs => ⟨.mk d cs, above⟩ :: walkAll (.mk d cs :: above) cs

/-- Some siblings and everything below them, in the order of the source. -/
def walkAll (above : List Node) : List Node → List Focus
  | [] => []
  | c :: cs => walk above c ++ walkAll above cs

end

/-- The node and everything below it, in the order of the source. -/
def descendants (f : Focus) : List Focus := walk f.above f.node

end Focus

end ScriptTypes.Syntax
