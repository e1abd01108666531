import ScriptTypes.Syntax.Focus

/-!
# Trees as lists

A parser writes a tree down as a list of records in the order of the source, each
naming its parent by its place in the list. `treeOfRecords?` builds the tree. The
other way round, `outlineOf` lists the named nodes of a tree for a reader, one line
each, indented by depth.
-/

namespace ScriptTypes.Syntax

/-- One node of a written tree. -/
structure Record where
  /-- The kind, or the text of a bare token. -/
  kind : String
  /-- The offset where the node starts. -/
  start : Nat
  /-- The offset where it ends. -/
  stop : Nat
  /-- The place of the parent in the list; the root has none. -/
  parent : Option Nat
  /-- Whether the node is more than a bare token. -/
  named : Bool
  /-- The field of the parent that the node fills. -/
  field : Option String
deriving Repr

/-- The node of a record at a place of the list. -/
def Record.data (r : Record) (source : List UInt8) (place : Nat) : NodeData where
  id := place
  kind := r.kind
  start := r.start
  stop := r.stop
  named := r.named
  field := r.field
  bytes := (source.drop r.start).take (r.stop - r.start)

/-- The node that a line describes: its range, its parent, `named` or not, its field, its kind. -/
def Record.ofLine? (line : String) : Option Record :=
  match line.splitOn "\t" with
  | start :: stop :: parent :: named :: field :: kind => do
    return {
      start := ← start.toNat?
      stop := ← stop.toNat?
      parent := parent.toNat?
      named := named == "named"
      field := if field = "" then none else some field
      kind := "\t".intercalate kind }
  | _ => none

/-- The children found so far of each node, by the node's place. -/
abbrev Pending := Array (List Node)

/-- Builds the node at a place, whose children are all known, and hands it to its parent. -/
def Pending.settle (source : List UInt8) (pending : Pending) (entry : Record × Nat) : Pending :=
  let node := Node.mk (entry.1.data source entry.2) (pending.getD entry.2 [])
  match entry.1.parent with
  | some p => pending.modify p (node :: ·)
  | none => pending

/--
The tree of a list of records over a source. A node comes after its parent in the
list, so the list is worked through from its end: when a node's turn comes all its
children have been built.
-/
def treeOfRecords? (source : List UInt8) (records : List Record) : Option Node :=
  match records with
  | [] => none
  | root :: rest =>
    let start : Pending := Array.replicate records.length []
    let pending := (rest.zipIdx 1).reverse.foldl (Pending.settle source) start
    some (.mk (root.data source 0) (pending.getD 0 []))

mutual

/-- The named nodes of a tree with their depths, in the order of the source. -/
def outline (depth : Nat) : Node → List (Nat × Node)
  | .mk d cs =>
    if d.named then (depth, .mk d cs) :: outlineAll (depth + 1) cs else outlineAll (depth + 1) cs

/-- The named nodes of some siblings and below, in the order of the source. -/
def outlineAll (depth : Nat) : List Node → List (Nat × Node)
  | [] => []
  | c :: cs => outline depth c ++ outlineAll depth cs

end

/-- One line of an outline. -/
def outlineLine (depth : Nat) (n : Node) : String :=
  String.ofList (List.replicate depth ' ') ++ s!"{n.kind} [{n.start}-{n.stop}]"

/-- The outline of a tree. -/
def outlineOf (root : Node) : List String := (outline 0 root).map fun e => outlineLine e.1 e.2

end ScriptTypes.Syntax
