import ScriptTypes.Annotation.Binding
import ScriptTypes.Patch
import ScriptTypes.Shape.Interface
import ScriptTypes.TypeName

/-!
# Annotations in the making

Annotating a file is a sequence of decisions, and each decision inserts something:
the type of a binding, the type arguments of a component class, or an interface at
the start of the file. A `Draft` is what has been decided so far. The source is only
touched at the end, when all insertions are spliced into it.
-/

namespace ScriptTypes.Annotation

open Syntax (Node)

/-- A source with its tree. -/
structure Document where
  /-- The text of the source. -/
  source : String
  /-- The root of its tree. -/
  root : Node

namespace Document

/-- The bytes of the source, which all offsets count. -/
def bytes (d : Document) : List UInt8 := Utf8.encode d.source

/-- The byte order mark. -/
def byteOrderMark : List UInt8 := [0xEF, 0xBB, 0xBF]

/-- The offset after the first line break from an offset on, or the offset if there is none. -/
def afterLine (bytes : List UInt8) (offset : Nat) : Nat :=
  match (bytes.drop offset).findIdx? (· == 10) with
  | some i => offset + i + 1
  | none => offset

/--
Where interfaces go: the start of the file, but behind a byte order mark, which must
stay the first character, and behind a `#!` line, which must stay the first line.
-/
def fileStart (d : Document) : Nat :=
  match d.root.children.head?.bind (·.ofKind? ["hash_bang_line"]) with
  | some line => afterLine d.bytes line.stop
  | none => if byteOrderMark.isPrefixOf d.bytes then byteOrderMark.length else 0

end Document

/-- The type arguments of a component class. -/
inductive TypeArguments where
  /-- Nothing is known of the component. -/
  | unknown
  /-- The interface of its props. -/
  | props (props : String)
  /-- The interfaces of its props and of its state. -/
  | propsAndState (props state : String)
deriving DecidableEq, Repr

/-- The type arguments as they are written. -/
def TypeArguments.text : TypeArguments → String
  | .unknown => "<any, any>"
  | .props p => "<" ++ p ++ ">"
  | .propsAndState p s => "<" ++ p ++ ", " ++ s ++ ">"

/-- Something that is inserted into a source. -/
inductive Insertion where
  /-- An interface at the start of the file. -/
  | interface (name : String) (members : List (String × Shape InferredType))
  /-- The type of a binding, after its pattern. -/
  | bindingType (pattern : Node) (type : BindingType)
  /-- The type arguments of a component class, after the class that it extends. -/
  | typeArguments (superclass : Node) (arguments : TypeArguments)

namespace Insertion

/-- The text that is inserted. -/
def text : Insertion → String
  | interface name members => Shape.interfaceWith name members
  | bindingType _ t => ": " ++ t.text
  | typeArguments _ ts => ts.text

/-- The offset where it is inserted. -/
def offset (fileStart : Nat) : Insertion → Nat
  | interface .. => fileStart
  | bindingType pattern _ => pattern.stop
  | typeArguments superclass _ => superclass.stop

/-- The insertion as an edit. -/
def edit (fileStart : Nat) (i : Insertion) : Edit := ⟨i.offset fileStart, i.text⟩

/-- The range that the insertion stands beside. -/
def span (fileStart : Nat) : Insertion → Except Fault Span
  | interface .. => Span.between fileStart fileStart
  | bindingType pattern _ => pattern.span
  | typeArguments superclass _ => superclass.span

/-- The name of the interface, if it is one. -/
def interfaceName? : Insertion → Option String
  | interface name _ => some name
  | _ => none

end Insertion

/-- What has been decided so far about a document. -/
structure Draft where
  /-- The names that are taken. -/
  taken : List String
  /-- What is to be inserted, in the order of the decisions. -/
  insertions : List Insertion := []
  /-- The bindings that were left alone, in the order in which they were met. -/
  diagnostics : List Diagnostic := []
  /-- The interfaces of the props of component classes, by the ranges of the classes. -/
  propsInterfaces : List (Span × String) := []

namespace Draft

/-- The names of the interfaces, in the order of their discovery. -/
def interfaces (d : Draft) : List String := d.insertions.filterMap (·.interfaceName?)

/-- The insertions as edits, in the order of the decisions. -/
def edits (d : Draft) (doc : Document) : List Edit := d.insertions.map (·.edit doc.fileStart)

/-- The source with all insertions. -/
def apply (d : Draft) (doc : Document) : Except Fault String :=
  textOf (splice doc.bytes (d.edits doc))

/-- The draft with one more insertion, which must stand beside a range inside the source. -/
def insert (d : Draft) (doc : Document) (i : Insertion) : Except Fault Draft := do
  let span ← i.span doc.fileStart
  let _ ← Edit.within doc.bytes.length span.stop i.text
  return { d with insertions := d.insertions ++ [i] }

/-- The draft after a verdict on a pattern. -/
def settle (d : Draft) (doc : Document) (pattern : Node) : Verdict → Except Fault Draft
  | .leave => return d
  | .annotate t => d.insert doc (.bindingType pattern t)
  | .report diagnostic => return { d with diagnostics := d.diagnostics ++ [diagnostic] }

/-- Judges a pattern by the evidence and does what the verdict says. -/
def annotatePattern (d : Draft) (doc : Document) (pattern : Node) (evidence : Evidence) :
    Except Fault Draft := do
  d.settle doc pattern (← judge doc.bytes pattern evidence)

/-- Adds an interface of a free name for an object, of which nothing need be known. -/
def addInterface (d : Draft) (doc : Document) (base : String) (shape : Option (Shape Node)) :
    Except Fault (String × Draft) := do
  let name := TypeName.free base d.taken
  let members ← (shape.getD .unknown).members
  let d ← { d with taken := name :: d.taken }.insert doc (.interface name members)
  return (name, d)

end Draft

end ScriptTypes.Annotation
