import ScriptTypes.Annotation.Decision
import ScriptTypes.Event

/-!
# Annotated sources

A document is annotated by deciding about all its places, from the first to the last,
and splicing what was decided into its source. The names of interfaces keep clear of
the types that the file declares itself.
-/

namespace ScriptTypes.Annotation

open Syntax (Node)

/-- A source with its annotations. -/
structure Annotated where
  /-- The annotated text. -/
  source : String
  /-- What was inserted, in the order of the decisions. -/
  insertions : List Insertion
  /-- The bindings that were left alone. -/
  diagnostics : List Diagnostic

/-- The names of the interfaces that were added, in the order of their discovery. -/
def Annotated.interfaces (a : Annotated) : List String :=
  a.insertions.filterMap (·.interfaceName?)

/-! ## The names that a file declares -/

/-- The kinds of declarations that declare a type. -/
def typeDeclarationKinds : List String :=
  ["interface_declaration", "type_alias_declaration", "class_declaration",
   "abstract_class_declaration", "enum_declaration"]

/-- The declaration of a type that a statement is, or exports. -/
def typeDeclaration? (statement : Node) : Option Node :=
  let declaration :=
    if statement.kind = "export_statement" then statement.field? "declaration" else some statement
  declaration.bind (·.ofKind? typeDeclarationKinds)

/-- The names of the types that the statements of a file declare. -/
def declaredTypes (root : Node) : Except Fault (List String) :=
  (root.namedChildren.filterMap fun s => (typeDeclaration? s).bind (·.field? "name")).mapM Node.text

/-! ## Deciding and splicing -/

/-- The draft of all decisions about a document, and the failure that ended them, if any. -/
def Document.draft (doc : Document) : Draft × Option Fault :=
  match declaredTypes doc.root with
  | .ok names => Draft.decideAll doc { taken := names ++ TypeName.globals } (Site.all doc.root)
  | .error f => ({ taken := TypeName.globals }, some f)

/-- Annotates a source of which the tree is known. -/
def Document.annotate (doc : Document) : Logged Annotated :=
  let (draft, failure) := doc.draft
  { log := draft.diagnostics.map .skippedPattern
    result :=
      match failure with
      | some f => .error f
      | none => do return ⟨← draft.apply doc, draft.insertions, draft.diagnostics⟩ }

end ScriptTypes.Annotation
