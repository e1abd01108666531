import ScriptTypes.Annotation
import ScriptTypes.Syntax.Outline

/-!
# Trees made beforehand

Parsing is done elsewhere. What it gave for the texts at hand is kept as a list of
known trees, and a parser that looks texts up in the list is all that the library
needs. A text that is not in the list counts as one in which nothing is well formed.

A tree can be kept in a file: a first line with the dialect and whether there were
errors, then a line for each node, its parts separated by tabs.
-/

namespace ScriptTypes

open Syntax

/-- The tree of a text in a dialect. -/
structure KnownTree where
  /-- The name of the dialect. -/
  dialect : String
  /-- The text. -/
  source : String
  /-- Whether the text is not well formed. -/
  hasErrors : Bool
  /-- The nodes of the tree. -/
  records : List Record

/-- A tree without anything in it. -/
def emptyTree : Node := .mk ⟨0, "program", 0, 0, true, none, []⟩ []

/-- What a parser answers about a text whose tree is known. -/
def KnownTree.parse (t : KnownTree) : Parse :=
  ⟨(treeOfRecords? (Utf8.encode t.source) t.records).getD emptyTree, t.hasErrors⟩

/-- The parser that knows some trees. -/
def Parser.ofKnown (trees : List KnownTree) : Parser := fun dialect source =>
  match trees.find? fun t => t.dialect == dialect.name && t.source == source with
  | some t => t.parse
  | none => ⟨emptyTree, true⟩

/-! ## Files of trees -/

/-- The tree of a text that a file describes. -/
def KnownTree.ofFile? (source description : String) : Option KnownTree := do
  match (description.splitOn "\n").filter (· ≠ "") with
  | [] => none
  | head :: lines =>
    let (dialect, hasErrors) ←
      match head.splitOn "\t" with
      | [dialect, "errors"] => some (dialect, true)
      | [dialect] => some (dialect, false)
      | _ => none
    return { dialect, source, hasErrors, records := ← lines.mapM Record.ofLine? }

end ScriptTypes
