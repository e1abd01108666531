import ScriptTypes.Syntax.Focus

/-!
# Places that take annotations

Four kinds of places take annotations: parameters, declarators, catch clauses and
classes. A tree is searched for them once, in the order of the source, and they are
decided one after the other in that order.
-/

namespace ScriptTypes.Annotation

open Syntax

/-- The kinds of functions. -/
def functionKinds : List String :=
  ["function_declaration", "function_expression", "function", "generator_function_declaration",
   "generator_function", "arrow_function", "method_definition"]

/-- The kinds of classes that can be components. -/
def classKinds : List String := ["class_declaration", "class"]

/-- The kinds of loops that declare variables in their heads. -/
def loopKinds : List String := ["for_statement", "for_in_statement"]

/-- A place that takes annotations. -/
inductive Site where
  /-- A parameter, in a list of parameters. -/
  | parameter (list : Focus) (parameter : Node)
  /-- A variable declarator. -/
  | declarator (declarator : Focus)
  /-- A catch clause. -/
  | catchClause (clause : Node)
  /-- A class. -/
  | classDefinition (declaration : Focus)

/-- The places that one node opens. -/
def Site.at (f : Focus) : List Site :=
  if f.node.kind = "formal_parameters" then
    (f.node.namedChildren.filter (·.kind = "required_parameter")).map (.parameter f)
  else if f.node.kind = "variable_declarator" then [.declarator f]
  else if f.node.kind = "catch_clause" then [.catchClause f.node]
  else if f.node.kind ∈ classKinds then [.classDefinition f]
  else []

/-- The places in a tree, in the order of the source. -/
def Site.all (root : Node) : List Site := (Focus.ofRoot root).descendants.flatMap Site.at

end ScriptTypes.Annotation
