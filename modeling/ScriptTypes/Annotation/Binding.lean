import ScriptTypes.Annotation.Diagnostic
import ScriptTypes.InferredType

/-!
# The type of one binding

A binding pattern is annotated with the type that was found for it or, failing that,
with the type that an expression tells. A pattern that is annotated already stays as
it is, and so does one whose expression tells nothing.
-/

namespace ScriptTypes.Annotation

open Syntax (Node)

/-- A type to be written after a binding. -/
inductive BindingType where
  /-- The type that the form of an expression tells. -/
  | inferred (type : InferredType)
  /-- A type by its name. -/
  | named (name : String)
deriving DecidableEq, Repr

/-- The type as it is written. -/
def BindingType.text : BindingType → String
  | .inferred t => t.text
  | .named name => name

/-- The type of a name; the empty text names none. -/
def BindingType.ofName? (name : String) : Option BindingType :=
  if name = "" then none else some (.named name)

/-- What is known about the type of a binding. -/
structure Evidence where
  /-- Whether the binding is annotated already. -/
  annotated : Bool := false
  /-- The type that was found for it, which goes before what expressions tell. -/
  found : Option BindingType := none
  /-- The expression that tells the type. -/
  expression : Option Node := none
  /-- The value in case none is given, which tells the type if there is no such expression. -/
  initial : Option Node := none

/-- The type that the evidence gives. -/
def Evidence.type? (e : Evidence) : Except Fault (Option BindingType) :=
  match e.found with
  | some t => return some t
  | none => return (← inferTypeOf? (e.expression <|> e.initial)).map .inferred

/-- What is to be done about a binding. -/
inductive Verdict where
  /-- Nothing. -/
  | leave
  /-- The pattern gets a type. -/
  | annotate (type : BindingType)
  /-- The pattern is reported. -/
  | report (diagnostic : Diagnostic)
deriving Repr

/-- The kinds of patterns that can be annotated. -/
def annotatableKinds : List String := ["identifier", "object_pattern"]

/-- What is to be done about a binding pattern. -/
def judge (source : List UInt8) (pattern : Node) (evidence : Evidence) : Except Fault Verdict :=
  if evidence.annotated then return .leave
  else if pattern.kind ∈ annotatableKinds then
    return match ← evidence.type? with
      | some t => .annotate t
      | none => .leave
  else if pattern.kind ∈ unsupportedKinds then
    return .report (← Diagnostic.ofPattern source pattern)
  else return .leave

end ScriptTypes.Annotation
