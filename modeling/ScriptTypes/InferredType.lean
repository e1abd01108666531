import ScriptTypes.Syntax.Node

/-!
# Types told from expressions

An expression can tell its type by its form: a literal, an array of literals, an
assignment of something that tells its type, a call. An expression that is absent
may be of any type; one that is present and says nothing useful has no inferred
type, and whoever asked decides what that means.
-/

namespace ScriptTypes

open Syntax (Node)

/-- A type that the form of an expression can tell. -/
inductive InferredType where
  | any
  | number
  | string
  | boolean
  | regExp
  | bigInt
  | function
  /-- An array, by the type of its elements. -/
  | arrayOf (element : InferredType)
deriving DecidableEq, Repr

namespace InferredType

/-- The type as it is written. -/
def text : InferredType → String
  | any => "any"
  | number => "number"
  | string => "string"
  | boolean => "boolean"
  | regExp => "RegExp"
  | bigInt => "BigInt"
  | function => "Function"
  | arrayOf t => t.text ++ "[]"

/-- The type of a literal other than a number, by its kind. -/
def ofLiteral? (kind : String) : Option InferredType :=
  match kind with
  | "string" => some string
  | "true" => some boolean
  | "false" => some boolean
  | "regex" => some regExp
  | "null" => some any
  | "undefined" => some any
  | "object" => some any
  | _ => none

/-- The type of a numeral: a final `n` makes it a big integer. -/
def ofNumeral (numeral : String) : InferredType :=
  if numeral.toList.getLast? = some 'n' then bigInt else number

end InferredType

/-- The kinds of assignments. -/
def assignmentKinds : List String := ["assignment_expression", "augmented_assignment_expression"]

/-- Whether a call is a call of `BigInt`. -/
def isBigIntCall (call : Node) : Except Fault Bool :=
  match call.field? "function" with
  | some callee =>
    if callee.kind = "identifier" then return (← callee.text) == "BigInt" else return false
  | none => return false

mutual

/-- The type that an expression tells by its form. -/
def inferType? : Node → Except Fault (Option InferredType)
  | .mk d cs =>
    if d.kind = "number" then return some (.ofNumeral (← textOf d.bytes))
    else if let some t := InferredType.ofLiteral? d.kind then return some t
    else if d.kind = "identifier" then
      return if (← textOf d.bytes) = "undefined" then some .any else none
    else if d.kind = "array" then return some (.arrayOf (← elementType none cs))
    else if d.kind ∈ assignmentKinds then assignedType? cs
    else if d.kind = "call_expression" then
      return some (if ← isBigIntCall (.mk d cs) then .bigInt else .function)
    else return none

/-- The type of what an assignment with these children assigns. -/
def assignedType? : List Node → Except Fault (Option InferredType)
  | [] => return none
  | c :: cs => if c.data.field = some "right" then inferType? c else assignedType? cs

/--
The type that the elements of an array share, `shared` being that of the elements
before. A spread, an element that tells no type and an element of another type make
it `any`, whatever follows.
-/
def elementType (shared : Option InferredType) : List Node → Except Fault InferredType
  | [] => return shared.getD .any
  | c :: cs =>
    if c.isContent then
      if c.kind = "spread_element" then return .any
      else do
        match ← inferType? c with
        | none => return .any
        | some t =>
          if shared.all (· == t) then elementType (some t) cs else return .any
    else elementType shared cs

end

/-- The type that an expression tells; one that is absent may be of any type. -/
def inferTypeOf? : Option Node → Except Fault (Option InferredType)
  | none => return some .any
  | some n => inferType? n

end ScriptTypes
