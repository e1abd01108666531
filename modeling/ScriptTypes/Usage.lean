import ScriptTypes.InferredType
import ScriptTypes.Shape
import ScriptTypes.Syntax.Focus
import ScriptTypes.Text.Identifier

/-!
# How a binding is used

What an object looks like can be told from how a scope uses the name that it is bound
to. Three kinds of usage tell something:

* an access `name.a.b` or `this.name.a.b`, which tells that there is a field `a` with
  a field `b`, and which call or assignment the whole access takes part in;
* a pattern that takes the binding, or what is accessed from it, apart;
* an object literal assigned to the binding or to what is accessed from it, or given
  as the initial value to a class field of that name.

Each usage contributes a shape of its own, a *fragment*. What the scope tells is the
merge of all fragments in the order of the source.
-/

namespace ScriptTypes.Usage

open Syntax

/-- The shape that a usage contributes, with the expressions that tell types at its leaves. -/
abbrev Fragment := Shape Node

/-- The kinds of class fields. -/
def classFieldKinds : List String := ["public_field_definition", "field_definition"]

/-! ## Names of fields -/

/-- The text between the first and the last character. -/
def unquoted (s : String) : String := String.ofList (s.toList.drop 1).dropLast

/-- The field name that a key states: an identifier, or an identifier in quotes. -/
def keyName? (key : Option Node) : Except Fault (Option String) :=
  match key with
  | none => return none
  | some n =>
    if n.kind = "property_identifier" ∨ n.kind = "identifier" then return some (← n.text)
    else if n.kind = "string" then do
      let name := unquoted (← n.text)
      return if Text.isIdentifier name then some name else none
    else return none

/-! ## Accesses -/

/-- Whether a member access is the first one from the binding: `name.x` or `this.name.x`. -/
def startsAt (name : String) (access : Node) : Except Fault Bool :=
  match access.field? "object" with
  | none => return false
  | some object =>
    if object.kind = "identifier" then return (← object.text) == name
    else if object.kind = "member_expression" then
      match object.field? "object", object.field? "property" with
      | some this, some property =>
        if this.kind = "this" then return (← property.text) == name else return false
      | _, _ => return false
    else return false

/--
The names on the way outwards from a member access, and the outermost access that
still has one: as long as an access is itself the object of another, the way goes on.
-/
def outward (access : Node) : List Node → Except Fault (List String × Option Focus)
  | [] => do
    match ← keyName? (access.field? "property") with
    | none => return ([], none)
    | some name => return ([name], some ⟨access, []⟩)
  | parent :: above => do
    match ← keyName? (access.field? "property") with
    | none => return ([], none)
    | some name =>
      if parent.kind = "member_expression" ∧ parent.isField "object" access then
        let (names, outermost) ← outward parent above
        return (name :: names, outermost <|> some ⟨access, parent :: above⟩)
      else return ([name], some ⟨access, parent :: above⟩)

/-- The call or assignment that an access takes part in. -/
def involvement? (access : Focus) : Option Node :=
  match access.above with
  | [] => none
  | parent :: _ =>
    if parent.kind = "call_expression" ∧ parent.isField "function" access.node then some parent
    else if parent.kind ∈ assignmentKinds ∧ parent.isField "left" access.node then some parent
    else none

/-- What a member access tells, if it starts at the binding. -/
def accessFragment (name : String) (access : Focus) : Except Fault Fragment := do
  if ← startsAt name access.node then
    let (names, outermost) ← outward access.node access.above
    match names, outermost with
    | _ :: _, some o => return .nest names (.leaf (involvement? o))
    | _, _ => return .unknown
  else return .unknown

mutual

/-- An expression, the object it accesses, the object of that, and so on. -/
def objectChain : Node → List Node
  | .mk d cs => .mk d cs :: objectChainIn cs

/-- The chain of the first node that fills the field of an object. -/
def objectChainIn : List Node → List Node
  | [] => []
  | c :: cs => if c.data.field = some "object" then objectChain c else objectChainIn cs

end

/--
The field names between the binding and the head of a chain of objects: none for
`name` and `this.name`, `a` and `b` for `name.a.b`. A chain that does not lead to the
binding, or not by static names, has no path.
-/
def chainPath? (name : String) : List Node → Except Fault (Option (List String))
  | [] => return none
  | n :: rest => do
    if n.kind = "identifier" then
      return if (← n.text) = name then some [] else none
    else if n.kind = "member_expression" then
      match rest, ← keyName? (n.field? "property") with
      | object :: _, some property =>
        if object.kind = "this" ∧ property = name then return some []
        else
          match ← chainPath? name rest with
          | some path => return some (path ++ [property])
          | none => return none
      | _, _ => return none
    else return none

/-- The field names between the binding and an expression. -/
def path? (name : String) (expression : Option Node) : Except Fault (Option (List String)) :=
  match expression with
  | none => return none
  | some e => chainPath? name (objectChain e)

/-! ## Patterns -/

mutual

/-- What an object pattern tells of the object that it takes apart. -/
def patternShape : Node → Except Fault Fragment
  | .mk _ cs => patternElements .unknown cs

/-- What the elements of an object pattern tell, on top of `known`. -/
def patternElements (known : Fragment) : List Node → Except Fault Fragment
  | [] => return known
  | c :: cs => do
    if !c.isContent then patternElements known cs
    else if c.kind = "shorthand_property_identifier_pattern" then
      patternElements (known.addField (← c.text) .unknown) cs
    else if c.kind = "object_assignment_pattern" then
      match c.field? "left" with
      | some left =>
        if left.kind = "shorthand_property_identifier_pattern" then
          patternElements (known.addField (← left.text) (.leaf (c.field? "right"))) cs
        else patternElements known cs
      | none => patternElements known cs
    else if c.kind = "pair_pattern" then
      match ← keyName? (c.field? "key") with
      | some key =>
        match ← pairPatternShape? c with
        | some s => patternElements (known.addField key s) cs
        | none => patternElements known cs
      | none => patternElements known cs
    else patternElements known cs

/-- What the value of a key in a pattern tells, if the key has one. -/
def pairPatternShape? : Node → Except Fault (Option Fragment)
  | .mk _ cs => boundShape? cs

/-- What the first of the nodes that is a value tells of what is bound to it. -/
def boundShape? : List Node → Except Fault (Option Fragment)
  | [] => return none
  | c :: cs =>
    if c.data.field = some "value" then return some (← boundShape c) else boundShape? cs

/-- What the pattern that a value is bound to tells of the value. -/
def boundShape : Node → Except Fault Fragment
  | .mk d cs =>
    if d.kind = "object_pattern" then patternElements .unknown cs
    else if d.kind = "assignment_pattern" then do
      match ← nestedPatternShape? cs with
      | some s => return s
      | none => return .leaf (Node.firstIn "right" cs)
    else return .unknown

/-- What the object pattern on the left of a default tells, if there is one. -/
def nestedPatternShape? : List Node → Except Fault (Option Fragment)
  | [] => return none
  | c :: cs =>
    if c.data.field = some "left" then
      if c.kind = "object_pattern" then return some (← patternShape c) else return none
    else nestedPatternShape? cs

end

/-! ## Literals -/

mutual

/-- What an object literal tells of itself. -/
def literalShape : Node → Except Fault Fragment
  | .mk _ cs => literalMembers .unknown cs

/-- What the members of an object literal tell, on top of `known`. -/
def literalMembers (known : Fragment) : List Node → Except Fault Fragment
  | [] => return known
  | c :: cs => do
    if !c.isContent then literalMembers known cs
    else if c.kind = "shorthand_property_identifier" then
      literalMembers (known.addField (← c.text) .unknown) cs
    else if c.kind = "pair" then
      match ← keyName? (c.field? "key") with
      | some key => literalMembers (known.addField key (← pairShape c)) cs
      | none => literalMembers known cs
    else literalMembers known cs

/-- What the value of a key in a literal tells. -/
def pairShape : Node → Except Fault Fragment
  | .mk _ cs => valueShapeIn cs

/-- What the first of the nodes that is a value tells of itself. -/
def valueShapeIn : List Node → Except Fault Fragment
  | [] => return .leaf none
  | c :: cs => if c.data.field = some "value" then valueShape c else valueShapeIn cs

/-- A literal with members tells a shape; any other value is an expression that tells a type. -/
def valueShape : Node → Except Fault Fragment
  | .mk d cs =>
    if d.kind = "object" ∧ cs.any Node.isContent then literalMembers .unknown cs
    else return .leaf (some (.mk d cs))

end

/-! ## Fragments -/

/-- What a declarator tells that takes the binding apart. -/
def destructuringFragment (name : String) (pattern value : Option Node) :
    Except Fault Fragment := do
  match pattern with
  | some p =>
    if p.kind = "object_pattern" then
      match ← path? name value with
      | some path => return .nest path (← patternShape p)
      | none => return .unknown
    else return .unknown
  | none => return .unknown

/-- What the assignment of an object literal to the binding tells. -/
def assignmentFragment (name : String) (left right : Option Node) : Except Fault Fragment := do
  match right with
  | some r =>
    if r.kind = "object" then
      match ← path? name left with
      | some path => return .nest path (← literalShape r)
      | none => return .unknown
    else return .unknown
  | none => return .unknown

/-- What a class field of the binding's name tells that starts as an object literal. -/
def classFieldFragment (name : String) (definition : Node) : Except Fault Fragment := do
  if (← keyName? (definition.field? "name" <|> definition.field? "property")) = some name then
    match definition.field? "value" with
    | some value => if value.kind = "object" then literalShape value else return .unknown
    | none => return .unknown
  else return .unknown

/-- What one node of a scope tells of the binding; most nodes tell nothing. -/
def fragment (name : String) (f : Focus) : Except Fault Fragment :=
  let n := f.node
  if n.kind = "member_expression" then accessFragment name f
  else if n.kind = "variable_declarator" then
    destructuringFragment name (n.field? "name") (n.field? "value")
  else if n.kind = "assignment_expression" then
    assignmentFragment name (n.field? "left") (n.field? "right")
  else if n.kind ∈ classFieldKinds then classFieldFragment name n
  else return .unknown

/-- What the nodes of a scope tell of the binding, in the order of the source. -/
def fragments (scope : Focus) (name : String) : Except Fault (List Fragment) :=
  scope.descendants.mapM (fragment name)

/-- The shape that a scope tells of the binding, if it tells any field. -/
def gather (scope : Focus) (name : String) : Except Fault (Option (Shape Node)) := do
  let shape := (← fragments scope name).foldl Shape.merge .unknown
  return if shape.isUnknown then none else some shape

end ScriptTypes.Usage
