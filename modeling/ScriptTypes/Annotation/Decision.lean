import ScriptTypes.Annotation.Draft
import ScriptTypes.Annotation.Site
import ScriptTypes.Usage

/-!
# Decisions

What is decided at each kind of place, given the draft so far.

* A parameter that its function uses as an object gets an interface of its own. The
  `props` of a component's constructor get the interface of the component instead.
  Any other parameter gets the type of its default value.
* A declarator without a value, or with one that will be replaced (a null, an empty
  array), gets the type of that value. The head of a loop declares what it is given.
* A catch clause catches anything.
* A class that extends a component of React gets type arguments for its props and its
  state, as far as its body uses them.
-/

namespace ScriptTypes.Annotation

open Syntax

/-! ## Parameters -/

/-- The scope in which a parameter is used: its function, or what stands around its list. -/
def parameterScope? (list : Focus) : Option Focus :=
  list.findAncestor? functionKinds <|> list.parent?

/-- The range of the class whose constructor a scope is. -/
def constructedClass? (scope : Focus) : Except Fault (Option Span) := do
  if scope.node.kind = "method_definition" then
    match scope.node.field? "name" with
    | none => return none
    | some method =>
      if (← method.text) = "constructor" then
        match scope.parent?.bind Focus.parent? with
        | none => return none
        | some declaration => return some (← declaration.node.span)
      else return none
  else return none

/-- The interface of the component's props, if a parameter is the `props` of its constructor. -/
def Draft.constructorProps? (d : Draft) (scope : Focus) (name : String) :
    Except Fault (Option String) := do
  if name = "props" then
    return (← constructedClass? scope).bind fun range => d.propsInterfaces.lookup range
  else return none

/-- Finds the interface of a parameter by its name, or adds one if its scope tells a field. -/
def Draft.parameterInterface (d : Draft) (doc : Document) (scope : Focus) (name : String) :
    Except Fault (Option String × Draft) := do
  match ← d.constructorProps? scope name with
  | some interface => return (some interface, d)
  | none =>
    match ← Usage.gather scope name with
    | some shape =>
      let (interface, d) ← d.addInterface doc (TypeName.pascalCase name) (some shape)
      return (some interface, d)
    | none => return (none, d)

/-- Decides about a parameter. -/
def Draft.decideParameter (d : Draft) (doc : Document) (list : Focus) (parameter : Node) :
    Except Fault Draft := do
  match parameter.field? "pattern" with
  | none => return d
  | some pattern =>
    if parameter.hasChild "type_annotation" then return d
    else
      let (interface, d) ←
        match parameterScope? list with
        | some scope =>
          if pattern.kind = "identifier" then d.parameterInterface doc scope (← pattern.text)
          else pure (none, d)
        | none => pure (none, d)
      d.annotatePattern doc pattern
        { found := interface.map .named, initial := parameter.field? "value" }

/-! ## Declarators -/

/-- Whether a declarator stands in the head of a loop. -/
def inLoopHead (declarator : Focus) : Bool :=
  match declarator.parent? with
  | none => false
  | some declaration =>
    match declaration.parent? with
    | none => false
    | some loop =>
      decide (loop.node.kind ∈ loopKinds) && !loop.node.isField "body" declaration.node

/-- Whether a value says that there is none. -/
def isNullish (value : Node) : Except Fault Bool :=
  if value.kind = "null" ∨ value.kind = "undefined" then return true
  else if value.kind = "identifier" then return (← value.text) == "undefined"
  else return false

/--
Whether the initial value of a declarator leaves the type open, and if so, which
expression tells the type: an array without elements tells that it is one.
-/
def openValue? (value : Option Node) : Except Fault (Option (Option Node)) := do
  match value with
  | none => return some none
  | some v =>
    if ← isNullish v then return some none
    else if v.kind = "array" ∧ v.namedChildren = [] then return some (some v)
    else return none

/-- Decides about a declarator; what it declares must be readable even if nothing is inserted. -/
def Draft.decideDeclarator (d : Draft) (doc : Document) (declarator : Focus) :
    Except Fault Draft := do
  if inLoopHead declarator then return d
  else
    match declarator.node.field? "name" with
    | none => return d
    | some pattern =>
      let _ ← pattern.text
      match ← openValue? (declarator.node.field? "value") with
      | none => return d
      | some expression =>
        d.annotatePattern doc pattern
          { annotated := declarator.node.hasChild "type_annotation", expression }

/-! ## Catch clauses -/

/-- Decides about a catch clause. -/
def Draft.decideCatch (d : Draft) (doc : Document) (clause : Node) : Except Fault Draft :=
  match clause.field? "parameter" with
  | none => return d
  | some pattern =>
    d.annotatePattern doc pattern
      { annotated := clause.hasChild "type_annotation", found := some (.inferred .any) }

/-! ## Component classes -/

/-- The classes of React that components extend. -/
def componentClasses : List String := ["Component", "PureComponent"]

/-- The part of a class that says what it extends. -/
def extendsPart? (declaration : Node) : Option Node :=
  (declaration.childOfKind? ["class_heritage"]).map fun heritage =>
    (heritage.childOfKind? ["extends_clause"]).getD heritage

/-- The class that a class extends. -/
def superclass? (extendsPart : Node) : Option Node :=
  extendsPart.field? "value" <|> extendsPart.namedChildren.head?

/-- Whether a class is one that components extend, by its name or as a member of a module. -/
def isComponentClass (superclass : Node) : Except Fault Bool :=
  if superclass.kind = "identifier" then return decide ((← superclass.text) ∈ componentClasses)
  else if superclass.kind = "member_expression" then
    match superclass.field? "property" with
    | some property => return decide ((← property.text) ∈ componentClasses)
    | none => return false
  else return false

/-- The type arguments of a component, with the interfaces that they need. -/
def Draft.componentInterfaces (d : Draft) (doc : Document) (props state : Option (Shape Node)) :
    Except Fault (TypeArguments × Draft) := do
  match props, state with
  | none, none => return (.unknown, d)
  | some _, none =>
    let (propsName, d) ← d.addInterface doc "Props" props
    return (.props propsName, d)
  | _, some _ =>
    let (propsName, d) ← d.addInterface doc "Props" props
    let (stateName, d) ← d.addInterface doc "State" state
    return (.propsAndState propsName stateName, d)

/-- The interface of the props among some type arguments. -/
def TypeArguments.propsName? : TypeArguments → Option String
  | .unknown => none
  | .props p => some p
  | .propsAndState p _ => some p

/-- Remembers the interface of a component's props for its constructor. -/
def Draft.rememberProps (d : Draft) (declaration : Node) (arguments : TypeArguments) :
    Except Fault Draft :=
  match arguments.propsName? with
  | none => return d
  | some name => do
    let range ← declaration.span
    return { d with propsInterfaces := (range, name) :: d.propsInterfaces }

/-- Decides about a class. -/
def Draft.decideClass (d : Draft) (doc : Document) (declaration : Focus) : Except Fault Draft := do
  match extendsPart? declaration.node with
  | none => return d
  | some extendsPart =>
    match superclass? extendsPart with
    | none => return d
    | some superclass =>
      if ← isComponentClass superclass then
        if extendsPart.hasChild "type_arguments" then return d
        else
          match declaration.node.field? "body" with
          | none => return d
          | some body =>
            let scope := declaration.child body
            let props ← Usage.gather scope "props"
            let state ← Usage.gather scope "state"
            let (arguments, d) ← d.componentInterfaces doc props state
            let d ← d.rememberProps declaration.node arguments
            d.insert doc (.typeArguments superclass arguments)
      else return d

/-! ## All places -/

/-- Decides about one place. -/
def Draft.decide (d : Draft) (doc : Document) : Site → Except Fault Draft
  | .parameter list p => d.decideParameter doc list p
  | .declarator f => d.decideDeclarator doc f
  | .catchClause n => d.decideCatch doc n
  | .classDefinition f => d.decideClass doc f

/--
Decides about places one after the other. The first that fails ends the work; the
draft up to it is kept, because what it reports has been logged.
-/
def Draft.decideAll (doc : Document) (d : Draft) : List Site → Draft × Option Fault
  | [] => (d, none)
  | site :: sites =>
    match d.decide doc site with
    | .ok d => decideAll doc d sites
    | .error f => (d, some f)

end ScriptTypes.Annotation
