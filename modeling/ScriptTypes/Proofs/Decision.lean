import ScriptTypes.Annotation
import ScriptTypes.Proofs.Outcome

/-!
# What a decision can do

Deciding about a place either fails or leaves behind a draft that differs from the one
before in few ways: nothing, a diagnostic, the type of a binding, an interface and the
type of a binding, or the type arguments of a class with the interfaces they name. This
file says so once for each kind of place, together with what must have held for it to
happen. Every invariant of a run is a case analysis of these.
-/

namespace ScriptTypes

/-- A range has the ends that it was made of. -/
theorem Span.ends_of_between {start stop : Int} {span : Span}
    (h : Span.between start stop = .ok span) : span.start = start ∧ span.stop = stop := by
  unfold Span.between at h
  split at h
  · cases h
    exact ⟨rfl, rfl⟩
  · cases h

namespace Annotation

open Syntax

variable {doc : Document} {d d' : Draft}

/-- No type is known if none was found and the expression tells none. -/
theorem Evidence.type?_eq_none_iff {evidence : Evidence} : evidence.type? = .ok none ↔
    evidence.found = none ∧
      inferTypeOf? (evidence.expression <|> evidence.initial) = .ok none := by
  unfold Evidence.type?
  cases evidence.found with
  | some t => exact iff_of_false (by simp [pure, Except.pure]) (by simp)
  | none =>
      dsimp only
      rw [bind_eq_ok]
      constructor
      · rintro ⟨t, ht, hnone⟩
        obtain rfl := Option.map_eq_none_iff.mp (pure_eq_ok.mp hnone)
        exact ⟨rfl, ht⟩
      · rintro ⟨_, ht⟩
        exact ⟨none, ht, rfl⟩

/-- A type is known if it was found, or if none was and the expression tells it. -/
theorem Evidence.type?_eq_some_iff {evidence : Evidence} {type : BindingType} :
    evidence.type? = .ok (some type) ↔ evidence.found = some type ∨
      evidence.found = none ∧ ∃ t,
        inferTypeOf? (evidence.expression <|> evidence.initial) = .ok (some t) ∧
          type = .inferred t := by
  unfold Evidence.type?
  cases evidence.found with
  | some t => simp [pure, Except.pure]
  | none =>
      dsimp only
      rw [bind_eq_ok]
      constructor
      · rintro ⟨t, ht, hsome⟩
        obtain ⟨i, rfl, rfl⟩ := Option.map_eq_some_iff.mp (pure_eq_ok.mp hsome)
        exact .inr ⟨rfl, i, ht, rfl⟩
      · rintro (h | ⟨_, t, ht, rfl⟩)
        · cases h
        · exact ⟨some t, ht, rfl⟩

namespace Draft

/-- The draft with one more insertion. -/
def adding (d : Draft) (i : Insertion) : Draft := { d with insertions := d.insertions ++ [i] }

/-- The draft with one more diagnostic. -/
def reporting (d : Draft) (diagnostic : Diagnostic) : Draft :=
  { d with diagnostics := d.diagnostics ++ [diagnostic] }

/-- The draft that remembers the interface of a component's props by the range of its class. -/
def remembering (d : Draft) (range : Span) (name : String) : Draft :=
  { d with propsInterfaces := (range, name) :: d.propsInterfaces }

/-- The draft with one more interface, whose name is taken from now on. -/
def describing (d : Draft) (name : String) (members : List (String × Shape InferredType)) :
    Draft :=
  { d with taken := name :: d.taken }.adding (.interface name members)

@[simp] theorem adding_insertions (i : Insertion) :
    (d.adding i).insertions = d.insertions ++ [i] := rfl

theorem interfaces_adding (i : Insertion) :
    (d.adding i).interfaces = d.interfaces ++ i.interfaceName?.toList := by
  unfold interfaces
  rw [adding_insertions, List.filterMap_append]
  cases hi : i.interfaceName? <;> simp [hi]

@[simp] theorem remembering_insertions {range : Span} {name : String} :
    (d.remembering range name).insertions = d.insertions := rfl

@[simp] theorem describing_insertions {name : String}
    {members : List (String × Shape InferredType)} :
    (d.describing name members).insertions = d.insertions ++ [.interface name members] := rfl

@[simp] theorem remembering_interfaces {range : Span} {name : String} :
    (d.remembering range name).interfaces = d.interfaces := rfl

@[simp] theorem interfaces_describing {name : String}
    {members : List (String × Shape InferredType)} :
    (d.describing name members).interfaces = d.interfaces ++ [name] := interfaces_adding _

/-! ## Insertions, verdicts and interfaces -/

/-- The range beside which an insertion stands ends where it is inserted. -/
theorem stop_of_span {i : Insertion} {fileStart : Nat} {span : Span}
    (h : i.span fileStart = .ok span) : span.stop = i.offset fileStart := by
  cases i with
  | interface name members => exact (Span.ends_of_between h).2
  | bindingType pattern type => exact (Span.ends_of_between h).2
  | typeArguments superclass arguments => exact (Span.ends_of_between h).2

/-- An insertion is accepted if its range is one and it lies inside the source. -/
theorem insert_eq_ok {i : Insertion} :
    d.insert doc i = .ok d' ↔
      (∃ span, i.span doc.fileStart = .ok span) ∧ i.offset doc.fileStart ≤ doc.bytes.length ∧
        d' = d.adding i := by
  unfold insert
  rw [bind_eq_ok]
  constructor
  · rintro ⟨span, hspan, h⟩
    obtain ⟨e, he, h⟩ := bind_eq_ok.mp h
    refine ⟨⟨span, hspan⟩, ?_, (pure_eq_ok.mp h).symm⟩
    unfold Edit.within at he
    rw [stop_of_span hspan] at he
    split at he
    · rename_i hin; omega
    · cases he
  · rintro ⟨⟨span, hspan⟩, hin, rfl⟩
    refine ⟨span, hspan, bind_eq_ok.mpr ⟨⟨i.offset doc.fileStart, i.text⟩, ?_, rfl⟩⟩
    unfold Edit.within
    rw [stop_of_span hspan, if_pos (by omega)]
    rfl

/-- What becomes of a draft when a pattern is judged by some evidence. -/
inductive Judged (doc : Document) (d : Draft) (pattern : Node) (evidence : Evidence) :
    Draft → Prop where
  /-- The pattern is annotated already. -/
  | annotated : evidence.annotated = true → Judged doc d pattern evidence d
  /-- No type is known for the pattern. -/
  | unresolved : evidence.annotated = false → pattern.kind ∈ annotatableKinds →
      evidence.type? = .ok none → Judged doc d pattern evidence d
  /-- The pattern gets a type. -/
  | typed {type : BindingType} : evidence.annotated = false → pattern.kind ∈ annotatableKinds →
      evidence.type? = .ok (some type) → pattern.stop ≤ doc.bytes.length →
      Judged doc d pattern evidence (d.adding (.bindingType pattern type))
  /-- The pattern is reported. -/
  | reported {diagnostic : Diagnostic} : evidence.annotated = false →
      pattern.kind ∉ annotatableKinds → pattern.kind ∈ unsupportedKinds →
      Diagnostic.ofPattern doc.bytes pattern = .ok diagnostic →
      Judged doc d pattern evidence (d.reporting diagnostic)
  /-- The pattern is of no kind that anything is done about. -/
  | ignored : evidence.annotated = false → pattern.kind ∉ annotatableKinds →
      pattern.kind ∉ unsupportedKinds → Judged doc d pattern evidence d

theorem judged_of_annotatePattern {pattern : Node} {evidence : Evidence}
    (h : d.annotatePattern doc pattern evidence = .ok d') : Judged doc d pattern evidence d' := by
  unfold annotatePattern at h
  obtain ⟨verdict, hv, hs⟩ := bind_eq_ok.mp h
  unfold judge at hv
  split at hv
  · rename_i ha
    obtain rfl := pure_eq_ok.mp hv
    obtain rfl := pure_eq_ok.mp hs
    exact .annotated ha
  · rename_i ha
    rw [Bool.not_eq_true] at ha
    split at hv
    · rename_i hk
      obtain ⟨type, ht, hv⟩ := bind_eq_ok.mp hv
      obtain rfl := pure_eq_ok.mp hv
      cases type with
      | none =>
          obtain rfl := pure_eq_ok.mp hs
          exact .unresolved ha hk ht
      | some t =>
          obtain ⟨_, hin, rfl⟩ := insert_eq_ok.mp hs
          exact .typed ha hk ht hin
    · rename_i hk
      split at hv
      · rename_i hu
        obtain ⟨diagnostic, hd, hv⟩ := bind_eq_ok.mp hv
        obtain rfl := pure_eq_ok.mp hv
        obtain rfl := pure_eq_ok.mp hs
        exact .reported ha hk hu hd
      · rename_i hu
        obtain rfl := pure_eq_ok.mp hv
        obtain rfl := pure_eq_ok.mp hs
        exact .ignored ha hk hu

/-- A judgement inserts nothing, or the type of a pattern that can have one. -/
theorem Judged.news {pattern : Node} {evidence : Evidence}
    (h : Judged doc d pattern evidence d') :
    d'.insertions = d.insertions ∨ pattern.kind ∈ annotatableKinds ∧
      ∃ type, d'.insertions = d.insertions ++ [.bindingType pattern type] := by
  cases h with
  | annotated | unresolved | ignored | reported => exact .inl rfl
  | typed _ hk => exact .inr ⟨hk, _, rfl⟩

/-- A judgement that inserts something inserts the type of the pattern. -/
theorem Judged.inserted {pattern : Node} {evidence : Evidence}
    (h : Judged doc d pattern evidence d') (hne : d'.insertions ≠ d.insertions) :
    ∃ type, d'.insertions = d.insertions ++ [.bindingType pattern type] := by
  rcases h.news with hsame | ⟨_, hnew⟩
  · exact absurd hsame hne
  · exact hnew

/-- A pattern that can have a type is given the one that is known for it. -/
theorem Judged.eq_of_type? {pattern : Node} {evidence : Evidence} {type : BindingType}
    (h : Judged doc d pattern evidence d') (htype : evidence.type? = .ok (some type))
    (hopen : evidence.annotated = false) (hk : pattern.kind ∈ annotatableKinds) :
    d' = d.adding (.bindingType pattern type) := by
  cases h with
  | annotated ha => cases hopen.symm.trans ha
  | unresolved _ _ ht => cases htype.symm.trans ht
  | typed _ _ ht =>
      obtain rfl := Option.some.inj (Except.ok.inj (htype.symm.trans ht))
      rfl
  | reported _ hno => exact absurd hk hno
  | ignored _ hno => exact absurd hk hno

/-- One that was found for it goes before what expressions tell. -/
theorem Judged.eq_of_found {pattern : Node} {evidence : Evidence} {type : BindingType}
    (h : Judged doc d pattern evidence d') (hfound : evidence.found = some type)
    (hopen : evidence.annotated = false) (hk : pattern.kind ∈ annotatableKinds) :
    d' = d.adding (.bindingType pattern type) :=
  h.eq_of_type? (Evidence.type?_eq_some_iff.mpr (.inl hfound)) hopen hk

theorem addInterface_eq_ok {base name : String} {shape : Option (Shape Node)} :
    d.addInterface doc base shape = .ok (name, d') ↔
      name = TypeName.free base d.taken ∧ doc.fileStart ≤ doc.bytes.length ∧
        ∃ members, (shape.getD .unknown).members = .ok members ∧
          d' = d.describing name members := by
  unfold addInterface
  dsimp only
  rw [bind_eq_ok]
  constructor
  · rintro ⟨members, hm, h⟩
    obtain ⟨d1, hi, h⟩ := bind_eq_ok.mp h
    obtain ⟨_, hin, rfl⟩ := insert_eq_ok.mp hi
    obtain ⟨rfl, rfl⟩ := Prod.mk.inj (pure_eq_ok.mp h)
    exact ⟨rfl, hin, members, hm, rfl⟩
  · rintro ⟨rfl, hin, members, hm, rfl⟩
    refine ⟨members, hm, bind_eq_ok.mpr ⟨_, insert_eq_ok.mpr ⟨?_, hin, rfl⟩, rfl⟩⟩
    exact ⟨⟨doc.fileStart, doc.fileStart, Int.le_refl _⟩, by
      show Span.between _ _ = _
      unfold Span.between
      rw [dif_pos (Int.le_refl _)]⟩

/-! ## Parameters -/

/-- Where the interface of a parameter comes from, and what becomes of the draft. -/
inductive Interfaced (doc : Document) (d : Draft) (scope : Focus) (name : String) :
    Option String → Draft → Prop where
  /-- It is that of the props of the component whose constructor the scope is. -/
  | constructed {props : String} : d.constructorProps? scope name = .ok (some props) →
      Interfaced doc d scope name (some props) d
  /-- It is a new one, since the scope tells a field. -/
  | described {shape : Shape Node} {members : List (String × Shape InferredType)} :
      d.constructorProps? scope name = .ok none → Usage.gather scope name = .ok (some shape) →
      shape.members = .ok members → doc.fileStart ≤ doc.bytes.length →
      Interfaced doc d scope name (some (TypeName.free (TypeName.pascalCase name) d.taken))
        (d.describing (TypeName.free (TypeName.pascalCase name) d.taken) members)
  /-- There is none. -/
  | unused : d.constructorProps? scope name = .ok none → Usage.gather scope name = .ok none →
      Interfaced doc d scope name none d

theorem interfaced_of_parameterInterface {scope : Focus} {name : String}
    {interface : Option String}
    (h : d.parameterInterface doc scope name = .ok (interface, d')) :
    Interfaced doc d scope name interface d' := by
  unfold parameterInterface at h
  obtain ⟨props, hp, h⟩ := bind_eq_ok.mp h
  cases props with
  | some props =>
      obtain ⟨rfl, rfl⟩ := Prod.mk.inj (pure_eq_ok.mp h)
      exact .constructed hp
  | none =>
      obtain ⟨shape, hs, h⟩ := bind_eq_ok.mp h
      cases shape with
      | none =>
          obtain ⟨rfl, rfl⟩ := Prod.mk.inj (pure_eq_ok.mp h)
          exact .unused hp hs
      | some shape =>
          obtain ⟨⟨name', d1⟩, hi, h⟩ := bind_eq_ok.mp h
          obtain ⟨rfl, hin, members, hm, rfl⟩ := addInterface_eq_ok.mp hi
          obtain ⟨rfl, rfl⟩ := Prod.mk.inj (pure_eq_ok.mp h)
          exact .described hp hs hm hin

/-- The interface that is found or made for a pattern in a list of parameters, if any. -/
inductive Scoped (doc : Document) (d : Draft) (list : Focus) (pattern : Node) :
    Option String → Draft → Prop where
  /-- The pattern is a name and stands in a scope. -/
  | scope {scope : Focus} {name : String} {interface : Option String} {d' : Draft} :
      parameterScope? list = some scope → pattern.kind = "identifier" → pattern.text = .ok name →
      Interfaced doc d scope name interface d' → Scoped doc d list pattern interface d'
  /-- There is no scope, or the pattern is no name. -/
  | none : parameterScope? list = none ∨ pattern.kind ≠ "identifier" →
      Scoped doc d list pattern none d

/-- Finding the interface of a parameter inserts nothing but an interface. -/
theorem Scoped.news {list : Focus} {pattern : Node} {interface : Option String}
    (h : Scoped doc d list pattern interface d') :
    ∃ new, d'.insertions = d.insertions ++ new ∧
      ∀ i ∈ new, ∃ name members, i = .interface name members := by
  cases h with
  | none => exact ⟨[], by simp⟩
  | scope _ _ _ hi =>
      cases hi with
      | constructed | unused => exact ⟨[], by simp⟩
      | described =>
          refine ⟨_, rfl, fun i hi => ?_⟩
          exact ⟨_, _, List.mem_singleton.mp hi⟩

theorem Scoped.diagnostics {list : Focus} {pattern : Node} {interface : Option String}
    (h : Scoped doc d list pattern interface d') : d'.diagnostics = d.diagnostics := by
  cases h with
  | none => rfl
  | scope _ _ _ hi => cases hi <;> rfl

theorem Scoped.identifier {list : Focus} {pattern : Node} {name : String}
    (h : Scoped doc d list pattern (some name) d') : pattern.kind = "identifier" := by
  cases h with
  | scope _ hk => exact hk

/-- What is decided about a parameter. -/
inductive ParameterDecided (doc : Document) (d : Draft) (list : Focus) (parameter : Node) :
    Draft → Prop where
  /-- It has no pattern. -/
  | unnamed : parameter.field? "pattern" = none → ParameterDecided doc d list parameter d
  /-- It is annotated already. -/
  | annotated {pattern : Node} : parameter.field? "pattern" = some pattern →
      parameter.hasChild "type_annotation" = true → ParameterDecided doc d list parameter d
  /-- Its pattern is judged by its interface and its default value. -/
  | judged {pattern : Node} {interface : Option String} {d₁ d₂ : Draft} :
      parameter.field? "pattern" = some pattern →
      parameter.hasChild "type_annotation" = false → Scoped doc d list pattern interface d₁ →
      Judged doc d₁ pattern
        { found := interface.map .named, initial := parameter.field? "value" } d₂ →
      ParameterDecided doc d list parameter d₂

theorem parameterDecided_of_ok {list : Focus} {parameter : Node}
    (h : d.decideParameter doc list parameter = .ok d') :
    ParameterDecided doc d list parameter d' := by
  unfold decideParameter at h
  cases hp : parameter.field? "pattern" with
  | none =>
      simp only [hp] at h
      obtain rfl := pure_eq_ok.mp h
      exact .unnamed hp
  | some pattern =>
      simp only [hp] at h
      cases ha : parameter.hasChild "type_annotation" with
      | true =>
          simp only [ha, if_true] at h
          obtain rfl := pure_eq_ok.mp h
          exact .annotated hp ha
      | false =>
          simp only [ha, Bool.false_eq_true, if_false] at h
          cases hs : parameterScope? list with
          | none =>
              simp only [hs] at h
              exact .judged hp ha (.none (.inl hs)) (judged_of_annotatePattern h)
          | some scope =>
              simp only [hs] at h
              split at h
              · rename_i hk
                obtain ⟨name, hn, h⟩ := bind_eq_ok.mp h
                obtain ⟨⟨interface, d₁⟩, hi, h⟩ := bind_eq_ok.mp h
                exact .judged hp ha (.scope hs hk hn (interfaced_of_parameterInterface hi))
                  (judged_of_annotatePattern h)
              · rename_i hk
                exact .judged hp ha (.none (.inr hk)) (judged_of_annotatePattern h)

/-! ## Declarators and catch clauses -/

/-- What is decided about a declarator. -/
inductive DeclaratorDecided (doc : Document) (d : Draft) (declarator : Focus) : Draft → Prop where
  /-- It stands in the head of a loop. -/
  | looped : inLoopHead declarator = true → DeclaratorDecided doc d declarator d
  /-- It declares nothing. -/
  | unnamed : inLoopHead declarator = false → declarator.node.field? "name" = none →
      DeclaratorDecided doc d declarator d
  /-- Its value tells what it is. -/
  | closed {pattern : Node} {text : String} : inLoopHead declarator = false →
      declarator.node.field? "name" = some pattern → pattern.text = .ok text →
      openValue? (declarator.node.field? "value") = .ok none →
      DeclaratorDecided doc d declarator d
  /-- Its pattern is judged by the value that it starts with. -/
  | judged {pattern : Node} {text : String} {expression : Option Node} {d' : Draft} :
      inLoopHead declarator = false → declarator.node.field? "name" = some pattern →
      pattern.text = .ok text →
      openValue? (declarator.node.field? "value") = .ok (some expression) →
      Judged doc d pattern
        { annotated := declarator.node.hasChild "type_annotation", expression } d' →
      DeclaratorDecided doc d declarator d'

theorem declaratorDecided_of_ok {declarator : Focus}
    (h : d.decideDeclarator doc declarator = .ok d') : DeclaratorDecided doc d declarator d' := by
  unfold decideDeclarator at h
  cases hl : inLoopHead declarator with
  | true =>
      simp only [hl, if_true] at h
      obtain rfl := pure_eq_ok.mp h
      exact .looped hl
  | false =>
      simp only [hl, Bool.false_eq_true, if_false] at h
      cases hp : declarator.node.field? "name" with
      | none =>
          simp only [hp] at h
          obtain rfl := pure_eq_ok.mp h
          exact .unnamed hl hp
      | some pattern =>
          simp only [hp] at h
          obtain ⟨text, ht, h⟩ := bind_eq_ok.mp h
          obtain ⟨value, hv, h⟩ := bind_eq_ok.mp h
          cases value with
          | none =>
              obtain rfl := pure_eq_ok.mp h
              exact .closed hl hp ht hv
          | some expression => exact .judged hl hp ht hv (judged_of_annotatePattern h)

/-- What is decided about a catch clause. -/
inductive CatchDecided (doc : Document) (d : Draft) (clause : Node) : Draft → Prop where
  /-- It binds nothing. -/
  | unnamed : clause.field? "parameter" = none → CatchDecided doc d clause d
  /-- Its pattern can be anything. -/
  | judged {pattern : Node} {d' : Draft} : clause.field? "parameter" = some pattern →
      Judged doc d pattern
        { annotated := clause.hasChild "type_annotation", found := some (.inferred .any) } d' →
      CatchDecided doc d clause d'

theorem catchDecided_of_ok {clause : Node} (h : d.decideCatch doc clause = .ok d') :
    CatchDecided doc d clause d' := by
  unfold decideCatch at h
  cases hp : clause.field? "parameter" with
  | none =>
      simp only [hp] at h
      obtain rfl := pure_eq_ok.mp h
      exact .unnamed hp
  | some pattern =>
      simp only [hp] at h
      exact .judged hp (judged_of_annotatePattern h)

/-! ## Component classes -/

/-- A class that is a component and says nothing of its props and state yet. -/
structure OpenComponent (declaration part superclass body : Node) : Prop where
  /-- It extends something. -/
  extends_ : extendsPart? declaration = some part
  /-- What it extends has a name. -/
  named : superclass? part = some superclass
  /-- It is one of the classes of components. -/
  component : isComponentClass superclass = .ok true
  /-- There are no type arguments. -/
  bare : part.hasChild "type_arguments" = false
  /-- It has a body. -/
  bodied : declaration.field? "body" = some body

/-- What is decided about a class. -/
inductive ClassDecided (doc : Document) (d : Draft) (declaration : Focus) : Draft → Prop where
  /-- It is no component, or one that says what its props and state are. -/
  | left : (∀ part superclass body, ¬ OpenComponent declaration.node part superclass body) →
      (∀ part superclass, extendsPart? declaration.node = some part →
        superclass? part = some superclass →
        ∃ component, isComponentClass superclass = .ok component) →
      ClassDecided doc d declaration d
  /-- Its body uses neither props nor state. -/
  | unknown {part superclass body : Node} :
      OpenComponent declaration.node part superclass body →
      Usage.gather (declaration.child body) "props" = .ok none →
      Usage.gather (declaration.child body) "state" = .ok none →
      superclass.stop ≤ doc.bytes.length →
      ClassDecided doc d declaration (d.adding (.typeArguments superclass .unknown))
  /-- Its body uses props, but no state. -/
  | props {part superclass body : Node} {props : Shape Node} {range : Span}
      {members : List (String × Shape InferredType)} {name : String} :
      OpenComponent declaration.node part superclass body →
      Usage.gather (declaration.child body) "props" = .ok (some props) →
      Usage.gather (declaration.child body) "state" = .ok none →
      name = TypeName.free "Props" d.taken → props.members = .ok members →
      declaration.node.span = .ok range → doc.fileStart ≤ doc.bytes.length →
      superclass.stop ≤ doc.bytes.length →
      ClassDecided doc d declaration
        (((d.describing name members).remembering range name).adding
          (.typeArguments superclass (.props name)))
  /-- Its body uses state, and perhaps props, for which there is an interface all the same. -/
  | state {part superclass body : Node} {props : Option (Shape Node)} {state : Shape Node}
      {range : Span} {propsMembers stateMembers : List (String × Shape InferredType)}
      {propsName stateName : String} :
      OpenComponent declaration.node part superclass body →
      Usage.gather (declaration.child body) "props" = .ok props →
      Usage.gather (declaration.child body) "state" = .ok (some state) →
      propsName = TypeName.free "Props" d.taken →
      (props.getD .unknown).members = .ok propsMembers →
      stateName = TypeName.free "State" (propsName :: d.taken) →
      state.members = .ok stateMembers →
      declaration.node.span = .ok range → doc.fileStart ≤ doc.bytes.length →
      superclass.stop ≤ doc.bytes.length →
      ClassDecided doc d declaration
        ((((d.describing propsName propsMembers).describing stateName stateMembers).remembering
          range propsName).adding (.typeArguments superclass (.propsAndState propsName stateName)))

theorem classDecided_of_open {declaration : Focus} {part superclass body : Node}
    {props state : Option (Shape Node)} {arguments : TypeArguments} {d₁ d₂ : Draft}
    (ho : OpenComponent declaration.node part superclass body)
    (hp : Usage.gather (declaration.child body) "props" = .ok props)
    (hs : Usage.gather (declaration.child body) "state" = .ok state)
    (ha : d.componentInterfaces doc props state = .ok (arguments, d₁))
    (hr : d₁.rememberProps declaration.node arguments = .ok d₂)
    (hi : d₂.insert doc (.typeArguments superclass arguments) = .ok d') :
    ClassDecided doc d declaration d' := by
  obtain ⟨_, hin, rfl⟩ := insert_eq_ok.mp hi
  unfold componentInterfaces at ha
  unfold rememberProps at hr
  cases state with
  | none =>
      cases props with
      | none =>
          obtain ⟨rfl, rfl⟩ := Prod.mk.inj (pure_eq_ok.mp ha)
          obtain rfl := pure_eq_ok.mp hr
          exact .unknown ho hp hs hin
      | some props =>
          obtain ⟨⟨name, d⟩, hadd, ha⟩ := bind_eq_ok.mp ha
          obtain ⟨hname, hstart, members, hm, rfl⟩ := addInterface_eq_ok.mp hadd
          obtain ⟨rfl, rfl⟩ := Prod.mk.inj (pure_eq_ok.mp ha)
          obtain ⟨range, hspan, hr⟩ := bind_eq_ok.mp hr
          obtain rfl := pure_eq_ok.mp hr
          exact .props ho hp hs hname hm hspan hstart hin
  | some state =>
      -- with state there are two interfaces, whatever is known of the props
      have key : ∃ propsName dp stateName ds, d.addInterface doc "Props" props = .ok (propsName, dp)
          ∧ dp.addInterface doc "State" (some state) = .ok (stateName, ds)
          ∧ arguments = .propsAndState propsName stateName ∧ d₁ = ds := by
        cases props with
        | none | some _ =>
            obtain ⟨⟨propsName, dp⟩, h1, ha⟩ := bind_eq_ok.mp ha
            obtain ⟨⟨stateName, ds⟩, h2, ha⟩ := bind_eq_ok.mp ha
            obtain ⟨rfl, rfl⟩ := Prod.mk.inj (pure_eq_ok.mp ha)
            exact ⟨propsName, dp, stateName, ds, h1, h2, rfl, rfl⟩
      obtain ⟨propsName, dp, stateName, ds, h1, h2, rfl, rfl⟩ := key
      obtain ⟨hpn, hstart, propsMembers, hpm, rfl⟩ := addInterface_eq_ok.mp h1
      obtain ⟨hsn, _, stateMembers, hsm, rfl⟩ := addInterface_eq_ok.mp h2
      obtain ⟨range, hspan, hr⟩ := bind_eq_ok.mp hr
      obtain rfl := pure_eq_ok.mp hr
      exact .state ho hp hs hpn hpm hsn hsm hspan hstart hin

theorem classDecided_of_ok {declaration : Focus} (h : d.decideClass doc declaration = .ok d') :
    ClassDecided doc d declaration d' := by
  unfold decideClass at h
  cases he : extendsPart? declaration.node with
  | none =>
      simp only [he] at h
      obtain rfl := pure_eq_ok.mp h
      refine .left (fun _ _ _ ho => ?_) fun _ _ he' => ?_
      · cases he.symm.trans ho.extends_
      · cases he.symm.trans he'
  | some part =>
      simp only [he] at h
      cases hs : superclass? part with
      | none =>
          simp only [hs] at h
          obtain rfl := pure_eq_ok.mp h
          refine .left (fun _ _ _ ho => ?_) fun _ _ he' hs' => ?_
          · obtain rfl := Option.some.inj (he.symm.trans ho.extends_)
            cases hs.symm.trans ho.named
          · obtain rfl := Option.some.inj (he.symm.trans he')
            cases hs.symm.trans hs'
      | some superclass =>
          simp only [hs] at h
          obtain ⟨component, hc, h⟩ := bind_eq_ok.mp h
          have hread : ∀ part' superclass', extendsPart? declaration.node = some part' →
              superclass? part' = some superclass' →
              ∃ component, isComponentClass superclass' = .ok component := by
            intro part' superclass' he' hs'
            obtain rfl := Option.some.inj (he.symm.trans he')
            obtain rfl := Option.some.inj (hs.symm.trans hs')
            exact ⟨component, hc⟩
          have hopen : ∀ {part' superclass' body}, OpenComponent declaration.node part' superclass'
              body → part' = part ∧ superclass' = superclass := by
            intro part' superclass' body ho
            obtain rfl := Option.some.inj (he.symm.trans ho.extends_)
            exact ⟨rfl, Option.some.inj (ho.named.symm.trans hs)⟩
          split at h
          · rename_i htrue
            split at h
            · rename_i hargs
              obtain rfl := pure_eq_ok.mp h
              refine .left (fun _ _ _ ho => ?_) hread
              obtain ⟨rfl, rfl⟩ := hopen ho
              cases hargs.symm.trans ho.bare
            · rename_i hargs
              cases hb : declaration.node.field? "body" with
              | none =>
                  simp only [hb] at h
                  obtain rfl := pure_eq_ok.mp h
                  refine .left (fun _ _ _ ho => ?_) hread
                  cases hb.symm.trans ho.bodied
              | some body =>
                  simp only [hb] at h
                  obtain ⟨props, hp, h⟩ := bind_eq_ok.mp h
                  obtain ⟨state, hst, h⟩ := bind_eq_ok.mp h
                  obtain ⟨⟨arguments, d₁⟩, ha, h⟩ := bind_eq_ok.mp h
                  obtain ⟨d₂, hr, h⟩ := bind_eq_ok.mp h
                  subst htrue
                  exact classDecided_of_open
                    ⟨he, hs, hc, by rwa [Bool.not_eq_true] at hargs, hb⟩ hp hst ha hr h
          · rename_i hfalse
            obtain rfl := pure_eq_ok.mp h
            refine .left (fun _ _ _ ho => ?_) hread
            obtain ⟨rfl, rfl⟩ := hopen ho
            exact hfalse (Except.ok.inj (hc.symm.trans ho.component))

theorem ClassDecided.diagnostics {declaration : Focus} (h : ClassDecided doc d declaration d') :
    d'.diagnostics = d.diagnostics := by
  cases h <;> rfl

/-- A component that says nothing of its props and state is given type arguments. -/
theorem ClassDecided.news {declaration : Focus} (h : ClassDecided doc d declaration d')
    {part superclass body : Node} (ho : OpenComponent declaration.node part superclass body) :
    ∃ new superclass arguments,
      d'.insertions = d.insertions ++ (new ++ [.typeArguments superclass arguments]) := by
  cases h with
  | left hno => exact absurd ho (hno part superclass body)
  | @unknown _ superclass _ => exact ⟨[], superclass, _, rfl⟩
  | @props _ superclass _ _ _ members name =>
      exact ⟨[.interface name members], superclass, _, List.append_assoc _ _ _⟩
  | @state _ superclass _ _ _ _ propsMembers stateMembers propsName stateName =>
      refine ⟨[.interface propsName propsMembers, .interface stateName stateMembers], superclass,
        .propsAndState propsName stateName, ?_⟩
      simp

/-! ## Runs -/

/-- What is decided about a place. -/
inductive Decided (doc : Document) (d d' : Draft) : Site → Prop where
  | parameter {list : Focus} {p : Node} : ParameterDecided doc d list p d' →
      Decided doc d d' (.parameter list p)
  | declarator {f : Focus} : DeclaratorDecided doc d f d' → Decided doc d d' (.declarator f)
  | catchClause {n : Node} : CatchDecided doc d n d' → Decided doc d d' (.catchClause n)
  | classDefinition {f : Focus} : ClassDecided doc d f d' → Decided doc d d' (.classDefinition f)

/-- **Every decision is one of these.** -/
theorem decided_of_ok {site : Site} (h : d.decide doc site = .ok d') : Decided doc d d' site := by
  cases site with
  | parameter list p => exact .parameter (parameterDecided_of_ok h)
  | declarator f => exact .declarator (declaratorDecided_of_ok h)
  | catchClause n => exact .catchClause (catchDecided_of_ok h)
  | classDefinition f => exact .classDefinition (classDecided_of_ok h)

/-- What every decision preserves holds at the end of a run, even of one that fails. -/
theorem decideAll_preserves {P : Draft → Prop} {sites : List Site}
    (hstep : ∀ site ∈ sites, ∀ d d', P d → Decided doc d d' site → P d') :
    ∀ {d : Draft}, P d → P (decideAll doc d sites).1 := by
  induction sites with
  | nil => intro d h; exact h
  | cons site sites ih =>
      intro d h
      rw [decideAll]
      split
      · rename_i d' hd
        exact ih (fun s hs => hstep s (List.mem_cons_of_mem _ hs))
          (hstep site List.mem_cons_self d d' h (decided_of_ok hd))
      · exact h

/-- A run that ended well decided about its first place and then about the others. -/
theorem decideAll_cons_eq {d'' : Draft} {site : Site} {sites : List Site}
    (h : decideAll doc d (site :: sites) = (d'', none)) :
    ∃ d', d.decide doc site = .ok d' ∧ decideAll doc d' sites = (d'', none) := by
  rw [decideAll] at h
  cases hd : d.decide doc site with
  | error f =>
      rw [hd] at h
      cases h
  | ok d' =>
      rw [hd] at h
      exact ⟨d', rfl, h⟩

/-- A run about some places and then others that ended well is one about each of the two. -/
theorem decideAll_append_eq {d'' : Draft} {done rest : List Site}
    (h : decideAll doc d (done ++ rest) = (d'', none)) :
    ∃ d', decideAll doc d done = (d', none) ∧ decideAll doc d' rest = (d'', none) := by
  induction done generalizing d with
  | nil => exact ⟨d, rfl, h⟩
  | cons site done ih =>
      obtain ⟨d₁, hd, h⟩ := decideAll_cons_eq h
      obtain ⟨d', hdone, hrest⟩ := ih h
      refine ⟨d', ?_, hrest⟩
      rw [decideAll, hd]
      exact hdone

/--
What every decision appends to a list stands there at the end of a run, place by place. The
decisions may rely on what they preserve.
-/
theorem decideAll_appends {β : Type} {out : Draft → List β} {P : Draft → Prop}
    {adds : Site → List β → Prop} {sites : List Site}
    (hstep : ∀ site ∈ sites, ∀ d d', P d → Decided doc d d' site →
      P d' ∧ ∃ new, out d' = out d ++ new ∧ adds site new) :
    ∀ {d d' : Draft}, P d → decideAll doc d sites = (d', none) →
      ∃ news, List.Forall₂ adds sites news ∧ out d' = out d ++ news.flatten := by
  induction sites with
  | nil =>
      intro d d' _ hrun
      obtain ⟨rfl, -⟩ := Prod.mk.inj hrun
      exact ⟨[], .nil, (List.append_nil _).symm⟩
  | cons site sites ih =>
      intro d d' h hrun
      obtain ⟨d₁, hd, hrest⟩ := decideAll_cons_eq hrun
      obtain ⟨h₁, new, hnew, hadds⟩ := hstep site List.mem_cons_self d d₁ h (decided_of_ok hd)
      obtain ⟨news, hnews, hout⟩ :=
        ih (fun s hs => hstep s (List.mem_cons_of_mem _ hs)) h₁ hrest
      refine ⟨new :: news, .cons hadds hnews, ?_⟩
      rw [hout, hnew, List.flatten_cons, List.append_assoc]

end Draft

/-- The draft with which the decisions about a document start. -/
def Draft.start (names : List String) : Draft := { taken := names ++ TypeName.globals }

/-- A document is annotated if the types that it declares can be read, all its places can be
decided about, and the patched bytes are a text. -/
theorem annotate_document_eq_ok {a : Annotated} :
    doc.annotate.result = .ok a ↔
      ∃ names d, declaredTypes doc.root = .ok names ∧
        Draft.decideAll doc (Draft.start names) (Site.all doc.root) = (d, none) ∧
        textOf (splice doc.bytes (d.edits doc)) = .ok a.source ∧
        a.insertions = d.insertions ∧ a.diagnostics = d.diagnostics := by
  unfold Document.annotate Document.draft
  cases hn : declaredTypes doc.root with
  | error f => simp
  | ok names =>
      rcases hrun : Draft.decideAll doc (Draft.start names) (Site.all doc.root) with ⟨d, failure⟩
      dsimp only
      rw [show ({ taken := names ++ TypeName.globals } : Draft) = Draft.start names from rfl, hrun]
      cases failure with
      | some f => simp [hrun]
      | none =>
          dsimp only
          rw [bind_eq_ok]
          constructor
          · rintro ⟨source, hs, h⟩
            obtain rfl := pure_eq_ok.mp h
            exact ⟨names, d, rfl, hrun, hs, rfl, rfl⟩
          · rintro ⟨names', d', hn', hrun', hs, hi, hd⟩
            obtain rfl := Except.ok.inj hn'
            obtain ⟨rfl, -⟩ := Prod.mk.inj (hrun.symm.trans hrun')
            refine ⟨a.source, hs, ?_⟩
            rw [← hi, ← hd]
            rfl

/-- A source is annotated if it is in a dialect, it has no errors or they are allowed, and the
document that it is parsed to is annotated. -/
theorem annotate_eq_ok {parse : Parser} {source language : String} {allowErrors : Bool}
    {a : Annotated} :
    (annotate parse source language allowErrors).result = .ok a ↔
      ∃ dialect, Dialect.ofName language = .ok dialect ∧
        ((parse dialect source).hasErrors = true → allowErrors = true) ∧
        (Document.annotate ⟨source, (parse dialect source).root⟩).result = .ok a := by
  unfold annotate readDocument
  cases hd : Dialect.ofName language with
  | error f => simp [Logged.andThen]
  | ok dialect =>
      cases he : (parse dialect source).hasErrors with
      | false => simp [Logged.andThen, he]
      | true =>
          cases allowErrors with
          | false => simp [Logged.andThen, he]
          | true => simp [Logged.andThen, he]

end Annotation

end ScriptTypes
