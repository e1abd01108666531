import ScriptTypes.Proofs.Insertions

/-!
# What interfaces are called for

An interface is added because something is used as an object: a parameter by its function, or
the props and the state of a component by the body of its class. This is told here by the tree
alone, for each place and in the order in which the interfaces are added.

Only one thing depends on what was decided before. The `props` of a constructor call for no
interface if its component has one already, and whether it has is looked up by the range of
the class. The invariant `Remembered` says that what is looked up there is the range of such a
component.
-/

namespace ScriptTypes.Annotation

open Syntax

/-! ## What is used as an object -/

/-- An unannotated parameter is a name, and its scope uses the name as an object of that shape. -/
def UsedAs (list : Focus) (parameter : Node) (name : String) (shape : Shape Node) : Prop :=
  ∃ pattern scope, parameter.field? "pattern" = some pattern ∧
    parameter.hasChild "type_annotation" = false ∧ pattern.kind = "identifier" ∧
    pattern.text = .ok name ∧ parameterScope? list = some scope ∧
    Usage.gather scope name = .ok (some shape)

/-- What the body of a component tells of its props and its state, if the class itself does not. -/
def ComponentUses (declaration : Focus) (props state : Option (Shape Node)) : Prop :=
  ∃ part superclass body, Draft.OpenComponent declaration.node part superclass body ∧
    Usage.gather (declaration.child body) "props" = .ok props ∧
    Usage.gather (declaration.child body) "state" = .ok state

theorem ComponentUses.unique {declaration : Focus} {props state props' state' : Option (Shape Node)}
    (h : ComponentUses declaration props state) (h' : ComponentUses declaration props' state') :
    props' = props ∧ state' = state := by
  obtain ⟨_, _, body, ho, hp, hs⟩ := h
  obtain ⟨_, _, body', ho', hp', hs'⟩ := h'
  obtain rfl : body = body' := Option.some.inj (ho.bodied.symm.trans ho'.bodied)
  exact ⟨Except.ok.inj (hp'.symm.trans hp), Except.ok.inj (hs'.symm.trans hs)⟩

/-- A class of a tree is a component for whose props there is to be an interface. -/
structure DescribedComponent (root : Node) (declaration : Focus) : Prop where
  /-- It is in the tree. -/
  below : (Focus.ofRoot root).Below declaration
  /-- It is a class. -/
  kind : declaration.node.kind ∈ classKinds
  /-- Its body uses the props or the state. -/
  used : ∃ props state, ComponentUses declaration props state ∧ (props ≠ none ∨ state ≠ none)

/-! ## What a place calls for -/

/-- An interface that is called for. -/
structure Wanted where
  /-- What it is to be named after. -/
  base : String
  /-- What is known of the object. -/
  shape : Shape Node

/-- The interfaces that a place of a tree calls for, in the order in which they are added. -/
inductive Calls (root : Node) : Site → List Wanted → Prop where
  /-- A parameter that is used as an object calls for one. -/
  | parameter {list : Focus} {parameter : Node} {name : String} {shape : Shape Node} :
      UsedAs list parameter name shape →
      Calls root (.parameter list parameter) [⟨TypeName.pascalCase name, shape⟩]
  /-- The `props` of the constructor of a component that has an interface call for none. -/
  | constructed {list scope declaration : Focus} {parameter pattern : Node} {range : Span} :
      parameter.field? "pattern" = some pattern → pattern.text = .ok "props" →
      parameterScope? list = some scope → constructedClass? scope = .ok (some range) →
      DescribedComponent root declaration → declaration.node.span = .ok range →
      Calls root (.parameter list parameter) []
  /-- Nor does a parameter that is not used as an object. -/
  | unused {list : Focus} {parameter : Node} :
      (∀ name shape, ¬ UsedAs list parameter name shape) →
      Calls root (.parameter list parameter) []
  | declarator {f : Focus} : Calls root (.declarator f) []
  | catchClause {n : Node} : Calls root (.catchClause n) []
  /-- A component whose body uses its props, but no state, calls for one. -/
  | props {declaration : Focus} {shape : Shape Node} :
      ComponentUses declaration (some shape) none →
      Calls root (.classDefinition declaration) [⟨"Props", shape⟩]
  /-- A component whose body uses its state calls for two, whatever is known of the props. -/
  | state {declaration : Focus} {props : Option (Shape Node)} {shape : Shape Node} :
      ComponentUses declaration props (some shape) →
      Calls root (.classDefinition declaration) [⟨"Props", props.getD .unknown⟩, ⟨"State", shape⟩]
  /-- Any other class calls for none. -/
  | neither {declaration : Focus} :
      (∀ props state, ComponentUses declaration props state → props = none ∧ state = none) →
      Calls root (.classDefinition declaration) []

/-! ## What is remembered of components -/

namespace Draft

variable {doc : Document} {d d' : Draft}

/-- The ranges that are remembered are those of components with an interface. -/
def Remembered (doc : Document) (d : Draft) : Prop :=
  ∀ r ∈ d.propsInterfaces, ∃ declaration, DescribedComponent doc.root declaration ∧
    declaration.node.span = .ok r.1

theorem remembered_start (names : List String) : Remembered doc (start names) := by
  intro r hr
  cases hr

theorem Judged.propsInterfaces {pattern : Node} {evidence : Evidence}
    (h : Judged doc d pattern evidence d') : d'.propsInterfaces = d.propsInterfaces := by
  cases h <;> rfl

theorem Scoped.propsInterfaces {list : Focus} {pattern : Node} {interface : Option String}
    (h : Scoped doc d list pattern interface d') : d'.propsInterfaces = d.propsInterfaces := by
  cases h with
  | none => rfl
  | scope _ _ _ hi => cases hi <;> rfl

/-- A decision remembers at most one range, that of a component that it adds an interface for. -/
theorem Decided.remembers {site : Site} (hd : Decided doc d d' site) :
    d'.propsInterfaces = d.propsInterfaces ∨
      ∃ declaration props state range name, site = .classDefinition declaration ∧
        ComponentUses declaration props state ∧ (props ≠ none ∨ state ≠ none) ∧
        declaration.node.span = .ok range ∧
        d'.propsInterfaces = (range, name) :: d.propsInterfaces := by
  cases hd with
  | parameter hp =>
      cases hp with
      | unnamed | annotated => exact .inl rfl
      | judged _ _ hs hj => exact .inl (hj.propsInterfaces.trans hs.propsInterfaces)
  | declarator hdec =>
      cases hdec with
      | looped | unnamed | closed => exact .inl rfl
      | judged _ _ _ _ hj => exact .inl hj.propsInterfaces
  | catchClause hc =>
      cases hc with
      | unnamed => exact .inl rfl
      | judged _ hj => exact .inl hj.propsInterfaces
  | classDefinition hc =>
      cases hc with
      | left | unknown => exact .inl rfl
      | props ho hp hs _ _ hspan =>
          exact .inr ⟨_, _, _, _, _, rfl, ⟨_, _, _, ho, hp, hs⟩, .inl (by simp), hspan, rfl⟩
      | state ho hp hs _ _ _ _ hspan =>
          exact .inr ⟨_, _, _, _, _, rfl, ⟨_, _, _, ho, hp, hs⟩, .inr (by simp), hspan, rfl⟩

/-- **Every decision remembers nothing but components with an interface.** -/
theorem remembered_step {site : Site} (hsite : site ∈ Site.all doc.root) (h : Remembered doc d)
    (hd : Decided doc d d' site) : Remembered doc d' := by
  rcases hd.remembers with hsame | ⟨declaration, props, state, range, name, rfl, hmore⟩
  · intro r hr
    exact h r (hsame ▸ hr)
  · obtain ⟨huses, hsome, hspan, hmore⟩ := hmore
    obtain ⟨f, hf, hopen⟩ := Site.exists_opened hsite
    cases hopen with
    | classDefinition hk =>
        intro r hr
        rw [hmore] at hr
        rcases List.mem_cons.mp hr with rfl | hr
        · exact ⟨declaration, ⟨hf, hk, _, _, huses, hsome⟩, hspan⟩
        · exact h r hr

end Draft

end ScriptTypes.Annotation
