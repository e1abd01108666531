import ScriptTypes.Proofs.Demand
import ScriptTypes.Proofs.Nodes
import ScriptTypes.Proofs.OpenSites
import ScriptTypes.Proofs.Samples

/-!
# The `props` of a constructor are those of its component

The interface for the props of a component is made when a run comes to the class, and the
`props` of its constructor get it when the run comes to the constructor. What goes between the
two is a table by ranges. So the class has to come first, as it does in a walk that lists a node
after its ancestors, and no other class may have the same range, or it might have written to the
table since. If there is no interface because the body of the class uses neither props nor
state, its constructor does not use its `props` either, for it is a part of the body.

`Document.trace` tells what a run inserts place by place.
-/

namespace ScriptTypes

/-! ## The order of a walk -/

/-- What comes first of lists one after the other is some of them and the start of the next. -/
theorem flatMap_eq_append_cons {α β : Type} {as : List α} {f : α → List β} {done rest : List β}
    {b : β} (h : as.flatMap f = done ++ b :: rest) :
    ∃ before a after first last, as = before ++ a :: after ∧ f a = first ++ b :: last ∧
      done = before.flatMap f ++ first := by
  induction as generalizing done with
  | nil => simp at h
  | cons a as ih =>
      rw [List.flatMap_cons] at h
      -- the member is in the list of `a`, or that list is all done
      have hsplit : (∃ last, f a = done ++ b :: last) ∨
          ∃ more, done = f a ++ more ∧ as.flatMap f = more ++ b :: rest := by
        rcases List.append_eq_append_iff.mp h with ⟨more, hdone, hrest⟩ | ⟨part, ha, hrest⟩
        · exact .inr ⟨more, hdone, hrest⟩
        · rcases List.cons_eq_append_iff.mp hrest with ⟨rfl, hrest⟩ | ⟨last, rfl, _⟩
          · exact .inr ⟨[], by simpa using ha.symm, hrest.symm⟩
          · exact .inl ⟨last, ha⟩
      rcases hsplit with ⟨last, ha⟩ | ⟨more, rfl, hmore⟩
      · exact ⟨[], a, as, done, last, rfl, ha, rfl⟩
      · obtain ⟨before, a', after, first, last, rfl, ha', rfl⟩ := ih hmore
        exact ⟨a :: before, a', after, first, last, rfl, ha', by simp⟩

namespace Syntax

/-- A walk comes to the parent of a node before it comes to the node. -/
theorem Focus.parent_before {f g : Focus} {before after : List Focus}
    (h : f.descendants = before ++ g :: after) :
    g = f ∨ ∃ p ∈ before, g.parent? = some p := by
  obtain ⟨n, above⟩ := f
  induction n using Node.induction generalizing above before after with
  | mk d cs ih =>
      rw [Focus.descendants_eq_flatMap] at h
      cases before with
      | nil => exact .inl (List.cons.inj h).1.symm
      | cons f before =>
          obtain ⟨rfl, hrest⟩ := List.cons.inj h
          obtain ⟨_, c, _, first, last, rfl, hc, rfl⟩ := flatMap_eq_append_cons hrest
          rcases ih c (by simp) _ hc with rfl | ⟨p, hp, hparent⟩
          · exact .inr ⟨_, List.mem_cons_self, rfl⟩
          · exact .inr ⟨p, List.mem_cons_of_mem _ (List.mem_append_right _ hp), hparent⟩

/-- **A walk of a tree comes to the ancestors of a node before it comes to the node.** -/
theorem Focus.ancestors_before {root : Node} {g a : Focus} {before after : List Focus}
    (h : (Focus.ofRoot root).descendants = before ++ g :: after) (ha : a ∈ g.ancestors) :
    a ∈ before := by
  obtain ⟨n, above⟩ := g
  induction above generalizing n before after with
  | nil => cases ha
  | cons p above ih =>
      rcases Focus.parent_before h with hroot | ⟨q, hq, hparent⟩
      · cases hroot
      · obtain rfl : ⟨p, above⟩ = q := Option.some.inj hparent
        rcases List.mem_cons.mp ha with rfl | ha
        · exact hq
        · obtain ⟨front, back, rfl⟩ := List.append_of_mem hq
          rw [List.append_assoc, List.cons_append] at h
          exact List.mem_append_left _ (ih p h ha)

end Syntax

/-- What a scope does not tell of a binding no part of it does. -/
theorem Usage.gather_eq_none_of_below {scope inner : Syntax.Focus} {name : String}
    (h : gather scope name = .ok none) (hin : scope.Below inner) :
    gather inner name = .ok none := by
  refine gather_eq_none_iff.mpr fun f hf => gather_eq_none_iff.mp h f ?_
  exact Syntax.Focus.mem_descendants_iff.mpr (hin.trans (Syntax.Focus.mem_descendants_iff.mp hf))

namespace Annotation

open Syntax

/-- A run decides about a class before it decides about a parameter inside of it. -/
theorem Site.class_before {root : Node} {done rest : List Site} {list declaration : Focus}
    {parameter : Node} (h : Site.all root = done ++ .parameter list parameter :: rest)
    (ha : declaration ∈ list.ancestors) (hk : declaration.node.kind ∈ classKinds) :
    .classDefinition declaration ∈ done := by
  obtain ⟨before, f, after, first, last, hwalk, hat, rfl⟩ := flatMap_eq_append_cons h
  have hopen : Site.Opened f (.parameter list parameter) :=
    Site.opened_of_mem_at (by rw [hat]; simp)
  cases hopen with
  | parameter =>
      have hbefore : declaration ∈ before := Focus.ancestors_before hwalk ha
      exact List.mem_append_left _
        (List.mem_flatMap.mpr ⟨declaration, hbefore, Site.mem_at_of_opened (.classDefinition hk)⟩)

/-! ## Classes by their ranges -/

/-- The ranges of the classes of a tree, as often as they occur. -/
def classRanges (root : Node) : List (Nat × Nat) :=
  (root.nodes.filter fun n => n.kind ∈ classKinds).map fun n => (n.start, n.stop)

/-- The range of a class that is decided about. -/
def Site.classRange? : Site → Option (Nat × Nat)
  | .classDefinition f => some (f.node.start, f.node.stop)
  | .parameter .. | .declarator _ | .catchClause _ => none

theorem Site.filterMap_classRange?_at (f : Focus) :
    (Site.at f).filterMap Site.classRange? =
      if f.node.kind ∈ classKinds then [(f.node.start, f.node.stop)] else [] := by
  have hkinds : f.node.kind ∈ classKinds ↔ f.node.kind = "class_declaration" ∨
      f.node.kind = "class" := by simp [classKinds]
  unfold Site.at
  split
  · rename_i hk
    rw [if_neg (by rw [hk]; decide), List.filterMap_map]
    exact List.filterMap_eq_nil_iff.mpr fun _ _ => rfl
  · split
    · rename_i hk
      rw [if_neg (by rw [hk]; decide)]
      rfl
    · split
      · rename_i hk
        rw [if_neg (by rw [hk]; decide)]
        rfl
      · split
        · rfl
        · rfl

theorem classRanges_eq (root : Node) :
    classRanges root = (Site.all root).filterMap Site.classRange? := by
  unfold classRanges Site.all Node.nodes
  rw [List.filterMap_flatMap]
  induction (Focus.ofRoot root).descendants with
  | nil => rfl
  | cons f fs ih =>
      rw [List.flatMap_cons, ← ih, Site.filterMap_classRange?_at, List.map_cons, List.filter_cons]
      by_cases hk : f.node.kind ∈ classKinds
      · simp [hk]
      · simp [hk]

/-- If the ranges of classes are told apart, every other class has another one. -/
theorem Site.classRange_ne {root : Node} {done rest : List Site} {declaration f : Focus}
    (hranges : (classRanges root).Nodup)
    (h : Site.all root = done ++ .classDefinition declaration :: rest)
    (hf : .classDefinition f ∈ done ++ rest) :
    (f.node.start, f.node.stop) ≠ (declaration.node.start, declaration.node.stop) := by
  intro hsame
  have hcons : (Site.classDefinition declaration :: rest).filterMap Site.classRange? =
      (declaration.node.start, declaration.node.stop) :: rest.filterMap Site.classRange? := rfl
  rw [classRanges_eq, h, List.filterMap_append, hcons, List.nodup_middle,
    ← List.filterMap_append] at hranges
  refine (List.nodup_cons.mp hranges).1 ?_
  rw [← hsame]
  exact List.mem_filterMap.mpr ⟨_, hf, rfl⟩

theorem Site.span_ne {root : Node} {done rest : List Site} {declaration f : Focus} {range : Span}
    (hranges : (classRanges root).Nodup)
    (h : Site.all root = done ++ .classDefinition declaration :: rest)
    (hf : .classDefinition f ∈ done ++ rest) (hspan : declaration.node.span = .ok range) :
    f.node.span ≠ .ok range := by
  intro hspan'
  obtain ⟨hstart, hstop⟩ := Span.ends_of_between hspan
  obtain ⟨hstart', hstop'⟩ := Span.ends_of_between hspan'
  exact Site.classRange_ne hranges h hf (Prod.ext (by simp only; omega) (by simp only; omega))

/-! ## What a run inserts place by place -/

/-- What is inserted besides what was inserted before. -/
def Draft.since (d' d : Draft) : List Insertion := d'.insertions.drop d.insertions.length

/-- What the decisions about places insert, place by place, up to the first that fails. -/
def Draft.trace (doc : Document) (d : Draft) : List Site → List (Site × List Insertion)
  | [] => []
  | site :: sites =>
    match d.decide doc site with
    | .ok d' => (site, d'.since d) :: trace doc d' sites
    | .error _ => []

/-- What annotating a document inserts, place by place. -/
def Document.trace (doc : Document) : List (Site × List Insertion) :=
  match declaredTypes doc.root with
  | .ok names => Draft.trace doc (Draft.start names) (Site.all doc.root)
  | .error _ => []

namespace Draft

variable {doc : Document} {d d' : Draft}

theorem since_eq {new : List Insertion} (h : d'.insertions = d.insertions ++ new) :
    d'.since d = new := by
  unfold since
  rw [h, List.drop_left]

/-- Nothing that was inserted is taken back. -/
theorem Decided.insertions {site : Site} (hd : Decided doc d d' site) :
    d'.insertions = d.insertions ++ d'.since d := by
  have key : (∃ new, d'.insertions = d.insertions ++ new) →
      d'.insertions = d.insertions ++ d'.since d := by
    rintro ⟨new, hnew⟩
    rw [since_eq hnew, hnew]
  have hjudged : ∀ {e : Draft} {pattern : Node} {evidence : Evidence},
      Judged doc e pattern evidence d' → ∃ new, d'.insertions = e.insertions ++ new := by
    intro e pattern evidence hj
    rcases hj.news with hsame | ⟨_, type, hnew⟩
    · exact ⟨[], by rw [hsame, List.append_nil]⟩
    · exact ⟨_, hnew⟩
  refine key ?_
  cases hd with
  | parameter hp =>
      cases hp with
      | unnamed | annotated => exact ⟨[], (List.append_nil _).symm⟩
      | judged _ _ hs hj =>
          obtain ⟨interfaces, hinterfaces, _⟩ := hs.news
          obtain ⟨new, hnew⟩ := hjudged hj
          exact ⟨interfaces ++ new, by rw [hnew, hinterfaces, List.append_assoc]⟩
  | declarator hdec =>
      cases hdec with
      | looped | unnamed | closed => exact ⟨[], (List.append_nil _).symm⟩
      | judged _ _ _ _ hj => exact hjudged hj
  | catchClause hc =>
      cases hc with
      | unnamed => exact ⟨[], (List.append_nil _).symm⟩
      | judged _ hj => exact hjudged hj
  | classDefinition hc =>
      cases hc with
      | left => exact ⟨[], (List.append_nil _).symm⟩
      | unknown => exact ⟨_, rfl⟩
      | props => exact ⟨_, List.append_assoc _ _ _⟩
      | state => exact ⟨_, (List.append_assoc _ _ _).trans (List.append_assoc _ _ _)⟩

/-- The trace of a run that ended well is of all its places, and it tells all that is inserted. -/
theorem trace_of_decideAll {sites : List Site} (h : decideAll doc d sites = (d', none)) :
    (trace doc d sites).map Prod.fst = sites ∧
      d'.insertions = d.insertions ++ (trace doc d sites).flatMap Prod.snd := by
  induction sites generalizing d with
  | nil =>
      obtain ⟨rfl, -⟩ := Prod.mk.inj h
      exact ⟨rfl, (List.append_nil _).symm⟩
  | cons site sites ih =>
      obtain ⟨d₁, hd, h⟩ := decideAll_cons_eq h
      obtain ⟨hplaces, htold⟩ := ih h
      rw [trace, hd]
      refine ⟨by rw [List.map_cons, hplaces], ?_⟩
      rw [htold, (decided_of_ok hd).insertions, List.flatMap_cons, List.append_assoc]

/-- What the trace tells of a place was inserted when the run had come to it. -/
theorem exists_of_mem_trace {sites : List Site} {site : Site} {new : List Insertion}
    (h : (site, new) ∈ trace doc d sites) :
    ∃ done rest e e', sites = done ++ site :: rest ∧ decideAll doc d done = (e, none) ∧
      e.decide doc site = .ok e' ∧ new = e'.since e := by
  induction sites generalizing d with
  | nil => cases h
  | cons s sites ih =>
      rw [trace] at h
      cases hs : d.decide doc s with
      | error f =>
          rw [hs] at h
          cases h
      | ok d₁ =>
          rw [hs] at h
          rcases List.mem_cons.mp h with heq | h
          · obtain ⟨rfl, rfl⟩ := Prod.mk.inj heq
            exact ⟨[], sites, d, d₁, rfl, rfl, hs, rfl⟩
          · obtain ⟨done, rest, e, e', rfl, hdone, hrest⟩ := ih h
            refine ⟨s :: done, rest, e, e', rfl, ?_, hrest⟩
            rw [decideAll, hs]
            exact hdone

/-! ## What is known of the props of a class -/

/-- Places that are no classes of that range change nothing that is remembered for it. -/
theorem lookup_of_others {sites : List Site} {range : Span}
    (hothers : ∀ f, .classDefinition f ∈ sites → f.node.span ≠ .ok range)
    (h : decideAll doc d sites = (d', none)) :
    d'.propsInterfaces.lookup range = d.propsInterfaces.lookup range := by
  have hstep : ∀ site ∈ sites, ∀ e e' : Draft,
      e.propsInterfaces.lookup range = d.propsInterfaces.lookup range → Decided doc e e' site →
        e'.propsInterfaces.lookup range = d.propsInterfaces.lookup range := by
    intro site hsite e e' he hd
    rcases hd.remembers with hsame | ⟨declaration, _, _, range', name, rfl, _, _, hspan, hmore⟩
    · rw [hsame, he]
    · have hne : range ≠ range' := by
        rintro rfl
        exact hothers declaration hsite hspan
      rw [hmore, List.lookup_cons, beq_false_of_ne hne, he]
  have hrun := decideAll_preserves hstep rfl
  rwa [h] at hrun

/--
A class that is given type arguments is either given the name of an interface that was made for
its props, which is remembered by its range, or its body does not use them.
-/
theorem ClassDecided.given {declaration : Focus} {superclass : Node} {arguments : TypeArguments}
    (hc : ClassDecided doc d declaration d')
    (h : .typeArguments superclass arguments ∈ d'.since d) :
    (arguments = .unknown ∧ d'.propsInterfaces = d.propsInterfaces ∧
      ∃ body, declaration.node.field? "body" = some body ∧
        Usage.gather (declaration.child body) "props" = .ok none) ∨
    ∃ props range members, arguments.propsName? = some props ∧
      .interface props members ∈ d'.since d ∧ declaration.node.span = .ok range ∧
      d'.propsInterfaces = (range, props) :: d.propsInterfaces := by
  cases hc with
  | left =>
      rw [since_eq (List.append_nil _).symm] at h
      cases h
  | @unknown _ _ body ho hp =>
      rw [since_eq rfl, List.mem_singleton] at h
      cases h
      exact .inl ⟨rfl, rfl, body, ho.bodied, hp⟩
  | @props _ _ _ _ range members name _ _ _ _ _ hspan =>
      rw [since_eq (List.append_assoc _ _ _)] at h ⊢
      obtain ⟨-, rfl⟩ : _ ∧ arguments = .props name := by simpa using h
      exact .inr ⟨name, range, members, rfl, List.mem_cons_self, hspan, rfl⟩
  | @state _ _ _ _ _ range members _ props _ _ _ _ _ _ _ _ hspan =>
      rw [since_eq ((List.append_assoc _ _ _).trans (List.append_assoc _ _ _))] at h ⊢
      obtain ⟨-, rfl⟩ : _ ∧ arguments = .propsAndState props _ := by simpa using h
      exact .inr ⟨props, range, members, rfl, List.mem_cons_self, hspan, rfl⟩

end Draft

/-! ## Constructors -/

/-- A list of parameters is that of a method called `constructor` in the body of a class. -/
inductive InConstructor (declaration : Focus) : Focus → Prop where
  | intro {body method name parameters : Node} : declaration.node.field? "body" = some body →
      method ∈ body.children → method.kind = "method_definition" →
      method.field? "name" = some name → name.text = .ok "constructor" →
      parameters ∈ method.children → parameters.kind = "formal_parameters" →
      InConstructor declaration (((declaration.child body).child method).child parameters)

/-- A parameter is the `props` of a constructor of a class, without a type. -/
structure ConstructorProps (declaration list : Focus) (parameter pattern : Node) : Prop where
  /-- The list is that of the constructor. -/
  constructed : InConstructor declaration list
  /-- The parameter is in the list. -/
  listed : parameter ∈ list.node.namedChildren
  /-- It is a parameter. -/
  kind : parameter.kind = "required_parameter"
  /-- It has no type. -/
  untyped : Untyped parameter
  /-- It binds the pattern. -/
  binds : parameter.field? "pattern" = some pattern
  /-- The pattern is a name. -/
  named : pattern.kind = "identifier"
  /-- The name is `props`. -/
  props : pattern.text = .ok "props"

namespace InConstructor

variable {declaration list : Focus}

/-- The list stands in the class. -/
theorem mem_ancestors (h : InConstructor declaration list) : declaration ∈ list.ancestors := by
  cases h with
  | intro => exact List.mem_cons_of_mem _ (List.mem_cons_of_mem _ List.mem_cons_self)

theorem below {root : Node} (h : InConstructor declaration list)
    (hroot : (Focus.ofRoot root).Below declaration) : (Focus.ofRoot root).Below list := by
  cases h with
  | intro hbody hmethod _ _ _ hparameters =>
      exact ((hroot.child (Node.mem_of_field? hbody)).child hmethod).child hparameters

theorem kind (h : InConstructor declaration list) : list.node.kind = "formal_parameters" := by
  cases h with
  | intro _ _ _ _ _ _ hk => exact hk

/-- The scope of the parameters is the constructor, which is a part of the body of the class. -/
theorem exists_scope (h : InConstructor declaration list) :
    ∃ scope body, parameterScope? list = some scope ∧ ConstructorOf scope declaration ∧
      declaration.node.field? "body" = some body ∧ (declaration.child body).Below scope := by
  cases h with
  | @intro body method name parameters hbody hmethod hk hname htext =>
      refine ⟨(declaration.child body).child method, body, ?_, ?_, hbody, .child .self hmethod⟩
      · have hfunction : method.kind ∈ functionKinds := by
          rw [hk]
          decide
        unfold parameterScope? Focus.findAncestor?
        show (List.find? _ (((declaration.child body).child method) :: _) <|> _) = _
        rw [List.find?_cons_of_pos (by exact decide_eq_true hfunction)]
        rfl
      · exact ⟨hk, ⟨name, hname, htext⟩, _, rfl, rfl⟩

end InConstructor

namespace Draft

variable {doc : Document} {d d' : Draft}

/-- The `props` of a constructor get what is remembered for the range of its class. -/
theorem constructorProps?_eq {scope declaration : Focus} (h : ConstructorOf scope declaration) :
    d.constructorProps? scope "props" =
      (fun range => d.propsInterfaces.lookup range) <$> declaration.node.span := by
  obtain ⟨hk, ⟨method, hmethod, htext⟩, body, hbody, hdeclaration⟩ := h
  have hclass : constructedClass? scope = some <$> declaration.node.span := by
    unfold constructedClass?
    simp only [hk, if_true, hmethod, htext, hbody, Option.bind_some, hdeclaration]
    rfl
  unfold constructorProps?
  rw [if_pos rfl, hclass]
  cases declaration.node.span <;> rfl

/-- What is found for the `props` of a constructor, and the type that they get then. -/
theorem ParameterDecided.constructor {declaration list : Focus} {parameter pattern : Node}
    (hp : ParameterDecided doc d list parameter d')
    (hc : ConstructorProps declaration list parameter pattern) :
    ∃ range, declaration.node.span = .ok range ∧
      (∀ props, d.propsInterfaces.lookup range = some props →
        d'.since d = [.bindingType pattern (.named props)]) ∧
      (d.propsInterfaces.lookup range = none → parameter.field? "value" = none →
        (∃ body, declaration.node.field? "body" = some body ∧
          Usage.gather (declaration.child body) "props" = .ok none) →
        d'.since d = [.bindingType pattern (.inferred .any)]) := by
  have hk : pattern.kind ∈ annotatableKinds := by
    rw [hc.named]
    decide
  obtain ⟨scope, body, hscope, hconstructor, hbody, hin⟩ := hc.constructed.exists_scope
  cases hp with
  | unnamed hnone => cases hnone.symm.trans hc.binds
  | annotated _ ha => cases ha.symm.trans (untyped_iff.mp hc.untyped)
  | judged hpattern _ hs hj =>
      obtain rfl := Option.some.inj (hpattern.symm.trans hc.binds)
      cases hs with
      | none hnone =>
          rcases hnone with hnone | hnone
          · cases hnone.symm.trans hscope
          · exact absurd hc.named hnone
      | scope hscope' _ htext hi =>
          obtain rfl := Option.some.inj (hscope.symm.trans hscope')
          obtain rfl := Except.ok.inj (hc.props.symm.trans htext)
          have hlookup : ∀ {found : Option String}, d.constructorProps? scope "props" = .ok found →
              ∃ range, declaration.node.span = .ok range ∧
                d.propsInterfaces.lookup range = found := by
            intro found hfound
            rw [constructorProps?_eq hconstructor] at hfound
            exact map_eq_ok.mp hfound
          cases hi with
          | @constructed found hfound =>
              obtain ⟨range, hspan, hrange⟩ := hlookup hfound
              refine ⟨range, hspan, fun props hprops => ?_, fun hnone => ?_⟩
              · obtain rfl := Option.some.inj (hrange.symm.trans hprops)
                exact since_eq (congrArg Draft.insertions (hj.eq_of_found rfl rfl hk))
              · cases hrange.symm.trans hnone
          | described hfound hgather =>
              obtain ⟨range, hspan, hrange⟩ := hlookup hfound
              refine ⟨range, hspan, fun props hprops => ?_, fun _ _ hunused => ?_⟩
              · cases hrange.symm.trans hprops
              · -- what the constructor tells of its `props` the body of the class tells, too
                obtain ⟨body', hbody', hnone⟩ := hunused
                obtain rfl := Option.some.inj (hbody.symm.trans hbody')
                cases hgather.symm.trans (Usage.gather_eq_none_of_below hnone hin)
          | unused hfound =>
              obtain ⟨range, hspan, hrange⟩ := hlookup hfound
              refine ⟨range, hspan, fun props hprops => ?_, fun _ hvalue _ => ?_⟩
              · cases hrange.symm.trans hprops
              · have htype : Evidence.type? { found := none, initial := parameter.field? "value" } =
                    .ok (some (.inferred .any)) := by
                  rw [hvalue]
                  rfl
                exact since_eq (congrArg Draft.insertions (hj.eq_of_type? htype rfl hk))

/--
**A class is remembered until its constructor.** Nothing is remembered for the range of a class
when a run comes to it, and what is remembered then is still there at a parameter inside of it.
-/
theorem lookup_in_class {names : List String} {done rest done₁ rest₁ : List Site} {e e₁ e₂ : Draft}
    {declaration list : Focus} {parameter : Node} {range : Span}
    (hranges : (classRanges doc.root).Nodup)
    (hclass : Site.all doc.root = done₁ ++ .classDefinition declaration :: rest₁)
    (hrun₁ : decideAll doc (start names) done₁ = (e₁, none))
    (hd₁ : e₁.decide doc (.classDefinition declaration) = .ok e₂)
    (hparameter : Site.all doc.root = done ++ .parameter list parameter :: rest)
    (hrun : decideAll doc (start names) done = (e, none))
    (ha : declaration ∈ list.ancestors) (hspan : declaration.node.span = .ok range) :
    e₁.propsInterfaces.lookup range = none ∧
      e.propsInterfaces.lookup range = e₂.propsInterfaces.lookup range := by
  have hothers : ∀ f, .classDefinition f ∈ done₁ ++ rest₁ → f.node.span ≠ .ok range :=
    fun f hf => Site.span_ne hranges hclass hf hspan
  have hk : declaration.node.kind ∈ classKinds := by
    have hsite : .classDefinition declaration ∈ Site.all doc.root := by
      rw [hclass]
      simp
    obtain ⟨f, _, hopen⟩ := Site.exists_opened hsite
    cases hopen with
    | classDefinition hk => exact hk
  -- the run came to the class before, and it comes to it only once
  obtain ⟨done₂, between, rfl⟩ := List.append_of_mem (Site.class_before hparameter ha hk)
  rw [hclass, List.append_assoc, List.cons_append] at hparameter
  have honce : .classDefinition declaration ∉ done₁ ++ rest₁ :=
    fun hmem => Site.classRange_ne hranges hclass hmem rfl
  rw [List.mem_append, not_or] at honce
  obtain ⟨rfl, -, hrest⟩ := (List.append_cons_inj_of_notMem honce.1 honce.2).mp hparameter
  obtain ⟨x, hx, hrun⟩ := decideAll_append_eq hrun
  obtain ⟨rfl, -⟩ := Prod.mk.inj (hrun₁.symm.trans hx)
  obtain ⟨y, hy, hbetween⟩ := decideAll_cons_eq hrun
  obtain rfl := Except.ok.inj (hd₁.symm.trans hy)
  constructor
  · exact lookup_of_others (fun f hf => hothers f (List.mem_append_left _ hf)) hrun₁
  · refine lookup_of_others (fun f hf => hothers f (List.mem_append_right _ ?_)) hbetween
    rw [hrest]
    exact List.mem_append_left _ hf

end Draft

/-! ## Annotated sources -/

/-- The run about a document comes to a place, and each time it does it inserts just these. -/
def Document.Adds (doc : Document) (site : Site) (new : List Insertion) : Prop :=
  (∃ e ∈ doc.trace, e.1 = site) ∧ ∀ e ∈ doc.trace, e.1 = site → e.2 = new

/-- The `props` of the constructors of an annotated document are those of the components. -/
structure ConstructorsTyped (doc : Document) (a : Annotated) : Prop where
  /-- The trace is of all places, -/
  places : doc.trace.map Prod.fst = Site.all doc.root
  /-- and it tells all that is inserted. -/
  told : doc.trace.flatMap Prod.snd = a.insertions
  /-- If a class is given the name of an interface for its props, that interface is its own, and
  the `props` of its constructor get the name and no interface. -/
  own {declaration list : Focus} {parameter pattern superclass : Node} {given : List Insertion}
    {arguments : TypeArguments} {props : String} :
    ConstructorProps declaration list parameter pattern →
    (.classDefinition declaration, given) ∈ doc.trace →
    .typeArguments superclass arguments ∈ given → arguments.propsName? = some props →
    (∃ members, .interface props members ∈ given) ∧
      doc.Adds (.parameter list parameter) [.bindingType pattern (.named props)]
  /-- If it is given none, the `props` of its constructor can be anything, unless they have a
  default value. -/
  unknown {declaration list : Focus} {parameter pattern superclass : Node}
    {given : List Insertion} :
    ConstructorProps declaration list parameter pattern →
    (.classDefinition declaration, given) ∈ doc.trace →
    .typeArguments superclass .unknown ∈ given → parameter.field? "value" = none →
    doc.Adds (.parameter list parameter) [.bindingType pattern (.inferred .any)]

/-- What the run about a document inserted for a class is what it looks up at its constructor. -/
theorem constructor_of_trace {doc : Document} {declaration list : Focus}
    {parameter pattern superclass : Node} {given new : List Insertion} {arguments : TypeArguments}
    (hranges : (classRanges doc.root).Nodup)
    (hc : ConstructorProps declaration list parameter pattern)
    (hclass : (.classDefinition declaration, given) ∈ doc.trace)
    (hparameter : (.parameter list parameter, new) ∈ doc.trace)
    (h : .typeArguments superclass arguments ∈ given) :
    (∀ props, arguments.propsName? = some props →
      (∃ members, .interface props members ∈ given) ∧
        new = [.bindingType pattern (.named props)]) ∧
    (arguments = .unknown → parameter.field? "value" = none →
      new = [.bindingType pattern (.inferred .any)]) := by
  unfold Document.trace at hclass hparameter
  cases hnames : declaredTypes doc.root with
  | error f =>
      rw [hnames] at hclass
      cases hclass
  | ok names =>
      rw [hnames] at hclass hparameter
      obtain ⟨_, _, e₁, e₂, hall₁, hrun₁, hd₁, rfl⟩ := Draft.exists_of_mem_trace hclass
      obtain ⟨_, _, e, e', hall, hrun, hd, rfl⟩ := Draft.exists_of_mem_trace hparameter
      cases Draft.decided_of_ok hd with
      | parameter hp =>
          obtain ⟨range, hspan, hown, hnone⟩ := hp.constructor hc
          obtain ⟨hfresh, hkept⟩ := Draft.lookup_in_class hranges hall₁ hrun₁ hd₁ hall hrun
            hc.constructed.mem_ancestors hspan
          cases Draft.decided_of_ok hd₁ with
          | classDefinition hdecided =>
              rcases hdecided.given h with ⟨rfl, hsame, hunused⟩ |
                ⟨props, range', members, hprops, hmem, hspan', hmore⟩
              · refine ⟨nofun, fun _ hvalue => hnone ?_ hvalue hunused⟩
                rw [hkept, hsame, hfresh]
              · obtain rfl := Except.ok.inj (hspan.symm.trans hspan')
                have hlookup : e.propsInterfaces.lookup range = some props := by
                  rw [hkept, hmore, List.lookup_cons_self]
                refine ⟨fun p hp => ?_, fun heq => ?_⟩
                · obtain rfl := Option.some.inj (hprops.symm.trans hp)
                  exact ⟨⟨members, hmem⟩, hown _ hlookup⟩
                · rw [heq] at hprops
                  cases hprops

/-- The run about an annotated document has a trace, of all its places and of all it inserts. -/
theorem trace_of_document {doc : Document} {a : Annotated} (h : doc.annotate.result = .ok a) :
    doc.trace.map Prod.fst = Site.all doc.root ∧ doc.trace.flatMap Prod.snd = a.insertions := by
  obtain ⟨names, d, hnames, hrun, _, hi, _⟩ := annotate_document_eq_ok.mp h
  obtain ⟨hplaces, htold⟩ := Draft.trace_of_decideAll hrun
  unfold Document.trace
  rw [hnames, hi, htold]
  exact ⟨hplaces, rfl⟩

theorem constructorsTyped_of_document {doc : Document} {a : Annotated}
    (h : doc.annotate.result = .ok a) (hranges : (classRanges doc.root).Nodup) :
    ConstructorsTyped doc a := by
  obtain ⟨hplaces, htold⟩ := trace_of_document h
  -- a constructor of a class of the tree is in the tree, and so the run comes to its parameters
  have hcomes : ∀ {declaration list : Focus} {parameter pattern : Node} {given : List Insertion},
      ConstructorProps declaration list parameter pattern →
      (.classDefinition declaration, given) ∈ doc.trace →
      ∃ e ∈ doc.trace, e.1 = .parameter list parameter := by
    intro declaration list parameter pattern given hc hclass
    have hsite : .classDefinition declaration ∈ Site.all doc.root := by
      rw [← hplaces]
      exact List.mem_map_of_mem hclass
    obtain ⟨f, hf, hopen⟩ := Site.exists_opened hsite
    cases hopen with
    | classDefinition =>
        have hmem : .parameter list parameter ∈ Site.all doc.root :=
          Site.mem_all_of_opened (hc.constructed.below hf)
            (.parameter hc.constructed.kind hc.listed hc.kind)
        rw [← hplaces] at hmem
        exact List.mem_map.mp hmem
  constructor
  case places => exact hplaces
  case told => exact htold
  case own =>
    intro declaration list parameter pattern superclass given arguments props hc hclass hgiven
      hprops
    obtain ⟨e, he, hsite⟩ := hcomes hc hclass
    have hall : ∀ new, (.parameter list parameter, new) ∈ doc.trace →
        (∃ members, .interface props members ∈ given) ∧
          new = [.bindingType pattern (.named props)] :=
      fun new hnew => (constructor_of_trace hranges hc hclass hnew hgiven).1 props hprops
    refine ⟨(hall e.2 (hsite ▸ he)).1, ⟨e, he, hsite⟩, ?_⟩
    rintro ⟨_, new⟩ hnew rfl
    exact (hall new hnew).2
  case unknown =>
    intro declaration list parameter pattern superclass given hc hclass hgiven hvalue
    refine ⟨hcomes hc hclass, ?_⟩
    rintro ⟨_, new⟩ hnew rfl
    exact (constructor_of_trace hranges hc hclass hnew hgiven).2 rfl hvalue

/--
**A constructor is given the props of its component.** Where a class of an annotated source is
given the name of an interface for its props, the `props` of its constructor are given the same
name and call for no interface of their own; where the class is given nothing but `any`, they
are given `any`, unless they have a default value. Classes can stand in each other in any way,
as long as no two of them have the same range.
-/
theorem constructors_typed {parse : Parser} {source language : String} {allowErrors : Bool}
    {dialect : Dialect} {a : Annotated} (hdialect : Dialect.ofName language = .ok dialect)
    (h : (annotate parse source language allowErrors).result = .ok a)
    (hranges : (classRanges (parse dialect source).root).Nodup) :
    ConstructorsTyped ⟨source, (parse dialect source).root⟩ a := by
  obtain ⟨dialect', hdialect', _, hdoc⟩ := annotate_eq_ok.mp h
  obtain rfl := Except.ok.inj (hdialect.symm.trans hdialect')
  exact constructorsTyped_of_document hdoc hranges

/-! ## A component in the constructor of a component -/

namespace Nested

/-- A component that uses its props, and one in its constructor that does not. -/
def source : String :=
  "class A extends Component \x7b constructor(props) \x7b props.a; " ++
    "class B extends Component \x7b constructor(props) \x7b\x7d \x7d \x7d \x7d"

section Component

variable (start stop : Nat) (statements : List Node)

def pattern : Node := nodeOf source "identifier" (start + 40) (start + 45) (some "pattern")

def parameter : Node :=
  nodeOf source "required_parameter" (start + 40) (start + 45) none [pattern start]

def parameters : Node :=
  nodeOf source "formal_parameters" (start + 39) (start + 46) (some "parameters") [parameter start]

def method : Node :=
  nodeOf source "method_definition" (start + 28) (stop - 2) none
    [nodeOf source "property_identifier" (start + 28) (start + 39) (some "name"),
     parameters start,
     nodeOf source "statement_block" (start + 47) (stop - 2) (some "body") statements]

def body : Node :=
  nodeOf source "class_body" (start + 26) stop (some "body") [method start stop statements]

/-- A component with nothing but a constructor. -/
def component : Node :=
  nodeOf source "class_declaration" start stop none
    [nodeOf source "type_identifier" (start + 6) (start + 7) (some "name"),
     nodeOf source "class_heritage" (start + 8) (start + 25) none
      [nodeOf source "extends_clause" (start + 8) (start + 25) none
        [nodeOf source "identifier" (start + 16) (start + 25) (some "value")]],
     body start stop statements]

end Component

/-- The component inside. -/
def inner : Node := component 58 109 []

/-- The statements of the constructor of the one outside. -/
def statements : List Node :=
  [nodeOf source "expression_statement" 49 57 none [accessOf source 49 54 56 none],
   inner]

/-- The component outside. -/
def outer : Node := component 0 113 statements

def root : Node := nodeOf source "program" 0 113 none [outer]

/-- The parser that knows the tree of the source. -/
def parse : Parser := fun _ _ => ⟨root, false⟩

def document : Document := ⟨source, root⟩

/-- What is inserted into the source. -/
def edits : List Edit :=
  [⟨0, "interface Props \x7b\n    a: any,\n\x7d\n\n"⟩, ⟨25, "<Props>"⟩, ⟨45, ": Props"⟩,
   ⟨83, "<any, any>"⟩, ⟨103, ": any"⟩]

/-- The source with its annotations. -/
def annotated : Annotated where
  source := "interface Props \x7b\n    a: any,\n\x7d\n\n" ++
    "class A extends Component<Props> \x7b constructor(props: Props) \x7b props.a; " ++
    "class B extends Component<any, any> \x7b constructor(props: any) \x7b\x7d \x7d \x7d \x7d"
  insertions := document.draft.1.insertions
  diagnostics := document.draft.1.diagnostics

theorem editsTo : document.EditsTo edits annotated.source := by
  constructor <;> decide +kernel

theorem annotate_document : document.annotate.result = .ok annotated :=
  Document.annotate_of_editsTo editsTo

theorem annotate_eq : (annotate parse source "tsx" false).result = .ok annotated :=
  annotate_of_document document rfl rfl annotate_document

/-- Where the list of the parameters of the constructor of a component is. -/
def list (declaration : Focus) (start stop : Nat) (statements : List Node) : Focus :=
  ((declaration.child (body start stop statements)).child (method start stop statements)).child
    (parameters start)

/-- Where the component outside is. -/
def outside : Focus := (Focus.ofRoot root).child outer

/-- Where the component inside is. -/
def inside : Focus :=
  (((outside.child (body 0 113 statements)).child (method 0 113 statements)).child
    (nodeOf source "statement_block" 47 111 (some "body") statements)).child inner

theorem all_eq : Site.all root =
    [.classDefinition outside, .parameter (list outside 0 113 statements) (parameter 0),
     .classDefinition inside, .parameter (list inside 58 109 []) (parameter 58)] := rfl

theorem outside_mem : .classDefinition outside ∈ Site.all root := by
  rw [all_eq]
  exact List.mem_cons_self

theorem inside_mem : .classDefinition inside ∈ Site.all root := by
  rw [all_eq]
  exact List.mem_cons_of_mem _ (List.mem_cons_of_mem _ List.mem_cons_self)

/-- The parameter of the constructor of a component is one that its props are for. -/
theorem constructorProps {declaration : Focus} {start stop : Nat} {statements : List Node}
    (h : declaration.node = component start stop statements)
    (hname : (nodeOf source "property_identifier" (start + 28) (start + 39) (some "name")).text =
      .ok "constructor") (hprops : (pattern start).text = .ok "props") :
    ConstructorProps declaration (list declaration start stop statements) (parameter start)
      (pattern start) where
  constructed := .intro (by rw [h]; rfl) List.mem_cons_self rfl rfl hname
    (List.mem_cons_of_mem _ List.mem_cons_self) rfl
  listed := List.mem_cons_self
  kind := rfl
  untyped := untyped_iff.mpr rfl
  binds := rfl
  named := rfl
  props := hprops

/-- Whether a place, if it is the class that starts there, is given those type arguments. -/
def isGiven (start : Nat) (arguments : TypeArguments) (e : Site × List Insertion) : Bool :=
  match e.1 with
  | .classDefinition f =>
    f.node.start != start || e.2.any fun
      | .typeArguments _ given => given == arguments
      | _ => false
  | _ => true

/-- What the trace of the run says is given to a class. -/
theorem exists_given {declaration : Focus} {arguments : TypeArguments}
    (hplace : .classDefinition declaration ∈ Site.all root)
    (h : (document.trace.all (isGiven declaration.node.start arguments)) = true) :
    ∃ given superclass, (.classDefinition declaration, given) ∈ document.trace ∧
      .typeArguments superclass arguments ∈ given := by
  have hplaces : document.trace.map Prod.fst = Site.all root :=
    (trace_of_document annotate_document).1
  rw [← hplaces] at hplace
  obtain ⟨⟨_, given⟩, he, rfl⟩ := List.mem_map.mp hplace
  have hgiven := List.all_eq_true.mp h _ he
  simp only [isGiven, bne_self_eq_false, Bool.false_or, List.any_eq_true] at hgiven
  obtain ⟨i, hi, hgiven⟩ := hgiven
  cases i with
  | typeArguments superclass given' =>
      obtain rfl := eq_of_beq hgiven
      exact ⟨given, superclass, he, hi⟩
  | interface | bindingType => cases hgiven

end Nested

theorem constructors_typed_nested :
    (annotate Nested.parse Nested.source "tsx" false).result = .ok Nested.annotated ∧
      (classRanges Nested.root).Nodup ∧
      Nested.document.Adds
        (.parameter (Nested.list Nested.outside 0 113 Nested.statements) (Nested.parameter 0))
        [.bindingType (Nested.pattern 0) (.named "Props")] ∧
      Nested.document.Adds
        (.parameter (Nested.list Nested.inside 58 109 []) (Nested.parameter 58))
        [.bindingType (Nested.pattern 58) (.inferred .any)] := by
  have hranges : (classRanges Nested.root).Nodup := by decide +kernel
  have hdialect : Dialect.ofName "tsx" = .ok .tsx := rfl
  have htyped : ConstructorsTyped Nested.document Nested.annotated :=
    constructors_typed hdialect Nested.annotate_eq hranges
  have hprops : (Nested.document.trace.all (Nested.isGiven 0 (.props "Props"))) = true := by
    decide +kernel
  have hunknown : (Nested.document.trace.all (Nested.isGiven 58 .unknown)) = true := by
    decide +kernel
  obtain ⟨_, _, houtside, hprops⟩ := Nested.exists_given Nested.outside_mem hprops
  obtain ⟨_, _, hinside, hunknown⟩ := Nested.exists_given Nested.inside_mem hunknown
  have hc : ConstructorProps Nested.outside _ _ _ :=
    Nested.constructorProps rfl (by decide +kernel) (by decide +kernel)
  have hc' : ConstructorProps Nested.inside _ _ _ :=
    Nested.constructorProps rfl (by decide +kernel) (by decide +kernel)
  exact ⟨Nested.annotate_eq, hranges, (htyped.own hc houtside hprops rfl).2,
    htyped.unknown hc' hinside hunknown rfl⟩

end Annotation

end ScriptTypes
