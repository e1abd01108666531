import ScriptTypes.Proofs.Naming

/-!
# Types refer to something

Types are written in two places, behind a binding and as the type arguments of a component.
A type that is written is either one that an expression tells by its form, which needs no
declaration, or the name of an interface that is added to the file. The other way round,
every interface that is added is named by a type somewhere.

Interfaces are added before the types that name them, so in the middle of a decision there is
one that nothing refers to yet. The invariant `Linked` is about whole decisions.
-/

namespace ScriptTypes.Annotation

open Syntax

/-! ## Types as they are written -/

/-- A type that the form of an expression can tell, as it is written. -/
inductive Inferable : String → Prop where
  /-- One of the types that are no arrays. -/
  | plain {type : String} :
      type ∈ ["any", "number", "string", "boolean", "RegExp", "BigInt", "Function"] →
      Inferable type
  /-- An array of such a type. -/
  | array {type : String} : Inferable type → Inferable (type ++ "[]")

theorem inferable_text (t : InferredType) : Inferable t.text := by
  induction t with
  | arrayOf t ih => exact .array ih
  | any | number | string | boolean | regExp | bigInt | function => exact .plain (by decide)

/-- The types that an insertion writes; an interface declares one and writes none. -/
def Insertion.types : Insertion → List String
  | interface .. => []
  | bindingType _ type => [type.text]
  | typeArguments _ .unknown => ["any", "any"]
  | typeArguments _ (.props p) => [p]
  | typeArguments _ (.propsAndState p s) => [p, s]

/-- What is inserted besides interfaces is a type behind a colon, or types in angle brackets. -/
theorem Insertion.text_eq_types {i : Insertion} (h : i.interfaceName? = none) :
    (∃ type, i.types = [type] ∧ i.text = ": " ++ type) ∨
      i.text = "<" ++ String.intercalate ", " i.types ++ ">" := by
  cases i with
  | interface name members => cases h
  | bindingType pattern type => exact .inl ⟨_, rfl, rfl⟩
  | typeArguments superclass arguments =>
      refine .inr ?_
      cases arguments with
      | unknown => rfl
      | props p => rfl
      | propsAndState p s =>
          show "<" ++ p ++ ", " ++ s ++ ">" = "<" ++ (p ++ ", " ++ s) ++ ">"
          simp only [String.append_assoc]

/-- An insertion refers to an interface by its name. -/
inductive Insertion.RefersTo : Insertion → String → Prop where
  /-- As the type of a binding. -/
  | bindingType {pattern : Node} {name : String} :
      RefersTo (.bindingType pattern (.named name)) name
  /-- As that of the props of a component. -/
  | props {superclass : Node} {name : String} :
      RefersTo (.typeArguments superclass (.props name)) name
  /-- As that of the props of a component with state. -/
  | propsBesideState {superclass : Node} {name state : String} :
      RefersTo (.typeArguments superclass (.propsAndState name state)) name
  /-- As that of the state of a component. -/
  | state {superclass : Node} {props name : String} :
      RefersTo (.typeArguments superclass (.propsAndState props name)) name

theorem Insertion.RefersTo.text {i : Insertion} {name : String} (h : i.RefersTo name) :
    i.text = ": " ++ name ∨ i.text = "<" ++ name ++ ">" ∨
      (∃ other, i.text = "<" ++ name ++ ", " ++ other ++ ">") ∨
      ∃ other, i.text = "<" ++ other ++ ", " ++ name ++ ">" := by
  cases h with
  | bindingType => exact .inl rfl
  | props => exact .inr (.inl rfl)
  | propsBesideState => exact .inr (.inr (.inl ⟨_, rfl⟩))
  | state => exact .inr (.inr (.inr ⟨_, rfl⟩))

/-! ## No interface has the name of another type -/

/-- The types that expressions tell are written in small letters, with brackets, or are global. -/
theorem not_inferable {name : String} (h : TypeName.Capitalized name)
    (hglobal : name ∉ TypeName.globals) : ¬ Inferable name := by
  intro ht
  cases ht with
  | plain hmem =>
      simp only [List.mem_cons, List.not_mem_nil, or_false] at hmem
      rcases hmem with rfl | rfl | rfl | rfl | rfl | rfl | rfl
      · exact absurd h (by decide)
      · exact absurd h (by decide)
      · exact absurd h (by decide)
      · exact absurd h (by decide)
      · exact hglobal (by decide)
      · exact hglobal (by decide)
      · exact hglobal (by decide)
  | @array type =>
      have hbracket : ']' ∈ (type ++ "[]").toList := by
        rw [String.toList_append]
        exact List.mem_append_right _ (by decide)
      exact absurd (TypeName.Capitalized.isAlphanum h ']' hbracket) (by decide)

/-! ## What holds after every decision -/

namespace Draft

variable {doc : Document} {d d' : Draft}

/-- What is referred to is there, and what is there is referred to. -/
structure Linked (d : Draft) : Prop where
  /-- Every interface is referred to. -/
  referred : ∀ name ∈ d.interfaces, ∃ i ∈ d.insertions, i.RefersTo name
  /-- Every type that is written is that of an interface, or one that expressions tell. -/
  resolved : ∀ i ∈ d.insertions, ∀ type ∈ i.types, type ∈ d.interfaces ∨ Inferable type

theorem linked_start (names : List String) : Linked (start names) where
  referred := by intro name hn; cases hn
  resolved := by intro i hi; cases hi

/-- What is inserted in one go are interfaces and something that refers to all of them. -/
theorem Linked.append (h : Linked d) (interfaces : List Insertion) (i : Insertion)
    (hnew : d'.insertions = d.insertions ++ (interfaces ++ [i])) (hi : i.interfaceName? = none)
    (hreferred : ∀ j ∈ interfaces, ∃ name members, j = .interface name members ∧ i.RefersTo name)
    (hresolved : ∀ type ∈ i.types, type ∈ d'.interfaces ∨ Inferable type) : Linked d' := by
  have hnames : d'.interfaces = d.interfaces ++ interfaces.filterMap (·.interfaceName?) := by
    unfold Draft.interfaces
    rw [hnew, List.filterMap_append, List.filterMap_append]
    simp [hi]
  have hmem : i ∈ d'.insertions := by
    rw [hnew]
    simp
  constructor
  case referred =>
    intro name hname
    rw [hnames] at hname
    rcases List.mem_append.mp hname with hname | hname
    · obtain ⟨j, hj, hr⟩ := h.referred name hname
      refine ⟨j, ?_, hr⟩
      rw [hnew]
      exact List.mem_append_left _ hj
    · obtain ⟨j, hj, hjn⟩ := List.mem_filterMap.mp hname
      obtain ⟨name', _, rfl, hr⟩ := hreferred j hj
      obtain rfl := Option.some.inj hjn
      exact ⟨i, hmem, hr⟩
  case resolved =>
    intro j hj type ht
    rw [hnew] at hj
    rcases List.mem_append.mp hj with hj | hj
    · refine (h.resolved j hj type ht).imp_left fun hname => ?_
      rw [hnames]
      exact List.mem_append_left _ hname
    · rcases List.mem_append.mp hj with hj | hj
      · -- an interface writes no type
        obtain ⟨_, _, rfl, _⟩ := hreferred j hj
        cases ht
      · obtain rfl := List.mem_singleton.mp hj
        exact hresolved type ht

/-- A pattern that is judged without an interface gets a type that expressions tell. -/
theorem Linked.judged (h : Linked d) {pattern : Node} {evidence : Evidence}
    (hfound : ∀ t, evidence.found = some t → Inferable t.text)
    (hj : Judged doc d pattern evidence d') : Linked d' := by
  cases hj with
  | annotated | unresolved | ignored => exact h
  | reported => exact ⟨h.referred, h.resolved⟩
  | @typed type _ _ htype =>
      have htold : Inferable type.text := by
        rcases Evidence.type?_eq_some_iff.mp htype with hf | ⟨_, t, _, rfl⟩
        · exact hfound type hf
        · exact inferable_text t
      refine h.append [] _ rfl rfl (by simp) fun t ht => .inr ?_
      obtain rfl := List.mem_singleton.mp ht
      exact htold

/-- The type of a parameter is that of its interface, or one that its default value tells. -/
theorem Linked.parameter (h : Linked d) (hsound : Sound doc d) {list : Focus} {parameter : Node}
    (hp : ParameterDecided doc d list parameter d') : Linked d' := by
  cases hp with
  | unnamed | annotated => exact h
  | @judged pattern _ _ _ _ _ hs hj =>
      cases hs with
      | none => exact h.judged (fun t ht => by cases ht) hj
      | scope _ hk _ hi =>
          have hannotatable : pattern.kind ∈ annotatableKinds := by simp [annotatableKinds, hk]
          cases hi with
          | unused => exact h.judged (fun t ht => by cases ht) hj
          | @constructed props hprops =>
              obtain rfl := hj.eq_of_found rfl rfl hannotatable
              obtain ⟨_, range, _, hr⟩ := of_constructorProps? hprops
              refine h.append [] _ rfl rfl (by simp) fun t ht => .inl ?_
              obtain rfl := List.mem_singleton.mp ht
              rw [interfaces_adding]
              exact List.mem_append_left _ (hsound.props _ hr)
          | described =>
              obtain rfl := hj.eq_of_found rfl rfl hannotatable
              refine h.append _ _ (List.append_assoc _ _ _) rfl (fun j hj => ?_) fun t ht => .inl ?_
              · exact ⟨_, _, List.mem_singleton.mp hj, .bindingType⟩
              · obtain rfl := List.mem_singleton.mp ht
                rw [interfaces_adding, interfaces_describing]
                simp [BindingType.text]

/-- The type arguments of a component name the interfaces that are made for it. -/
theorem Linked.component (h : Linked d) {declaration : Focus}
    (hc : ClassDecided doc d declaration d') : Linked d' := by
  cases hc with
  | left => exact h
  | unknown =>
      refine h.append [] _ rfl rfl (by simp) fun t ht => .inr ?_
      obtain rfl : t = "any" := by simpa [Insertion.types] using ht
      exact .plain (by decide)
  | @props _ superclass _ _ _ members name =>
      refine h.append [.interface name members] (.typeArguments superclass (.props name)) (by simp)
        rfl (fun j hj => ?_) fun t ht => .inl ?_
      · exact ⟨_, _, List.mem_singleton.mp hj, .props⟩
      · obtain rfl := List.mem_singleton.mp ht
        rw [interfaces_adding, remembering_interfaces, interfaces_describing]
        simp
  | @state _ superclass _ _ _ _ propsMembers stateMembers propsName stateName =>
      refine h.append [.interface propsName propsMembers, .interface stateName stateMembers]
        (.typeArguments superclass (.propsAndState propsName stateName)) (by simp) rfl
        (fun j hj => ?_) fun t ht => .inl ?_
      · rcases List.mem_cons.mp hj with rfl | hj
        · exact ⟨_, _, rfl, .propsBesideState⟩
        · exact ⟨_, _, List.mem_singleton.mp hj, .state⟩
      · rw [interfaces_adding, remembering_interfaces, interfaces_describing,
          interfaces_describing]
        rcases List.mem_cons.mp ht with rfl | ht
        · simp
        · obtain rfl := List.mem_singleton.mp ht
          simp

/-- **Every decision keeps references whole.** -/
theorem linked_step {site : Site} (hsound : Sound doc d) (h : Linked d)
    (hd : Decided doc d d' site) : Linked d' := by
  cases hd with
  | parameter hp => exact h.parameter hsound hp
  | declarator hdec =>
      cases hdec with
      | looped | unnamed | closed => exact h
      | judged _ _ _ _ hj => exact h.judged (fun t ht => by cases ht) hj
  | catchClause hc =>
      cases hc with
      | unnamed => exact h
      | judged _ hj =>
          refine h.judged (fun t ht => ?_) hj
          obtain rfl := Option.some.inj ht
          exact inferable_text .any
  | classDefinition hc => exact h.component hc

/-- **References are whole at the end of a run.** -/
theorem linked_decideAll {names : List String} :
    Linked (decideAll doc (start names) (Site.all doc.root)).1 := by
  -- that the interfaces of constructors are there is part of soundness, so both go together
  have h : ∀ site ∈ Site.all doc.root, ∀ d d', Sound doc d ∧ Linked d → Decided doc d d' site →
      Sound doc d' ∧ Linked d' :=
    fun site hsite d d' h hd => ⟨sound_step hsite h.1 hd, linked_step h.1 h.2 hd⟩
  exact (decideAll_preserves h ⟨sound_start _, linked_start names⟩).2

end Draft

/-! ## The references of an annotated source -/

/-- What an annotated source refers to and what it declares belong together. -/
structure WellReferenced (a : Annotated) : Prop where
  /-- Every interface is named as a type somewhere. -/
  referred : ∀ name ∈ a.interfaces, ∃ i ∈ a.insertions, i.RefersTo name ∧
    (i.text = ": " ++ name ∨ i.text = "<" ++ name ++ ">" ∨
      (∃ other, i.text = "<" ++ name ++ ", " ++ other ++ ">") ∨
      ∃ other, i.text = "<" ++ other ++ ", " ++ name ++ ">")
  /-- Every type that is written is that of an interface, or one that expressions tell. -/
  resolved : ∀ i ∈ a.insertions, ∀ type ∈ i.types, type ∈ a.interfaces ∨ Inferable type
  /-- What is inserted besides interfaces is a type behind a colon, or in angle brackets. -/
  written : ∀ i ∈ a.insertions, i.interfaceName? = none →
    (∃ type, i.types = [type] ∧ i.text = ": " ++ type) ∨
      i.text = "<" ++ String.intercalate ", " i.types ++ ">"
  /-- No interface has the name of a type that expressions tell. -/
  apart : ∀ name ∈ a.interfaces, ¬ Inferable name

theorem wellReferenced_of_document {doc : Document} {a : Annotated}
    (h : doc.annotate.result = .ok a) : WellReferenced a := by
  obtain ⟨names, d, _, hrun, _, hi, _⟩ := annotate_document_eq_ok.mp h
  have hlinked : (Draft.decideAll doc (Draft.start names) (Site.all doc.root)).1.Linked :=
    Draft.linked_decideAll
  rw [hrun] at hlinked
  have hinterfaces : a.interfaces = d.interfaces := by
    unfold Annotated.interfaces Draft.interfaces
    rw [hi]
  constructor
  case referred =>
    intro name hname
    rw [hinterfaces] at hname
    obtain ⟨i, hmem, hrefers⟩ := hlinked.referred name hname
    exact ⟨i, hi ▸ hmem, hrefers, hrefers.text⟩
  case resolved => rw [hinterfaces, hi]; exact hlinked.resolved
  case written => exact fun i _ => Insertion.text_eq_types
  case apart =>
    intro name hname
    obtain ⟨hglobal, _, hcapitalized⟩ := (wellNamed_of_document h).2 name hname
    exact not_inferable hcapitalized hglobal

/--
**References are whole.** What is written into a source names every interface that is added to
it at least once, and names nothing but these interfaces and the types that expressions tell.
None of the latter is the name of an interface, so a type is never mistaken for the other sort.
-/
theorem references_resolve {parse : Parser} {source language : String} {allowErrors : Bool}
    {a : Annotated} (h : (annotate parse source language allowErrors).result = .ok a) :
    ∃ dialect, Dialect.ofName language = .ok dialect ∧
      Utf8.encode a.source = interleave (Utf8.encode source)
        (a.edits ⟨source, (parse dialect source).root⟩) ∧ WellReferenced a := by
  obtain ⟨dialect, hdialect, _, hdoc⟩ := annotate_eq_ok.mp h
  exact ⟨dialect, hdialect, (onlyInserts_of_document hdoc).written,
    wellReferenced_of_document hdoc⟩

theorem references_resolve_sample :
    (annotate Sample.parse Sample.source "tsx" false).result = .ok Sample.annotated ∧
      Sample.annotated.interfaces = ["Props", "P"] ∧
      (Sample.annotated.insertions.flatMap Insertion.types) = ["Props", "P", "any"] ∧
      WellReferenced Sample.annotated := by
  obtain ⟨_, _, _, hwhole⟩ := references_resolve Sample.annotate_eq
  exact ⟨Sample.annotate_eq, by decide +kernel, by decide +kernel, hwhole⟩

end ScriptTypes.Annotation
