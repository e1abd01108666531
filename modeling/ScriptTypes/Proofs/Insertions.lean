import ScriptTypes.Annotation
import ScriptTypes.Proofs.Decision
import ScriptTypes.Proofs.Samples
import ScriptTypes.Proofs.Splice
import ScriptTypes.Proofs.Tree
import ScriptTypes.Proofs.Utf8

/-!
# Annotating only inserts

The annotated text is the source with texts inserted, and every one of them is of one of
three kinds: an interface at the start of the file, the type of a binding behind its
pattern, or the type arguments of a component class behind the class that it extends.
`Warranted` spells the three out in terms of the tree alone.

The invariant of a run is that everything inserted so far is warranted and lies inside
the source. It needs a companion: the interfaces that are remembered for constructors are
among those that were inserted, or a parameter could be given a type that nothing
declares.
-/

namespace ScriptTypes.Annotation

open Syntax

/-! ## What is called for by a tree -/

/-- A place of a tree that binds something, and what it binds. -/
inductive Binds (root : Node) : (place pattern : Node) → Prop where
  /-- A parameter in a list of parameters. -/
  | parameter {list parameter pattern : Node} :
      root.Within list → list.kind = "formal_parameters" → parameter ∈ list.namedChildren →
      parameter.kind = "required_parameter" → parameter.field? "pattern" = some pattern →
      Binds root parameter pattern
  /-- A variable declarator. -/
  | declarator {declarator pattern : Node} :
      root.Within declarator → declarator.kind = "variable_declarator" →
      declarator.field? "name" = some pattern → Binds root declarator pattern
  /-- A catch clause. -/
  | catchClause {clause pattern : Node} :
      root.Within clause → clause.kind = "catch_clause" →
      clause.field? "parameter" = some pattern → Binds root clause pattern

/-- A class of a tree extends another: the part that says so, and the name of the other. -/
def Extends (root part superclass : Node) : Prop :=
  ∃ declaration heritage, root.Within declaration ∧
    (declaration.kind = "class_declaration" ∨ declaration.kind = "class") ∧
    declaration.childOfKind? ["class_heritage"] = some heritage ∧
    (heritage.childOfKind? ["extends_clause"] = some part ∨
      heritage.childOfKind? ["extends_clause"] = none ∧ part = heritage) ∧
    (part.field? "value" = some superclass ∨
      part.field? "value" = none ∧ part.namedChildren.head? = some superclass)

/-- A text that names a class which components extend. -/
def SaysComponent (n : Node) : Prop := n.text = .ok "Component" ∨ n.text = .ok "PureComponent"

/-- The name of a class that components extend, by itself or as a member of something. -/
def NamesComponent (superclass : Node) : Prop :=
  (superclass.kind = "identifier" ∧ SaysComponent superclass) ∨
    (superclass.kind = "member_expression" ∧
      ∃ property, superclass.field? "property" = some property ∧ SaysComponent property)

/-- An insertion that a document calls for, given the names of the interfaces that it gets. -/
inductive Warranted (doc : Document) (interfaces : List String) : Edit → Prop where
  /-- An interface at the start of the file. -/
  | interface {name body : String} : name ∈ interfaces →
      Warranted doc interfaces
        ⟨doc.fileStart, "interface " ++ name ++ " \x7b\n" ++ body ++ "\x7d\n\n"⟩
  /-- A type behind a name or an object pattern that has none: one of the interfaces or inferred. -/
  | bindingType {place pattern : Node} {type : String} : Binds doc.root place pattern →
      pattern.kind = "identifier" ∨ pattern.kind = "object_pattern" →
      (∀ c ∈ place.children, c.kind ≠ "type_annotation") →
      type ∈ interfaces ∨ (∃ t : InferredType, type = t.text) →
      Warranted doc interfaces ⟨pattern.stop, ": " ++ type⟩
  /-- Type arguments behind the class that a component extends, which has none. -/
  | typeArguments {part superclass : Node} {text : String} : Extends doc.root part superclass →
      NamesComponent superclass → (∀ c ∈ part.children, c.kind ≠ "type_arguments") →
      text = "<any, any>" ∨ (∃ p ∈ interfaces, text = "<" ++ p ++ ">") ∨
        (∃ p ∈ interfaces, ∃ s ∈ interfaces, text = "<" ++ p ++ ", " ++ s ++ ">") →
      Warranted doc interfaces ⟨superclass.stop, text⟩

/-- More interfaces warrant no less. -/
theorem Warranted.mono {doc : Document} {names names' : List String} {e : Edit}
    (h : Warranted doc names e) (hsub : ∀ n ∈ names, n ∈ names') : Warranted doc names' e := by
  cases h with
  | interface hn => exact .interface (hsub _ hn)
  | bindingType hb hk ha ht => exact .bindingType hb hk ha (ht.imp_left (hsub _))
  | typeArguments he hc ha ht =>
      refine .typeArguments he hc ha (ht.imp_right (Or.imp ?_ ?_))
      · rintro ⟨p, hp, h⟩; exact ⟨p, hsub p hp, h⟩
      · rintro ⟨p, hp, s, hs, h⟩; exact ⟨p, hsub p hp, s, hsub s hs, h⟩

/-! ## Where places come from -/

/-- The places that a node opens, by its kind. -/
inductive Site.Opened (f : Focus) : Site → Prop where
  | parameter {p : Node} : f.node.kind = "formal_parameters" → p ∈ f.node.namedChildren →
      p.kind = "required_parameter" → Opened f (.parameter f p)
  | declarator : f.node.kind = "variable_declarator" → Opened f (.declarator f)
  | catchClause : f.node.kind = "catch_clause" → Opened f (.catchClause f.node)
  | classDefinition : f.node.kind ∈ classKinds → Opened f (.classDefinition f)

theorem Site.opened_of_mem_at {f : Focus} {site : Site} (h : site ∈ Site.at f) :
    Site.Opened f site := by
  unfold Site.at at h
  split at h
  · rename_i hk
    obtain ⟨p, hp, rfl⟩ := List.mem_map.mp h
    obtain ⟨hp, hkp⟩ := List.mem_filter.mp hp
    exact .parameter hk hp (of_decide_eq_true hkp)
  · split at h
    · rename_i hk
      obtain rfl := List.mem_singleton.mp h
      exact .declarator hk
    · split at h
      · rename_i hk
        obtain rfl := List.mem_singleton.mp h
        exact .catchClause hk
      · split at h
        · rename_i hk
          obtain rfl := List.mem_singleton.mp h
          exact .classDefinition hk
        · cases h

theorem Site.mem_at_of_opened {f : Focus} {site : Site} (h : Site.Opened f site) :
    site ∈ Site.at f := by
  unfold Site.at
  cases h with
  | parameter hk hp hkp => simp [hk, hp, hkp]
  | declarator hk => simp [hk]
  | catchClause hk => simp [hk]
  | classDefinition hk =>
      rcases List.mem_cons.mp hk with hk | hk
      · simp [hk, classKinds]
      · simp [List.mem_singleton.mp hk, classKinds]

/-- Every place of a tree is opened by a node in it. -/
theorem Site.exists_opened {root : Node} {site : Site} (h : site ∈ Site.all root) :
    ∃ f, (Focus.ofRoot root).Below f ∧ Site.Opened f site := by
  unfold Site.all at h
  obtain ⟨f, hf, hs⟩ := List.mem_flatMap.mp h
  exact ⟨f, Focus.mem_descendants_iff.mp hf, Site.opened_of_mem_at hs⟩

/-- And every place that a node of it opens is one of its places. -/
theorem Site.mem_all_of_opened {root : Node} {f : Focus} {site : Site}
    (hf : (Focus.ofRoot root).Below f) (h : Site.Opened f site) : site ∈ Site.all root :=
  List.mem_flatMap.mpr ⟨f, Focus.mem_descendants_iff.mpr hf, Site.mem_at_of_opened h⟩

/-- The declaration of a type is the statement itself or stands in it. -/
theorem within_of_typeDeclaration? {statement declaration : Node}
    (h : typeDeclaration? statement = some declaration) : statement.Within declaration := by
  unfold typeDeclaration? at h
  obtain ⟨n, hn, h⟩ := Option.bind_eq_some_iff.mp h
  have hsame : n = declaration := by
    unfold Node.ofKind? at h
    split at h
    · exact Option.some.inj h
    · cases h
  subst hsame
  split at hn
  · exact .child .root (Node.mem_of_field? hn)
  · obtain rfl := Option.some.inj hn
    exact .root

theorem not_hasChild {n : Node} {kind : String} (h : n.hasChild kind = false) :
    ∀ c ∈ n.children, c.kind ≠ kind := by
  intro c hc he
  have := List.any_eq_false.mp h c hc
  exact this (by simp [he])

theorem saysComponent_iff {n : Node} :
    SaysComponent n ↔ ∃ name, n.text = .ok name ∧ name ∈ componentClasses := by
  simp [SaysComponent, componentClasses, and_or_left, exists_or]

/-- Whether a class is one of components is told by its name. -/
theorem namesComponent_iff {superclass : Node} :
    isComponentClass superclass = .ok true ↔ NamesComponent superclass := by
  have key : ∀ {n : Node}, (do return decide ((← n.text) ∈ componentClasses)) = Except.ok true ↔
      SaysComponent n := by
    intro n
    simp only [bind_eq_ok, pure_eq_ok, decide_eq_true_eq, saysComponent_iff]
  unfold isComponentClass NamesComponent
  by_cases hname : superclass.kind = "identifier"
  · rw [if_pos hname, key]
    simp [hname]
  · by_cases hmember : superclass.kind = "member_expression"
    · rw [if_neg hname, if_pos hmember]
      cases superclass.field? "property" with
      | none => simp [hmember, pure_eq_ok]
      | some property =>
          dsimp only
          rw [key]
          simp [hmember]
    · simp [hname, hmember, pure_eq_ok]

/-! ## What holds throughout a run -/

/-- Everything decided so far is called for. -/
structure Draft.Sound (doc : Document) (d : Draft) : Prop where
  /-- Insertions lie inside the source. -/
  inside : ∀ i ∈ d.insertions, i.offset doc.fileStart ≤ doc.bytes.length
  /-- Insertions are called for. -/
  warranted : ∀ i ∈ d.insertions, Warranted doc d.interfaces (i.edit doc.fileStart)
  /-- The interfaces of props are there. -/
  props : ∀ r ∈ d.propsInterfaces, r.2 ∈ d.interfaces

namespace Draft

variable {doc : Document} {d d' : Draft}

theorem sound_start (taken : List String) : Sound doc { taken := taken } where
  inside := by intro i hi; cases hi
  warranted := by intro i hi; cases hi
  props := by intro r hr; cases hr

theorem Sound.adding (h : Sound doc d) {i : Insertion}
    (hin : i.offset doc.fileStart ≤ doc.bytes.length)
    (hw : Warranted doc (d.adding i).interfaces (i.edit doc.fileStart)) :
    Sound doc (d.adding i) where
  inside := by
    intro j hj
    rcases List.mem_append.mp hj with hj | hj
    · exact h.inside j hj
    · obtain rfl := List.mem_singleton.mp hj; exact hin
  warranted := by
    intro j hj
    rcases List.mem_append.mp hj with hj | hj
    · refine (h.warranted j hj).mono fun n hn => ?_
      rw [interfaces_adding]; exact List.mem_append_left _ hn
    · obtain rfl := List.mem_singleton.mp hj; exact hw
  props := by
    intro r hr
    rw [interfaces_adding]
    exact List.mem_append_left _ (h.props r hr)

theorem Sound.describing (h : Sound doc d) {name : String}
    {members : List (String × Shape InferredType)} (hin : doc.fileStart ≤ doc.bytes.length) :
    Sound doc (d.describing name members) := by
  -- the names that are taken are none of the invariant
  have hd : Sound doc { d with taken := name :: d.taken } := ⟨h.inside, h.warranted, h.props⟩
  refine hd.adding hin (.interface ?_)
  rw [interfaces_adding]
  exact List.mem_append_right _ List.mem_cons_self

theorem Sound.reporting (h : Sound doc d) {diagnostic : Diagnostic} :
    Sound doc (d.reporting diagnostic) := ⟨h.inside, h.warranted, h.props⟩

theorem Sound.remembering (h : Sound doc d) {range : Span} {name : String}
    (hn : name ∈ d.interfaces) : Sound doc (d.remembering range name) where
  inside := h.inside
  warranted := h.warranted
  props := by
    intro r hr
    rcases List.mem_cons.mp hr with rfl | hr
    · exact hn
    · exact h.props r hr

/-- A binding is judged soundly if the type that was found for it is one that there is. -/
theorem Sound.judged (h : Sound doc d) {place pattern : Node} {evidence : Evidence}
    (hb : Binds doc.root place pattern)
    (ha : evidence.annotated = false → place.hasChild "type_annotation" = false)
    (ht : ∀ t, evidence.found = some t →
      t.text ∈ d.interfaces ∨ ∃ i : InferredType, t.text = i.text)
    (hj : Judged doc d pattern evidence d') : Sound doc d' := by
  cases hj with
  | annotated | unresolved | ignored => exact h
  | reported => exact h.reporting
  | @typed type hna hk htype hin =>
      refine h.adding hin (.bindingType hb (by simpa [annotatableKinds] using hk)
        (not_hasChild (ha hna)) ?_)
      rw [interfaces_adding]
      show type.text ∈ d.interfaces ++ [] ∨ _
      rw [List.append_nil]
      rcases Evidence.type?_eq_some_iff.mp htype with hf | ⟨_, i, _, rfl⟩
      · exact ht _ hf
      · exact .inr ⟨i, rfl⟩

/-- The interface that a constructor gets is the one remembered for its class. -/
theorem of_constructorProps? {scope : Focus} {name props : String}
    (h : d.constructorProps? scope name = .ok (some props)) :
    name = "props" ∧ ∃ range, constructedClass? scope = .ok (some range) ∧
      (range, props) ∈ d.propsInterfaces := by
  unfold constructorProps? at h
  split at h
  · rename_i hname
    obtain ⟨range?, hrange, h⟩ := bind_eq_ok.mp h
    obtain ⟨range, rfl, hl⟩ := Option.bind_eq_some_iff.mp (pure_eq_ok.mp h)
    obtain ⟨l₁, l₂, hl, _⟩ := List.lookup_eq_some_iff.mp hl
    exact ⟨hname, range, hrange, by rw [hl]; simp⟩
  · exact absurd (pure_eq_ok.mp h) (by simp)

theorem Sound.scoped (h : Sound doc d) {list : Focus} {pattern : Node}
    {interface : Option String} (hs : Scoped doc d list pattern interface d') :
    Sound doc d' ∧ ∀ name, interface = some name → name ∈ d'.interfaces := by
  cases hs with
  | none => exact ⟨h, by simp⟩
  | scope _ _ _ hi =>
      cases hi with
      | unused => exact ⟨h, by simp⟩
      | constructed hp =>
          obtain ⟨_, range, _, hr⟩ := of_constructorProps? hp
          refine ⟨h, fun name hn => ?_⟩
          obtain rfl := Option.some.inj hn
          exact h.props _ hr
      | described _ _ _ hin =>
          refine ⟨h.describing hin, fun name hn => ?_⟩
          obtain rfl := Option.some.inj hn
          simp

theorem OpenComponent.extends {root : Node} {declaration : Focus} {part superclass body : Node}
    (hroot : root.Within declaration.node) (hk : declaration.node.kind ∈ classKinds)
    (ho : OpenComponent declaration.node part superclass body) : Extends root part superclass := by
  obtain ⟨heritage, hh, hpart⟩ := Option.map_eq_some_iff.mp ho.extends_
  refine ⟨declaration.node, heritage, hroot, by simpa [classKinds] using hk, hh, ?_, ?_⟩
  · cases he : heritage.childOfKind? ["extends_clause"] with
    | none => rw [he] at hpart; exact .inr ⟨rfl, hpart.symm⟩
    | some clause => rw [he] at hpart; exact .inl (congrArg some hpart)
  · have hs := ho.named
    unfold superclass? at hs
    cases hv : part.field? "value" with
    | none => rw [hv] at hs; exact .inr ⟨rfl, hs⟩
    | some value => rw [hv] at hs; exact .inl hs

/-- Type arguments are added soundly if the interfaces that they name are there. -/
theorem Sound.typeArguments (h : Sound doc d) {declaration : Focus} {part superclass body : Node}
    {arguments : TypeArguments} (hroot : doc.root.Within declaration.node)
    (hk : declaration.node.kind ∈ classKinds)
    (ho : OpenComponent declaration.node part superclass body)
    (hin : superclass.stop ≤ doc.bytes.length)
    (ha : arguments = .unknown ∨ (∃ p ∈ d.interfaces, arguments = .props p) ∨
      ∃ p ∈ d.interfaces, ∃ s ∈ d.interfaces, arguments = .propsAndState p s) :
    Sound doc (d.adding (.typeArguments superclass arguments)) := by
  refine h.adding hin (.typeArguments (ho.extends hroot hk) (namesComponent_iff.mp ho.component)
    (not_hasChild ho.bare) ?_)
  rw [interfaces_adding]
  show _ ∨ (∃ p ∈ d.interfaces ++ [], _) ∨ ∃ p ∈ d.interfaces ++ [], ∃ s ∈ d.interfaces ++ [], _
  rw [List.append_nil]
  refine ha.imp ?_ (Or.imp ?_ ?_)
  · rintro rfl; rfl
  · rintro ⟨p, hp, rfl⟩; exact ⟨p, hp, rfl⟩
  · rintro ⟨p, hp, s, hs, rfl⟩; exact ⟨p, hp, s, hs, rfl⟩

/-- **Every decision is sound.** -/
theorem sound_step {site : Site} (hsite : site ∈ Site.all doc.root) (h : Sound doc d)
    (hd : Decided doc d d' site) : Sound doc d' := by
  obtain ⟨f, hf, hopen⟩ := Site.exists_opened hsite
  have hroot : doc.root.Within f.node := hf.within
  cases hd with
  | parameter hp =>
      cases hopen with
      | parameter hk hmem hkp =>
          cases hp with
          | unnamed | annotated => exact h
          | judged hpat hna hs hj =>
              -- first the interface, then the type that names it
              obtain ⟨h₁, hnames⟩ := h.scoped hs
              refine h₁.judged (.parameter hroot hk hmem hkp hpat) (fun _ => hna) ?_ hj
              intro t ht
              obtain ⟨name, hn, rfl⟩ := Option.map_eq_some_iff.mp ht
              exact .inl (hnames name hn)
  | declarator hdec =>
      cases hopen with
      | declarator hk =>
          cases hdec with
          | looped | unnamed | closed => exact h
          | judged _ hpat _ _ hj =>
              exact h.judged (.declarator hroot hk hpat) id (fun t ht => by cases ht) hj
  | catchClause hc =>
      cases hopen with
      | catchClause hk =>
          cases hc with
          | unnamed => exact h
          | judged hpat hj =>
              refine h.judged (.catchClause hroot hk hpat) id ?_ hj
              intro t ht
              obtain rfl := Option.some.inj ht
              exact .inr ⟨.any, rfl⟩
  | classDefinition hc =>
      cases hopen with
      | classDefinition hk =>
          cases hc with
          | left => exact h
          | unknown ho _ _ hin => exact h.typeArguments hroot hk ho hin (.inl rfl)
          | props ho _ _ _ _ _ hstart hin =>
              refine ((h.describing hstart).remembering (by simp)).typeArguments hroot hk ho hin ?_
              exact .inr (.inl ⟨_, by simp, rfl⟩)
          | state ho _ _ _ _ _ _ _ hstart hin =>
              refine (((h.describing hstart).describing hstart).remembering (by simp)).typeArguments
                hroot hk ho hin ?_
              exact .inr (.inr ⟨_, by simp, _, by simp, rfl⟩)

/-- **Everything that a run decides is called for.** -/
theorem sound_decideAll {names : List String} :
    Sound doc (decideAll doc (start names) (Site.all doc.root)).1 :=
  decideAll_preserves (fun _ hs _ _ h hd => sound_step hs h hd) (sound_start _)

end Draft

/-! ## The annotated text -/

/-- The edits of an annotated document. -/
def Annotated.edits (a : Annotated) (doc : Document) : List Edit :=
  a.insertions.map (·.edit doc.fileStart)

/-- An annotated document is its source with what it calls for inserted. -/
structure OnlyInserts (doc : Document) (a : Annotated) : Prop where
  /-- The bytes are those of the source with the edits written in at their offsets. -/
  written : Utf8.encode a.source = interleave doc.bytes (a.edits doc)
  /-- Taking the edits out again leaves the source. -/
  restored : unsplice (Utf8.encode a.source) (a.edits doc) = doc.bytes
  /-- Edits lie inside the source. -/
  inside : ∀ e ∈ a.edits doc, e.offset ≤ doc.bytes.length
  /-- Edits are called for. -/
  warranted : ∀ e ∈ a.edits doc, Warranted doc a.interfaces e

theorem onlyInserts_of_document {doc : Document} {a : Annotated}
    (h : doc.annotate.result = .ok a) : OnlyInserts doc a := by
  obtain ⟨names, d, _, hrun, hs, hi, _⟩ := annotate_document_eq_ok.mp h
  -- all that the run decided is sound, so its edits are warranted and inside
  have hsound : (Draft.decideAll doc (Draft.start names) (Site.all doc.root)).1.Sound doc :=
    Draft.sound_decideAll
  rw [hrun] at hsound
  have hedits : a.edits doc = d.edits doc := by unfold Annotated.edits; rw [hi]; rfl
  have hinside : ∀ e ∈ d.edits doc, e.offset ≤ doc.bytes.length := by
    intro e he
    obtain ⟨i, hmem, rfl⟩ := List.mem_map.mp he
    exact hsound.inside i hmem
  have hbytes : Utf8.encode a.source = splice doc.bytes (d.edits doc) := encode_of_textOf hs
  constructor
  case written => rw [hedits, hbytes]; exact splice_eq_interleave hinside
  case restored => rw [hedits, hbytes]; exact unsplice_splice hinside
  case inside => rwa [hedits]
  case warranted =>
    rw [hedits]
    intro e he
    obtain ⟨i, hmem, rfl⟩ := List.mem_map.mp he
    have := hsound.warranted i hmem
    unfold Annotated.interfaces
    rwa [hi]

/--
**Annotating only inserts.** The bytes of the annotated text are those of the source with
the edits written in at their offsets, taking the edits out again leaves the source byte
for byte, and each edit is an interface, the type of a binding or the type arguments of a
component that the tree calls for.
-/
theorem annotate_only_inserts {parse : Parser} {source language : String} {allowErrors : Bool}
    {a : Annotated} (h : (annotate parse source language allowErrors).result = .ok a) :
    ∃ dialect, Dialect.ofName language = .ok dialect ∧
      OnlyInserts ⟨source, (parse dialect source).root⟩ a := by
  obtain ⟨dialect, hdialect, _, hdoc⟩ := annotate_eq_ok.mp h
  exact ⟨dialect, hdialect, onlyInserts_of_document hdoc⟩

/-! ## A component and its method -/

namespace Sample

/-- A component that uses its props, with a method that uses one parameter of two. -/
def source : String := "class A extends Component \x7b f(p, q) \x7b p.x; this.props.y \x7d \x7d"

/-- The tree of the sample. -/
def root : Node :=
  nodeOf source "program" 0 59 none
    [nodeOf source "class_declaration" 0 59 none
      [nodeOf source "type_identifier" 6 7 (some "name"),
       nodeOf source "class_heritage" 8 25 none
        [nodeOf source "extends_clause" 8 25 none
          [nodeOf source "identifier" 16 25 (some "value")]],
       nodeOf source "class_body" 26 59 (some "body")
        [nodeOf source "method_definition" 28 57 none
          [nodeOf source "property_identifier" 28 29 (some "name"),
           nodeOf source "formal_parameters" 29 35 (some "parameters")
            [parameterOf source 30 31, parameterOf source 33 34],
           nodeOf source "statement_block" 36 57 (some "body")
            [nodeOf source "expression_statement" 38 42 none [accessOf source 38 39 41 none],
             nodeOf source "expression_statement" 43 55 none
              [nodeOf source "member_expression" 43 55 none
                [nodeOf source "member_expression" 43 53 (some "object")
                  [nodeOf source "this" 43 47 (some "object"),
                   nodeOf source "property_identifier" 48 53 (some "property")],
                 nodeOf source "property_identifier" 54 55 (some "property")]]]]]]]

/-- The parser that knows the tree of the sample. -/
def parse : Parser := fun _ _ => ⟨root, false⟩

def document : Document := ⟨source, root⟩

/-- What is inserted into the sample. -/
def edits : List Edit :=
  [⟨0, "interface Props \x7b\n    y: any,\n\x7d\n\n"⟩, ⟨25, "<Props>"⟩,
   ⟨0, "interface P \x7b\n    x: any,\n\x7d\n\n"⟩, ⟨31, ": P"⟩, ⟨34, ": any"⟩]

/-- The sample with its annotations. -/
def annotated : Annotated where
  source := "interface Props \x7b\n    y: any,\n\x7d\n\ninterface P \x7b\n    x: any,\n\x7d\n\n" ++
    "class A extends Component<Props> \x7b f(p: P, q: any) \x7b p.x; this.props.y \x7d \x7d"
  insertions := document.draft.1.insertions
  diagnostics := document.draft.1.diagnostics

theorem editsTo : document.EditsTo edits annotated.source := by
  constructor <;> decide +kernel

theorem annotate_document : document.annotate.result = .ok annotated :=
  Document.annotate_of_editsTo editsTo

theorem annotate_eq : (annotate parse source "tsx" false).result = .ok annotated :=
  annotate_of_document document rfl rfl annotate_document

end Sample

theorem annotate_only_inserts_sample :
    (annotate Sample.parse Sample.source "tsx" false).result = .ok Sample.annotated ∧
      unsplice (Utf8.encode Sample.annotated.source) (Sample.annotated.edits Sample.document) =
        Utf8.encode Sample.source := by
  obtain ⟨_, _, h⟩ := annotate_only_inserts Sample.annotate_eq
  exact ⟨Sample.annotate_eq, h.restored⟩

end ScriptTypes.Annotation
