import ScriptTypes.Proofs.Boundary
import ScriptTypes.Proofs.InferredTypes
import ScriptTypes.Proofs.Insertions
import ScriptTypes.Proofs.Leaves
import ScriptTypes.Proofs.Samples

/-!
# Annotating does not fail

Many things could go wrong while a source is annotated: a node cannot be read, a range ends
before it starts, an insertion lies outside the source, the patched bytes are no text. None
of them does as long as every node of the tree stands where a node should: its range lies in
the source, does not end before it starts, and cuts no character. What the nodes are, and
which fields they fill, does not matter.

So there are two ways left in which annotating fails, and they are told before any decision
is made: the dialect is none, or the source has errors that are not allowed.
-/

namespace ScriptTypes

open Syntax

/--
A node stands in a source: its range does not end before it starts, it cuts no character on
either side, and the bytes of the node are those in the range. A boundary is never behind the
end of the source.
-/
structure Syntax.Node.Placed (source : String) (n : Node) : Prop where
  /-- The range does not end before it starts. -/
  ordered : n.start ≤ n.stop
  /-- It starts between characters of the source, or at an end of it. -/
  start : Utf8.Boundary source n.start
  /-- It ends between characters of the source, or at an end of it. -/
  stop : Utf8.Boundary source n.stop
  /-- The bytes are those in the range. -/
  bytes : n.data.bytes = ((Utf8.encode source).drop n.start).take (n.stop - n.start)

instance (source : String) (n : Node) : Decidable (n.Placed source) :=
  decidable_of_iff (n.start ≤ n.stop ∧ Utf8.Boundary source n.start ∧
      Utf8.Boundary source n.stop ∧
      n.data.bytes = ((Utf8.encode source).drop n.start).take (n.stop - n.start))
    ⟨fun ⟨ho, hs, ht, hb⟩ => ⟨ho, hs, ht, hb⟩, fun ⟨ho, hs, ht, hb⟩ => ⟨ho, hs, ht, hb⟩⟩

theorem Syntax.Node.Placed.exists_text {source : String} {n : Node} (h : n.Placed source) :
    ∃ s, n.text = .ok s := by
  obtain ⟨t, ht⟩ := Utf8.exists_encode_between h.start h.stop h.ordered
  refine ⟨t, ?_⟩
  unfold Node.text
  rw [h.bytes, ht]
  exact textOf_encode t

theorem Syntax.Node.Placed.exists_span {source : String} {n : Node} (h : n.Placed source) :
    ∃ span, n.span = .ok span := by
  refine ⟨⟨n.start, n.stop, Int.ofNat_le.mpr h.ordered⟩, ?_⟩
  unfold Node.span Span.between
  exact dif_pos (Int.ofNat_le.mpr h.ordered)

/-! ## Members of shapes -/

namespace Shape

theorem exists_typedFields {fs : List (String × Shape Node)}
    (h : ∀ f ∈ fs, ∃ t, f.2.typed = .ok t) : ∃ ts, typedFields fs = .ok ts := by
  induction fs with
  | nil => exact ⟨_, rfl⟩
  | cons f fs ih =>
      rw [typedFields]
      refine exists_bind_ok (h f List.mem_cons_self) fun t _ => ?_
      exact exists_bind_ok (ih fun f hf => h f (List.mem_cons_of_mem _ hf)) fun ts _ => ⟨_, rfl⟩

theorem Leaves.exists_typed {s : Shape Node} (h : s.Leaves Node.Readable) :
    ∃ t, s.typed = .ok t := by
  induction h with
  | leaf he => exact exists_bind_ok (exists_inferTypeOf? he) fun t _ => ⟨_, rfl⟩
  | branch _ ih => exact exists_bind_ok (exists_typedFields ih) fun ts _ => ⟨_, rfl⟩

/-- **A shape whose expressions can be read has its members.** -/
theorem Leaves.exists_members {s : Shape Node} (h : s.Leaves Node.Readable) :
    ∃ ms, s.members = .ok ms := by
  cases s with
  | leaf e => exact ⟨_, rfl⟩
  | branch fs =>
      have hsorted := h.sorted
      rw [Shape.sorted] at hsorted
      cases hsorted with
      | branch hfields =>
          unfold members
          dsimp only
          rw [Shape.sorted]
          exact exists_typedFields fun f hf => (hfields f hf).exists_typed

end Shape

namespace Annotation

/-- Every node of a document's tree stands in its source. -/
def Document.Placed (doc : Document) : Prop := ∀ n, doc.root.Within n → n.Placed doc.source

instance (doc : Document) : Decidable doc.Placed :=
  decidable_of_iff _ Node.forall_within_iff.symm

theorem Document.Placed.readable {doc : Document} (h : doc.Placed) : doc.root.Readable :=
  fun n hn => (h n hn).exists_text

theorem Document.Placed.readable_within {doc : Document} (h : doc.Placed) {n : Node}
    (hn : doc.root.Within n) : n.Readable := fun m hm => h.readable m (hn.trans hm)

/-- Everything around a place of the tree can be read. -/
theorem Document.Placed.readable_around {doc : Document} (h : doc.Placed) {f : Focus}
    (hf : (Focus.ofRoot doc.root).Below f) : f.Readable := by
  refine Focus.Readable.below (fun a ha => ?_) hf
  rw [List.mem_singleton.mp ha]
  exact h.readable

theorem Document.Placed.boundary_fileStart {doc : Document} (h : doc.Placed) :
    Utf8.Boundary doc.source doc.fileStart :=
  Document.boundary_fileStart fun line hline => (h line (.child .root hline)).stop

theorem Document.Placed.exists_declaredTypes {doc : Document} (h : doc.Placed) :
    ∃ names, declaredTypes doc.root = .ok names := by
  have hgives : ∀ n ∈ doc.root.namedChildren.filterMap
      (fun s => (typeDeclaration? s).bind (·.field? "name")),
      Gives True (fun s => n.text = .ok s) n.text := by
    intro n hn
    obtain ⟨statement, hs, hn⟩ := List.mem_filterMap.mp hn
    obtain ⟨declaration, hdecl, hname⟩ := Option.bind_eq_some_iff.mp hn
    have hstatement : doc.root.Within statement := .child .root (List.mem_filter.mp hs).1
    have hdeclaration := hstatement.trans (within_of_typeDeclaration? hdecl)
    exact Node.gives_text.need fun _ =>
      h.readable_within (.child hdeclaration (Node.mem_of_field? hname))
  obtain ⟨names, hnames⟩ := (Gives.mapM hgives).total trivial
  exact ⟨names, hnames⟩

/-! ## Decisions -/

namespace Draft

variable {doc : Document} (d : Draft)

/-- An insertion between characters of the source is accepted. -/
theorem exists_insert {i : Insertion}
    (hspan : ∃ span, i.span doc.fileStart = .ok span)
    (hoffset : Utf8.Boundary doc.source (i.offset doc.fileStart)) :
    ∃ d', d.insert doc i = .ok d' :=
  ⟨_, insert_eq_ok.mpr ⟨hspan, hoffset.le, rfl⟩⟩

theorem exists_addInterface (h : doc.Placed) (base : String) {shape : Option (Shape Node)}
    (hshape : ∀ s, shape = some s → s.Leaves doc.root.Within) :
    ∃ r, d.addInterface doc base shape = .ok r := by
  have hleaves : (shape.getD .unknown).Leaves Node.Readable := by
    cases shape with
    | none => exact Shape.leaves_unknown
    | some s => exact (hshape s rfl).mono fun n hn => h.readable_within hn
  obtain ⟨members, hmembers⟩ := hleaves.exists_members
  exact ⟨_, addInterface_eq_ok.mpr ⟨rfl, h.boundary_fileStart.le, members, hmembers, rfl⟩⟩

/-- A pattern of the tree is judged, whatever is known of it. -/
theorem exists_annotatePattern (h : doc.Placed) {pattern : Node} {evidence : Evidence}
    (hpattern : doc.root.Within pattern)
    (hexpression : ∀ n, evidence.expression = some n → n.Readable)
    (hinitial : ∀ n, evidence.initial = some n → n.Readable) :
    ∃ d', d.annotatePattern doc pattern evidence = .ok d' := by
  have htype : ∃ t, evidence.type? = .ok t := by
    unfold Evidence.type?
    cases evidence.found with
    | some t => exact ⟨_, rfl⟩
    | none =>
        refine exists_bind_ok (exists_inferTypeOf? fun n hn => ?_) fun t _ => ⟨_, rfl⟩
        cases he : evidence.expression with
        | none => rw [he] at hn; exact hinitial n hn
        | some e => rw [he] at hn; exact hexpression n (he.trans hn)
  have hplaced := h pattern hpattern
  have hverdict : ∃ v, judge doc.bytes pattern evidence = .ok v := by
    unfold judge
    split
    · exact ⟨_, rfl⟩
    · split
      · exact exists_bind_ok htype fun t _ => ⟨_, rfl⟩
      · split
        · refine exists_bind_ok ?_ fun diagnostic _ => ⟨_, rfl⟩
          exact exists_bind_ok hplaced.exists_text fun text _ => ⟨_, rfl⟩
        · exact ⟨_, rfl⟩
  refine exists_bind_ok hverdict fun verdict _ => ?_
  cases verdict with
  | leave => exact ⟨_, rfl⟩
  | annotate t => exact d.exists_insert hplaced.exists_span hplaced.stop
  | report diagnostic => exact ⟨_, rfl⟩

/-! ## Parameters -/

theorem below_of_parameterScope? {root : Node} {list scope : Focus}
    (hlist : (Focus.ofRoot root).Below list) (h : parameterScope? list = some scope) :
    (Focus.ofRoot root).Below scope := by
  unfold parameterScope? at h
  cases hf : list.findAncestor? functionKinds with
  | some f =>
      rw [hf] at h
      obtain rfl := Option.some.inj h
      exact hlist.ancestor (List.mem_of_find?_eq_some hf)
  | none =>
      rw [hf] at h
      exact hlist.ancestor (Focus.mem_ancestors_of_parent? h)

theorem exists_constructorProps? (h : doc.Placed) {scope : Focus}
    (hscope : (Focus.ofRoot doc.root).Below scope) (name : String) :
    ∃ r, d.constructorProps? scope name = .ok r := by
  unfold constructorProps?
  split
  · refine exists_bind_ok ?_ fun range _ => ⟨_, rfl⟩
    unfold constructedClass?
    split
    · cases hm : scope.node.field? "name" with
      | none => exact ⟨_, rfl⟩
      | some method =>
          have hmethod := (h.readable_within hscope.within).field? hm
          refine exists_bind_ok (hmethod method .root) fun text _ => ?_
          split
          · cases hp : scope.parent?.bind Focus.parent? with
            | none => exact ⟨_, rfl⟩
            | some declaration =>
                obtain ⟨body, hbody, hdecl⟩ := Option.bind_eq_some_iff.mp hp
                have hbelow := (hscope.ancestor (Focus.mem_ancestors_of_parent? hbody)).ancestor
                  (Focus.mem_ancestors_of_parent? hdecl)
                exact exists_bind_ok (h _ hbelow.within).exists_span fun span _ => ⟨_, rfl⟩
          · exact ⟨_, rfl⟩
    · exact ⟨_, rfl⟩
  · exact ⟨_, rfl⟩

theorem exists_gather (h : doc.Placed) {scope : Focus}
    (hscope : (Focus.ofRoot doc.root).Below scope) (name : String) :
    ∃ shape, Usage.gather scope name = .ok shape := by
  have hgather : Gives scope.Readable (fun _ => True) (Usage.gather scope name) :=
    (Usage.gives_fragments scope name).bind fun _ _ => .pure trivial
  exact hgather.total (h.readable_around hscope)

theorem exists_parameterInterface (h : doc.Placed) {scope : Focus}
    (hscope : (Focus.ofRoot doc.root).Below scope) (name : String) :
    ∃ r, d.parameterInterface doc scope name = .ok r := by
  unfold parameterInterface
  refine exists_bind_ok (d.exists_constructorProps? h hscope name) fun props _ => ?_
  cases props with
  | some props => exact ⟨_, rfl⟩
  | none =>
      refine exists_bind_ok (exists_gather h hscope name) fun shape hshape => ?_
      cases shape with
      | none => exact ⟨_, rfl⟩
      | some shape =>
          refine exists_bind_ok (d.exists_addInterface h _ fun s hs => ?_) fun r _ => ⟨_, rfl⟩
          obtain rfl := Option.some.inj hs
          exact Usage.leaves_of_gather hshape hscope

theorem exists_decideParameter (h : doc.Placed) {list : Focus} {parameter : Node}
    (hlist : (Focus.ofRoot doc.root).Below list) (hparameter : doc.root.Within parameter) :
    ∃ d', d.decideParameter doc list parameter = .ok d' := by
  have hfield : ∀ {field : String} {c : Node}, parameter.field? field = some c →
      doc.root.Within c := fun hc => .child hparameter (Node.mem_of_field? hc)
  unfold decideParameter
  cases hp : parameter.field? "pattern" with
  | none => exact ⟨_, rfl⟩
  | some pattern =>
      dsimp only
      split
      · exact ⟨_, rfl⟩
      · have hjudged : ∀ r : Option String × Draft, ∃ d', r.2.annotatePattern doc pattern
            { found := r.1.map .named, initial := parameter.field? "value" } = .ok d' := fun r =>
          r.2.exists_annotatePattern h (hfield hp) (by simp)
            fun n hn => h.readable_within (hfield hn)
        cases hs : parameterScope? list with
        | none => exact hjudged (none, d)
        | some scope =>
            have hscope := below_of_parameterScope? hlist hs
            dsimp only
            split
            · refine exists_bind_ok (h _ (hfield hp)).exists_text fun name _ => ?_
              exact exists_bind_ok (d.exists_parameterInterface h hscope name) fun r _ => hjudged r
            · exact hjudged (none, d)

/-! ## Declarators, catch clauses and classes -/

theorem exists_openValue? {value : Option Node} (h : ∀ v, value = some v → v.Readable) :
    ∃ r, openValue? value = .ok r := by
  unfold openValue?
  cases value with
  | none => exact ⟨_, rfl⟩
  | some v =>
      have hnullish : ∃ b, isNullish v = .ok b := by
        unfold isNullish
        split
        · exact ⟨_, rfl⟩
        · split
          · exact exists_bind_ok (h v rfl v .root) fun text _ => ⟨_, rfl⟩
          · exact ⟨_, rfl⟩
      refine exists_bind_ok hnullish fun nullish _ => ?_
      cases nullish with
      | true => exact ⟨_, rfl⟩
      | false =>
          simp only [Bool.false_eq_true, if_false]
          split
          · exact ⟨_, rfl⟩
          · exact ⟨_, rfl⟩

/-- The expression that an open value leaves to tell the type is the value itself. -/
theorem eq_of_openValue? {value expression : Option Node} {n : Node}
    (h : openValue? value = .ok (some expression)) (hn : expression = some n) :
    value = some n := by
  unfold openValue? at h
  cases value with
  | none =>
      obtain rfl := Option.some.inj (pure_eq_ok.mp h)
      cases hn
  | some v =>
      obtain ⟨nullish, _, h⟩ := bind_eq_ok.mp h
      split at h
      · obtain rfl := Option.some.inj (pure_eq_ok.mp h)
        cases hn
      · split at h
        · obtain rfl := Option.some.inj (pure_eq_ok.mp h)
          exact hn
        · cases pure_eq_ok.mp h

theorem exists_decideDeclarator (h : doc.Placed) {declarator : Focus}
    (hdeclarator : doc.root.Within declarator.node) :
    ∃ d', d.decideDeclarator doc declarator = .ok d' := by
  have hfield : ∀ {field : String} {c : Node}, declarator.node.field? field = some c →
      doc.root.Within c := fun hc => .child hdeclarator (Node.mem_of_field? hc)
  unfold decideDeclarator
  split
  · exact ⟨_, rfl⟩
  · cases hp : declarator.node.field? "name" with
    | none => exact ⟨_, rfl⟩
    | some pattern =>
        refine exists_bind_ok (h _ (hfield hp)).exists_text fun text _ => ?_
        refine exists_bind_ok (exists_openValue? fun v hv => h.readable_within (hfield hv))
          fun value hvalue => ?_
        cases value with
        | none => exact ⟨_, rfl⟩
        | some expression =>
            refine d.exists_annotatePattern h (hfield hp) (fun n hn => ?_) (by simp)
            exact h.readable_within (hfield (eq_of_openValue? hvalue hn))

theorem exists_decideCatch (h : doc.Placed) {clause : Node} (hclause : doc.root.Within clause) :
    ∃ d', d.decideCatch doc clause = .ok d' := by
  unfold decideCatch
  cases hp : clause.field? "parameter" with
  | none => exact ⟨_, rfl⟩
  | some pattern =>
      exact d.exists_annotatePattern h (.child hclause (Node.mem_of_field? hp)) (by simp) (by simp)

theorem within_of_superclass? {part superclass : Node} (h : superclass? part = some superclass) :
    part.Within superclass := by
  unfold superclass? at h
  cases hv : part.field? "value" with
  | some value =>
      rw [hv] at h
      obtain rfl := Option.some.inj h
      exact .child .root (Node.mem_of_field? hv)
  | none =>
      rw [hv] at h
      have hmem : superclass ∈ part.namedChildren := List.mem_of_head? h
      exact .child .root (List.mem_filter.mp hmem).1

theorem within_of_extendsPart? {declaration part : Node}
    (h : extendsPart? declaration = some part) : declaration.Within part := by
  unfold extendsPart? at h
  obtain ⟨heritage, hh, hpart⟩ := Option.map_eq_some_iff.mp h
  have hheritage : declaration.Within heritage := .child .root (List.mem_of_find?_eq_some hh)
  cases he : heritage.childOfKind? ["extends_clause"] with
  | none =>
      rw [he] at hpart
      exact hpart ▸ hheritage
  | some clause =>
      rw [he] at hpart
      exact hpart ▸ .child hheritage (List.mem_of_find?_eq_some he)

theorem exists_isComponentClass {superclass : Node} (h : superclass.Readable) :
    ∃ b, isComponentClass superclass = .ok b := by
  unfold isComponentClass
  split
  · exact exists_bind_ok (h superclass .root) fun text _ => ⟨_, rfl⟩
  · split
    · cases hp : superclass.field? "property" with
      | none => exact ⟨_, rfl⟩
      | some property =>
          exact exists_bind_ok ((h.field? hp) property .root) fun text _ => ⟨_, rfl⟩
    · exact ⟨_, rfl⟩

theorem exists_componentInterfaces (h : doc.Placed) {props state : Option (Shape Node)}
    (hprops : ∀ s, props = some s → s.Leaves doc.root.Within)
    (hstate : ∀ s, state = some s → s.Leaves doc.root.Within) :
    ∃ r, d.componentInterfaces doc props state = .ok r := by
  unfold componentInterfaces
  cases state with
  | none =>
      cases props with
      | none => exact ⟨_, rfl⟩
      | some props => exact exists_bind_ok (d.exists_addInterface h _ hprops) fun r _ => ⟨_, rfl⟩
  | some state =>
      cases props with
      | none | some _ =>
          refine exists_bind_ok (d.exists_addInterface h _ hprops) fun r _ => ?_
          exact exists_bind_ok (r.2.exists_addInterface h _ hstate) fun r' _ => ⟨_, rfl⟩

theorem exists_decideClass (h : doc.Placed) {declaration : Focus}
    (hbelow : (Focus.ofRoot doc.root).Below declaration) :
    ∃ d', d.decideClass doc declaration = .ok d' := by
  unfold decideClass
  cases he : extendsPart? declaration.node with
  | none => exact ⟨_, rfl⟩
  | some part =>
      cases hs : superclass? part with
      | none => exact ⟨_, by simp only [hs]; rfl⟩
      | some superclass =>
          have hsuper : doc.root.Within superclass :=
            (hbelow.within.trans (within_of_extendsPart? he)).trans (within_of_superclass? hs)
          simp only [hs]
          refine exists_bind_ok (exists_isComponentClass (h.readable_within hsuper))
            fun component _ => ?_
          split
          · split
            · exact ⟨_, rfl⟩
            · cases hb : declaration.node.field? "body" with
              | none => exact ⟨_, rfl⟩
              | some body =>
                  have hscope : (Focus.ofRoot doc.root).Below (declaration.child body) :=
                    .child hbelow (Node.mem_of_field? hb)
                  dsimp only
                  refine exists_bind_ok (exists_gather h hscope _) fun props hprops => ?_
                  refine exists_bind_ok (exists_gather h hscope _) fun state hstate => ?_
                  refine exists_bind_ok (d.exists_componentInterfaces h
                    (fun s hs => Usage.leaves_of_gather (hs ▸ hprops) hscope)
                    fun s hs => Usage.leaves_of_gather (hs ▸ hstate) hscope) fun r _ => ?_
                  have hremember : ∃ d', r.2.rememberProps declaration.node r.1 = .ok d' := by
                    unfold rememberProps
                    split
                    · exact ⟨_, rfl⟩
                    · exact exists_bind_ok (h _ hbelow.within).exists_span fun span _ => ⟨_, rfl⟩
                  refine exists_bind_ok hremember fun d' _ => ?_
                  exact d'.exists_insert (h _ hsuper).exists_span (h _ hsuper).stop
          · exact ⟨_, rfl⟩

/-! ## Runs -/

/-- **Every place of a tree whose nodes stand in the source can be decided about.** -/
theorem exists_decide (h : doc.Placed) {site : Site} (hsite : site ∈ Site.all doc.root) :
    ∃ d', d.decide doc site = .ok d' := by
  obtain ⟨f, hf, hopen⟩ := Site.exists_opened hsite
  cases hopen with
  | parameter _ hmem =>
      exact d.exists_decideParameter h hf (.child hf.within (List.mem_filter.mp hmem).1)
  | declarator => exact d.exists_decideDeclarator h hf.within
  | catchClause => exact d.exists_decideCatch h hf.within
  | classDefinition => exact d.exists_decideClass h hf

theorem decideAll_succeeds (h : doc.Placed) {sites : List Site}
    (hsites : ∀ site ∈ sites, site ∈ Site.all doc.root) : (decideAll doc d sites).2 = none := by
  induction sites generalizing d with
  | nil => rfl
  | cons site sites ih =>
      obtain ⟨d', hd'⟩ := d.exists_decide h (hsites site List.mem_cons_self)
      rw [decideAll, hd']
      exact ih d' fun s hs => hsites s (List.mem_cons_of_mem _ hs)

end Draft

/-! ## Patched bytes -/

theorem Binds.within {root place pattern : Node} (h : Binds root place pattern) :
    root.Within pattern := by
  cases h with
  | parameter hlist _ hmem _ hp =>
      exact .child (.child hlist (List.mem_filter.mp hmem).1) (Node.mem_of_field? hp)
  | declarator hdeclarator _ hp => exact .child hdeclarator (Node.mem_of_field? hp)
  | catchClause hclause _ hp => exact .child hclause (Node.mem_of_field? hp)

theorem Extends.within {root part superclass : Node} (h : Extends root part superclass) :
    root.Within superclass := by
  obtain ⟨declaration, heritage, hdecl, _, hh, hpart, hs⟩ := h
  have hheritage : root.Within heritage := .child hdecl (List.mem_of_find?_eq_some hh)
  have hpart : root.Within part := by
    rcases hpart with hpart | ⟨_, rfl⟩
    · exact .child hheritage (List.mem_of_find?_eq_some hpart)
    · exact hheritage
  rcases hs with hv | ⟨_, hhead⟩
  · exact .child hpart (Node.mem_of_field? hv)
  · exact .child hpart (List.mem_filter.mp (List.mem_of_head? hhead)).1

/-- What a tree calls for is written between characters. -/
theorem Warranted.boundary {doc : Document} {names : List String} {e : Edit}
    (hw : Warranted doc names e) (h : doc.Placed) : Utf8.Boundary doc.source e.offset := by
  cases hw with
  | interface => exact h.boundary_fileStart
  | bindingType hb => exact (h _ hb.within).stop
  | typeArguments he => exact (h _ he.within).stop

/-- **A document whose nodes stand in its source is annotated.** -/
theorem Document.Placed.exists_annotated {doc : Document} (h : doc.Placed) :
    ∃ a, doc.annotate.result = .ok a := by
  obtain ⟨names, hnames⟩ := h.exists_declaredTypes
  rcases hrun : Draft.decideAll doc (Draft.start names) (Site.all doc.root) with ⟨d, failure⟩
  have hdone := (Draft.start names).decideAll_succeeds h fun site hsite => hsite
  have hsound : (Draft.decideAll doc (Draft.start names) (Site.all doc.root)).1.Sound doc :=
    Draft.sound_decideAll
  rw [hrun] at hdone hsound
  dsimp only at hdone hsound
  subst hdone
  have hboundary : ∀ e ∈ d.edits doc, Utf8.Boundary doc.source e.offset := by
    intro e he
    obtain ⟨i, hi, rfl⟩ := List.mem_map.mp he
    exact (hsound.warranted i hi).boundary h
  obtain ⟨text, htext⟩ := exists_encode_splice hboundary
  refine ⟨⟨text, d.insertions, d.diagnostics⟩, annotate_document_eq_ok.mpr
    ⟨names, d, hnames, hrun, ?_, rfl, rfl⟩⟩
  rw [show splice doc.bytes (d.edits doc) = Utf8.encode text from htext]
  exact textOf_encode text

end Annotation

/-! ## When annotating fails -/

/-- A name that means a dialect, with blanks around it and in either case. -/
def Dialect.Accepted (given : String) : Prop :=
  Text.lower (Text.strip given) ∈ ["javascript", "js", "jsx", "ts", "tsx", "typescript"]

instance (given : String) : Decidable (Dialect.Accepted given) :=
  List.instDecidableMemOfLawfulBEq _ _

theorem Dialect.ofName_eq_error_iff {given : String} {f : Fault} :
    Dialect.ofName given = .error f ↔
      ¬ Dialect.Accepted given ∧ f = .unsupportedDialect given := by
  unfold Dialect.ofName Dialect.Accepted Dialect.ofAlias?
  split
  · rename_i d hd
    refine iff_of_false (by simp) fun h => h.1 ?_
    split at hd <;> simp_all
  · rename_i hnone
    constructor
    · intro h
      refine ⟨fun hmem => ?_, (Except.error.inj h).symm⟩
      split at hnone <;> simp_all
    · rintro ⟨_, rfl⟩
      rfl

theorem Dialect.accepted_of_ofName {given : String} {d : Dialect}
    (h : Dialect.ofName given = .ok d) : Dialect.Accepted given := by
  by_contra hnot
  cases h.symm.trans (Dialect.ofName_eq_error_iff.mpr ⟨hnot, rfl⟩)

/-- Annotating starts with a dialect, and a tree that is well formed or may be used anyway. -/
theorem annotate_result_eq {parse : Parser} {source language : String} {allowErrors : Bool} :
    (annotate parse source language allowErrors).result =
      (Dialect.ofName language).bind fun dialect =>
        if (parse dialect source).hasErrors = true ∧ allowErrors = false then
          .error (.syntaxErrors language)
        else
          Logged.result <| Annotation.Document.annotate ⟨source, (parse dialect source).root⟩ := by
  unfold annotate readDocument Logged.andThen
  cases Dialect.ofName language with
  | error f => rfl
  | ok dialect =>
      cases herrors : (parse dialect source).hasErrors <;> cases allowErrors <;>
        simp [Except.bind, herrors]

/--
**Annotating fails in two ways only.** If the nodes of the tree stand in the source, whatever
they are, then annotating ends in a failure exactly if the name means no dialect, which the
failure tells, or the tree has errors and errors are not allowed. In every other case there is
a result.
-/
theorem annotate_fails_iff {parse : Parser} {source language : String} {allowErrors : Bool}
    (hplaced : ∀ dialect, Dialect.ofName language = .ok dialect →
      Annotation.Document.Placed ⟨source, (parse dialect source).root⟩) :
    (∀ f, (annotate parse source language allowErrors).result = .error f ↔
      (¬ Dialect.Accepted language ∧ f = .unsupportedDialect language) ∨
      ∃ dialect, Dialect.ofName language = .ok dialect ∧
        (parse dialect source).hasErrors = true ∧ allowErrors = false ∧
        f = .syntaxErrors language) ∧
    ((∃ a, (annotate parse source language allowErrors).result = .ok a) ↔
      ∃ dialect, Dialect.ofName language = .ok dialect ∧
        ((parse dialect source).hasErrors = true → allowErrors = true)) := by
  rw [annotate_result_eq]
  cases hname : Dialect.ofName language with
  | error given =>
      obtain ⟨hnot, rfl⟩ := Dialect.ofName_eq_error_iff.mp hname
      refine ⟨fun f => ⟨fun h => ?_, ?_⟩, iff_of_false (fun ⟨_, h⟩ => nomatch h)
        fun ⟨_, h, _⟩ => nomatch h⟩
      · exact .inl ⟨hnot, (Except.error.inj h).symm⟩
      · rintro (⟨_, rfl⟩ | ⟨_, h, _⟩)
        · rfl
        · cases h
  | ok dialect =>
      have haccepted := Dialect.accepted_of_ofName hname
      obtain ⟨a, ha⟩ := (hplaced dialect hname).exists_annotated
      by_cases hrefused : (parse dialect source).hasErrors = true ∧ allowErrors = false
      · obtain ⟨herrors, rfl⟩ := hrefused
        simp only [Except.bind, herrors, and_self, if_true]
        refine ⟨fun f => ⟨fun h => ?_, ?_⟩, iff_of_false (fun ⟨_, h⟩ => nomatch h) ?_⟩
        · exact .inr ⟨dialect, rfl, herrors, trivial, (Except.error.inj h).symm⟩
        · rintro (⟨hnot, _⟩ | ⟨_, _, _, _, rfl⟩)
          · exact absurd haccepted hnot
          · rfl
        · rintro ⟨_, hd, hallowed⟩
          obtain rfl := Except.ok.inj hd
          cases hallowed herrors
      · have hallowed : (parse dialect source).hasErrors = true → allowErrors = true := by
          simpa using hrefused
        simp only [Except.bind, if_neg hrefused, ha]
        refine ⟨fun f => iff_of_false (by simp) ?_, iff_of_true ⟨a, rfl⟩ ⟨dialect, rfl, hallowed⟩⟩
        rintro (⟨hnot, _⟩ | ⟨_, hd, herrors, hforbidden, _⟩)
        · exact hnot haccepted
        · obtain rfl := Except.ok.inj hd
          exact hrefused ⟨herrors, hforbidden⟩

/-! ## A source with a first line of its own, and a letter of two bytes -/

namespace Shebang

/-- A first line for the shell, and a function of an object. -/
def source : String := "#!x\nf = (é) => é.a"

/-- The parameter is one in the grammars of the dialects, and its only use tells a field. -/
def root : Node :=
  labelledNode source 0 "program" 0 20 none [
    labelledNode source 1 "hash_bang_line" 0 3 none,
    labelledNode source 2 "assignment_expression" 4 20 none [
      labelledNode source 3 "identifier" 4 5 (some "left"),
      labelledNode source 4 "arrow_function" 8 20 (some "right") [
        labelledNode source 5 "formal_parameters" 8 12 (some "parameters") [
          labelledNode source 6 "required_parameter" 9 11 none [
            labelledNode source 7 "identifier" 9 11 (some "pattern")]],
        labelledNode source 8 "member_expression" 16 20 (some "body") [
          labelledNode source 9 "identifier" 16 18 (some "object"),
          labelledNode source 10 "property_identifier" 19 20 (some "property")]]]]

theorem placed : Annotation.Document.Placed ⟨source, root⟩ := by decide +kernel

/-- The tree, whatever is to be parsed, as one with errors. -/
def parse : Parser := fun _ _ => ⟨root, true⟩

end Shebang

theorem annotate_fails_iff_shebang :
    (∃ a, (annotate Shebang.parse Shebang.source " JS " true).result = .ok a) ∧
    (annotate Shebang.parse Shebang.source " JS " false).result =
      .error (.syntaxErrors " JS ") := by
  have hplaced : ∀ dialect, Dialect.ofName " JS " = .ok dialect →
      Annotation.Document.Placed ⟨Shebang.source, (Shebang.parse dialect Shebang.source).root⟩ :=
    fun _ _ => Shebang.placed
  have hname : Dialect.ofName " JS " = .ok .typescript := by decide +kernel
  obtain ⟨_, hallowed⟩ := @annotate_fails_iff _ _ _ true hplaced
  obtain ⟨hrefused, _⟩ := @annotate_fails_iff _ _ _ false hplaced
  exact ⟨hallowed.mpr ⟨_, hname, fun _ => rfl⟩,
    (hrefused _).mpr (.inr ⟨_, hname, rfl, rfl, rfl⟩)⟩

end ScriptTypes
