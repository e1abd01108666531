import ScriptTypes.Proofs.Bindings
import ScriptTypes.Proofs.Demand
import ScriptTypes.Proofs.Recording
import ScriptTypes.Proofs.Totality
import ScriptTypes.Proofs.Written

/-!
# When nothing is inserted

Annotating leaves a source as it is if there is nothing in its tree that could take a type:
no *open* place. Which places are open is told by the tree alone. Conversely an open place
always takes something, and whatever is inserted is a text that is not empty, so the source
differs afterwards, and the report on a file says so.
-/

namespace ScriptTypes

namespace Annotation

open Syntax

/-- Nothing that is inserted is empty. -/
theorem Insertion.encode_text_ne_nil (i : Insertion) : Utf8.encode i.text ≠ [] := by
  have key : ∀ {s t : String}, Utf8.encode s ≠ [] → Utf8.encode (s ++ t) ≠ [] := by
    intro s t hs hnil
    rw [Utf8.encode_append] at hnil
    exact hs (List.append_eq_nil_iff.mp hnil).1
  cases i with
  | interface name members =>
      exact key (key (key (key (by decide))))
  | bindingType pattern type => exact key (by decide)
  | typeArguments superclass arguments =>
      cases arguments with
      | unknown =>
          show Utf8.encode "<any, any>" ≠ []
          decide
      | props p => exact key (key (by decide))
      | propsAndState p s => exact key (key (key (key (by decide))))

/-- An annotated document has its source unless something is inserted. -/
theorem source_eq_iff {doc : Document} {a : Annotated} (h : doc.annotate.result = .ok a) :
    a.source = doc.source ↔ a.insertions = [] := by
  have hinserts := onlyInserts_of_document h
  constructor
  · intro hsame
    refine List.eq_nil_iff_forall_not_mem.mpr fun i hi => ?_
    -- the bytes grow by the texts that are inserted, and none of these is empty
    have hgrown := length_splice doc.bytes (a.edits doc)
    rw [splice_eq_interleave hinserts.inside, ← hinserts.written, hsame] at hgrown
    have hsum : ((a.edits doc).map fun e => (Utf8.encode e.text).length).sum = 0 :=
      (Nat.add_eq_left).mp hgrown.symm
    have hmem : i.edit doc.fileStart ∈ a.edits doc := List.mem_map_of_mem hi
    have hlength := List.sum_eq_zero_iff.mp hsum _ (List.mem_map_of_mem hmem)
    exact i.encode_text_ne_nil (List.length_eq_zero_iff.mp hlength)
  · intro hnil
    refine Utf8.encode_injective ?_
    rw [hinserts.written]
    unfold Annotated.edits
    rw [hnil, List.map_nil, interleave_nil]
    rfl

/-! ## Open places -/

/-- A pattern that takes a type. -/
def Annotatable (pattern : Node) : Prop :=
  pattern.kind = "identifier" ∨ pattern.kind = "object_pattern"

theorem annotatable_iff {pattern : Node} :
    Annotatable pattern ↔ pattern.kind ∈ annotatableKinds := by
  simp [Annotatable, annotatableKinds]

/-- A class with a body that extends a component and says nothing of its props and its state. -/
def OpenClass (declaration : Node) : Prop :=
  (declaration.kind = "class_declaration" ∨ declaration.kind = "class") ∧
  ∃ heritage part superclass body, declaration.childOfKind? ["class_heritage"] = some heritage ∧
    (heritage.childOfKind? ["extends_clause"] = some part ∨
      heritage.childOfKind? ["extends_clause"] = none ∧ part = heritage) ∧
    (part.field? "value" = some superclass ∨
      part.field? "value" = none ∧ part.namedChildren.head? = some superclass) ∧
    NamesComponent superclass ∧ (∀ c ∈ part.children, c.kind ≠ "type_arguments") ∧
    declaration.field? "body" = some body

/-- A scope is the constructor of a class. -/
def ConstructorOf (scope declaration : Focus) : Prop :=
  scope.node.kind = "method_definition" ∧
    (∃ method, scope.node.field? "name" = some method ∧ method.text = .ok "constructor") ∧
    ∃ body, scope.parent? = some body ∧ body.parent? = some declaration

/-- A type is available for a parameter without one. -/
inductive Available (list : Focus) (p pattern : Node) : Prop where
  /-- Its scope uses it as an object. -/
  | used {name : String} {shape : Shape Node} : UsedAs list p name shape → Available list p pattern
  /-- It is the `props` of the constructor of a component that does not say what they are. -/
  | constructed {scope declaration : Focus} : pattern.kind = "identifier" →
      pattern.text = .ok "props" → parameterScope? list = some scope →
      ConstructorOf scope declaration → OpenClass declaration.node → Available list p pattern
  /-- It has no default value. -/
  | absent : p.field? "value" = none → Available list p pattern
  /-- Its default value tells a type. -/
  | told {value : Node} {t : InferredType} : p.field? "value" = some value →
      inferType? value = .ok (some t) → Available list p pattern

/-- A node opens a place that takes a type. -/
inductive OpenAt (f : Focus) : Prop where
  /-- A parameter in a list. -/
  | parameter {p pattern : Node} : f.node.kind = "formal_parameters" → p ∈ f.node.namedChildren →
      p.kind = "required_parameter" → Untyped p → p.field? "pattern" = some pattern →
      Annotatable pattern → Available f p pattern → OpenAt f
  /-- A declarator. -/
  | declarator {pattern : Node} : f.node.kind = "variable_declarator" → ¬ InHead f →
      Untyped f.node → LeftOpen f.node → f.node.field? "name" = some pattern →
      Annotatable pattern → OpenAt f
  /-- A catch clause. -/
  | catchClause {pattern : Node} : f.node.kind = "catch_clause" → Untyped f.node →
      f.node.field? "parameter" = some pattern → Annotatable pattern → OpenAt f
  /-- A component. -/
  | classDefinition : OpenClass f.node → OpenAt f

/-- A tree has a place that takes a type. -/
def HasOpenSite (root : Node) : Prop := ∃ f, (Focus.ofRoot root).Below f ∧ OpenAt f

/-! ## Components -/

theorem openClass_iff {declaration : Node} : OpenClass declaration ↔
    declaration.kind ∈ classKinds ∧
      ∃ part superclass body, Draft.OpenComponent declaration part superclass body := by
  have hkinds : declaration.kind = "class_declaration" ∨ declaration.kind = "class" ↔
      declaration.kind ∈ classKinds := by simp [classKinds]
  unfold OpenClass
  rw [hkinds]
  refine and_congr_right fun _ => ⟨?_, ?_⟩
  · rintro ⟨heritage, part, superclass, body, hheritage, hpart, hnamed, hcomponent, hbare, hbody⟩
    refine ⟨part, superclass, body, ?_, ?_, namesComponent_iff.mpr hcomponent, ?_, hbody⟩
    · unfold extendsPart?
      rw [hheritage]
      rcases hpart with hpart | ⟨hnone, rfl⟩
      · simp [hpart]
      · simp [hnone]
    · unfold superclass?
      rcases hnamed with hvalue | ⟨hnone, hhead⟩
      · simp [hvalue]
      · simp [hnone, hhead]
    · refine List.any_eq_false.mpr fun c hc hk => hbare c hc ?_
      exact eq_of_beq hk
  · rintro ⟨part, superclass, body, ho⟩
    obtain ⟨heritage, hheritage, hpart⟩ := Option.map_eq_some_iff.mp ho.extends_
    refine ⟨heritage, part, superclass, body, hheritage, ?_, ?_, namesComponent_iff.mp ho.component,
      not_hasChild ho.bare, ho.bodied⟩
    · cases hc : heritage.childOfKind? ["extends_clause"] with
      | none => exact .inr ⟨rfl, by simpa [hc] using hpart.symm⟩
      | some clause => exact .inl (by simpa [hc] using hpart)
    · have hnamed := ho.named
      unfold superclass? at hnamed
      cases hv : part.field? "value" with
      | none => exact .inr ⟨rfl, by simpa [hv] using hnamed⟩
      | some value => exact .inl (by simpa [hv] using hnamed)

/-! ## What an open value tells -/

theorem elementType_of_empty {cs : List Node} (h : cs.filter Node.isContent = []) :
    elementType none cs = .ok .any := by
  induction cs with
  | nil => rfl
  | cons c cs ih =>
      have hc : c.isContent = false := by
        by_contra hcontent
        rw [Bool.not_eq_false] at hcontent
        rw [List.filter_cons_of_pos hcontent] at h
        cases h
      rw [List.filter_cons_of_neg (by simp [hc])] at h
      rw [elementType, if_neg (by simp [hc])]
      exact ih h

/-- A value that leaves the type open tells one all the same, be it any. -/
theorem exists_type_of_openValue? {value expression : Option Node}
    (h : openValue? value = .ok (some expression)) :
    ∃ t, inferTypeOf? expression = .ok (some t) := by
  unfold openValue? at h
  cases value with
  | none =>
      obtain rfl := Option.some.inj (pure_eq_ok.mp h)
      exact ⟨.any, rfl⟩
  | some v =>
      obtain ⟨nullish, _, h⟩ := bind_eq_ok.mp h
      split at h
      · obtain rfl := Option.some.inj (pure_eq_ok.mp h)
        exact ⟨.any, rfl⟩
      · split at h
        · rename_i harray
          obtain rfl := Option.some.inj (pure_eq_ok.mp h)
          refine ⟨.arrayOf .any, ?_⟩
          obtain ⟨d, cs⟩ := v
          have hk : d.kind = "array" := harray.1
          have helements : elementType none cs = .ok .any := elementType_of_empty harray.2
          show inferType? (.mk d cs) = _
          unfold inferType?
          simp [hk, InferredType.ofLiteral?, helements, pure, Except.pure, bind, Except.bind]
        · cases pure_eq_ok.mp h

/-! ## What is inserted was open -/

theorem DescribedComponent.hasOpenSite {root : Node} {declaration : Focus}
    (h : DescribedComponent root declaration) : HasOpenSite root := by
  obtain ⟨_, _, ⟨_, _, _, ho, _⟩, _⟩ := h.used
  exact ⟨declaration, h.below, .classDefinition (openClass_iff.mpr ⟨h.kind, _, _, _, ho⟩)⟩

theorem available_of_inferTypeOf? {list : Focus} {p pattern : Node} {t : InferredType}
    (h : inferTypeOf? (p.field? "value") = .ok (some t)) : Available list p pattern := by
  cases hv : p.field? "value" with
  | none => exact .absent hv
  | some value =>
      rw [hv] at h
      exact .told hv h

namespace Draft

variable {doc : Document} {d d' : Draft}

/-- What a decision inserts, if it does insert something, the tree has an open place for. -/
def OnlyIfOpen (doc : Document) (d d' : Draft) : Prop :=
  ∃ new, d'.insertions = d.insertions ++ new ∧ (new ≠ [] → HasOpenSite doc.root)

theorem onlyIfOpen_same (h : d'.insertions = d.insertions) : OnlyIfOpen doc d d' :=
  ⟨[], by rw [h, List.append_nil], fun h => absurd rfl h⟩

/-- A judgement inserts something only if the pattern takes a type, has none, and one is known. -/
theorem Judged.onlyIfOpen {pattern : Node} {evidence : Evidence}
    (h : Judged doc d pattern evidence d')
    (hopen : evidence.annotated = false → Annotatable pattern → ∀ type,
      evidence.type? = .ok (some type) → HasOpenSite doc.root) : OnlyIfOpen doc d d' := by
  cases h with
  | annotated | unresolved | reported | ignored => exact onlyIfOpen_same rfl
  | typed ha hk ht => exact ⟨_, rfl, fun _ => hopen ha (annotatable_iff.mpr hk) _ ht⟩

theorem OnlyIfOpen.trans {d₁ : Draft} (h : OnlyIfOpen doc d d₁) (h' : OnlyIfOpen doc d₁ d') :
    OnlyIfOpen doc d d' := by
  obtain ⟨new, hnew, hopen⟩ := h
  obtain ⟨more, hmore, hopen'⟩ := h'
  refine ⟨new ++ more, by rw [hmore, hnew, List.append_assoc], fun hne => ?_⟩
  by_cases hnil : new = []
  · exact hopen' fun hnil' => hne (by rw [hnil, hnil', List.nil_append])
  · exact hopen hnil

/-- **Whatever a decision inserts, the tree has an open place.** -/
theorem onlyIfOpen_step {site : Site} (hsite : site ∈ Site.all doc.root) (h : Remembered doc d)
    (hd : Decided doc d d' site) : OnlyIfOpen doc d d' := by
  obtain ⟨f, hf, hopened⟩ := Site.exists_opened hsite
  cases hd with
  | @parameter _ p hp =>
      cases hopened with
      | parameter hk hmem hkp =>
          cases hp with
          | unnamed | annotated => exact onlyIfOpen_same rfl
          | @judged pattern _ _ _ hpat hna hs hj =>
              have hopen : Annotatable pattern → Available f p pattern → HasOpenSite doc.root :=
                fun ht ha => ⟨f, hf, .parameter hk hmem hkp (untyped_iff.mpr hna) hpat ht ha⟩
              -- without an interface it is the default value that tells the type
              have hinitial : ∀ {e : Draft}, Judged doc e pattern
                  { found := none, initial := p.field? "value" } d' → OnlyIfOpen doc e d' := by
                intro e hj
                refine hj.onlyIfOpen fun _ ht type htype => hopen ht ?_
                rcases Evidence.type?_eq_some_iff.mp htype with hfound | ⟨_, t, hinferred, _⟩
                · cases hfound
                · exact available_of_inferTypeOf? hinferred
              cases hs with
              | none => exact hinitial hj
              | scope hscope hname htext hi =>
                  cases hi with
                  | unused => exact hinitial hj
                  | constructed hprops =>
                      obtain ⟨_, range, _, hmem⟩ := of_constructorProps? hprops
                      obtain ⟨declaration, hdescribed, _⟩ := h _ hmem
                      exact hj.onlyIfOpen fun _ _ _ _ => hdescribed.hasOpenSite
                  | described _ hgather =>
                      have hused := hopen (.inl hname)
                        (.used ⟨_, _, hpat, hna, hname, htext, hscope, hgather⟩)
                      exact OnlyIfOpen.trans ⟨_, rfl, fun _ => hused⟩
                        (hj.onlyIfOpen fun _ _ _ _ => hused)
  | declarator hdec =>
      cases hopened with
      | declarator hk =>
          cases hdec with
          | looped | unnamed | closed => exact onlyIfOpen_same rfl
          | judged hl hpat _ hv hj =>
              refine hj.onlyIfOpen fun ha ht _ _ => ⟨f, hf, ?_⟩
              exact .declarator hk (by simp [inHead_iff, hl]) (untyped_iff.mpr ha)
                (by simp [leftOpen_iff hv]) hpat ht
  | catchClause hc =>
      cases hopened with
      | catchClause hk =>
          cases hc with
          | unnamed => exact onlyIfOpen_same rfl
          | judged hpat hj =>
              exact hj.onlyIfOpen fun ha ht _ _ =>
                ⟨f, hf, .catchClause hk (untyped_iff.mpr ha) hpat ht⟩
  | classDefinition hc =>
      cases hopened with
      | classDefinition hk =>
          by_cases hopen : OpenClass f.node
          · obtain ⟨_, part, superclass, body, ho⟩ := openClass_iff.mp hopen
            obtain ⟨new, superclass', arguments, hnew⟩ := hc.news ho
            exact ⟨_, hnew, fun _ => ⟨f, hf, .classDefinition hopen⟩⟩
          · cases hc with
            | left => exact onlyIfOpen_same rfl
            | unknown ho | props ho | state ho =>
                exact absurd (openClass_iff.mpr ⟨hk, _, _, _, ho⟩) hopen

/-! ## What is open is taken -/

/-- Every decision about a place inserts something. -/
def Inserts (doc : Document) (site : Site) : Prop :=
  ∀ d d', Decided doc d d' site → d'.insertions ≠ d.insertions

/-- A judgement inserts something if the pattern takes a type, has none, and one is known. -/
theorem Judged.inserts {pattern : Node} {evidence : Evidence}
    (h : Judged doc d pattern evidence d') (ha : evidence.annotated = false)
    (hk : Annotatable pattern) (ht : evidence.type? ≠ .ok none) :
    ∃ type, d'.insertions = d.insertions ++ [.bindingType pattern type] := by
  rw [annotatable_iff] at hk
  cases h with
  | annotated ha' => cases ha.symm.trans ha'
  | unresolved _ _ hnone => exact absurd hnone ht
  | typed => exact ⟨_, rfl⟩
  | reported _ hno | ignored _ hno => exact absurd hk hno

theorem inserts_parameter {list : Focus} {p pattern : Node} (ha : Untyped p)
    (hpat : p.field? "pattern" = some pattern) (hk : Annotatable pattern)
    (ht : (∃ name shape, UsedAs list p name shape) ∨
      ∃ t, inferTypeOf? (p.field? "value") = .ok (some t)) :
    Inserts doc (.parameter list p) := by
  intro d d' hd
  cases hd with
  | parameter hp =>
      cases hp with
      | unnamed hno => cases hno.symm.trans hpat
      | annotated _ ha' => cases (untyped_iff.mp ha).symm.trans ha'
      | @judged _ interface d₁ _ hpat' hna hs hj =>
          obtain rfl := Option.some.inj (hpat.symm.trans hpat')
          have htype : Evidence.type? { found := interface.map .named
                                        initial := p.field? "value" } ≠ .ok none := by
            intro hnone
            -- then there is no interface, and the default value tells nothing
            obtain ⟨hfound, hinitial⟩ := Evidence.type?_eq_none_iff.mp hnone
            rcases ht with ⟨name, shape, pattern', scope, hp', _, hname, htext, hscope, hgather⟩ |
              ⟨t, ht⟩
            · obtain rfl := Option.some.inj (hpat.symm.trans hp')
              cases hs with
              | none hno =>
                  rcases hno with hno | hno
                  · cases hno.symm.trans hscope
                  · exact hno hname
              | scope hscope' _ htext' hi =>
                  obtain rfl := Option.some.inj (hscope.symm.trans hscope')
                  obtain rfl := Except.ok.inj (htext.symm.trans htext')
                  cases hi with
                  | constructed | described => cases hfound
                  | unused _ hgather' => cases hgather.symm.trans hgather'
            · cases ht.symm.trans hinitial
          obtain ⟨type, hnew⟩ := hj.inserts rfl hk htype
          obtain ⟨interfaces, hinterfaces, _⟩ := hs.news
          rw [hnew, hinterfaces, List.append_assoc]
          simp

theorem inserts_declarator {f : Focus} {pattern : Node} (hl : ¬ InHead f) (ha : Untyped f.node)
    (hv : LeftOpen f.node) (hpat : f.node.field? "name" = some pattern) (hk : Annotatable pattern) :
    Inserts doc (.declarator f) := by
  intro d d' hd
  cases hd with
  | declarator hdec =>
      cases hdec with
      | looped hl' => exact absurd (inHead_iff.mpr hl') hl
      | unnamed _ hno => cases hno.symm.trans hpat
      | closed _ _ _ hv' => exact absurd rfl ((leftOpen_iff hv').mp hv)
      | @judged _ _ expression _ _ hpat' _ hv' hj =>
          obtain rfl := Option.some.inj (hpat.symm.trans hpat')
          obtain ⟨t, ht⟩ := exists_type_of_openValue? hv'
          have htype : Evidence.type? { annotated := f.node.hasChild "type_annotation"
                                        expression } ≠ .ok none := by
            intro hnone
            have hinferred : inferTypeOf? expression = .ok none := by
              simpa using (Evidence.type?_eq_none_iff.mp hnone).2
            cases ht.symm.trans hinferred
          obtain ⟨type, hnew⟩ := hj.inserts (untyped_iff.mp ha) hk htype
          simp [hnew]

theorem inserts_catchClause {n pattern : Node} (ha : Untyped n)
    (hpat : n.field? "parameter" = some pattern) (hk : Annotatable pattern) :
    Inserts doc (.catchClause n) := by
  intro d d' hd
  cases hd with
  | catchClause hc =>
      cases hc with
      | unnamed hno => cases hno.symm.trans hpat
      | judged hpat' hj =>
          obtain rfl := Option.some.inj (hpat.symm.trans hpat')
          obtain ⟨type, hnew⟩ := hj.inserts (untyped_iff.mp ha) hk nofun
          simp [hnew]

theorem inserts_classDefinition {f : Focus} (h : OpenClass f.node) :
    Inserts doc (.classDefinition f) := by
  intro d d' hd
  obtain ⟨_, part, superclass, body, ho⟩ := openClass_iff.mp h
  cases hd with
  | classDefinition hc =>
      obtain ⟨new, superclass', arguments, hnew⟩ := hc.news ho
      simp [hnew]

/-- **Every open place is taken**: some place of the tree has something inserted for it. -/
theorem exists_inserts {f : Focus} (hf : (Focus.ofRoot doc.root).Below f) (h : OpenAt f) :
    ∃ site ∈ Site.all doc.root, Inserts doc site := by
  cases h with
  | parameter hk hp hkp ha hpat ht havailable =>
      cases havailable with
      | used hused =>
          exact ⟨_, Site.mem_all_of_opened hf (.parameter hk hp hkp),
            inserts_parameter ha hpat ht (.inl ⟨_, _, hused⟩)⟩
      | constructed _ _ hscope hconstructor hopen =>
          -- a component in the tree is open itself
          obtain ⟨_, _, body, hbody, hdeclaration⟩ := hconstructor
          have hscope := below_of_parameterScope? hf hscope
          have hbody := hscope.ancestor (Focus.mem_ancestors_of_parent? hbody)
          have hdeclaration := hbody.ancestor (Focus.mem_ancestors_of_parent? hdeclaration)
          have hclass := (openClass_iff.mp hopen).1
          exact ⟨_, Site.mem_all_of_opened hdeclaration (.classDefinition hclass),
            inserts_classDefinition hopen⟩
      | absent hv =>
          refine ⟨_, Site.mem_all_of_opened hf (.parameter hk hp hkp),
            inserts_parameter ha hpat ht (.inr ⟨.any, ?_⟩)⟩
          rw [hv]
          rfl
      | @told _ t hv hinferred =>
          refine ⟨_, Site.mem_all_of_opened hf (.parameter hk hp hkp),
            inserts_parameter ha hpat ht (.inr ⟨t, ?_⟩)⟩
          rw [hv]
          exact hinferred
  | declarator hk hl ha hv hpat ht =>
      exact ⟨_, Site.mem_all_of_opened hf (.declarator hk), inserts_declarator hl ha hv hpat ht⟩
  | catchClause hk ha hpat ht =>
      exact ⟨_, Site.mem_all_of_opened hf (.catchClause hk), inserts_catchClause ha hpat ht⟩
  | classDefinition hopen =>
      have hclass := (openClass_iff.mp hopen).1
      exact ⟨_, Site.mem_all_of_opened hf (.classDefinition hclass), inserts_classDefinition hopen⟩

end Draft

/-! ## Sources that stay as they are -/

/-- **Nothing is inserted exactly if no place is open.** -/
theorem insertions_eq_nil_iff {doc : Document} {a : Annotated} (h : doc.annotate.result = .ok a) :
    a.insertions = [] ↔ ¬ HasOpenSite doc.root := by
  obtain ⟨names, d, _, hrun, _, hi, _⟩ := annotate_document_eq_ok.mp h
  have hstep : ∀ site ∈ Site.all doc.root, ∀ d d' : Draft, d.Remembered doc →
      Draft.Decided doc d d' site → d'.Remembered doc ∧
        ∃ new, d'.insertions = d.insertions ++ new ∧ (new ≠ [] → HasOpenSite doc.root) ∧
          (Draft.Inserts doc site → new ≠ []) := by
    intro site hsite d d' hremembered hd
    obtain ⟨new, hnew, hopen⟩ := Draft.onlyIfOpen_step hsite hremembered hd
    refine ⟨Draft.remembered_step hsite hremembered hd, new, hnew, hopen, fun hinserts hnil => ?_⟩
    refine hinserts d d' hd ?_
    rw [hnew, hnil, List.append_nil]
  obtain ⟨news, hnews, hout⟩ := Draft.decideAll_appends hstep (Draft.remembered_start names) hrun
  have hinsertions : a.insertions = news.flatten := by
    rw [hi]
    exact hout
  rw [hinsertions, List.flatten_eq_nil_iff]
  constructor
  · -- an open place leads to one that is always taken, though not always to itself
    rintro hnil ⟨f, hf, hopen⟩
    obtain ⟨site, hsite, hinserts⟩ := Draft.exists_inserts hf hopen
    obtain ⟨new, hnew, _, hne⟩ := exists_of_mem_forall₂ hnews.flip hsite
    exact hne hinserts (hnil new hnew)
  · intro hno new hnew
    obtain ⟨site, _, hopen, _⟩ := exists_of_mem_forall₂ hnews hnew
    by_contra hne
    exact hno (hopen hne)

/-- A source that is annotated stays as it is exactly if no place is open. -/
theorem annotate_source_eq_iff {parse : Parser} {source language : String} {allowErrors : Bool}
    {dialect : Dialect} {a : Annotated} (hdialect : Dialect.ofName language = .ok dialect)
    (h : (annotate parse source language allowErrors).result = .ok a) :
    (a.source = source ↔ ¬ HasOpenSite (parse dialect source).root) ∧
      (¬ HasOpenSite (parse dialect source).root → a.interfaces = []) := by
  obtain ⟨dialect', hdialect', _, hdoc⟩ := annotate_eq_ok.mp h
  obtain rfl := Except.ok.inj (hdialect.symm.trans hdialect')
  have hnil := insertions_eq_nil_iff hdoc
  refine ⟨(source_eq_iff hdoc).trans hnil, fun hno => ?_⟩
  unfold Annotated.interfaces
  rw [hnil.mpr hno, List.filterMap_nil]

end Annotation

open Annotation (Annotated HasOpenSite annotate_source_eq_iff)
open Files

/--
**A source stays as it is exactly if no place in its tree is open.** There are no interfaces
then, either. A file that is neither skipped nor a failure is reported as unchanged exactly if no
place is open in the tree that its text has in the dialect of the report.
-/
theorem unchanged_iff_nothing_open (parse : Parser) :
    (∀ (source language : String) (allowErrors : Bool) (dialect : Dialect) (a : Annotated),
      Dialect.ofName language = .ok dialect →
      (annotate parse source language allowErrors).result = .ok a →
      (a.source = source ↔ ¬ HasOpenSite (parse dialect source).root) ∧
        (¬ HasOpenSite (parse dialect source).root → a.interfaces = [])) ∧
    ∀ (options : MigrationOptions) (disk : Disk) (path : Path) (report : FileReport),
      (migrateFile parse options disk path).outcome = .ok report →
      report.status ≠ .skipped → report.status ≠ .failed →
      ∃ source language dialect, readSource disk path = .ok source ∧
        report.language = some language ∧ Dialect.ofName language = .ok dialect ∧
        (report.status = .unchanged ↔ ¬ HasOpenSite (parse dialect source).root) := by
  constructor
  · intro source language allowErrors dialect a hdialect h
    exact annotate_source_eq_iff hdialect h
  · intro options disk path report hreport hskipped hfailed
    have hdone : report.status = .migrated ∨ report.status = .unchanged := by
      cases hstatus : report.status with
      | migrated => exact .inl rfl
      | unchanged => exact .inr rfl
      | skipped => exact absurd hstatus hskipped
      | failed => exact absurd hstatus hfailed
    have hrun : FileRun parse options disk path (migrateFile parse options disk path) :=
      fileRun_migrateFile
    obtain ⟨plan, hplan, rfl, _⟩ := hrun.of_done hreport hdone
    obtain ⟨_, _, hfallback⟩ := hplan.annotated
    obtain ⟨allowed, hannotate⟩ := annotate_of_fallback (congrArg Logged.result hfallback)
    obtain ⟨dialect, hdialect, _⟩ := Annotation.annotate_eq_ok.mp hannotate
    refine ⟨plan.source, plan.language, dialect, hplan.read, rfl, hdialect, ?_⟩
    rw [← (annotate_source_eq_iff hdialect hannotate).1]
    unfold Plan.report FileReport.ofAnnotated
    dsimp only
    split
    · rename_i hne
      exact iff_of_false nofun hne
    · rename_i heq
      exact iff_of_true rfl (not_not.mp heq)

theorem unchanged_iff_nothing_open_samples :
    HasOpenSite Annotation.Sample.root ∧
      ∃ report, (migrateFile .bare {} Returns.disk Returns.path).outcome = .ok report ∧
        report.status = .unchanged ∧ ¬ HasOpenSite (Parser.bare .typescript "1;\n").root := by
  constructor
  · by_contra hno
    have hdialect : Dialect.ofName "tsx" = .ok .tsx := rfl
    have h := (unchanged_iff_nothing_open Annotation.Sample.parse).1 _ _ _ _ _ hdialect
      Annotation.Sample.annotate_eq
    have hne : Annotation.Sample.annotated.source ≠ Annotation.Sample.source := by decide +kernel
    exact hne (h.1.mpr hno)
  · have hstatus : (migrateFile .bare {} Returns.disk Returns.path).outcome.map (·.status) =
        .ok .unchanged := by decide +kernel
    cases hreport : (migrateFile .bare {} Returns.disk Returns.path).outcome with
    | error f =>
        rw [hreport] at hstatus
        cases hstatus
    | ok report =>
        rw [hreport] at hstatus
        have hstatus : report.status = .unchanged := Except.ok.inj hstatus
        obtain ⟨_, _, _, _, _, _, hiff⟩ := (unchanged_iff_nothing_open .bare).2 _ _ _ _ hreport
          (by simp [hstatus]) (by simp [hstatus])
        exact ⟨report, rfl, hstatus, hiff.mp hstatus⟩

end ScriptTypes
