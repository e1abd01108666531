import ScriptTypes.Proofs.Unchanged

/-!
# Deciding again

The tree after the edits has the same places as the tree before. At each of them a second
run inserts nothing: where the first run inserted something there is an annotation now,
and where it did not there is no more reason to than there was. What the first run
reported is reported again.

`Echo` is what the draft of the second run has to do with that of the first. Every
decision preserves it.
-/

namespace ScriptTypes.Annotation

open Syntax

/-! ## Places in both trees -/

/-- A place that takes annotations, in the tree before and in the tree after. -/
inductive Spot where
  | parameter (list : Place) (parameter : Kept)
  | declarator (declarator : Place)
  | catchClause (clause : Place)
  | classDefinition (declaration : Place)

namespace Spot

/-- The place in the tree before. -/
def before : Spot → Site
  | parameter list p => .parameter list.before p.before
  | declarator p => .declarator p.before
  | catchClause p => .catchClause p.node.before
  | classDefinition p => .classDefinition p.before

/-- The place in the tree after. -/
def after : Spot → Site
  | parameter list p => .parameter list.after p.after
  | declarator p => .declarator p.after
  | catchClause p => .catchClause p.node.after
  | classDefinition p => .classDefinition p.after

/-- The places that one kept node opens. -/
def openedAt (p : Place) : List Spot :=
  if p.node.old.kind = "formal_parameters" then
    (p.node.keptChildren.filter fun c =>
      c.before.isContent && decide (c.old.kind = "required_parameter")).map (.parameter p)
  else if p.node.old.kind = "variable_declarator" then [.declarator p]
  else if p.node.old.kind = "catch_clause" then [.catchClause p]
  else if p.node.old.kind ∈ classKinds then [.classDefinition p]
  else []

/-- The places of both trees, in the order of the source. -/
def all (root : Kept) : List Spot := (Place.ofRoot root).descendants.flatMap Spot.openedAt

/-- Where a place is, by its sort. -/
inductive Found (root : Kept) : Spot → Prop where
  | parameter {list : Place} {p : Kept} : (Place.ofRoot root).Below list →
      p ∈ list.node.keptChildren → p.old.kind = "required_parameter" →
      Found root (.parameter list p)
  | declarator {p : Place} : (Place.ofRoot root).Below p →
      p.node.old.kind = "variable_declarator" → Found root (.declarator p)
  | catchClause {p : Place} : (Place.ofRoot root).Below p →
      p.node.old.kind = "catch_clause" → Found root (.catchClause p)
  | classDefinition {p : Place} : (Place.ofRoot root).Below p → Found root (.classDefinition p)

theorem found_of_mem {root : Kept} {spot : Spot} (h : spot ∈ all root) : Found root spot := by
  obtain ⟨p, hp, h⟩ := List.mem_flatMap.mp h
  have hbelow := Place.mem_descendants_iff.mp hp
  unfold Spot.openedAt at h
  split at h
  · obtain ⟨c, hc, rfl⟩ := List.mem_map.mp h
    obtain ⟨hc, hk⟩ := List.mem_filter.mp hc
    exact .parameter hbelow hc (of_decide_eq_true (Bool.and_eq_true_iff.mp hk).2)
  · split at h
    · rename_i hk
      obtain rfl := List.mem_singleton.mp h
      exact .declarator hbelow hk
    · split at h
      · rename_i hk
        obtain rfl := List.mem_singleton.mp h
        exact .catchClause hbelow hk
      · split at h
        · obtain rfl := List.mem_singleton.mp h
          exact .classDefinition hbelow
        · cases h

theorem openedAt_before (p : Place) : Site.at p.before = (Spot.openedAt p).map before := by
  have hkind : p.before.node.kind = p.node.old.kind := rfl
  unfold Site.at Spot.openedAt
  rw [hkind]
  split
  · show ((p.node.before.children.filter Node.isContent).filter _).map _ = _
    rw [Kept.children_before, befores_eq, List.filter_filter, List.filter_map, List.map_map,
      List.map_map]
    refine congrArg (List.map _) (List.filter_congr fun c _ => ?_)
    show (decide (c.old.kind = _) && c.before.isContent) = _
    rw [Bool.and_comm]
  · split
    · rfl
    · split
      · rfl
      · split <;> rfl

end Spot

namespace Reparsed

variable {doc : Document} {edits : List Edit} {root : Kept} {p : Place}

theorem at_after (H : Reparsed doc edits root) (hp : (Place.ofRoot root).Below p) :
    Site.at p.after = (Spot.openedAt p).map Spot.after := by
  have hkind : p.after.node.kind = p.node.old.kind := H.kind_eq hp
  unfold Site.at Spot.openedAt
  rw [hkind]
  split
  · -- what was added is no parameter
    have hadded : ∀ n, .added n ∈ p.node.children →
        (decide (n.kind = "required_parameter") && n.isContent) = false := by
      intro n hn
      have hne : n.kind ≠ "required_parameter" := H.kind_ne_of_gains hp hn (by decide)
      rw [decide_eq_false hne, Bool.false_and]
    show ((p.node.after.children.filter Node.isContent).filter _).map _ = _
    rw [Kept.children_after, List.filter_filter, filter_afters hadded, List.map_map, List.map_map]
    refine congrArg (List.map _) (List.filter_congr fun c hc => ?_)
    have hcontent : c.after.isContent = c.before.isContent := H.isContent_eq (below_child hp hc)
    have hkindc : c.after.kind = c.old.kind := H.kind_eq (below_child hp hc)
    rw [hcontent, hkindc, Bool.and_comm]
  · split
    · rfl
    · split
      · rfl
      · split <;> rfl

/-- A node that nothing dispatches on opens no place. -/
theorem at_of_inert {f : Focus} (hk : f.node.kind ∉ dispatchedKinds) : Site.at f = [] := by
  simp only [dispatchedKinds, List.mem_append, List.mem_cons, List.not_mem_nil, or_false,
    not_or] at hk
  obtain ⟨⟨⟨hk₁, hk₂, hk₃, _⟩, hk₄⟩, _⟩ := hk
  unfold Site.at
  rw [if_neg hk₁, if_neg hk₂, if_neg hk₃, if_neg]
  simpa using hk₄

/-- **Both trees have the same places.** -/
theorem all_eq (H : Reparsed doc edits root) :
    Site.all doc.root = (Spot.all root).map Spot.before ∧
      Site.all root.after = (Spot.all root).map Spot.after := by
  rw [← H.before]
  constructor
  · unfold Site.all Spot.all
    rw [List.map_flatMap]
    show ((Place.ofRoot root).before.descendants).flatMap Site.at = _
    rw [Place.descendants_before, List.flatMap_map]
    exact List.flatMap_congr fun q _ => Spot.openedAt_before q
  · unfold Site.all Spot.all
    rw [List.map_flatMap]
    show ((Place.ofRoot root).after.descendants).flatMap Site.at = _
    rw [Place.flatMap_descendants_after fun q n f hq hn hwithin =>
      at_of_inert ((H.added q n hq hn).1.kinds _ hwithin)]
    exact List.flatMap_congr fun q hq => H.at_after (Place.mem_descendants_iff.mp hq)

end Reparsed

/-! ## Judging again -/

namespace Draft

/-- The draft of a second run, given that of the first: it inserts nothing and reports as much. -/
structure Echo (d e : Draft) : Prop where
  insertions : e.insertions = []
  propsInterfaces : e.propsInterfaces = []
  diagnostics : e.diagnostics.length = d.diagnostics.length

/-- What the first run does without reporting anything needs no echo. -/
theorem Echo.congr {d d' e : Draft} (h : Echo d e) (hd : d'.diagnostics = d.diagnostics) :
    Echo d' e where
  insertions := h.insertions
  propsInterfaces := h.propsInterfaces
  diagnostics := by rw [hd]; exact h.diagnostics

theorem Echo.reporting {d e : Draft} {x y : Diagnostic} (h : Echo d e) :
    Echo (d.reporting x) (e.reporting y) where
  insertions := h.insertions
  propsInterfaces := h.propsInterfaces
  diagnostics := by
    show (e.diagnostics ++ [y]).length = (d.diagnostics ++ [x]).length
    rw [List.length_append, List.length_append, h.diagnostics]
    rfl

section
variable {doc : Document} {d e : Draft} {pattern : Node} {evidence : Evidence}

theorem annotatePattern_of_annotated (h : evidence.annotated = true) :
    e.annotatePattern doc pattern evidence = .ok e := by
  unfold annotatePattern judge
  rw [if_pos h]
  rfl

theorem annotatePattern_of_unresolved (hk : pattern.kind ∈ annotatableKinds)
    (ht : evidence.type? = .ok none) : e.annotatePattern doc pattern evidence = .ok e := by
  by_cases ha : evidence.annotated = true
  · exact annotatePattern_of_annotated ha
  · unfold annotatePattern judge
    rw [if_neg ha, if_pos hk, ht]
    rfl

theorem annotatePattern_of_reported {diagnostic : Diagnostic} (h : evidence.annotated = false)
    (hk : pattern.kind ∉ annotatableKinds) (hu : pattern.kind ∈ unsupportedKinds)
    (hd : Diagnostic.ofPattern doc.bytes pattern = .ok diagnostic) :
    e.annotatePattern doc pattern evidence = .ok (e.reporting diagnostic) := by
  unfold annotatePattern judge
  rw [if_neg (by rw [h]; simp), if_neg hk, if_pos hu, hd]
  rfl

theorem annotatePattern_of_ignored (hk : pattern.kind ∉ annotatableKinds)
    (hu : pattern.kind ∉ unsupportedKinds) : e.annotatePattern doc pattern evidence = .ok e := by
  by_cases ha : evidence.annotated = true
  · exact annotatePattern_of_annotated ha
  · unfold annotatePattern judge
    rw [if_neg ha, if_neg hk, if_neg hu]
    rfl

end

end Draft

/-- What a second run knows about a binding, given what the first one knew and did. -/
structure Evidence.Again (first second : Evidence) (d d' : Draft) (pattern : Node) : Prop where
  /-- What was annotated still is. -/
  annotated : first.annotated = true → second.annotated = true
  /-- What was given a type is annotated now. -/
  typed : d'.insertions ≠ d.insertions → second.annotated = true
  /-- Only what can be annotated has been. -/
  annotatable : first.annotated = false → second.annotated = true →
    pattern.kind ∈ annotatableKinds
  /-- Where no type was told there is none. -/
  untyped : first.type? = .ok none → second.type? = .ok none

namespace Reparsed

open Draft

variable {doc doc' : Document} {edits : List Edit} {root : Kept} {p : Place} {d d' e : Draft}

/-- **A pattern is judged again without being given a type.** -/
theorem judged_after (H : Reparsed doc edits root) (hp : (Place.ofRoot root).Below p)
    {first second : Evidence} (hj : Judged doc d p.node.before first d')
    (hagain : first.Again second d d' p.node.before) (he : Echo d e) :
    ∃ e', e.annotatePattern doc' p.node.after second = .ok e' ∧ Echo d' e' := by
  have hkind : p.node.after.kind = p.node.before.kind := H.kind_eq hp
  cases hj with
  | annotated ha => exact ⟨e, annotatePattern_of_annotated (hagain.annotated ha), he⟩
  | unresolved _ hk ht =>
      rw [← hkind] at hk
      exact ⟨e, annotatePattern_of_unresolved hk (hagain.untyped ht), he⟩
  | typed =>
      have ha : second.annotated = true := hagain.typed (by simp)
      exact ⟨e, annotatePattern_of_annotated ha, he.congr rfl⟩
  | reported ha hk hu hd =>
      have ha' : second.annotated = false := by
        rw [← Bool.not_eq_true]
        exact fun h => hk (hagain.annotatable ha h)
      -- the first run could read the pattern, so the second can
      obtain ⟨text, htext, _⟩ := bind_eq_ok.mp hd
      obtain ⟨text', htext'⟩ := (H.same p hp).readable ⟨text, htext⟩
      have hd' : Diagnostic.ofPattern doc'.bytes p.node.after = .ok ⟨p.node.after.kind, text',
          p.node.after.start, p.node.after.stop, .ofOffset doc'.bytes p.node.after.start⟩ :=
        bind_eq_ok.mpr ⟨text', htext', rfl⟩
      rw [← hkind] at hk hu
      exact ⟨_, annotatePattern_of_reported ha' hk hu hd', he.reporting⟩
  | ignored _ hk hu =>
      rw [← hkind] at hk hu
      exact ⟨e, annotatePattern_of_ignored hk hu, he⟩

theorem inferTypeOf?_after (H : Reparsed doc edits root) (hp : (Place.ofRoot root).Below p)
    {field : String} (hf : field ≠ "type" ∧ field ≠ "type_arguments")
    (h : inferTypeOf? (p.node.before.field? field) = .ok none) :
    inferTypeOf? (p.node.after.field? field) = .ok none := by
  rw [H.field?_after hp hf]
  rw [Kept.field?_before] at h
  cases hc : p.node.field? field with
  | none =>
      rw [hc] at h
      cases h
  | some c =>
      rw [hc] at h
      exact H.inferType?_after (below_child hp (Kept.mem_of_find? hc)) h

/-- Where an annotation is due the node has one. -/
theorem hasChild_of_due (H : Reparsed doc edits root) (hp : (Place.ofRoot root).Below p)
    {kind : String} (hdue : Due doc p.before kind) : p.node.after.hasChild kind = true := by
  obtain ⟨n, hn, hk⟩ := H.present p kind hp hdue
  exact (H.hasChild_after hp).mpr (.inr ⟨n, hn, hk⟩)

/-- Where there is a type annotation now and was none, the pattern is one that can have it. -/
theorem annotatable_of_hasChild (H : Reparsed doc edits root) (hp : (Place.ofRoot root).Below p)
    {field : String} {pattern : Node} (hfield : boundField? p.node.old.kind = some field)
    (hpat : p.node.before.field? field = some pattern)
    (hno : p.node.before.hasChild "type_annotation" = false)
    (hyes : p.node.after.hasChild "type_annotation" = true) : pattern.kind ∈ annotatableKinds := by
  rcases (H.hasChild_after hp).mp hyes with h | ⟨n, hn, hk⟩
  · rw [hno] at h
    cases h
  · have hdue := (H.added p n hp hn).2
    rw [hk] at hdue
    obtain ⟨field', pattern', hfield', hpat', hk'⟩ := hdue.annotatable
    obtain rfl := Option.some.inj (hfield.symm.trans hfield')
    obtain rfl := Option.some.inj (hpat.symm.trans hpat')
    exact hk'

end Reparsed

/-! ## Parameters again -/

namespace Draft

variable {doc : Document} {d d' e : Draft} {list : Focus} {pattern : Node}

theorem parameterInterface_of_unused (doc : Document) {scope : Focus} {name : String}
    (hprops : e.constructorProps? scope name = .ok none)
    (hgather : Usage.gather scope name = .ok none) :
    e.parameterInterface doc scope name = .ok (none, e) := by
  unfold parameterInterface
  exact bind_eq_ok.mpr ⟨none, hprops, bind_eq_ok.mpr ⟨none, hgather, rfl⟩⟩

/-- A parameter without an interface is judged by its annotation and its default value. -/
theorem decideParameter_eq {parameter : Node} (hp : parameter.field? "pattern" = some pattern)
    (hs : parameter.hasChild "type_annotation" = false → Scoped doc e list pattern none e) :
    e.decideParameter doc list parameter = e.annotatePattern doc pattern
      { annotated := parameter.hasChild "type_annotation"
        initial := parameter.field? "value" } := by
  unfold decideParameter
  simp only [hp]
  cases ha : parameter.hasChild "type_annotation" with
  | true => exact (annotatePattern_of_annotated rfl).symm
  | false =>
      rw [if_neg (by simp)]
      cases hs ha with
      | none hnone =>
          rcases hnone with hscope | hk
          · rw [hscope]
            rfl
          · cases parameterScope? list with
            | none => rfl
            | some scope =>
                dsimp only
                rw [if_neg hk]
                rfl
      | scope hscope hk ht hi =>
          rw [hscope]
          dsimp only
          rw [if_pos hk, ht]
          cases hi with
          | unused hprops hgather =>
              have hnone := parameterInterface_of_unused doc hprops hgather
              exact (bind_eq_of_ok rfl).trans (bind_eq_of_ok hnone)

end Draft

namespace Reparsed

open Draft

variable {doc doc' : Document} {edits : List Edit} {root : Kept} {p : Place} {d d' e : Draft}

/-- A parameter for which no interface was found or made is left without one. -/
theorem scoped_after (H : Reparsed doc edits root) (hw : WellFormed doc.root) {list : Place}
    (hlist : (Place.ofRoot root).Below list) (hp : (Place.ofRoot root).Below p)
    (hs : Scoped doc d list.before p.node.before none d') (he : e.propsInterfaces = []) :
    Scoped doc' e list.after p.node.after none e := by
  have hkind : p.node.after.kind = p.node.before.kind := H.kind_eq hp
  cases hs with
  | none hnone =>
      refine .none (hnone.imp (fun hscope => ?_) fun hk => hkind ▸ hk)
      rcases H.parameterScope?_after hlist with ⟨_, hafter⟩ | ⟨s, _, hbefore, _⟩
      · exact hafter
      · cases hscope.symm.trans hbefore
  | scope hscope hk ht hi =>
      rcases H.parameterScope?_after hlist with ⟨hbefore, _⟩ | ⟨s, hbelow, hbefore, hafter⟩
      · cases hscope.symm.trans hbefore
      · obtain rfl := Option.some.inj (hscope.symm.trans hbefore)
        have htext : p.node.after.text = p.node.before.text :=
          H.text_eq_of_kind hp hk (by decide)
        cases hi with
        | unused hprops hgather =>
            refine .scope hafter (hkind.trans hk) (htext.trans ht) (.unused ?_ ?_)
            · exact H.constructorProps?_after hw hbelow hprops he
            · exact H.gather_after hbelow hgather

/-- **A parameter is decided about again without being given a type.** -/
theorem parameter_after (H : Reparsed doc edits root) (hw : WellFormed doc.root) {list : Place}
    {c : Kept} (hlist : (Place.ofRoot root).Below list) (hc : c ∈ list.node.keptChildren)
    (hk : c.old.kind = "required_parameter")
    (hd : ParameterDecided doc d list.before c.before d')
    (hrecords : ∀ new i, d'.insertions = d.insertions ++ new → i ∈ new →
      Records doc (.parameter list.before c.before) i) (he : Echo d e) :
    ∃ e', e.decideParameter doc' list.after c.after = .ok e' ∧ Echo d' e' := by
  have hparameter : (Place.ofRoot root).Below (list.child c) := below_child hlist hc
  have hpattern : c.after.field? "pattern" = (c.field? "pattern").map Kept.after :=
    H.field?_after hparameter (by decide)
  cases hd with
  | unnamed hnone =>
      rw [Kept.field?_before, Option.map_eq_none_iff] at hnone
      rw [hnone] at hpattern
      refine ⟨e, ?_, he⟩
      unfold decideParameter
      simp only [hpattern]
      rfl
  | annotated hpat ha =>
      rw [Kept.field?_before, Option.map_eq_some_iff] at hpat
      obtain ⟨k, hpat, rfl⟩ := hpat
      rw [hpat] at hpattern
      have ha' : c.after.hasChild "type_annotation" = true :=
        (H.hasChild_after hparameter).mpr (.inl ha)
      refine ⟨e, ?_, he⟩
      rw [decideParameter_eq hpattern fun h => absurd (ha'.symm.trans h) (by simp)]
      exact annotatePattern_of_annotated ha'
  | @judged _ interface d₁ _ hpat hna hs hj =>
      rw [Kept.field?_before, Option.map_eq_some_iff] at hpat
      obtain ⟨k, hpat, rfl⟩ := hpat
      rw [hpat] at hpattern
      have hbelow : (Place.ofRoot root).Below ((list.child c).child k) :=
        below_child hparameter (Kept.mem_of_find? hpat)
      obtain ⟨interfaces, hnew, _⟩ := hs.news
      -- a parameter that was given a type has an annotation now
      have htyped : d'.insertions ≠ d₁.insertions →
          c.after.hasChild "type_annotation" = true := by
        intro hne
        obtain ⟨type, h⟩ := hj.inserted hne
        rw [hnew, List.append_assoc] at h
        have hrecord := hrecords _ _ h (List.mem_append_right _ List.mem_cons_self)
        exact H.hasChild_of_due hparameter (.parameter hrecord)
      have hannotatable : c.after.hasChild "type_annotation" = true →
          k.before.kind ∈ annotatableKinds := by
        have hbefore : c.before.field? "pattern" = some k.before := by
          rw [Kept.field?_before, hpat]
          rfl
        exact H.annotatable_of_hasChild hparameter (by rw [Place.node_child, hk]; rfl) hbefore hna
      -- a parameter that is still open has no interface, or it had been given one
      have hscoped : c.after.hasChild "type_annotation" = false →
          Scoped doc' e list.after k.after none e := by
        intro hopen
        cases interface with
        | none => exact H.scoped_after hw hlist hbelow hs he.propsInterfaces
        | some name =>
            have hidentifier : k.before.kind ∈ annotatableKinds := by
              rw [hs.identifier]
              simp [annotatableKinds]
            have hyes := htyped (by rw [hj.eq_of_found rfl rfl hidentifier]; simp)
            cases hopen.symm.trans hyes
      rw [decideParameter_eq hpattern hscoped]
      refine H.judged_after hbelow hj ⟨fun ha => ?_, htyped, fun _ => hannotatable, fun ht => ?_⟩
        (he.congr hs.diagnostics)
      · cases ha
      · obtain ⟨_, ht⟩ := Evidence.type?_eq_none_iff.mp ht
        refine Evidence.type?_eq_none_iff.mpr ⟨rfl, ?_⟩
        exact H.inferTypeOf?_after hparameter (by decide) ht

end Reparsed

/-! ## Declarators and catch clauses again -/

namespace Draft

variable {doc : Document} {e : Draft}

/-- A declarator of which the value does not tell what it is, is judged by its value. -/
theorem decideDeclarator_eq {declarator : Focus} {pattern : Node} {text : String}
    {value : Option (Option Node)} (hl : inLoopHead declarator = false)
    (hp : declarator.node.field? "name" = some pattern) (ht : pattern.text = .ok text)
    (hv : openValue? (declarator.node.field? "value") = .ok value) :
    e.decideDeclarator doc declarator =
      match value with
      | none => .ok e
      | some expression => e.annotatePattern doc pattern
          { annotated := declarator.node.hasChild "type_annotation", expression } := by
  unfold decideDeclarator
  rw [hl, if_neg (by simp)]
  simp only [hp]
  exact (bind_eq_of_ok ht).trans ((bind_eq_of_ok hv).trans (by cases value <;> rfl))

end Draft

namespace Reparsed

open Draft

variable {doc doc' : Document} {edits : List Edit} {root : Kept} {p : Place} {d d' e : Draft}

/-- **A declarator is decided about again without being given a type.** -/
theorem declarator_after (H : Reparsed doc edits root) (hw : WellFormed doc.root)
    (hp : (Place.ofRoot root).Below p) (hk : p.node.old.kind = "variable_declarator")
    (hd : DeclaratorDecided doc d p.before d')
    (hrecords : ∀ new i, d'.insertions = d.insertions ++ new → i ∈ new →
      Records doc (.declarator p.before) i) (he : Echo d e) :
    ∃ e', e.decideDeclarator doc' p.after = .ok e' ∧ Echo d' e' := by
  have hloop := H.inLoopHead_after hw hp
  have hname : p.after.node.field? "name" = (p.node.field? "name").map Kept.after :=
    H.field?_after hp (by decide)
  cases hd with
  | looped hl =>
      refine ⟨e, ?_, he⟩
      unfold decideDeclarator
      rw [hloop, if_pos hl]
      rfl
  | unnamed hl hnone =>
      replace hnone : p.node.before.field? "name" = none := hnone
      rw [Kept.field?_before, Option.map_eq_none_iff] at hnone
      rw [hnone] at hname
      refine ⟨e, ?_, he⟩
      unfold decideDeclarator
      rw [hloop, hl, if_neg (by simp)]
      simp only [hname]
      rfl
  | closed hl hpat ht ho =>
      obtain ⟨k, hpat', rfl⟩ := Option.map_eq_some_iff.mp (Kept.field?_before.symm.trans hpat)
      rw [hpat'] at hname
      obtain ⟨text, ht'⟩ := (H.same_child hp (Kept.mem_of_find? hpat')).readable ⟨_, ht⟩
      obtain ⟨value, hvalue, hnone, _⟩ := H.openValue?_after hp ho
      obtain rfl := hnone rfl
      exact ⟨e, decideDeclarator_eq (hloop.trans hl) hname ht' hvalue, he⟩
  | judged hl hpat ht ho hj =>
      obtain ⟨k, hpat', rfl⟩ := Option.map_eq_some_iff.mp (Kept.field?_before.symm.trans hpat)
      rw [hpat'] at hname
      have hbelow := below_child hp (Kept.mem_of_find? hpat')
      obtain ⟨text, ht'⟩ := (H.same_child hp (Kept.mem_of_find? hpat')).readable ⟨_, ht⟩
      -- a value that left the type open leaves it open again, and tells no more
      obtain ⟨value, hvalue, _, hsome⟩ := H.openValue?_after hp ho
      obtain ⟨expression, rfl, huntyped⟩ := hsome _ rfl
      rw [decideDeclarator_eq (hloop.trans hl) hname ht' hvalue]
      refine H.judged_after hbelow hj ⟨fun ha => ?_, fun hne => ?_, fun hna ha => ?_, fun hu => ?_⟩
        he
      · exact (H.hasChild_after hp).mpr (.inl ha)
      · obtain ⟨type, h⟩ := hj.inserted hne
        exact H.hasChild_of_due hp (.declarator (hrecords _ _ h List.mem_cons_self))
      · exact H.annotatable_of_hasChild hp (by rw [hk]; rfl) hpat hna ha
      · have hnone : ∀ x : Option Node, (x <|> none) = x := by intro x; cases x <;> rfl
        obtain ⟨_, hu⟩ := Evidence.type?_eq_none_iff.mp hu
        rw [hnone] at hu
        refine Evidence.type?_eq_none_iff.mpr ⟨rfl, ?_⟩
        rw [hnone]
        exact huntyped hu

/-- **A catch clause is decided about again without being given a type.** -/
theorem catchClause_after (H : Reparsed doc edits root) (hp : (Place.ofRoot root).Below p)
    (hk : p.node.old.kind = "catch_clause") (hd : CatchDecided doc d p.node.before d')
    (hrecords : ∀ new i, d'.insertions = d.insertions ++ new → i ∈ new →
      Records doc (.catchClause p.node.before) i) (he : Echo d e) :
    ∃ e', e.decideCatch doc' p.node.after = .ok e' ∧ Echo d' e' := by
  have hparameter : p.node.after.field? "parameter" = (p.node.field? "parameter").map Kept.after :=
    H.field?_after hp (by decide)
  unfold decideCatch
  rw [hparameter]
  cases hd with
  | unnamed hnone =>
      rw [Kept.field?_before, Option.map_eq_none_iff] at hnone
      rw [hnone]
      exact ⟨e, rfl, he⟩
  | judged hpat hj =>
      obtain ⟨k, hpat', rfl⟩ := Option.map_eq_some_iff.mp (Kept.field?_before.symm.trans hpat)
      rw [hpat']
      have hbelow := below_child hp (Kept.mem_of_find? hpat')
      refine H.judged_after hbelow hj ⟨fun ha => ?_, fun hne => ?_, fun hna ha => ?_, fun hu => ?_⟩
        he
      · exact (H.hasChild_after hp).mpr (.inl ha)
      · obtain ⟨type, h⟩ := hj.inserted hne
        have hrecord := hrecords _ _ h List.mem_cons_self
        have hdue : Due doc p.before "type_annotation" := .catchClause hrecord
        exact H.hasChild_of_due hp hdue
      · exact H.annotatable_of_hasChild hp (by rw [hk]; rfl) hpat hna ha
      · cases (Evidence.type?_eq_none_iff.mp hu).1

end Reparsed

/-! ## Classes again -/

namespace Draft

variable {doc : Document} {d d' e : Draft} {declaration : Focus}

/-- A class is left alone if it is no component, has type arguments already, or has no body. -/
theorem decideClass_eq {part superclass : Node} {component : Bool}
    (he : extendsPart? declaration.node = some part) (hs : superclass? part = some superclass)
    (hc : isComponentClass superclass = .ok component)
    (hleft : component = true →
      part.hasChild "type_arguments" = true ∨ declaration.node.field? "body" = none) :
    e.decideClass doc declaration = .ok e := by
  unfold decideClass
  simp only [he, hs]
  refine (bind_eq_of_ok hc).trans ?_
  cases component with
  | false => rfl
  | true =>
      rw [if_pos rfl]
      by_cases ha : part.hasChild "type_arguments" = true
      · rw [if_pos ha]
        rfl
      · rw [if_neg ha]
        simp only [(hleft rfl).resolve_left ha]
        rfl

/-- Whether the superclass is one that components extend could be told. -/
theorem ClassDecided.component (h : ClassDecided doc d declaration d') {part superclass : Node}
    (he : extendsPart? declaration.node = some part) (hs : superclass? part = some superclass) :
    ∃ component, isComponentClass superclass = .ok component := by
  have hopen : ∀ {part' superclass' body}, OpenComponent declaration.node part' superclass' body →
      ∃ component, isComponentClass superclass = .ok component := by
    intro part' superclass' body ho
    obtain rfl := Option.some.inj (he.symm.trans ho.extends_)
    obtain rfl := Option.some.inj (hs.symm.trans ho.named)
    exact ⟨true, ho.component⟩
  cases h with
  | left _ hread => exact hread part superclass he hs
  | unknown ho => exact hopen ho
  | props ho => exact hopen ho
  | state ho => exact hopen ho

end Draft

namespace Reparsed

open Draft

variable {doc doc' : Document} {edits : List Edit} {root : Kept} {p : Place} {d d' e : Draft}

/-- The part of a class that says what it extends is at the same place. -/
theorem extendsPart?_after (H : Reparsed doc edits root) (hp : (Place.ofRoot root).Below p) :
    extendsPart? p.node.after = none ∨
      ∃ x, (Place.ofRoot root).Below x ∧ extendsPart? p.node.before = some x.node.before ∧
        extendsPart? p.node.after = some x.node.after ∧ ExtendsAt p.before x.before := by
  have hh : p.node.after.childOfKind? ["class_heritage"] =
      (p.node.childOfKind? ["class_heritage"]).map Kept.after :=
    H.childOfKind?_after hp (by simp [annotationKinds])
  have hh' : p.before.node.childOfKind? ["class_heritage"] =
      (p.node.childOfKind? ["class_heritage"]).map Kept.before := Kept.childOfKind?_before
  unfold extendsPart?
  rw [hh, Kept.childOfKind?_before]
  cases h : p.node.childOfKind? ["class_heritage"] with
  | none => exact .inl rfl
  | some heritage =>
      rw [h] at hh'
      have hheritage := below_child hp (Kept.mem_of_find? h)
      have hc : heritage.after.childOfKind? ["extends_clause"] =
          (heritage.childOfKind? ["extends_clause"]).map Kept.after :=
        H.childOfKind?_after hheritage (by simp [annotationKinds])
      have hc' : heritage.before.childOfKind? ["extends_clause"] =
          (heritage.childOfKind? ["extends_clause"]).map Kept.before := Kept.childOfKind?_before
      refine .inr ?_
      dsimp only [Option.map_some]
      rw [hc, hc']
      cases hclause : heritage.childOfKind? ["extends_clause"] with
      | none =>
          rw [hclause] at hc'
          -- without a clause the heritage is the part
          exact ⟨p.child heritage, hheritage, rfl, rfl, .heritage hh' hc'⟩
      | some clause =>
          rw [hclause] at hc'
          have hbelow := below_child hheritage (Kept.mem_of_find? hclause)
          exact ⟨_, hbelow, rfl, rfl, .clause hh' hc'⟩

/-- What a class extends is the same, unless an annotation is taken for it. -/
theorem superclass?_after (H : Reparsed doc edits root) (hp : (Place.ofRoot root).Below p)
    {superclass : Node} (h : superclass? p.node.after = some superclass) :
    p.node.Gains superclass ∨ ∃ c ∈ p.node.keptChildren, superclass = c.after ∧
      superclass? p.node.before = some c.before := by
  unfold superclass? at h ⊢
  rw [H.field?_after hp (by decide)] at h
  rw [Kept.field?_before]
  cases hv : p.node.field? "value" with
  | some value =>
      rw [hv] at h
      obtain rfl := Option.some.inj h
      exact .inr ⟨value, Kept.mem_of_find? hv, rfl, rfl⟩
  | none =>
      rw [hv] at h
      have hcontent : ∀ c ∈ keptOf p.node.children, c.after.isContent = c.before.isContent :=
        fun c hc => H.isContent_eq (below_child hp hc)
      exact head?_filter_afters hcontent h

/-- An annotation is no class that a component extends. -/
theorem isComponentClass_of_gains (H : Reparsed doc edits root) (hp : (Place.ofRoot root).Below p)
    {n : Node} (hn : p.node.Gains n) : isComponentClass n = .ok false := by
  have hidentifier : n.kind ≠ "identifier" := H.kind_ne_of_gains hp hn (by decide)
  have hmember : n.kind ≠ "member_expression" := H.kind_ne_of_gains hp hn (by decide)
  unfold isComponentClass
  rw [if_neg hidentifier, if_neg hmember]
  rfl

/-- **A class is decided about again without being given type arguments.** -/
theorem classDefinition_after (H : Reparsed doc edits root) (hp : (Place.ofRoot root).Below p)
    (hd : ClassDecided doc d p.before d')
    (hrecords : ∀ new i, d'.insertions = d.insertions ++ new → i ∈ new →
      Records doc (.classDefinition p.before) i) (he : Echo d e) :
    ∃ e', e.decideClass doc' p.after = .ok e' ∧ Echo d' e' := by
  refine ⟨e, ?_, he.congr hd.diagnostics⟩
  rcases H.extendsPart?_after hp with hnone | ⟨x, hx, hbefore, hafter, hat⟩
  · unfold decideClass
    simp only [Place.node_after, hnone]
    rfl
  · cases hs : superclass? x.node.after with
    | none =>
        unfold decideClass
        simp only [Place.node_after, hafter, hs]
        rfl
    | some superclass =>
        rcases H.superclass?_after hx hs with hgains | ⟨c, hc, rfl, hs'⟩
        · exact decideClass_eq hafter hs (H.isComponentClass_of_gains hx hgains) (by simp)
        · obtain ⟨component, hcomponent⟩ := hd.component hbefore hs'
          have hcomponent' : isComponentClass c.after = .ok component :=
            (H.isComponentClass_after (below_child hx hc)).trans hcomponent
          refine decideClass_eq hafter hs hcomponent' fun htrue => ?_
          subst htrue
          by_cases ha : x.node.after.hasChild "type_arguments" = true
          · exact .inl ha
          · -- an open component would have been given type arguments by the first run
            refine .inr ?_
            show p.node.after.field? "body" = none
            rw [H.field?_after hp (by decide), Option.map_eq_none_iff]
            by_contra hbody
            obtain ⟨body, hbody⟩ := Option.ne_none_iff_exists'.mp hbody
            have hopen : OpenComponent p.before.node x.node.before c.before body.before := by
              refine ⟨hbefore, hs', hcomponent, ?_, ?_⟩
              · rw [← Bool.not_eq_true]
                exact fun h => ha ((H.hasChild_after hx).mpr (.inl h))
              · show p.node.before.field? "body" = _
                rw [Kept.field?_before, hbody]
                rfl
            obtain ⟨new, _, _, hnew⟩ := hd.news hopen
            have hrecord := hrecords _ _ hnew (List.mem_append_right new List.mem_cons_self)
            exact ha (H.hasChild_of_due hx (.typeArguments hrecord hat))

end Reparsed

end ScriptTypes.Annotation
