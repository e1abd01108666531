import Mathlib.Data.List.Forall2
import ScriptTypes.Proofs.Bindings
import ScriptTypes.Proofs.Nodes
import ScriptTypes.Proofs.Samples

/-!
# Every binding is handled once

A decision handles at most one node: it annotates it or it reports it. Which nodes are
reported follows from the tree alone. They are the eligible patterns that take no type, and
they are reported in the order in which the tree binds them.

That no node is handled twice needs more than that every place is decided about once, since
different places could be about the same node. They are not: the node that a place is about is
a child of the node that owns it, and different places have different owners.
-/

namespace ScriptTypes.Annotation

open Syntax

/-! ## What is annotated and what is reported -/

/-- The node behind which an insertion stands; an interface stands behind none. -/
def Insertion.node? : Insertion → Option Node
  | interface .. => none
  | bindingType pattern _ => some pattern
  | typeArguments superclass _ => some superclass

/-- The nodes that are annotated so far, as often as they are. -/
def Draft.annotatedNodes (d : Draft) : List Node := d.insertions.filterMap (·.node?)

/-- The nodes that are annotated, as often as they are. -/
def Annotated.annotatedNodes (a : Annotated) : List Node := a.insertions.filterMap (·.node?)

/-- A pattern that takes no type. -/
def Unsupported (pattern : Node) : Prop :=
  pattern.kind = "rest_pattern" ∨ pattern.kind = "array_pattern" ∨ pattern.kind = "this"

instance (pattern : Node) : Decidable (Unsupported pattern) :=
  inferInstanceAs (Decidable (pattern.kind = _ ∨ pattern.kind = _ ∨ pattern.kind = _))

theorem unsupported_iff {pattern : Node} :
    Unsupported pattern ↔ pattern.kind ∈ unsupportedKinds := by
  simp [Unsupported, unsupportedKinds]

theorem not_unsupported {n : Node} (h : n.kind ∈ annotatableKinds) : ¬ Unsupported n := by
  simp only [annotatableKinds, List.mem_cons, List.not_mem_nil, or_false] at h
  rcases h with hk | hk
  · simp [Unsupported, hk]
  · simp [Unsupported, hk]

/-- The eligible patterns of a tree that take no type, in the order of the source. -/
def unsupported (root : Node) : List Node := (eligible root).filter fun n => Unsupported n

/-- A diagnostic is about a pattern. -/
structure Reports (doc : Document) (pattern : Node) (diagnostic : Diagnostic) : Prop where
  /-- It has the range of the pattern. -/
  range : diagnostic.start = pattern.start ∧ diagnostic.stop = pattern.stop
  /-- It tells its kind. -/
  kind : diagnostic.patternKind = pattern.kind
  /-- It quotes it. -/
  text : pattern.text = .ok diagnostic.text
  /-- It tells where it starts. -/
  position : diagnostic.position = .ofOffset doc.bytes pattern.start

theorem reports_of_ofPattern {doc : Document} {pattern : Node} {diagnostic : Diagnostic}
    (h : Diagnostic.ofPattern doc.bytes pattern = .ok diagnostic) :
    Reports doc pattern diagnostic := by
  obtain ⟨text, htext, h⟩ := bind_eq_ok.mp h
  obtain rfl := pure_eq_ok.mp h
  exact ⟨⟨rfl, rfl⟩, rfl, htext, rfl⟩

/-! ## What a decision handles -/

/-- The node that a place is about. -/
def Site.about? : Site → Option Node
  | .parameter _ p => p.field? "pattern"
  | .declarator f => f.node.field? "name"
  | .catchClause n => n.field? "parameter"
  | .classDefinition f => (extendsPart? f.node).bind superclass?

/-- What a place binds without a type, if that takes none. -/
def Site.unsupported? (site : Site) : Option Node := site.eligible?.filter fun n => Unsupported n

namespace Draft

variable {doc : Document} {d d' : Draft}

/-- A decision reports what it has to, and annotates nothing but another node that it may. -/
structure Handles (doc : Document) (d d' : Draft) (about reported : Option Node) : Prop where
  /-- What is reported. -/
  diagnostics : ∃ new, d'.diagnostics = d.diagnostics ++ new ∧
    List.Forall₂ (Reports doc) reported.toList new
  /-- What is annotated. -/
  annotates : ∃ new, d'.annotatedNodes = d.annotatedNodes ++ new ∧
    (new ++ reported.toList).Subperm about.toList ∧ ∀ n ∈ new, ¬ Unsupported n

theorem annotatedNodes_adding (i : Insertion) :
    (d.adding i).annotatedNodes = d.annotatedNodes ++ i.node?.toList := by
  unfold annotatedNodes
  rw [adding_insertions, List.filterMap_append]
  cases i <;> rfl

/-- A decision that neither reports nor annotates leaves the node alone that it is about. -/
theorem handles_nothing (about : Option Node) (hdiagnostics : d'.diagnostics = d.diagnostics)
    (hnodes : d'.annotatedNodes = d.annotatedNodes) : Handles doc d d' about none where
  diagnostics := ⟨[], by rw [hdiagnostics, List.append_nil], .nil⟩
  annotates := ⟨[], by rw [hnodes, List.append_nil], List.nil_subperm, by simp⟩

/-- A decision that annotates the node that it is about reports nothing. -/
theorem handles_annotating {n : Node} (hdiagnostics : d'.diagnostics = d.diagnostics)
    (hnodes : d'.annotatedNodes = d.annotatedNodes ++ [n]) (hn : ¬ Unsupported n) :
    Handles doc d d' (some n) none where
  diagnostics := ⟨[], by rw [hdiagnostics, List.append_nil], .nil⟩
  annotates := ⟨[n], hnodes, List.Subperm.refl _, by simpa using hn⟩

/-- A pattern that is judged is reported if it takes no type, unless it is annotated already. -/
theorem Judged.handles {pattern : Node} {evidence : Evidence}
    (h : Judged doc d pattern evidence d') :
    Handles doc d d' (some pattern)
      (if evidence.annotated = false ∧ Unsupported pattern then some pattern else none) := by
  cases h with
  | annotated ha =>
      rw [if_neg fun h => by cases ha.symm.trans h.1]
      exact handles_nothing _ rfl rfl
  | unresolved _ hk =>
      rw [if_neg fun h => not_unsupported hk h.2]
      exact handles_nothing _ rfl rfl
  | typed _ hk =>
      rw [if_neg fun h => not_unsupported hk h.2]
      exact handles_annotating rfl (annotatedNodes_adding _) (not_unsupported hk)
  | reported ha _ hu hd =>
      rw [if_pos ⟨ha, unsupported_iff.mpr hu⟩]
      refine ⟨⟨_, rfl, .cons (reports_of_ofPattern hd) .nil⟩, [], (List.append_nil _).symm, ?_,
        by simp⟩
      exact List.Subperm.refl _
  | ignored _ _ hu =>
      rw [if_neg fun h => hu (unsupported_iff.mp h.2)]
      exact handles_nothing _ rfl rfl

theorem Scoped.annotatedNodes {list : Focus} {pattern : Node} {interface : Option String}
    (h : Scoped doc d list pattern interface d') : d'.annotatedNodes = d.annotatedNodes := by
  obtain ⟨new, hnew, hinterfaces⟩ := h.news
  have hnone : new.filterMap (·.node?) = [] := by
    refine List.filterMap_eq_nil_iff.mpr fun i hi => ?_
    obtain ⟨_, _, rfl⟩ := hinterfaces i hi
    rfl
  unfold Draft.annotatedNodes
  rw [hnew, List.filterMap_append, hnone, List.append_nil]

theorem OpenComponent.not_unsupported {declaration part superclass body : Node}
    (h : OpenComponent declaration part superclass body) : ¬ Unsupported superclass := by
  rcases namesComponent_iff.mp h.component with ⟨hk, _⟩ | ⟨hk, _⟩
  · simp [Unsupported, hk]
  · simp [Unsupported, hk]

/-- A component is annotated behind the class that it extends. -/
theorem ClassDecided.handles {declaration : Focus} (h : ClassDecided doc d declaration d') :
    Handles doc d d' (Site.classDefinition declaration).about? none := by
  have habout : ∀ {part superclass body : Node},
      OpenComponent declaration.node part superclass body →
        (Site.classDefinition declaration).about? = some superclass := by
    intro part superclass body ho
    exact Option.bind_eq_some_iff.mpr ⟨part, ho.extends_, ho.named⟩
  have hnodes : ∀ {name : String} {members : List (String × Shape InferredType)} {e : Draft},
      (e.describing name members).annotatedNodes = e.annotatedNodes :=
    (annotatedNodes_adding _).trans (List.append_nil _)
  cases h with
  | left => exact handles_nothing _ rfl rfl
  | unknown ho =>
      rw [habout ho]
      exact handles_annotating rfl (annotatedNodes_adding _) ho.not_unsupported
  | props ho =>
      rw [habout ho]
      refine handles_annotating rfl ?_ ho.not_unsupported
      rw [annotatedNodes_adding]
      exact congrArg (· ++ _) hnodes
  | state ho =>
      rw [habout ho]
      refine handles_annotating rfl ?_ ho.not_unsupported
      rw [annotatedNodes_adding]
      exact congrArg (· ++ _) (hnodes.trans hnodes)

/-- What is not eligible is not reported either. -/
theorem unsupported?_of_left {site : Site} (h : site.eligible? = none) :
    site.unsupported? = none := by
  unfold Site.unsupported?
  rw [h]
  rfl

/-- A place at which a pattern is judged has to report it as the judgement does. -/
theorem handles_judged (site : Site) {pattern : Node} {evidence : Evidence}
    (habout : site.about? = some pattern)
    (heligible : site.eligible? = if evidence.annotated = false then some pattern else none)
    (h : Judged doc d pattern evidence d') :
    Handles doc d d' site.about? site.unsupported? := by
  have hunsupported : site.unsupported? =
      if evidence.annotated = false ∧ Unsupported pattern then some pattern else none := by
    unfold Site.unsupported?
    rw [heligible]
    by_cases ha : evidence.annotated = false
    · simp [ha, Option.filter]
    · simp [ha]
  rw [habout, hunsupported]
  exact h.handles

/-- **Every decision handles the node that its place is about, or none.** -/
theorem handles_step {site : Site} (hd : Decided doc d d' site) :
    Handles doc d d' site.about? site.unsupported? := by
  cases hd with
  | @parameter list p hp =>
      cases hp with
      | unnamed hno =>
          rw [unsupported?_of_left (by simp [Site.eligible?, hno])]
          exact handles_nothing _ rfl rfl
      | annotated _ ha =>
          rw [unsupported?_of_left (by simp [Site.eligible?, untyped_iff, ha])]
          exact handles_nothing _ rfl rfl
      | judged hpat hna hs hj =>
          have h := handles_judged (.parameter list p) hpat
            (by simp [Site.eligible?, untyped_iff, hna, hpat]) hj
          -- an interface that is added first is neither a report nor behind a node
          constructor
          case diagnostics => rw [← hs.diagnostics]; exact h.diagnostics
          case annotates => rw [← hs.annotatedNodes]; exact h.annotates
  | @declarator f hdec =>
      cases hdec with
      | looped hl =>
          rw [unsupported?_of_left (by simp [Site.eligible?, inHead_iff, hl])]
          exact handles_nothing _ rfl rfl
      | unnamed _ hno =>
          rw [unsupported?_of_left (by simp [Site.eligible?, hno])]
          exact handles_nothing _ rfl rfl
      | closed _ _ _ hv =>
          have hclosed : ¬ LeftOpen f.node := by simp [leftOpen_iff hv]
          rw [unsupported?_of_left (by simp [Site.eligible?, hclosed])]
          exact handles_nothing _ rfl rfl
      | judged hl hpat _ hv hj =>
          have hopen : LeftOpen f.node := by simp [leftOpen_iff hv]
          exact handles_judged (.declarator f) hpat
            (by simp [Site.eligible?, inHead_iff, hl, hopen, untyped_iff, hpat]) hj
  | catchClause hc =>
      cases hc with
      | unnamed hno =>
          rw [unsupported?_of_left (by simp [Site.eligible?, hno])]
          exact handles_nothing _ rfl rfl
      | judged hpat hj =>
          exact handles_judged (.catchClause _) hpat
            (by simp [Site.eligible?, untyped_iff, hpat]) hj
  | classDefinition hc =>
      rw [unsupported?_of_left rfl]
      exact hc.handles

end Draft

/-! ## Different places are about different nodes -/

/-- The node of which a place is about a child. -/
def Site.owner? : Site → Option Node
  | .parameter _ p => some p
  | .declarator f => some f.node
  | .catchClause n => some n
  | .classDefinition f => extendsPart? f.node

/-- What a place is about is a child of what owns it. -/
theorem Site.about_sublist (site : Site) :
    site.about?.toList.Sublist (site.owner?.toList.flatMap Node.children) := by
  have key : ∀ {n : Option Node} {nodes : List Node}, (∀ m, n = some m → m ∈ nodes) →
      n.toList.Sublist nodes := by
    intro n nodes h
    cases n with
    | none => exact List.nil_sublist _
    | some m => exact List.singleton_sublist.mpr (h m rfl)
  refine key fun m hm => ?_
  cases site with
  | parameter _ p => exact List.mem_flatMap.mpr ⟨p, by simp [owner?], Node.mem_of_field? hm⟩
  | declarator f => exact List.mem_flatMap.mpr ⟨f.node, by simp [owner?], Node.mem_of_field? hm⟩
  | catchClause n => exact List.mem_flatMap.mpr ⟨n, by simp [owner?], Node.mem_of_field? hm⟩
  | classDefinition f =>
      obtain ⟨part, hpart, hsuperclass⟩ := Option.bind_eq_some_iff.mp hm
      refine List.mem_flatMap.mpr ⟨part, by simp [owner?, hpart], ?_⟩
      unfold superclass? at hsuperclass
      cases hv : part.field? "value" with
      | some value =>
          rw [hv] at hsuperclass
          obtain rfl := Option.some.inj hsuperclass
          exact Node.mem_of_field? hv
      | none =>
          rw [hv] at hsuperclass
          exact (List.mem_filter.mp (List.mem_of_mem_head? hsuperclass)).1

/-- Where a node stands by its kind, seen from the node that opens the place that it owns. -/
def generation (n : Node) (f : Focus) : List Node :=
  if n.kind = "variable_declarator" ∨ n.kind = "catch_clause" then [f.node]
  else if n.kind = "extends_clause" then f.node.children.flatMap Node.children
  else f.node.children

/-- The owners of the places that a node opens are all of one generation. -/
theorem owners_sublist {f : Focus} {n : Node} (hn : n ∈ (Site.at f).filterMap Site.owner?) :
    ((Site.at f).filterMap Site.owner?).Sublist (generation n f) := by
  revert hn
  unfold Site.at
  split
  · rw [List.filterMap_map]
    have hsame : (Site.owner? ∘ Site.parameter f) = some := rfl
    rw [hsame, List.filterMap_some]
    intro hn
    -- a list of parameters: all owners are children of it
    have hk : n.kind = "required_parameter" := by simpa using (List.mem_filter.mp hn).2
    unfold generation
    rw [if_neg (by simp [hk]), if_neg (by simp [hk])]
    exact List.filter_sublist.trans List.filter_sublist
  · split
    · rename_i hk
      intro hn
      obtain rfl : n = f.node := List.mem_singleton.mp hn
      unfold generation
      rw [if_pos (.inl hk)]
      exact List.Sublist.refl _
    · split
      · rename_i hk
        intro hn
        obtain rfl : n = f.node := List.mem_singleton.mp hn
        unfold generation
        rw [if_pos (.inr hk)]
        exact List.Sublist.refl _
      · split
        · intro hn
          -- a class: the owner is a child of it or, in a clause of its own, a grandchild
          have hpart : extendsPart? f.node = some n := by
            obtain ⟨site, hsite, howner⟩ := List.mem_filterMap.mp hn
            obtain rfl := List.mem_singleton.mp hsite
            exact howner
          have hone : [Site.classDefinition f].filterMap Site.owner? = [n] := by
            simp [Site.owner?, hpart]
          rw [hone, List.singleton_sublist]
          obtain ⟨heritage, hh, hn⟩ := Option.map_eq_some_iff.mp hpart
          have hheritage := List.mem_of_find?_eq_some hh
          unfold generation
          cases hc : heritage.childOfKind? ["extends_clause"] with
          | none =>
              rw [hc] at hn
              obtain rfl : heritage = n := hn
              have hk : heritage.kind = "class_heritage" := by simpa using List.find?_some hh
              rw [if_neg (by simp [hk]), if_neg (by simp [hk])]
              exact hheritage
          | some clause =>
              rw [hc] at hn
              obtain rfl : clause = n := hn
              have hk : clause.kind = "extends_clause" := by simpa using List.find?_some hc
              rw [if_neg (by simp [hk]), if_pos hk]
              exact List.mem_flatMap.mpr ⟨heritage, hheritage, List.mem_of_find?_eq_some hc⟩
        · intro hn
          cases hn

/-- No generation of a tree holds a node more often than the tree does. -/
theorem generation_subperm (root n : Node) :
    ((Focus.ofRoot root).descendants.flatMap (generation n)).Subperm root.nodes := by
  have hchildren : ((Focus.ofRoot root).descendants.flatMap fun f => f.node.children).Subperm
      root.nodes := by
    have h := root.flatMap_children_subperm
    unfold Node.nodes at h
    rwa [List.flatMap_map] at h
  unfold generation
  split
  · rw [← List.map_eq_flatMap]
    exact List.Subperm.refl _
  · split
    · rw [← List.flatMap_assoc]
      exact (subperm_flatMap hchildren _).trans root.flatMap_children_subperm
    · exact hchildren

/-- **Different places have different owners.** -/
theorem owners_subperm (root : Node) :
    ((Site.all root).filterMap Site.owner?).Subperm root.nodes := by
  classical
  -- one node is counted at a time, since its kind tells the only generation that can hold it
  refine List.subperm_iff_count.mpr fun n => ?_
  refine Nat.le_trans ?_ ((generation_subperm root n).count_le n)
  unfold Site.all
  rw [List.filterMap_flatMap]
  refine count_flatMap_le fun f _ => ?_
  by_cases hn : n ∈ (Site.at f).filterMap Site.owner?
  · exact (owners_sublist hn).count_le n
  · rw [List.count_eq_zero_of_not_mem hn]
    exact Nat.zero_le _

/-- **So they are about different nodes.** -/
theorem about_subperm (root : Node) :
    ((Site.all root).flatMap fun site => site.about?.toList).Subperm root.nodes := by
  have hchildren : ((Site.all root).flatMap fun site => site.about?.toList).Sublist
      (((Site.all root).filterMap Site.owner?).flatMap Node.children) := by
    rw [List.filterMap_eq_flatMap_toList, List.flatMap_assoc]
    exact List.Sublist.flatMap_right _ fun site _ => site.about_sublist
  exact (hchildren.subperm.trans (subperm_flatMap (owners_subperm root) _)).trans
    root.flatMap_children_subperm

/-! ## What is logged of it -/

/-- An event tells that a pattern was left alone. -/
def TellsOfSkipping (e : Event) : Prop := "Skipping unsupported".toList <+: e.message.toList

instance (e : Event) : Decidable (TellsOfSkipping e) :=
  inferInstanceAs (Decidable ("Skipping unsupported".toList <+: e.message.toList))

theorem tellsOfSkipping_skippedPattern (d : Diagnostic) : TellsOfSkipping (.skippedPattern d) := by
  unfold TellsOfSkipping Event.message
  have hspace : "Skipping unsupported".toList <+: "Skipping unsupported ".toList := by decide
  refine hspace.trans ?_
  simp only [String.toList_append, List.append_assoc]
  exact List.prefix_append _ _

theorem not_tellsOfSkipping_recoveredTree (dialect : String) :
    ¬ TellsOfSkipping (.recoveredTree dialect) := by
  unfold TellsOfSkipping Event.message
  simp only [String.toList_append, List.append_assoc]
  intro h
  -- the two wordings differ in front of the name of the dialect
  rcases List.prefix_or_prefix_of_prefix h (List.prefix_append _ _) with h | h
  · exact absurd h (by decide)
  · exact absurd h (by decide)

theorem log_of_document {doc : Document} {a : Annotated} (h : doc.annotate.result = .ok a) :
    doc.annotate.log = a.diagnostics.map .skippedPattern := by
  revert h
  unfold Document.annotate
  rcases doc.draft with ⟨d, failure⟩
  intro h
  cases failure with
  | some f => cases h
  | none =>
      obtain ⟨source, _, h⟩ := bind_eq_ok.mp h
      obtain rfl := pure_eq_ok.mp h
      rfl

/-- **Each diagnostic is told of in the log, in their order.** -/
theorem log_filter_eq {parse : Parser} {source language : String} {allowErrors : Bool}
    {a : Annotated} (h : (annotate parse source language allowErrors).result = .ok a) :
    ((annotate parse source language allowErrors).log.filter fun e => TellsOfSkipping e) =
      a.diagnostics.map .skippedPattern := by
  have hall : ∀ diagnostics : List Diagnostic,
      ((diagnostics.map Event.skippedPattern).filter fun e => TellsOfSkipping e) =
        diagnostics.map .skippedPattern := by
    intro diagnostics
    refine List.filter_eq_self.mpr fun e he => ?_
    obtain ⟨d, _, rfl⟩ := List.mem_map.mp he
    exact decide_eq_true (tellsOfSkipping_skippedPattern d)
  obtain ⟨dialect, hdialect, herrors, hdoc⟩ := annotate_eq_ok.mp h
  unfold annotate readDocument
  rw [hdialect]
  cases hb : (parse dialect source).hasErrors with
  | false => simp [Logged.andThen, hb, log_of_document hdoc, hall]
  | true =>
      simp [Logged.andThen, hb, herrors hb, log_of_document hdoc, hall,
        not_tellsOfSkipping_recoveredTree]

/-! ## The bindings of an annotated source -/

/-- The bindings of an annotated document are handled once at most. -/
structure HandledOnce (doc : Document) (a : Annotated) : Prop where
  /-- What is annotated and what takes no type are nodes of the tree, none of them taken twice. -/
  once : (a.annotatedNodes ++ unsupported doc.root).Subperm doc.root.nodes
  /-- So if nodes can be told apart, none is annotated twice, or annotated and reported. -/
  nodup : (doc.root.nodes.map Node.id).Nodup →
    ((a.annotatedNodes ++ unsupported doc.root).map Node.id).Nodup
  /-- What takes no type gets none. -/
  apart : ∀ n ∈ a.annotatedNodes, ¬ Unsupported n
  /-- It is reported instead, in the order of the source, and nothing else is. -/
  reported : List.Forall₂ (Reports doc) (unsupported doc.root) a.diagnostics

theorem unsupported_eq (root : Node) :
    unsupported root = (Site.all root).flatMap fun site => site.unsupported?.toList := by
  unfold unsupported
  rw [eligible_eq, List.filterMap_eq_flatMap_toList, List.filter_flatMap]
  refine List.flatMap_congr fun site _ => ?_
  unfold Site.unsupported?
  cases site.eligible? with
  | none => rfl
  | some n =>
      by_cases hn : Unsupported n
      · simp [hn, Option.filter]
      · simp [hn, Option.filter]

theorem handledOnce_of_document {doc : Document} {a : Annotated}
    (h : doc.annotate.result = .ok a) : HandledOnce doc a := by
  obtain ⟨names, d, _, hrun, _, hi, hdiagnostics⟩ := annotate_document_eq_ok.mp h
  have hreport : ∀ site ∈ Site.all doc.root, ∀ d d' : Draft, True → Draft.Decided doc d d' site →
      True ∧ ∃ new, d'.diagnostics = d.diagnostics ++ new ∧
        List.Forall₂ (Reports doc) site.unsupported?.toList new :=
    fun _ _ _ _ _ hd => ⟨trivial, (Draft.handles_step hd).diagnostics⟩
  have hannotate : ∀ site ∈ Site.all doc.root, ∀ d d' : Draft, True → Draft.Decided doc d d' site →
      True ∧ ∃ new, d'.annotatedNodes = d.annotatedNodes ++ new ∧
        (new ++ site.unsupported?.toList).Subperm site.about?.toList ∧ ∀ n ∈ new, ¬ Unsupported n :=
    fun _ _ _ _ _ hd => ⟨trivial, (Draft.handles_step hd).annotates⟩
  obtain ⟨reports, hreports, hout⟩ := Draft.decideAll_appends hreport trivial hrun
  obtain ⟨news, hnews, hnodes⟩ := Draft.decideAll_appends hannotate trivial hrun
  have hannotated : a.annotatedNodes = news.flatten := by
    unfold Annotated.annotatedNodes
    rw [hi]
    exact hnodes
  have honce : (a.annotatedNodes ++ unsupported doc.root).Subperm doc.root.nodes := by
    rw [hannotated, unsupported_eq]
    exact (subperm_flatten (hnews.imp fun _ _ h => h.1)).trans (about_subperm doc.root)
  constructor
  case once => exact honce
  case nodup =>
    intro hid
    -- to be among the nodes, none of them twice, is to be a part of them in another order
    obtain ⟨l, hperm, hsub⟩ := honce
    exact (hperm.map _).nodup_iff.mp (hid.sublist (hsub.map _))
  case apart =>
    intro n hn
    rw [hannotated] at hn
    obtain ⟨new, hnew, hn⟩ := List.mem_flatten.mp hn
    obtain ⟨site, _, h⟩ := exists_of_mem_forall₂ hnews hnew
    exact h.2 n hn
  case reported =>
    rw [hdiagnostics, hout, unsupported_eq, List.flatMap_def]
    exact List.rel_flatten (List.forall₂_map_left_iff.mpr hreports)

/--
**Every binding is handled once at most.** No node of a source gets two annotations, and none
is both annotated and reported. There is one diagnostic for each eligible pattern that takes no
type, in the order of the source, and one warning in the log for each diagnostic.
-/
theorem bindings_handled_once {parse : Parser} {source language : String} {allowErrors : Bool}
    {a : Annotated} (h : (annotate parse source language allowErrors).result = .ok a) :
    (∃ dialect, Dialect.ofName language = .ok dialect ∧
      HandledOnce ⟨source, (parse dialect source).root⟩ a) ∧
    ((annotate parse source language allowErrors).log.filter fun e => TellsOfSkipping e).map
        (fun e => (e.level, e.message)) =
      a.diagnostics.map fun d => (.warning,
        "Skipping unsupported " ++ d.patternKind ++ " at " ++ toString (d.position.row + 1) ++
          ":" ++ toString (d.position.column + 1) ++ ": " ++ d.text) := by
  constructor
  · obtain ⟨dialect, hdialect, _, hdoc⟩ := annotate_eq_ok.mp h
    exact ⟨dialect, hdialect, handledOnce_of_document hdoc⟩
  · rw [log_filter_eq h, List.map_map]
    rfl

/-! ## A function with a pattern that takes no type -/

namespace Destructuring

/-- A function of an array and of a number. -/
def source : String := "([a], b = 1) => b"

/-- The pattern of the array. -/
def array : Node :=
  labelledNode source 5 "array_pattern" 1 4 (some "pattern")
    [labelledNode source 6 "identifier" 2 3 none]

/-- The name of the number. -/
def number : Node := labelledNode source 8 "identifier" 6 7 (some "pattern")

/-- The tree of the source. -/
def root : Node :=
  labelledNode source 0 "program" 0 17 none
    [labelledNode source 1 "expression_statement" 0 17 none
      [labelledNode source 2 "arrow_function" 0 17 none
        [labelledNode source 3 "formal_parameters" 0 12 (some "parameters")
          [labelledNode source 4 "required_parameter" 1 4 none [array],
           labelledNode source 7 "required_parameter" 6 11 none
            [number, labelledNode source 9 "number" 10 11 (some "value")]],
         labelledNode source 10 "identifier" 16 17 (some "body")]]]

/-- The parser that knows the tree of the source. -/
def parse : Parser := fun _ _ => ⟨root, false⟩

def document : Document := ⟨source, root⟩

/-- What is inserted into the source. -/
def edits : List Edit := [⟨7, ": number"⟩]

/-- The source with its annotation. -/
def annotated : Annotated where
  source := "([a], b: number = 1) => b"
  insertions := document.draft.1.insertions
  diagnostics := document.draft.1.diagnostics

theorem editsTo : document.EditsTo edits annotated.source := by
  constructor <;> decide +kernel

theorem annotate_document : document.annotate.result = .ok annotated :=
  Document.annotate_of_editsTo editsTo

theorem annotate_eq : (annotate parse source "tsx" false).result = .ok annotated :=
  annotate_of_document document rfl rfl annotate_document

end Destructuring

theorem bindings_handled_once_destructuring :
    (annotate Destructuring.parse Destructuring.source "tsx" false).result =
        .ok Destructuring.annotated ∧
      HandledOnce Destructuring.document Destructuring.annotated ∧
      (Destructuring.annotated.annotatedNodes ++ unsupported Destructuring.root).map Node.id =
        [8, 5] ∧
      Destructuring.annotated.diagnostics = [⟨"array_pattern", "[a]", 1, 4, ⟨0, 1⟩⟩] ∧
      ((annotate Destructuring.parse Destructuring.source "tsx" false).log.filter
        fun e => TellsOfSkipping e).map (fun e => (e.level, e.message)) =
          [(.warning, "Skipping unsupported array_pattern at 1:2: [a]")] := by
  obtain ⟨⟨_, _, hhandled⟩, hlog⟩ := bindings_handled_once Destructuring.annotate_eq
  refine ⟨Destructuring.annotate_eq, hhandled, by decide +kernel, by decide +kernel, ?_⟩
  rw [hlog]
  decide +kernel

end ScriptTypes.Annotation
