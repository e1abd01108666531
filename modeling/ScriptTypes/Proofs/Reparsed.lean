import Mathlib
import ScriptTypes.Proofs.Insertions
import ScriptTypes.Proofs.Overlay

/-!
# The tree of an annotated source

The parser is somebody else's. What it makes of a source that was annotated is assumed
here, and it is not much: the tree is the one from before, with its offsets moved and
with the annotations where they were asked for. `Reparsed` says so by an overlay of the
two trees. Names, strings and numerals keep their text; of other nodes, which may have
annotations inside, only that they can still be read.

An annotation that is asked for is `Due` at a place. It is due where the run recorded an
insertion: a type annotation at the parameter, declarator or catch clause that was
decided about, type arguments at the part of the class that says what it extends, and
interfaces at the root.
-/

namespace ScriptTypes.Annotation

open Syntax

/-! ## Offsets -/

/-- How many bytes are inserted in front of an offset. -/
def insertedBefore (edits : List Edit) (offset : Nat) : Nat :=
  ((edits.filter fun e => e.offset < offset).map fun e => (Utf8.encode e.text).length).sum

/-- How many bytes are inserted in front of an offset or at it. -/
def insertedUpTo (edits : List Edit) (offset : Nat) : Nat :=
  ((edits.filter fun e => e.offset ≤ offset).map fun e => (Utf8.encode e.text).length).sum

/-- An offset is moved by what is inserted in front of it, and perhaps by what is at it. -/
@[mk_iff]
structure Shifted (edits : List Edit) (old new : Nat) : Prop where
  low : old + insertedBefore edits old ≤ new
  high : new ≤ old + insertedUpTo edits old

instance (edits : List Edit) (old new : Nat) : Decidable (Shifted edits old new) :=
  decidable_of_iff _ (shifted_iff edits old new).symm

theorem insertedUpTo_le_insertedBefore {edits : List Edit} {m n : Nat} (h : m < n) :
    insertedUpTo edits m ≤ insertedBefore edits n := by
  induction edits with
  | nil => exact Nat.le_refl _
  | cons e edits ih =>
      unfold insertedUpTo insertedBefore at ih ⊢
      rw [List.filter_cons, List.filter_cons]
      by_cases hm : e.offset ≤ m
      · have hn : e.offset < n := by omega
        simp only [hm, hn, decide_true, if_true, List.map_cons, List.sum_cons]
        omega
      · by_cases hn : e.offset < n
        · simp only [hm, hn, decide_true, decide_false, if_true, List.map_cons, List.sum_cons]
          simp only [Bool.false_eq_true, if_false]
          omega
        · simp only [hm, hn, decide_false, Bool.false_eq_true, if_false]
          exact ih

/-- What was further on still is. -/
theorem Shifted.lt {edits : List Edit} {m m' n n' : Nat} (hm : Shifted edits m m')
    (hn : Shifted edits n n') (h : m < n) : m' < n' := by
  have : insertedUpTo edits m ≤ insertedBefore edits n := insertedUpTo_le_insertedBefore h
  have := hm.high
  have := hn.low
  omega

theorem Shifted.inj {edits : List Edit} {m m' n n' : Nat} (hm : Shifted edits m m')
    (hn : Shifted edits n n') (h : m' = n') : m = n := by
  rcases Nat.lt_trichotomy m n with hlt | heq | hgt
  · have := hm.lt hn hlt; omega
  · exact heq
  · have := hn.lt hm hgt; omega

/-! ## Nodes that stay the same -/

/-- The kinds of names, strings and numerals. -/
def textualKinds : List String :=
  ["identifier", "property_identifier", "private_property_identifier",
   "shorthand_property_identifier", "shorthand_property_identifier_pattern", "string", "number"]

/-- A node that is a name, a string or a numeral, or that names the property of something. -/
def Textual (d : NodeData) : Prop := d.kind ∈ textualKinds ∨ d.field = some "property"

/-- A node is the same as before the edits, but for its place and for what is inside it. -/
@[mk_iff]
structure Same (edits : List Edit) (old new : NodeData) : Prop where
  kind : new.kind = old.kind
  named : new.named = old.named
  field : new.field = old.field
  start : Shifted edits old.start new.start
  stop : Shifted edits old.stop new.stop
  ordered : old.start ≤ old.stop → new.start ≤ new.stop
  text : Textual old → new.bytes = old.bytes
  readable : (∃ s, textOf old.bytes = .ok s) → ∃ s, textOf new.bytes = .ok s

instance (d : NodeData) : Decidable (Textual d) := inferInstanceAs (Decidable (_ ∨ _))

instance (edits : List Edit) (old new : NodeData) : Decidable (Same edits old new) :=
  decidable_of_iff _ (same_iff edits old new).symm

/-- The kinds of nodes that are places or that may use a binding. -/
def dispatchedKinds : List String :=
  ["formal_parameters", "variable_declarator", "catch_clause", "member_expression",
   "assignment_expression"] ++ classKinds ++ Usage.classFieldKinds

/-- A node that is an annotation: nothing in it is a place or may use a binding. -/
@[mk_iff]
structure Inert (n : Node) : Prop where
  /-- It is the type of something, or the type arguments, or it fills no field. -/
  field : n.data.field = none ∨ n.data.field = some "type" ∨ n.data.field = some "type_arguments"
  /-- Nothing is looked for in it. -/
  kinds : ∀ m, n.Within m → m.kind ∉ dispatchedKinds
  /-- It can be read. -/
  readable : n.Readable

instance (n : Node) : Decidable (Inert n) :=
  have : Decidable (∀ m, n.Within m → m.kind ∉ dispatchedKinds) :=
    decidable_of_iff _ Node.forall_within_iff.symm
  decidable_of_iff _ (inert_iff n).symm

/-! ## What is due -/

/-- The run about a document inserts something when it decides about a place. -/
def Records (doc : Document) (site : Site) (i : Insertion) : Prop :=
  ∃ names done rest d d' new, declaredTypes doc.root = .ok names ∧
    Site.all doc.root = done ++ site :: rest ∧
    Draft.decideAll doc (Draft.start names) done = (d, none) ∧ d.decide doc site = .ok d' ∧
    d'.insertions = d.insertions ++ new ∧ i ∈ new

/-- The part of a class that says what it extends: the clause in its heritage, or the heritage. -/
inductive ExtendsAt (declaration : Focus) : Focus → Prop where
  | clause {heritage clause : Node} :
      declaration.node.childOfKind? ["class_heritage"] = some heritage →
      heritage.childOfKind? ["extends_clause"] = some clause →
      ExtendsAt declaration ((declaration.child heritage).child clause)
  | heritage {heritage : Node} :
      declaration.node.childOfKind? ["class_heritage"] = some heritage →
      heritage.childOfKind? ["extends_clause"] = none →
      ExtendsAt declaration (declaration.child heritage)

/-- A place gets a child of that kind, because of what the run about the document inserts. -/
inductive Due (doc : Document) : Focus → String → Prop where
  | parameter {list : Focus} {parameter pattern : Node} {type : BindingType} :
      Records doc (.parameter list parameter) (.bindingType pattern type) →
      Due doc (list.child parameter) "type_annotation"
  | declarator {declarator : Focus} {pattern : Node} {type : BindingType} :
      Records doc (.declarator declarator) (.bindingType pattern type) →
      Due doc declarator "type_annotation"
  | catchClause {clause : Focus} {pattern : Node} {type : BindingType} :
      Records doc (.catchClause clause.node) (.bindingType pattern type) →
      Due doc clause "type_annotation"
  | typeArguments {declaration part : Focus} {superclass : Node} {arguments : TypeArguments} :
      Records doc (.classDefinition declaration) (.typeArguments superclass arguments) →
      ExtendsAt declaration part → Due doc part "type_arguments"
  | interface {site : Site} {name : String} {members : List (String × Shape InferredType)} :
      Records doc site (.interface name members) →
      Due doc (Focus.ofRoot doc.root) "interface_declaration"

/-- The tree of a document as it is after the edits, on top of the one from before. -/
structure Reparsed (doc : Document) (edits : List Edit) (root : Kept) : Prop where
  /-- It is the tree of the document that was there before. -/
  before : root.before = doc.root
  /-- Its nodes are the same. -/
  same : ∀ p, (Place.ofRoot root).Below p → Same edits p.node.old p.node.new
  /-- What was added is an annotation, where one is due. -/
  added : ∀ p n, (Place.ofRoot root).Below p → p.node.Gains n → Inert n ∧ Due doc p.before n.kind
  /-- Every annotation that is due was added. -/
  present : ∀ p kind, (Place.ofRoot root).Below p → Due doc p.before kind →
    ∃ n, p.node.Gains n ∧ n.kind = kind

/-- A tree as parsers make them, as far as it matters here. -/
@[mk_iff]
structure WellFormed (root : Node) : Prop where
  /-- Ranges do not end before they start. -/
  ordered : ∀ n, root.Within n → n.start ≤ n.stop
  /-- No two children of a node have the same kind and the same range. -/
  unlike : ∀ n, root.Within n → n.children.Pairwise fun a b => a.alike b = false

instance (root : Node) : Decidable (WellFormed root) :=
  have : Decidable (∀ n, root.Within n → n.start ≤ n.stop) :=
    decidable_of_iff _ Node.forall_within_iff.symm
  have : Decidable (∀ n, root.Within n → n.children.Pairwise fun a b => a.alike b = false) :=
    decidable_of_iff _ Node.forall_within_iff.symm
  decidable_of_iff _ (wellFormed_iff root).symm

/-! ## What a run records -/

variable {doc : Document}

theorem Records.mem {site : Site} {i : Insertion} (h : Records doc site i) :
    site ∈ Site.all doc.root := by
  obtain ⟨_, done, rest, _, _, _, _, hall, _⟩ := h
  rw [hall]
  simp

/-- The field that holds what a node binds, by the kind of the node. -/
def boundField? : String → Option String
  | "required_parameter" => some "pattern"
  | "variable_declarator" => some "name"
  | "catch_clause" => some "parameter"
  | _ => none

/-- A node binds what can have a type annotation. -/
def BindsAnnotatable (n : Node) : Prop :=
  ∃ field pattern, boundField? n.kind = some field ∧ n.field? field = some pattern ∧
    pattern.kind ∈ annotatableKinds

theorem BindsAnnotatable.kind_mem {n : Node} (h : BindsAnnotatable n) :
    n.kind ∈ ["required_parameter", "variable_declarator", "catch_clause"] := by
  obtain ⟨field, _, hf, _⟩ := h
  unfold boundField? at hf
  split at hf
  · rename_i hk; simp [hk]
  · rename_i hk; simp [hk]
  · rename_i hk; simp [hk]
  · cases hf

/-- Nothing is recorded by a step that inserts nothing. -/
theorem not_mem_of_unchanged {d d' : Draft} {new : List Insertion} {i : Insertion}
    (h : d'.insertions = d.insertions) (hnew : d'.insertions = d.insertions ++ new) : i ∉ new := by
  rw [h, List.self_eq_append_right] at hnew
  rw [hnew]
  exact List.not_mem_nil

/-- A type is recorded for a binding if the pattern that it binds can have one. -/
theorem annotatable_of_judged {d d' : Draft} {pattern pattern' : Node} {evidence : Evidence}
    {type : BindingType} {new : List Insertion} (hj : Draft.Judged doc d pattern evidence d')
    (hnew : d'.insertions = d.insertions ++ new) (hmem : .bindingType pattern' type ∈ new) :
    pattern.kind ∈ annotatableKinds := by
  rcases hj.news with h | ⟨hk, _⟩
  · exact absurd hmem (not_mem_of_unchanged h hnew)
  · exact hk

theorem Records.parameter {list : Focus} {parameter pattern : Node} {type : BindingType}
    (h : Records doc (.parameter list parameter) (.bindingType pattern type)) :
    BindsAnnotatable parameter := by
  obtain ⟨f, _, hopen⟩ := Site.exists_opened h.mem
  obtain ⟨_, _, _, d, d', new, _, _, _, hd, hnew, hmem⟩ := h
  cases hopen with
  | parameter _ _ hk =>
      have hfield : boundField? parameter.kind = some "pattern" := by rw [hk]; rfl
      cases Draft.decided_of_ok hd with
      | parameter hp =>
          cases hp with
          | unnamed | annotated => exact absurd hmem (not_mem_of_unchanged rfl hnew)
          | judged hpat _ hs hj =>
              refine ⟨_, _, hfield, hpat, ?_⟩
              obtain ⟨interfaces, hi, honly⟩ := hs.news
              rcases hj.news with hnone | ⟨hk, _⟩
              · -- all that was inserted then is the interface
                rw [hnone, hi, List.append_cancel_left_eq] at hnew
                obtain ⟨_, _, h⟩ := honly _ (hnew ▸ hmem)
                cases h
              · exact hk

theorem Records.declarator {declarator : Focus} {pattern : Node} {type : BindingType}
    (h : Records doc (.declarator declarator) (.bindingType pattern type)) :
    BindsAnnotatable declarator.node := by
  obtain ⟨f, _, hopen⟩ := Site.exists_opened h.mem
  obtain ⟨_, _, _, d, d', new, _, _, _, hd, hnew, hmem⟩ := h
  cases hopen with
  | declarator hk =>
      have hfield : boundField? declarator.node.kind = some "name" := by rw [hk]; rfl
      cases Draft.decided_of_ok hd with
      | declarator hdec =>
          cases hdec with
          | looped | unnamed | closed => exact absurd hmem (not_mem_of_unchanged rfl hnew)
          | judged _ hpat _ _ hj => exact ⟨_, _, hfield, hpat, annotatable_of_judged hj hnew hmem⟩

theorem Records.catchClause {clause pattern : Node} {type : BindingType}
    (h : Records doc (.catchClause clause) (.bindingType pattern type)) :
    BindsAnnotatable clause := by
  obtain ⟨f, _, hopen⟩ := Site.exists_opened h.mem
  obtain ⟨_, _, _, d, d', new, _, _, _, hd, hnew, hmem⟩ := h
  cases hopen with
  | catchClause hk =>
      have hfield : boundField? f.node.kind = some "parameter" := by rw [hk]; rfl
      cases Draft.decided_of_ok hd with
      | catchClause hc =>
          cases hc with
          | unnamed => exact absurd hmem (not_mem_of_unchanged rfl hnew)
          | judged hpat hj => exact ⟨_, _, hfield, hpat, annotatable_of_judged hj hnew hmem⟩

/-! ## Where annotations are due -/

/-- The kinds of annotations. -/
def annotationKinds : List String := ["type_annotation", "type_arguments", "interface_declaration"]

/-- The kinds of nodes that have annotations. -/
def ownerKinds : List String :=
  ["required_parameter", "variable_declarator", "catch_clause"] ++
    ["class_heritage", "extends_clause"]

/-- A type annotation is due where a pattern that can have one is bound. -/
theorem Due.annotatable {f : Focus} (h : Due doc f "type_annotation") :
    BindsAnnotatable f.node := by
  generalize hkind : "type_annotation" = kind at h
  cases h with
  | parameter hr => exact hr.parameter
  | declarator hr => exact hr.declarator
  | catchClause hr => exact hr.catchClause
  | typeArguments | interface => simp at hkind

theorem ExtendsAt.kind {declaration part : Focus} (h : ExtendsAt declaration part) :
    part.node.kind = "class_heritage" ∨ part.node.kind = "extends_clause" := by
  have hfound : ∀ {n c : Node} {kind : String}, n.childOfKind? [kind] = some c → c.kind = kind := by
    intro n c kind hc
    simpa using List.find?_some hc
  cases h with
  | clause _ hc => exact .inr (hfound hc)
  | heritage hh _ => exact .inl (hfound hh)

/--
Interfaces are due at the root, type annotations where something is bound, and type
arguments where a class says what it extends.
-/
theorem Due.sorts {f : Focus} {kind : String} (h : Due doc f kind) :
    kind = "interface_declaration" ∧ f.above = [] ∨
      kind = "type_annotation" ∧
        f.node.kind ∈ ["required_parameter", "variable_declarator", "catch_clause"] ∨
      kind = "type_arguments" ∧ f.node.kind ∈ ["class_heritage", "extends_clause"] := by
  cases h with
  | parameter hr => exact .inr (.inl ⟨rfl, hr.parameter.kind_mem⟩)
  | declarator hr => exact .inr (.inl ⟨rfl, hr.declarator.kind_mem⟩)
  | catchClause hr => exact .inr (.inl ⟨rfl, hr.catchClause.kind_mem⟩)
  | typeArguments _ hpart => exact .inr (.inr ⟨rfl, by simpa using hpart.kind⟩)
  | interface => exact .inl ⟨rfl, rfl⟩

theorem Due.kind_mem {f : Focus} {kind : String} (h : Due doc f kind) :
    kind ∈ annotationKinds := by
  rcases h.sorts with ⟨rfl, _⟩ | ⟨rfl, _⟩ | ⟨rfl, _⟩ <;> simp [annotationKinds]

/-- Annotations are due at the root and at nodes of a few kinds. -/
theorem Due.owner {f : Focus} {kind : String} (h : Due doc f kind) :
    f.above = [] ∨ f.node.kind ∈ ownerKinds := by
  rcases h.sorts with ⟨_, habove⟩ | ⟨_, hk⟩ | ⟨_, hk⟩
  · exact .inl habove
  · exact .inr (List.mem_append_left _ hk)
  · exact .inr (List.mem_append_right _ hk)

/-! ## Looking around in the tree after the edits -/

namespace Reparsed

variable {edits : List Edit} {root : Kept} {p : Place}

theorem kind_eq (H : Reparsed doc edits root) (hp : (Place.ofRoot root).Below p) :
    p.node.new.kind = p.node.old.kind := (H.same p hp).kind

theorem isContent_eq (H : Reparsed doc edits root) (hp : (Place.ofRoot root).Below p) :
    p.node.after.isContent = p.node.before.isContent := by
  unfold Node.isContent
  show (p.node.new.named && p.node.new.kind != _) = (p.node.old.named && p.node.old.kind != _)
  rw [(H.same p hp).named, (H.same p hp).kind]

/-- The text of a name, a string or a numeral is kept. -/
theorem text_eq (H : Reparsed doc edits root) (hp : (Place.ofRoot root).Below p)
    (ht : Textual p.node.old) : p.node.after.text = p.node.before.text :=
  congrArg textOf ((H.same p hp).text ht)

theorem text_eq_of_kind (H : Reparsed doc edits root) (hp : (Place.ofRoot root).Below p)
    {kind : String} (hk : p.node.before.kind = kind) (hmem : kind ∈ textualKinds) :
    p.node.after.text = p.node.before.text := by
  rw [← hk] at hmem
  exact H.text_eq hp (.inl hmem)

theorem below_child {c : Kept} (hp : (Place.ofRoot root).Below p) (hc : c ∈ p.node.keptChildren) :
    (Place.ofRoot root).Below (p.child c) := .child hp hc

theorem same_child (H : Reparsed doc edits root) (hp : (Place.ofRoot root).Below p) {c : Kept}
    (hc : c ∈ p.node.keptChildren) : Same edits c.old c.new := H.same _ (below_child hp hc)

/-- The same child fills a field, unless it is one that annotations fill. -/
theorem field?_after (H : Reparsed doc edits root) (hp : (Place.ofRoot root).Below p)
    {field : String} (hf : field ≠ "type" ∧ field ≠ "type_arguments") :
    p.node.after.field? field = (p.node.field? field).map Kept.after := by
  refine Kept.find?_after (q := fun d => d.field == some field) (fun n hn => ?_) fun c hc => ?_
  · rw [beq_eq_false_iff_ne]
    rcases (H.added p n hp hn).1.field with h | h | h <;> rw [h]
    · simp
    · simpa using hf.1.symm
    · simpa using hf.2.symm
  · rw [(H.same_child hp hc).field]

/-- The name of the property of something is kept. -/
theorem property_text_eq (H : Reparsed doc edits root) (hp : (Place.ofRoot root).Below p)
    {property : Kept} (h : p.node.field? "property" = some property) :
    property.after.text = property.before.text := by
  have hfield : property.old.field = some "property" := by simpa using Kept.of_find? h
  exact H.text_eq (below_child hp (Kept.mem_of_find? h)) (.inr hfield)

theorem kind_ne_of_gains (H : Reparsed doc edits root) (hp : (Place.ofRoot root).Below p) {n : Node}
    (hn : p.node.Gains n) {kind : String} (hk : kind ∉ annotationKinds) : n.kind ≠ kind := by
  intro h
  have hmem := (H.added p n hp hn).2.kind_mem
  rw [h] at hmem
  exact hk hmem

/-- The same child is found by its kind, unless it is that of an annotation. -/
theorem childOfKind?_after (H : Reparsed doc edits root) (hp : (Place.ofRoot root).Below p)
    {kind : String} (hk : kind ∉ annotationKinds) :
    p.node.after.childOfKind? [kind] = (p.node.childOfKind? [kind]).map Kept.after := by
  refine Kept.find?_after (q := fun d => decide (d.kind ∈ [kind])) (fun n hn => ?_) fun c hc => ?_
  · rw [decide_eq_false_iff_not, List.mem_singleton]
    exact H.kind_ne_of_gains hp hn hk
  · rw [(H.same_child hp hc).kind]

/-- Nothing was added below a node of another kind, unless it is the root. -/
theorem not_gains (H : Reparsed doc edits root) (hp : (Place.ofRoot root).Below p)
    (habove : p.above ≠ []) (hk : p.node.old.kind ∉ ownerKinds) (n : Node) :
    ¬ p.node.Gains n := by
  intro hn
  rcases (H.added p n hp hn).2.owner with h | h
  · exact habove (List.map_eq_nil_iff.mp h)
  · exact hk h

theorem children_after (H : Reparsed doc edits root) (hp : (Place.ofRoot root).Below p)
    (habove : p.above ≠ []) (hk : p.node.old.kind ∉ ownerKinds) :
    p.node.after.children = p.node.keptChildren.map Kept.after :=
  afters_eq fun n => H.not_gains hp habove hk n

/-- A child of a kind is one that there was, or it was added. -/
theorem hasChild_after (H : Reparsed doc edits root) (hp : (Place.ofRoot root).Below p)
    {kind : String} : p.node.after.hasChild kind = true ↔
      p.node.before.hasChild kind = true ∨ ∃ n, p.node.Gains n ∧ n.kind = kind := by
  unfold Node.hasChild
  rw [List.any_eq_true, List.any_eq_true, Kept.children_after, Kept.children_before, befores_eq]
  constructor
  · rintro ⟨c, hc, hkc⟩
    rw [beq_iff_eq] at hkc
    rcases mem_afters.mp hc with ⟨k, hk, rfl⟩ | hadded
    · refine .inl ⟨k.before, List.mem_map_of_mem hk, ?_⟩
      rw [beq_iff_eq, ← hkc]
      exact (H.kind_eq (below_child hp hk)).symm
    · exact .inr ⟨c, hadded, hkc⟩
  · rintro (⟨c, hc, hkc⟩ | ⟨n, hn, hkn⟩)
    · obtain ⟨k, hk, rfl⟩ := List.mem_map.mp hc
      refine ⟨k.after, mem_afters.mpr (.inl ⟨k, hk, rfl⟩), ?_⟩
      rw [beq_iff_eq] at hkc ⊢
      rw [← hkc]
      exact H.kind_eq (below_child hp hk)
    · exact ⟨n, mem_afters.mpr (.inr hn), by rw [hkn, beq_self_eq_true]⟩

theorem findAncestor?_after (H : Reparsed doc edits root) (hp : (Place.ofRoot root).Below p)
    {kinds : List String} :
    p.after.findAncestor? kinds = (p.findAncestor? kinds).map Place.after :=
  Place.findAncestor?_after fun a ha => H.kind_eq (hp.chain a ha)

/-- The same child of a node is meant by its kind and range. -/
theorem isField_after (H : Reparsed doc edits root) (hw : WellFormed doc.root)
    (hp : (Place.ofRoot root).Below p) {field : String}
    (hf : field ≠ "type" ∧ field ≠ "type_arguments") {c : Kept} (hc : c ∈ p.node.keptChildren) :
    p.node.after.isField field c.after = p.node.before.isField field c.before := by
  unfold Node.isField
  rw [H.field?_after hp hf, Kept.field?_before]
  cases hb : p.node.field? field with
  | none => rfl
  | some b =>
      have hbmem := Kept.mem_of_find? hb
      have hsb := H.same_child hp hbmem
      have hsc := H.same_child hp hc
      show b.after.alike c.after = b.before.alike c.before
      by_cases hbc : b = c
      · subst hbc
        simp [Node.alike]
      · -- two children that are not the same one differ in kind or range, before and after
        have hwithin : doc.root.Within p.node.before := by
          rw [← H.before]
          exact (Place.Below.before hp).within
        have hpairwise := hw.unlike _ hwithin
        rw [Kept.children_before, befores_eq, List.pairwise_map] at hpairwise
        -- being unlike is symmetric, so the order of the two does not matter
        have hsymm : Std.Symm fun x y : Kept => x.before.alike y.before = false := by
          constructor
          intro x y h
          rw [← h]
          simp only [Node.alike, Bool.beq_comm]
        have hunlike : b.before.alike c.before = false := hpairwise.forall hbmem hc hbc
        rw [hunlike, ← Bool.not_eq_true]
        -- had they become alike, undoing the shift would make them alike before
        intro halike
        simp only [Node.alike, Bool.and_eq_true, beq_iff_eq] at halike
        obtain ⟨⟨hkind, hstart⟩, hstop⟩ := halike
        have hkind' : b.old.kind = c.old.kind := hsb.kind.symm.trans (hkind.trans hsc.kind)
        have hstart' : b.old.start = c.old.start := hsb.start.inj hsc.start hstart
        have hstop' : b.old.stop = c.old.stop := hsb.stop.inj hsc.stop hstop
        have : b.before.alike c.before = true := by
          simp only [Node.alike, Bool.and_eq_true, beq_iff_eq]
          exact ⟨⟨hkind', hstart'⟩, hstop'⟩
        rw [this] at hunlike
        cases hunlike

end Reparsed

end ScriptTypes.Annotation
