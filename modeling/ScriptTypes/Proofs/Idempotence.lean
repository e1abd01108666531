import ScriptTypes.Proofs.Again

/-!
# Annotating twice

An annotated source that is annotated again stays as it is, given that its tree is the one
from before with the annotations in it. Every place is decided about again without an
insertion, so the second run ends with an echo of the draft of the first, whatever it ran
into on the way; the names that it starts with do not matter.
-/

namespace ScriptTypes.Annotation

open Syntax

/-! ## Runs place by place -/

namespace Draft

variable {doc : Document} {d d' d'' : Draft} {site : Site} {sites : List Site}

/-- A run about some places and one more is the run about those and then about the one. -/
theorem decideAll_concat (hrun : decideAll doc d sites = (d', none))
    (hd : d'.decide doc site = .ok d'') : decideAll doc d (sites ++ [site]) = (d'', none) := by
  induction sites generalizing d with
  | nil =>
      obtain ⟨rfl, -⟩ := Prod.mk.inj hrun
      rw [List.nil_append, decideAll, hd]
      rfl
  | cons s sites ih =>
      rw [decideAll] at hrun
      rw [List.cons_append, decideAll]
      cases hs : d.decide doc s with
      | error f =>
          rw [hs] at hrun
          cases hrun
      | ok d₁ =>
          rw [hs] at hrun
          exact ih hrun

theorem echo_start (d : Draft) (h : d.diagnostics = []) (names : List String) :
    Echo d (start names) where
  insertions := rfl
  propsInterfaces := rfl
  diagnostics := by rw [h]; rfl

end Draft

/-! ## Every place again -/

namespace Reparsed

open Draft

variable {doc doc' : Document} {edits : List Edit} {root : Kept} {d d' e : Draft}

/-- **Deciding about a place again inserts nothing.** -/
theorem spot_after (H : Reparsed doc edits root) (hw : WellFormed doc.root) {spot : Spot}
    (hspot : spot ∈ Spot.all root) (hd : d.decide doc spot.before = .ok d')
    (hrecords : ∀ new i, d'.insertions = d.insertions ++ new → i ∈ new →
      Records doc spot.before i) (he : Echo d e) :
    ∃ e', e.decide doc' spot.after = .ok e' ∧ Echo d' e' := by
  have hdecided := decided_of_ok hd
  cases Spot.found_of_mem hspot with
  | parameter hlist hc hk =>
      cases hdecided with
      | parameter hp => exact H.parameter_after hw hlist hc hk hp hrecords he
  | declarator hp hk =>
      cases hdecided with
      | declarator hd => exact H.declarator_after hw hp hk hd hrecords he
  | catchClause hp hk =>
      cases hdecided with
      | catchClause hc => exact H.catchClause_after hp hk hc hrecords he
  | classDefinition hp =>
      cases hdecided with
      | classDefinition hc => exact H.classDefinition_after hp hc hrecords he

/-- **Deciding about all places again inserts nothing.** -/
theorem decideAll_after (H : Reparsed doc edits root) (hw : WellFormed doc.root)
    {names : List String} (hnames : declaredTypes doc.root = .ok names) {dEnd : Draft}
    {rest : List Spot} :
    ∀ {done : List Spot} {d e : Draft}, Spot.all root = done ++ rest →
      decideAll doc (start names) (done.map Spot.before) = (d, none) →
      decideAll doc d (rest.map Spot.before) = (dEnd, none) → Echo d e →
      ∃ eEnd, decideAll doc' e (rest.map Spot.after) = (eEnd, none) ∧ Echo dEnd eEnd := by
  induction rest with
  | nil =>
      intro done d e _ _ hrest he
      obtain ⟨rfl, -⟩ := Prod.mk.inj hrest
      exact ⟨e, rfl, he⟩
  | cons spot rest ih =>
      intro done d e hall hdone hrest he
      obtain ⟨d', hd, hrest'⟩ := decideAll_cons_eq hrest
      have hspot : spot ∈ Spot.all root := by
        rw [hall]
        exact List.mem_append_right _ List.mem_cons_self
      have hsites : Site.all doc.root =
          done.map Spot.before ++ spot.before :: rest.map Spot.before := by
        rw [H.all_eq.1, hall, List.map_append, List.map_cons]
      -- what is inserted here is recorded for this place, since `done` is what came before it
      have hagain : ∃ e', e.decide doc' spot.after = .ok e' ∧ Echo d' e' :=
        H.spot_after hw hspot hd
          (fun _ _ hnew hi => ⟨names, _, _, d, d', _, hnames, hsites, hdone, hd, hnew, hi⟩) he
      obtain ⟨e', he', hecho⟩ := hagain
      have hall' : Spot.all root = (done ++ [spot]) ++ rest := by
        rw [hall, List.append_assoc]
        rfl
      have hdone' :
          decideAll doc (start names) ((done ++ [spot]).map Spot.before) = (d', none) := by
        rw [List.map_append]
        exact decideAll_concat hdone hd
      obtain ⟨eEnd, hrun, hend⟩ := ih hall' hdone' hrest' hecho
      refine ⟨eEnd, ?_, hend⟩
      rw [List.map_cons, decideAll, he']
      exact hrun

end Reparsed

/-! ## Documents again -/

namespace Reparsed

open Draft

variable {doc doc' : Document} {edits : List Edit} {root : Kept} {p : Place} {d d' e : Draft}

/-- What a kept statement declares is what it declared. -/
theorem typeDeclaration?_after (H : Reparsed doc edits root) (hp : (Place.ofRoot root).Below p)
    {declaration : Node} (h : typeDeclaration? p.node.after = some declaration) :
    ∃ q, (Place.ofRoot root).Below q ∧ declaration = q.node.after ∧
      typeDeclaration? p.node.before = some q.node.before := by
  have hofKind : ∀ {q : Place}, (Place.ofRoot root).Below q →
      q.node.after.ofKind? typeDeclarationKinds = some declaration →
      declaration = q.node.after ∧
        q.node.before.ofKind? typeDeclarationKinds = some q.node.before := by
    intro q hq h
    have hkind : q.node.after.kind = q.node.before.kind := H.kind_eq hq
    unfold Node.ofKind? at h ⊢
    rw [hkind] at h
    split at h
    · rename_i hk
      exact ⟨(Option.some.inj h).symm, if_pos hk⟩
    · cases h
  have hkind : p.node.after.kind = p.node.before.kind := H.kind_eq hp
  unfold typeDeclaration? at h ⊢
  rw [hkind, H.field?_after hp (by decide)] at h
  rw [Kept.field?_before]
  split at h
  · rename_i hk
    rw [if_pos hk]
    cases hf : p.node.field? "declaration" with
    | none =>
        rw [hf] at h
        cases h
    | some c =>
        rw [hf] at h
        have hc := below_child hp (Kept.mem_of_find? hf)
        obtain ⟨hdecl, hbefore⟩ := hofKind hc h
        exact ⟨_, hc, hdecl, hbefore⟩
  · rename_i hk
    rw [if_neg hk]
    obtain ⟨hdecl, hbefore⟩ := hofKind hp h
    exact ⟨p, hp, hdecl, hbefore⟩

/-- The names of the types that the annotated source declares can be read. -/
theorem declaredTypes_after (H : Reparsed doc edits root) {names : List String}
    (hnames : declaredTypes doc.root = .ok names) :
    ∃ names', declaredTypes root.after = .ok names' := by
  have hgives : ∀ n ∈ root.after.namedChildren.filterMap
      (fun s => (typeDeclaration? s).bind (·.field? "name")),
      Gives True (fun s => n.text = .ok s) n.text := by
    intro n hn
    refine ⟨fun _ h => h, fun _ => ?_⟩
    obtain ⟨statement, hs, hn⟩ := List.mem_filterMap.mp hn
    obtain ⟨declaration, hdecl, hname⟩ := Option.bind_eq_some_iff.mp hn
    obtain ⟨hmem, hcontent⟩ := List.mem_filter.mp hs
    rcases mem_afters.mp hmem with ⟨k, hk, rfl⟩ | hadded
    · have hroot : (Place.ofRoot root).Below (.ofRoot root) := .self
      have hbelow := below_child hroot hk
      obtain ⟨q, hq, rfl, hbefore⟩ := H.typeDeclaration?_after hbelow hdecl
      rw [H.field?_after hq (by decide)] at hname
      obtain ⟨identifier, hidentifier, rfl⟩ := Option.map_eq_some_iff.mp hname
      refine (H.same_child hq (Kept.mem_of_find? hidentifier)).readable ?_
      -- the first run read the name
      have hmem : identifier.before ∈ doc.root.namedChildren.filterMap
          (fun s => (typeDeclaration? s).bind (·.field? "name")) := by
        refine List.mem_filterMap.mpr ⟨k.before, List.mem_filter.mpr ⟨?_, ?_⟩, ?_⟩
        · rw [← H.before, Kept.children_before, befores_eq]
          exact List.mem_map_of_mem hk
        · exact (H.isContent_eq hbelow).symm.trans hcontent
        · refine Option.bind_eq_some_iff.mpr ⟨_, hbefore, ?_⟩
          rw [Kept.field?_before, hidentifier]
          rfl
      obtain ⟨name, _, htext⟩ := exists_of_mem_mapM hnames hmem
      exact ⟨name, htext⟩
    · have hreadable := (H.added (.ofRoot root) statement .self hadded).1.readable
      exact hreadable n (.child (within_of_typeDeclaration? hdecl) (Node.mem_of_field? hname))
  obtain ⟨names', h⟩ := (Gives.mapM hgives).total trivial
  exact ⟨names', h⟩

/-- **A document with its annotations is annotated as it is.** -/
theorem annotate_after {a : Annotated} (H : Reparsed doc (a.edits doc) root)
    (hw : WellFormed doc.root) (h : doc.annotate.result = .ok a) :
    ∃ b : Annotated, (Document.annotate ⟨a.source, root.after⟩).result = .ok b ∧
      b.source = a.source ∧ b.insertions = [] ∧ b.diagnostics.length = a.diagnostics.length := by
  obtain ⟨names, d, hnames, hrun, _, _, hdiagnostics⟩ := annotate_document_eq_ok.mp h
  obtain ⟨names', hnames'⟩ := H.declaredTypes_after hnames
  rw [H.all_eq.1] at hrun
  have hstart : Echo (start names) (start names') := echo_start _ rfl names'
  have hall : Spot.all root = [] ++ Spot.all root := rfl
  have hagain : ∃ e, decideAll ⟨a.source, root.after⟩ (start names')
      ((Spot.all root).map Spot.after) = (e, none) ∧ Echo d e :=
    H.decideAll_after hw hnames hall rfl hrun hstart
  rw [← H.all_eq.2] at hagain
  obtain ⟨e, hrun', hecho⟩ := hagain
  refine ⟨⟨a.source, e.insertions, e.diagnostics⟩, ?_, rfl, hecho.insertions, ?_⟩
  · refine annotate_document_eq_ok.mpr ⟨names', e, hnames', hrun', ?_, rfl, rfl⟩
    have hedits : e.edits ⟨a.source, root.after⟩ = [] := by
      unfold Draft.edits
      rw [hecho.insertions]
      rfl
    rw [hedits, splice_nil]
    exact textOf_encode a.source
  · rw [hecho.diagnostics, hdiagnostics]

end Reparsed

/--
**Annotating twice changes nothing.** Let a source be annotated of which the tree is well
formed, and let the tree of the annotated text be that tree with the annotations in it, and
no less well formed. Then the annotated text is annotated as it is, without an interface,
and as much is reported as the first time.
-/
theorem annotate_idempotent {parse : Parser} {source language : String} {allowErrors : Bool}
    {a : Annotated} {dialect : Dialect} {root : Kept}
    (h : (annotate parse source language allowErrors).result = .ok a)
    (hdialect : Dialect.ofName language = .ok dialect)
    (hw : WellFormed (parse dialect source).root)
    (H : Reparsed ⟨source, (parse dialect source).root⟩
      (a.edits ⟨source, (parse dialect source).root⟩) root)
    (hroot : (parse dialect a.source).root = root.after)
    (herrors : (parse dialect a.source).hasErrors = true →
      (parse dialect source).hasErrors = true) :
    ∃ b, (annotate parse a.source language allowErrors).result = .ok b ∧ b.source = a.source ∧
      b.interfaces = [] ∧ b.diagnostics.length = a.diagnostics.length := by
  obtain ⟨dialect', hdialect', hallowed, hdoc⟩ := annotate_eq_ok.mp h
  obtain rfl := Except.ok.inj (hdialect.symm.trans hdialect')
  obtain ⟨b, hb, hsource, hinsertions, hdiagnostics⟩ := H.annotate_after hw hdoc
  rw [← hroot] at hb
  refine ⟨b, annotate_eq_ok.mpr ⟨dialect, hdialect, fun he => hallowed (herrors he), hb⟩,
    hsource, ?_, hdiagnostics⟩
  unfold Annotated.interfaces
  rw [hinsertions]
  rfl

/-! ## A function and its parameter -/

namespace Arrow

/-- A function that uses a property of its parameter. -/
def source : String := "(p) => p.x"

/-- The function with its annotations. -/
def target : String := "interface P \x7b\n    x: any,\n\x7d\n\n(p: P) => p.x"

/-- What is inserted into the source. -/
def edits : List Edit := [⟨0, "interface P \x7b\n    x: any,\n\x7d\n\n"⟩, ⟨2, ": P"⟩]

/-- What a named node between two offsets of a text says of itself. -/
def data (text kind : String) (field : Option String) (start stop : Nat) : NodeData :=
  ⟨0, kind, start, stop, true, field, ((Utf8.encode text).drop start).take (stop - start)⟩

/-- A node of the source, with its offsets in the source and in the target. -/
def kept (kind : String) (field : Option String) (start stop start' stop' : Nat)
    (children : List Overlay) : Kept :=
  ⟨data source kind field start stop, data target kind field start' stop', children⟩

/-- A kept node among its siblings. -/
def among (k : Kept) : Overlay := .kept k.old k.new k.children

/-- A node that only the target has. -/
def added (kind : String) (field : Option String) (start stop : Nat) (children : List Node) :
    Node :=
  .mk (data target kind field start stop) children

/-- The interface of the parameter. -/
def interface : Node :=
  added "interface_declaration" none 0 27
    [added "type_identifier" (some "name") 10 11 [], added "interface_body" (some "body") 12 27 []]

/-- The type of the parameter. -/
def typing : Node :=
  added "type_annotation" (some "type") 31 34 [added "type_identifier" none 33 34 []]

def parameter : Kept :=
  kept "required_parameter" none 1 2 30 34
    [among (kept "identifier" (some "pattern") 1 2 30 31 []), .added typing]

def parameters : Kept := kept "formal_parameters" (some "parameters") 0 3 29 35 [among parameter]

def body : Kept :=
  kept "member_expression" (some "body") 7 10 39 42
    [among (kept "identifier" (some "object") 7 8 39 40 []),
     among (kept "property_identifier" (some "property") 9 10 41 42 [])]

def function : Kept := kept "arrow_function" none 0 10 29 42 [among parameters, among body]

def statement : Kept := kept "expression_statement" none 0 10 29 42 [among function]

/-- The trees of the source and of the target. -/
def root : Kept := kept "program" none 0 10 0 42 [.added interface, among statement]

/-- The parser that knows the two trees. -/
def parse : Parser := fun _ text => ⟨if text = source then root.before else root.after, false⟩

def document : Document := ⟨source, root.before⟩

/-- Where the parameter is. -/
def spot : Place := ((((Place.ofRoot root).child statement).child function).child parameters).child
  parameter

/-- What becomes of the source. -/
def annotated : Annotated := ⟨target, document.draft.1.insertions, document.draft.1.diagnostics⟩

theorem editsTo : document.EditsTo edits annotated.source := by
  constructor <;> decide +kernel

theorem annotate_document : document.annotate.result = .ok annotated :=
  Document.annotate_of_editsTo editsTo

theorem wellFormed : WellFormed root.before := by decide +kernel

theorem same : ∀ p, (Place.ofRoot root).Below p → Same edits p.node.old p.node.new := by
  have h : ∀ p ∈ (Place.ofRoot root).descendants, Same edits p.node.old p.node.new := by
    decide +kernel
  exact fun p hp => h p (Place.mem_descendants_iff.mpr hp)

/-- The one place of the source. -/
def site : Site :=
  .parameter ((((Place.ofRoot root).child statement).child function).child parameters).before
    parameter.before

theorem all_eq : Site.all root.before = [site] := rfl

theorem records {i : Insertion} (hi : i ∈ annotated.insertions) : Records document site i := by
  obtain ⟨names, d, hnames, hrun, _, hinsertions, _⟩ := annotate_document_eq_ok.mp annotate_document
  have hall : Site.all document.root = [] ++ [site] := all_eq
  rw [hall] at hrun
  obtain ⟨d', hd, hend⟩ := Draft.decideAll_cons_eq hrun
  obtain ⟨rfl, -⟩ := Prod.mk.inj hend
  have hnew : d'.insertions = (Draft.start names).insertions ++ annotated.insertions := by
    rw [hinsertions]
    rfl
  exact ⟨names, [], [], _, d', _, hnames, hall, rfl, hd, hnew, hi⟩

theorem due_typing : Due document spot.before "type_annotation" := by
  have hany : (annotated.insertions.any fun i => i matches .bindingType ..) = true := by
    decide +kernel
  obtain ⟨i, hi, hsort⟩ := List.any_eq_true.mp hany
  cases i with
  | bindingType pattern type => exact .parameter (records hi)
  | interface | typeArguments => cases hsort

theorem due_interface : Due document (Focus.ofRoot document.root) "interface_declaration" := by
  have hany : (annotated.insertions.any fun i => i.interfaceName?.isSome) = true := by
    decide +kernel
  obtain ⟨i, hi, hsort⟩ := List.any_eq_true.mp hany
  cases i with
  | interface name members => exact .interface (records hi)
  | bindingType | typeArguments => cases hsort

theorem gains {p : Place} {n : Node} (hp : (Place.ofRoot root).Below p) (hn : p.node.Gains n) :
    p = .ofRoot root ∧ n = interface ∨ p = spot ∧ n = typing := by
  have hlist : ((Place.ofRoot root).descendants.filter fun q =>
      q.node.children.any (·.kept?.isNone)) = [.ofRoot root, spot] := rfl
  have hmem : p ∈ [.ofRoot root, spot] := by
    rw [← hlist]
    refine List.mem_filter.mpr ⟨Place.mem_descendants_iff.mpr hp, ?_⟩
    exact List.any_eq_true.mpr ⟨_, hn, rfl⟩
  simp only [List.mem_cons, List.not_mem_nil, or_false] at hmem
  rcases hmem with rfl | rfl
  · exact .inl ⟨rfl, by simpa [Kept.Gains, Place.ofRoot, root, kept, among] using hn⟩
  · exact .inr ⟨rfl, by simpa [Kept.Gains, spot, Place.child, parameter, kept, among] using hn⟩

/-- The root and the parameter are all that annotations may be due at. -/
theorem owners {p : Place} (hp : (Place.ofRoot root).Below p) :
    p = .ofRoot root ∨ p = spot ∨ p.above ≠ [] ∧ p.node.old.kind ∉ ownerKinds := by
  have hlist : ((Place.ofRoot root).descendants.filter fun q =>
      q.above.isEmpty || decide (q.node.old.kind ∈ ownerKinds)) = [.ofRoot root, spot] := rfl
  by_cases h : (p.above.isEmpty || decide (p.node.old.kind ∈ ownerKinds)) = true
  · have hmem : p ∈ [.ofRoot root, spot] := by
      rw [← hlist]
      exact List.mem_filter.mpr ⟨Place.mem_descendants_iff.mpr hp, h⟩
    simp only [List.mem_cons, List.not_mem_nil, or_false] at hmem
    exact hmem.imp_right .inl
  · refine .inr (.inr ?_)
    simpa using h

theorem reparsed : Reparsed document (annotated.edits document) root where
  before := rfl
  same := by
    have hedits : annotated.edits document = edits := by decide +kernel
    rw [hedits]
    exact same
  added := by
    intro p n hp hn
    rcases gains hp hn with ⟨rfl, rfl⟩ | ⟨rfl, rfl⟩
    · exact ⟨by decide +kernel, due_interface⟩
    · exact ⟨by decide +kernel, due_typing⟩
  present := by
    intro p kind hp hdue
    rcases owners hp with rfl | rfl | ⟨habove, hk⟩
    · rcases hdue.sorts with ⟨rfl, _⟩ | ⟨_, hk⟩ | ⟨_, hk⟩
      · exact ⟨interface, List.mem_cons_self, rfl⟩
      · exact absurd hk (by decide)
      · exact absurd hk (by decide)
    · rcases hdue.sorts with ⟨_, h⟩ | ⟨rfl, _⟩ | ⟨_, hk⟩
      · cases h
      · exact ⟨typing, List.mem_cons_of_mem _ List.mem_cons_self, rfl⟩
      · exact absurd hk (by decide)
    · rcases hdue.owner with h | h
      · exact absurd (List.map_eq_nil_iff.mp h) habove
      · exact absurd h hk

theorem parse_source : parse .tsx source = ⟨root.before, false⟩ := by
  unfold parse
  rw [if_pos rfl]

theorem parse_target : parse .tsx target = ⟨root.after, false⟩ := by
  unfold parse
  rw [if_neg (by decide +kernel)]

theorem annotate_eq : (annotate parse source "tsx" false).result = .ok annotated := by
  refine annotate_eq_ok.mpr ⟨.tsx, rfl, ?_, ?_⟩
  · rw [parse_source]
    exact fun h => nomatch h
  · rw [parse_source]
    exact annotate_document

end Arrow

theorem annotate_idempotent_arrow :
    ∃ b, (annotate Arrow.parse Arrow.target "tsx" false).result = .ok b ∧ b.source = Arrow.target ∧
      b.interfaces = [] := by
  have hw : WellFormed (Arrow.parse .tsx Arrow.source).root := by
    rw [Arrow.parse_source]
    exact Arrow.wellFormed
  have hreparsed : Reparsed ⟨Arrow.source, (Arrow.parse .tsx Arrow.source).root⟩
      (Arrow.annotated.edits ⟨Arrow.source, (Arrow.parse .tsx Arrow.source).root⟩) Arrow.root := by
    rw [Arrow.parse_source]
    exact Arrow.reparsed
  have hroot : (Arrow.parse .tsx Arrow.annotated.source).root = Arrow.root.after :=
    congrArg Parse.root Arrow.parse_target
  have herrors : (Arrow.parse .tsx Arrow.annotated.source).hasErrors = false :=
    congrArg Parse.hasErrors Arrow.parse_target
  obtain ⟨b, hb, hsource, hinterfaces, _⟩ := annotate_idempotent Arrow.annotate_eq rfl hw
    hreparsed hroot (by rw [herrors]; exact fun h => nomatch h)
  exact ⟨b, hb, hsource, hinterfaces⟩

end ScriptTypes.Annotation
