import ScriptTypes.Annotation
import ScriptTypes.Proofs.Gathering

/-!
# Related documents are annotated alike

Two documents of one source whose trees are related, and whose interfaces go to the same offset,
are annotated alike. Their places go together one by one, and what is decided at two such places
leaves drafts that go together, too: they differ in nothing but the nodes that the insertions
stand beside, and those are related. A decision also looks at what stands around a place, at the
function and the class that it is in, so all the nodes above two places have to be related here.
-/

namespace ScriptTypes

open Syntax

variable {R : Node → Node → Prop}

namespace Syntax

variable {f g : Focus} {c c' : Node}

/-! ## Places -/

/-- Two places at related nodes with related nodes above them, one by one. -/
structure Counterparts (R : Node → Node → Prop) (f g : Focus) : Prop where
  /-- The nodes are related. -/
  node : R f.node g.node
  /-- So are those above them. -/
  above : List.Forall₂ R f.above g.above

namespace Counterparts

theorem child (h : Counterparts R f g) (hc : R c c') : Counterparts R (f.child c) (g.child c') :=
  ⟨hc, .cons h.node h.above⟩

theorem stands (h : Counterparts R f g) : Stands R f g where
  node := h.node
  above := by
    intro _
    have habove := h.above
    generalize f.above = ps, g.above = qs at habove ⊢
    induction habove with
    | nil => exact .nil
    | cons hp _ ih => exact .step hp ih

theorem ancestors (h : Counterparts R f g) :
    List.Forall₂ (Counterparts R) f.ancestors g.ancestors := by
  have habove := h.above
  unfold Focus.ancestors
  generalize f.above = ps, g.above = qs at habove ⊢
  induction habove with
  | nil => exact .nil
  | cons hp hps ih => exact .cons ⟨hp, hps⟩ ih

theorem parent? (h : Counterparts R f g) :
    Option.Rel (Counterparts R) f.parent? g.parent? := by
  obtain ⟨n, above⟩ := f
  obtain ⟨n', above'⟩ := g
  cases h.above with
  | nil => exact .none
  | cons hp hps => exact .some ⟨hp, hps⟩

end Counterparts

/-- Related places have the same ancestors of some kinds. -/
theorem Resemblance.findAncestor? (H : Resemblance R) (h : Counterparts R f g)
    (kinds : List String) :
    Option.Rel (Counterparts R) (f.findAncestor? kinds) (g.findAncestor? kinds) := by
  have hancestors : Matched (fun _ => False) (Counterparts R) f.ancestors g.ancestors :=
    .of_forall₂ h.ancestors
  exact hancestors.find? (fun _ hfalse => hfalse.elim) fun a b hab => by rw [H.kind hab.node]

end Syntax

namespace Annotation

/-! ## Drafts -/

/-- Two insertions say the same, beside related nodes. -/
inductive Insertion.Alike (R : Node → Node → Prop) : Insertion → Insertion → Prop where
  | interface (name : String) (members : List (String × Shape InferredType)) :
      Alike R (.interface name members) (.interface name members)
  | bindingType {pattern pattern' : Node} (type : BindingType) : R pattern pattern' →
      Alike R (.bindingType pattern type) (.bindingType pattern' type)
  | typeArguments {superclass superclass' : Node} (arguments : TypeArguments) :
      R superclass superclass' →
      Alike R (.typeArguments superclass arguments) (.typeArguments superclass' arguments)

/-- Two drafts say the same, beside related nodes. -/
structure Draft.Alike (R : Node → Node → Prop) (d e : Draft) : Prop where
  /-- The same names are taken. -/
  taken : d.taken = e.taken
  /-- The insertions go together, one by one. -/
  insertions : List.Forall₂ (Insertion.Alike R) d.insertions e.insertions
  /-- The same bindings are left alone. -/
  diagnostics : d.diagnostics = e.diagnostics
  /-- The components have the same interfaces. -/
  propsInterfaces : d.propsInterfaces = e.propsInterfaces

/-- Two documents of one source with related trees, of which interfaces go to the same offset. -/
structure Document.Alike (R : Node → Node → Prop) (doc doc' : Document) : Prop where
  /-- They have one source. -/
  source : doc.source = doc'.source
  /-- Their trees are related. -/
  root : R doc.root doc'.root
  /-- Their interfaces go to the same offset. -/
  fileStart : doc.fileStart = doc'.fileStart

/-- What is known about two bindings is the same, as related expressions tell it. -/
structure Evidence.Alike (R : Node → Node → Prop) (e e' : Evidence) : Prop where
  /-- Both are annotated, or neither is. -/
  annotated : e.annotated = e'.annotated
  /-- The same type was found for them. -/
  found : e.found = e'.found
  /-- The expressions that tell the type are related. -/
  expression : Option.Rel R e.expression e'.expression
  /-- So are the initial values. -/
  initial : Option.Rel R e.initial e'.initial

/-- Two places that take the same annotations. -/
inductive Site.Alike (R : Node → Node → Prop) : Site → Site → Prop where
  /-- Related parameters in lists that go together. -/
  | parameter {list list' : Focus} {p p' : Node} : Counterparts R list list' → R p p' →
      Alike R (.parameter list p) (.parameter list' p')
  | declarator {f g : Focus} : Counterparts R f g → Alike R (.declarator f) (.declarator g)
  | catchClause {n n' : Node} : R n n' → Alike R (.catchClause n) (.catchClause n')
  | classDefinition {f g : Focus} : Counterparts R f g →
      Alike R (.classDefinition f) (.classDefinition g)

/-- Two annotated sources that differ in nothing that is told of them. -/
structure SameAnnotations (a a' : Annotated) : Prop where
  /-- They have the same text. -/
  source : a.source = a'.source
  /-- The same interfaces were added. -/
  interfaces : a.interfaces = a'.interfaces
  /-- The same bindings were left alone. -/
  diagnostics : a.diagnostics = a'.diagnostics

theorem Document.Alike.bytes {doc doc' : Document} (h : doc.Alike R doc') :
    doc.bytes = doc'.bytes := by
  unfold Document.bytes
  rw [h.source]

/-- A comment opens no place. -/
theorem Site.at_mute {f : Focus} (h : f.node.Mute) : Site.at f = [] := by
  unfold Site.at
  rw [h.kind]
  rfl

/-- Drafts that say the same have the same interfaces. -/
theorem Draft.Alike.interfaces_eq {d e : Draft} (h : d.Alike R e) :
    d.interfaces = e.interfaces := by
  have hinsertions := h.insertions
  unfold Draft.interfaces
  generalize d.insertions = is, e.insertions = js at hinsertions ⊢
  induction hinsertions with
  | nil => rfl
  | cons hi _ ih =>
      cases hi with
      | interface name members => exact congrArg (name :: ·) ih
      | bindingType _ _ => exact ih
      | typeArguments _ _ => exact ih

/-- A result with a draft: the results are the same, and the drafts go together. -/
def WithDraft (R : Node → Node → Prop) {α : Type} (p q : α × Draft) : Prop :=
  p.1 = q.1 ∧ p.2.Alike R q.2

end Annotation

open Annotation

namespace Syntax.Resemblance

variable (H : Resemblance R) {doc doc' : Document} {d e : Draft} {i j : Insertion}
  {x y : Node} {f g : Focus}

include H

/-! ## Insertions -/

theorem span_insertion (h : i.Alike R j) (start : Nat) : i.span start = j.span start := by
  cases h with
  | interface name members => rfl
  | bindingType _ h => exact H.span_eq h
  | typeArguments _ h => exact H.span_eq h

theorem edit_insertion (h : i.Alike R j) (start : Nat) : i.edit start = j.edit start := by
  cases h with
  | interface name members => rfl
  | bindingType type h => exact congrArg (Edit.mk · (": " ++ type.text)) (H.stop h)
  | typeArguments arguments h => exact congrArg (Edit.mk · arguments.text) (H.stop h)

theorem insert_alike (hdoc : doc.Alike R doc') (hd : d.Alike R e) (hi : i.Alike R j) :
    SameOutcome (Draft.Alike R) (d.insert doc i) (e.insert doc' j) := by
  have htext : i.text = j.text := congrArg Edit.text (H.edit_insertion hi 0)
  unfold Draft.insert
  rw [hdoc.fileStart, hdoc.bytes, H.span_insertion hi, htext]
  refine .bind_left fun span => .bind_left fun _ => .pure ?_
  exact ⟨hd.taken, List.rel_append hd.insertions (.cons hi .nil), hd.diagnostics,
    hd.propsInterfaces⟩

/-! ## Bindings -/

theorem evidenceType_eq {s t : Evidence} (h : s.Alike R t) : s.type? = t.type? := by
  unfold Evidence.type?
  rw [h.found, H.inferTypeOf?_eq (option_rel_orElse h.expression h.initial)]

theorem judge_eq {s t : Evidence} (source : List UInt8) (h : R x y) (hs : s.Alike R t) :
    judge source x s = judge source y t := by
  unfold judge Diagnostic.ofPattern
  rw [hs.annotated, H.kind h, H.evidenceType_eq hs, H.text_eq h, H.start h, H.stop h]

theorem annotatePattern_alike {s t : Evidence} (hdoc : doc.Alike R doc') (hd : d.Alike R e)
    (h : R x y) (hs : s.Alike R t) :
    SameOutcome (Draft.Alike R) (d.annotatePattern doc x s) (e.annotatePattern doc' y t) := by
  unfold Draft.annotatePattern
  rw [hdoc.bytes, H.judge_eq _ h hs]
  refine .bind_left fun verdict => ?_
  cases verdict with
  | leave => exact .pure hd
  | annotate type => exact H.insert_alike hdoc hd (.bindingType type h)
  | report diagnostic =>
      refine .pure ⟨hd.taken, hd.insertions, ?_, hd.propsInterfaces⟩
      rw [hd.diagnostics]

theorem addInterface_alike {s t : Option (Shape Node)} (hdoc : doc.Alike R doc')
    (hd : d.Alike R e) (base : String) (h : Option.Rel (Shape.Alike R) s t) :
    SameOutcome (WithDraft R) (d.addInterface doc base s) (e.addInterface doc' base t) := by
  have hshape : Shape.Alike R (s.getD .unknown) (t.getD .unknown) := by
    cases h with
    | none => exact .unknown
    | some h => exact h
  unfold Draft.addInterface
  rw [hd.taken, hshape.members_eq fun _ _ => H.inferType?_eq]
  refine .bind_left fun members => ?_
  refine (H.insert_alike hdoc ?_ (.interface _ members)).bind fun _ _ hd => .pure ⟨rfl, hd⟩
  exact ⟨rfl, hd.insertions, hd.diagnostics, hd.propsInterfaces⟩

/-! ## Parameters -/

theorem parameterScope?_alike (h : Counterparts R f g) :
    Option.Rel (Counterparts R) (parameterScope? f) (parameterScope? g) :=
  option_rel_orElse (H.findAncestor? h functionKinds) h.parent?

theorem constructedClass?_eq (h : Counterparts R f g) :
    constructedClass? f = constructedClass? g := by
  unfold constructedClass?
  rw [H.kind h.node]
  split
  · rcases H.field?_cases h.node "name" with ⟨hx, hy⟩ | ⟨c, c', hx, hy, hc⟩
    · rw [hx, hy]
    · rw [hx, hy]
      dsimp only
      rw [H.text_eq hc]
      have hparent : Option.Rel (Counterparts R) (f.parent?.bind Focus.parent?)
          (g.parent?.bind Focus.parent?) := by
        have hp := h.parent?
        generalize f.parent? = p, g.parent? = q at hp ⊢
        cases hp with
        | none => exact .none
        | some hp => exact hp.parent?
      generalize f.parent?.bind Focus.parent? = p, g.parent?.bind Focus.parent? = q at hparent ⊢
      cases hparent with
      | none => rfl
      | some hp =>
          dsimp only
          rw [H.span_eq hp.node]
  · rfl

theorem parameterInterface_alike (hdoc : doc.Alike R doc') (hd : d.Alike R e)
    (h : Counterparts R f g) (name : String) :
    SameOutcome (WithDraft R) (d.parameterInterface doc f name)
      (e.parameterInterface doc' g name) := by
  have hprops : d.constructorProps? f name = e.constructorProps? g name := by
    unfold Draft.constructorProps?
    rw [H.constructedClass?_eq h, hd.propsInterfaces]
  unfold Draft.parameterInterface
  rw [hprops]
  refine .bind_left fun interface => ?_
  cases interface with
  | some interface => exact .pure ⟨rfl, hd⟩
  | none =>
      refine (H.gather_alike h.stands).bind fun s t hst => ?_
      cases hst with
      | none => exact .pure ⟨rfl, hd⟩
      | some hst =>
          refine (H.addInterface_alike hdoc hd _ (.some hst)).bind fun r r' hr => .pure ?_
          obtain ⟨interface, d⟩ := r
          obtain ⟨interface', e⟩ := r'
          obtain ⟨rfl, hd⟩ := hr
          exact ⟨rfl, hd⟩

theorem decideParameter_alike (hdoc : doc.Alike R doc') (hd : d.Alike R e)
    (h : Counterparts R f g) (hp : R x y) :
    SameOutcome (Draft.Alike R) (d.decideParameter doc f x) (e.decideParameter doc' g y) := by
  unfold Draft.decideParameter
  rcases H.field?_cases hp "pattern" with ⟨hx, hy⟩ | ⟨pattern, pattern', hx, hy, hpattern⟩
  · rw [hx, hy]
    exact .pure hd
  · rw [hx, hy, H.hasChild_eq hp (by decide)]
    dsimp only
    split
    · exact .pure hd
    · -- the pattern is judged in the end, whether an interface was found or not
      have hjudged : ∀ r r' : Option String × Draft, WithDraft R r r' →
          SameOutcome (Draft.Alike R)
            (r.2.annotatePattern doc pattern
              { found := r.1.map .named, initial := x.field? "value" })
            (r'.2.annotatePattern doc' pattern'
              { found := r'.1.map .named, initial := y.field? "value" }) := by
        intro r r' hr
        refine H.annotatePattern_alike hdoc hr.2 hpattern ⟨rfl, ?_, .none, H.field? hp "value"⟩
        rw [hr.1]
      have hscope := H.parameterScope?_alike h
      generalize parameterScope? f = s, parameterScope? g = s' at hscope ⊢
      cases hscope with
      | none => exact hjudged (none, d) (none, e) ⟨rfl, hd⟩
      | some hscope =>
          dsimp only
          rw [H.kind hpattern, H.text_eq hpattern]
          split
          · refine .bind_left fun name => ?_
            exact (H.parameterInterface_alike hdoc hd hscope name).bind hjudged
          · exact hjudged (none, d) (none, e) ⟨rfl, hd⟩

/-! ## Declarators and catch clauses -/

theorem inLoopHead_eq (h : Counterparts R f g) : inLoopHead f = inLoopHead g := by
  have hdeclaration := h.parent?
  unfold inLoopHead
  generalize f.parent? = p, g.parent? = q at hdeclaration ⊢
  cases hdeclaration with
  | none => rfl
  | some hp =>
      have hloop := hp.parent?
      dsimp only
      rename_i p q
      generalize p.parent? = l, q.parent? = l' at hloop ⊢
      cases hloop with
      | none => rfl
      | some hl =>
          dsimp only
          rw [H.kind hl.node, H.isField_eq hl.node hp.node]

theorem isNullish_eq (h : R x y) : isNullish x = isNullish y := by
  unfold isNullish
  rw [H.kind h, H.text_eq h]

theorem openValue?_alike {v v' : Option Node} (h : Option.Rel R v v') :
    SameOutcome (Option.Rel (Option.Rel R)) (openValue? v) (openValue? v') := by
  unfold openValue?
  cases h with
  | none => exact .pure (.some .none)
  | @some n n' hn =>
      -- comments are no named children, so both lists are empty or neither is
      have helements : n.namedChildren = [] ↔ n'.namedChildren = [] := by
        have hnamed := H.namedChildren hn
        generalize n.namedChildren = cs, n'.namedChildren = cs' at hnamed ⊢
        cases hnamed with
        | nil => rfl
        | cons _ _ => exact iff_of_false (List.cons_ne_nil _ _) (List.cons_ne_nil _ _)
      dsimp only
      rw [H.isNullish_eq hn, H.kind hn]
      simp only [helements]
      refine .bind_left fun nullish => ?_
      split
      · exact .pure (.some .none)
      · split
        · exact .pure (.some (.some hn))
        · exact .pure .none

theorem decideDeclarator_alike (hdoc : doc.Alike R doc') (hd : d.Alike R e)
    (h : Counterparts R f g) :
    SameOutcome (Draft.Alike R) (d.decideDeclarator doc f) (e.decideDeclarator doc' g) := by
  unfold Draft.decideDeclarator
  rw [H.inLoopHead_eq h]
  split
  · exact .pure hd
  · rcases H.field?_cases h.node "name" with ⟨hx, hy⟩ | ⟨pattern, pattern', hx, hy, hpattern⟩
    · rw [hx, hy]
      exact .pure hd
    · rw [hx, hy]
      dsimp only
      rw [H.text_eq hpattern, H.hasChild_eq h.node (by decide)]
      refine .bind_left fun _ => ?_
      refine (H.openValue?_alike (H.field? h.node "value")).bind fun v v' hv => ?_
      cases hv with
      | none => exact .pure hd
      | some hv => exact H.annotatePattern_alike hdoc hd hpattern ⟨rfl, rfl, hv, .none⟩

theorem decideCatch_alike (hdoc : doc.Alike R doc') (hd : d.Alike R e) (h : R x y) :
    SameOutcome (Draft.Alike R) (d.decideCatch doc x) (e.decideCatch doc' y) := by
  unfold Draft.decideCatch
  rcases H.field?_cases h "parameter" with ⟨hx, hy⟩ | ⟨pattern, pattern', hx, hy, hpattern⟩
  · rw [hx, hy]
    exact .pure hd
  · rw [hx, hy, H.hasChild_eq h (by decide)]
    exact H.annotatePattern_alike hdoc hd hpattern ⟨rfl, rfl, .none, .none⟩

/-! ## Classes -/

theorem extendsPart?_alike (h : R x y) : Option.Rel R (extendsPart? x) (extendsPart? y) := by
  have hheritage : Option.Rel R (x.childOfKind? ["class_heritage"])
      (y.childOfKind? ["class_heritage"]) := H.childOfKind? h (by decide)
  unfold extendsPart?
  generalize x.childOfKind? _ = n, y.childOfKind? _ = n' at hheritage ⊢
  cases hheritage with
  | none => exact .none
  | @some n n' hn =>
      have hclause : Option.Rel R (n.childOfKind? ["extends_clause"])
          (n'.childOfKind? ["extends_clause"]) := H.childOfKind? hn (by decide)
      rw [Option.map_some, Option.map_some]
      generalize n.childOfKind? _ = c, n'.childOfKind? _ = c' at hclause ⊢
      cases hclause with
      | none => exact .some hn
      | some hc => exact .some hc

theorem superclass?_alike (h : R x y) : Option.Rel R (superclass? x) (superclass? y) :=
  option_rel_orElse (H.field? h "value")
    (option_rel_mono (option_rel_head? (H.namedChildren h)) fun _ _ hc => hc.1)

theorem isComponentClass_eq (h : R x y) : isComponentClass x = isComponentClass y := by
  unfold isComponentClass
  rw [H.kind h, H.text_eq h]
  rcases H.field?_cases h "property" with ⟨hx, hy⟩ | ⟨property, property', hx, hy, hproperty⟩
  · rw [hx, hy]
  · rw [hx, hy]
    dsimp only
    rw [H.text_eq hproperty]

theorem componentInterfaces_alike {props props' state state' : Option (Shape Node)}
    (hdoc : doc.Alike R doc') (hd : d.Alike R e)
    (hprops : Option.Rel (Shape.Alike R) props props')
    (hstate : Option.Rel (Shape.Alike R) state state') :
    SameOutcome (WithDraft R) (d.componentInterfaces doc props state)
      (e.componentInterfaces doc' props' state') := by
  -- with a state there are two interfaces, whatever the props are
  have hboth : ∀ {s s' : Option (Shape Node)}, Option.Rel (Shape.Alike R) s s' →
      SameOutcome (WithDraft R)
        (do
          let r ← d.addInterface doc "Props" props
          let t ← r.2.addInterface doc "State" s
          return (TypeArguments.propsAndState r.1 t.1, t.2))
        (do
          let r ← e.addInterface doc' "Props" props'
          let t ← r.2.addInterface doc' "State" s'
          return (TypeArguments.propsAndState r.1 t.1, t.2)) := by
    intro s s' hs
    refine (H.addInterface_alike hdoc hd "Props" hprops).bind fun r r' hr => ?_
    refine (H.addInterface_alike hdoc hr.2 "State" hs).bind fun t t' ht => .pure ⟨?_, ht.2⟩
    rw [hr.1, ht.1]
  unfold Draft.componentInterfaces
  cases hstate with
  | some hs =>
      cases hprops with
      | none | some _ => exact hboth (.some hs)
  | none =>
      cases hprops with
      | none => exact .pure ⟨rfl, hd⟩
      | some hp =>
          refine (H.addInterface_alike hdoc hd "Props" (.some hp)).bind fun r r' hr => .pure ?_
          exact ⟨congrArg TypeArguments.props hr.1, hr.2⟩

theorem rememberProps_alike (hd : d.Alike R e) (h : R x y) (arguments : TypeArguments) :
    SameOutcome (Draft.Alike R) (d.rememberProps x arguments) (e.rememberProps y arguments) := by
  unfold Draft.rememberProps
  rw [H.span_eq h]
  split
  · exact .pure hd
  · refine .bind_left fun range => .pure ⟨hd.taken, hd.insertions, hd.diagnostics, ?_⟩
    rw [hd.propsInterfaces]

theorem decideClass_alike (hdoc : doc.Alike R doc') (hd : d.Alike R e)
    (h : Counterparts R f g) :
    SameOutcome (Draft.Alike R) (d.decideClass doc f) (e.decideClass doc' g) := by
  have hpart := H.extendsPart?_alike h.node
  unfold Draft.decideClass
  generalize extendsPart? f.node = part, extendsPart? g.node = part' at hpart ⊢
  cases hpart with
  | none => exact .pure hd
  | @some part part' hpart =>
      have hsuperclass := H.superclass?_alike hpart
      dsimp only
      generalize superclass? part = s, superclass? part' = s' at hsuperclass ⊢
      cases hsuperclass with
      | none => exact .pure hd
      | some hs =>
          dsimp only
          rw [H.isComponentClass_eq hs, H.hasChild_eq hpart (by decide)]
          refine .bind_left fun component => ?_
          split
          · split
            · exact .pure hd
            · rcases H.field?_cases h.node "body" with ⟨hx, hy⟩ | ⟨body, body', hx, hy, hbody⟩
              · rw [hx, hy]
                exact .pure hd
              · rw [hx, hy]
                have hscope : Counterparts R (f.child body) (g.child body') := h.child hbody
                refine (H.gather_alike hscope.stands).bind fun props props' hprops => ?_
                refine (H.gather_alike hscope.stands).bind fun state state' hstate => ?_
                refine (H.componentInterfaces_alike hdoc hd hprops hstate).bind fun r r' hr => ?_
                obtain ⟨arguments, d⟩ := r
                obtain ⟨arguments', e⟩ := r'
                obtain ⟨rfl, hd⟩ := hr
                refine (H.rememberProps_alike hd h.node arguments).bind fun d e hd => ?_
                exact H.insert_alike hdoc hd (.typeArguments arguments hs)
          · exact .pure hd

/-! ## All places -/

/-- **What is decided at places that go together goes together.** -/
theorem decide_alike {site site' : Site} (hdoc : doc.Alike R doc') (hd : d.Alike R e)
    (h : site.Alike R site') :
    SameOutcome (Draft.Alike R) (d.decide doc site) (e.decide doc' site') := by
  cases h with
  | parameter hlist hp => exact H.decideParameter_alike hdoc hd hlist hp
  | declarator h => exact H.decideDeclarator_alike hdoc hd h
  | catchClause h => exact H.decideCatch_alike hdoc hd h
  | classDefinition h => exact H.decideClass_alike hdoc hd h

theorem decideAll_alike {sites sites' : List Site} (hdoc : doc.Alike R doc')
    (hd : d.Alike R e) (h : List.Forall₂ (Site.Alike R) sites sites') :
    (Draft.decideAll doc d sites).1.Alike R (Draft.decideAll doc' e sites').1 ∧
      (Draft.decideAll doc d sites).2 = (Draft.decideAll doc' e sites').2 := by
  induction h generalizing d e with
  | nil => exact ⟨hd, rfl⟩
  | @cons site site' sites sites' hsite _ ih =>
      have hdecided := H.decide_alike hdoc hd hsite
      rw [Draft.decideAll, Draft.decideAll]
      generalize d.decide doc site = r, e.decide doc' site' = r' at hdecided ⊢
      cases hdecided with
      | ok hd => exact ih hd
      -- a failure ends both, with what was decided so far
      | error => exact ⟨hd, rfl⟩

theorem siteAt_alike (h : Counterparts R f g) :
    List.Forall₂ (Site.Alike R) (Site.at f) (Site.at g) := by
  unfold Site.at
  rw [H.kind h.node]
  split
  · have hparameters : List.Forall₂ (Siblings R)
        (f.node.namedChildren.filter (·.kind = "required_parameter"))
        (g.node.namedChildren.filter (·.kind = "required_parameter")) := by
      have hnamed : Matched (fun _ => False) (Siblings R) f.node.namedChildren
          g.node.namedChildren := .of_forall₂ (H.namedChildren h.node)
      exact hnamed.filter (fun _ hfalse => hfalse.elim) fun c c' hc => by rw [H.kind hc.1]
    rw [List.forall₂_map_left_iff, List.forall₂_map_right_iff]
    exact hparameters.imp fun c c' hc => .parameter h hc.1
  · split
    · exact .cons (.declarator h) .nil
    · split
      · exact .cons (.catchClause h.node) .nil
      · split
        · exact .cons (.classDefinition h) .nil
        · exact .nil

theorem sites_alike (h : R x y) : List.Forall₂ (Site.Alike R) (Site.all x) (Site.all y) := by
  have hplaces : Matched (fun p => p.node.Mute) (Counterparts R) (Focus.ofRoot x).descendants
      (Focus.ofRoot y).descendants :=
    H.descendants Counterparts.node Counterparts.child ⟨h, .nil⟩
  have hsites : Matched (fun _ => False) (Site.Alike R) (Site.all x) (Site.all y) := by
    refine hplaces.flatMap (fun p _ hp => ?_) fun p _ q hpq => .of_forall₂ (H.siteAt_alike hpq)
    rw [Site.at_mute hp]
    exact .nil
  exact hsites.forall₂

/-! ## Documents -/

theorem typeDeclaration?_alike (h : R x y) :
    Option.Rel R (typeDeclaration? x) (typeDeclaration? y) := by
  have hdeclaration : Option.Rel R
      (if x.kind = "export_statement" then x.field? "declaration" else some x)
      (if y.kind = "export_statement" then y.field? "declaration" else some y) := by
    rw [H.kind h]
    split
    · exact H.field? h "declaration"
    · exact .some h
  unfold typeDeclaration?
  dsimp only
  generalize (if x.kind = _ then _ else _) = n, (if y.kind = _ then _ else _) = n'
    at hdeclaration ⊢
  cases hdeclaration with
  | none => exact .none
  | @some n n' hn =>
      rw [Option.bind_some, Option.bind_some, Node.ofKind?, Node.ofKind?, H.kind hn]
      split
      · exact .some hn
      · exact .none

theorem declaredTypes_eq (h : R x y) : declaredTypes x = declaredTypes y := by
  have hname : ∀ c c', Siblings R c c' →
      Option.Rel R ((typeDeclaration? c).bind (·.field? "name"))
        ((typeDeclaration? c').bind (·.field? "name")) := by
    intro c c' hc
    have hdeclaration := H.typeDeclaration?_alike hc.1
    generalize typeDeclaration? c = n, typeDeclaration? c' = n' at hdeclaration ⊢
    cases hdeclaration with
    | none => exact .none
    | some hn => exact H.field? hn "name"
  have hnames := List.rel_filterMap hname (H.namedChildren h)
  exact mapM_congr_forall₂ (hnames.imp fun _ _ hn => H.text_eq hn)

theorem draft_alike (hdoc : doc.Alike R doc') :
    doc.draft.1.Alike R doc'.draft.1 ∧ doc.draft.2 = doc'.draft.2 := by
  unfold Document.draft
  rw [H.declaredTypes_eq hdoc.root]
  split
  · exact H.decideAll_alike hdoc ⟨rfl, .nil, rfl, rfl⟩ (H.sites_alike hdoc.root)
  · exact ⟨⟨rfl, .nil, rfl, rfl⟩, rfl⟩

theorem edits_eq (hdoc : doc.Alike R doc') (hd : d.Alike R e) : d.edits doc = e.edits doc' := by
  have hinsertions := hd.insertions
  unfold Draft.edits
  rw [hdoc.fileStart]
  generalize d.insertions = is, e.insertions = js at hinsertions ⊢
  induction hinsertions with
  | nil => rfl
  | cons hi _ ih => rw [List.map_cons, List.map_cons, H.edit_insertion hi, ih]

/-- **Related documents are annotated alike.** -/
theorem annotate_alike (hdoc : doc.Alike R doc') :
    doc.annotate.log = doc'.annotate.log ∧
      SameOutcome SameAnnotations doc.annotate.result doc'.annotate.result := by
  obtain ⟨hdraft, hfailure⟩ := H.draft_alike hdoc
  unfold Document.annotate
  dsimp only
  rw [hfailure, hdraft.diagnostics]
  refine ⟨rfl, ?_⟩
  split
  · exact .error
  · have hedits := H.edits_eq hdoc hdraft
    unfold Draft.apply
    rw [hdoc.bytes, hedits]
    exact .bind_left fun text => .pure ⟨rfl, hdraft.interfaces_eq, rfl⟩

end Syntax.Resemblance

end ScriptTypes
