import ScriptTypes.Proofs.Resemblance

/-!
# What related scopes tell

Every usage of a name in a scope is read off the node where it stands, what is below that node
and, for an access to a member, how the access goes on in its ancestors. Of what a node says of
itself only the kind is read, the text where it is a name, and of ranges only which of them are
the same. So nodes may be related much more loosely here than in trees that resemble each other,
and keys may even be of different kinds as long as they state the same name: that is a
`Likeness`. Related nodes tell fragments that are alike, and nodes that are passed over tell
nothing, so related scopes tell shapes that are alike.
-/

namespace ScriptTypes

open Syntax

variable {R K : Node → Node → Prop} {x y c c' : Node} {f g : Focus} {name : String}

namespace Usage

/-! ## Nodes that are read alike -/

/-- The kinds of nodes whose text is read as a name. -/
def nameKinds : List String :=
  ["identifier", "property_identifier", "string", "shorthand_property_identifier",
   "shorthand_property_identifier_pattern"]

/-- What fills the field of a node of this kind is the key of a value. -/
def KeyField (kind field : String) : Prop :=
  (kind ∈ ["pair", "pair_pattern"] ∧ field = "key") ∨
    (kind ∈ classFieldKinds ∧ field ∈ ["name", "property"])

instance (kind field : String) : Decidable (KeyField kind field) :=
  inferInstanceAs (Decidable (_ ∨ _))

theorem not_keyField {kind field : String} (h : field ∉ ["key", "name", "property"]) :
    ¬ KeyField kind field := by
  rintro (⟨_, rfl⟩ | ⟨_, hfield⟩)
  · exact h (by decide)
  · exact h (List.mem_cons_of_mem _ hfield)

/-- Children of a node of a kind go together: they are related, or they are keys that are. -/
structure KeyedSiblings (R K : Node → Node → Prop) (kind : String) (c c' : Node) : Prop where
  /-- They fill the same field. -/
  field : c.data.field = c'.data.field
  /-- They are related in the one way or the other. -/
  related : R c c' ∨ K c c' ∧ ∃ field, c.data.field = some field ∧ KeyField kind field

/-- Related nodes are read alike, and so are keys that are related in a way of their own. -/
structure Likeness (R K : Node → Node → Prop) : Prop where
  /-- Related nodes are of one kind. -/
  kind : ∀ {x y}, R x y → x.kind = y.kind
  /-- Both are bare tokens, or neither is. -/
  named : ∀ {x y}, R x y → x.named = y.named
  /-- Names have the same text. -/
  name : ∀ {x y}, R x y → x.kind ∈ nameKinds → x.text = y.text
  /-- What is accessed has the same text. -/
  property : ∀ {x y p p'}, R x y → x.kind = "member_expression" →
    x.field? "property" = some p → y.field? "property" = some p' → p.text = p'.text
  /-- Whether two nodes are of one kind and range is told alike. -/
  alike : ∀ {x y c c'}, R x y → R c c' → x.alike c = y.alike c'
  /-- Their children go together, but for comments. -/
  children : ∀ {x y}, R x y → Matched Node.Mute (KeyedSiblings R K x.kind) x.children y.children
  /-- Related keys state the same name. -/
  key : ∀ {k k'}, K k k' → keyName? (some k) = keyName? (some k')
  /-- There is no usage in the first of them. -/
  idle : ∀ {k k' n}, K k k' → k.Within n → n.kind ∉ usageKinds
  /-- The second one is no usage. -/
  plain : ∀ {k k'}, K k k' → k'.kind ∉ usageKinds
  /-- There is nothing below it. -/
  bare : ∀ {k k'}, K k k' → k'.children = []

/-- Nodes of trees that resemble each other are read alike. -/
theorem Likeness.of_resemblance (H : Resemblance R) : Likeness R fun _ _ => False where
  kind := H.kind
  named := H.named
  name := fun h _ => H.text_eq h
  property := by
    intro x y p p' h _ hp hp'
    have hproperty := H.field? h "property"
    rw [hp, hp'] at hproperty
    cases hproperty with
    | some h => exact H.text_eq h
  alike := by
    intro x y c c' h hc
    unfold Node.alike
    rw [H.kind h, H.start h, H.stop h, H.kind hc, H.start hc, H.stop hc]
  children := fun h => (H.children h).mono fun _ _ hc => ⟨hc.2, .inl hc.1⟩
  key := False.elim
  idle := False.elim
  plain := False.elim
  bare := False.elim

/-- Two fields of one name whose shapes are alike. -/
structure FieldAlike (R : Node → Node → Prop) (s t : String × Fragment) : Prop where
  /-- They have one name. -/
  name : s.1 = t.1
  /-- Their shapes are alike. -/
  shape : Shape.Alike R s.2 t.2

/-! ## What comments tell -/

theorem patternElement?_mute {c : Node} (h : c.Mute) : patternElement? c = .ok none := by
  unfold patternElement?
  rw [h.isContent]
  rfl

theorem literalMember?_mute {c : Node} (h : c.Mute) : literalMember? c = .ok none := by
  unfold literalMember?
  rw [h.isContent]
  rfl

/-! ## Fragments put together -/

/-- Nodes that tell fields alike give objects that are alike. -/
theorem withFields_alike {tell? : Node → Except Fault (Option (String × Fragment))}
    {cs cs' : List Node} {known known' : Fragment} (hmute : ∀ c, c.Mute → tell? c = .ok none)
    (h : Matched Node.Mute R cs cs')
    (htell : ∀ c ∈ cs, ∀ c', R c c' →
      SameOutcome (Option.Rel (FieldAlike R)) (tell? c) (tell? c'))
    (hknown : Shape.Alike R known known') :
    SameOutcome (Shape.Alike R) (withFields tell? known cs) (withFields tell? known' cs') := by
  induction h generalizing known known' with
  | nil => exact .pure hknown
  | @cons c c' cs cs' hc _ ih =>
      rw [withFields, withFields]
      refine (htell c List.mem_cons_self c' hc).bind fun e e' he => ?_
      refine ih (fun c hc => htell c (List.mem_cons_of_mem _ hc)) ?_
      cases he with
      | none => exact hknown
      | @some s t hst =>
          obtain ⟨field, s⟩ := s
          obtain ⟨_, t⟩ := t
          obtain ⟨rfl, hshape⟩ := hst
          exact hknown.addField hshape
  | @skip c cs cs' hc _ ih =>
      -- a comment is passed over on one side only
      rw [withFields, hmute c hc]
      exact ih (fun c hc => htell c (List.mem_cons_of_mem _ hc)) hknown

theorem foldl_merge_alike {ss ts : List Fragment} {s t : Fragment}
    (h : Matched (· = .unknown) (Shape.Alike R) ss ts) (hst : Shape.Alike R s t) :
    Shape.Alike R (ss.foldl Shape.merge s) (ts.foldl Shape.merge t) := by
  induction h generalizing s t with
  | nil => exact hst
  | cons hs _ ih => exact ih (hst.merge hs)
  | skip hs _ ih =>
      rw [List.foldl_cons, hs, Shape.merge_unknown]
      exact ih hst

/-- Two places tell alike: they stand alike, or neither is a usage. -/
def Paired (R : Node → Node → Prop) (p q : Focus) : Prop :=
  Stands R p q ∨ p.node.kind ∉ usageKinds ∧ q.node.kind ∉ usageKinds

namespace Likeness

variable (H : Likeness R K)

include H

theorem isContent_eq (h : R x y) : x.isContent = y.isContent := by
  unfold Node.isContent
  rw [H.named h, H.kind h]

/-! ## Fields -/

/-- What fills a field is related, or it is a key. -/
theorem field?_keyed (h : R x y) (field : String) :
    Option.Rel (fun c c' => R c c' ∨ K c c' ∧ KeyField x.kind field) (x.field? field)
      (y.field? field) := by
  have hfind : Option.Rel (KeyedSiblings R K x.kind) (x.field? field) (y.field? field) := by
    refine (H.children h).find? (fun c hc => ?_) fun c c' hc => ?_
    · rw [hc.field]
      rfl
    · rw [hc.field]
  generalize hx : x.field? field = n, y.field? field = n' at hfind ⊢
  cases hfind with
  | none => exact .none
  | @some c c' hc =>
      have hfield : c.data.field = some field := by simpa using List.find?_some hx
      refine .some (hc.related.imp_right fun ⟨hK, field', hfield', hkey⟩ => ⟨hK, ?_⟩)
      rw [hfield] at hfield'
      rwa [Option.some.inj hfield']

/-- What fills a field of another sort is related. -/
theorem field? (h : R x y) (field : String) (hkey : ¬ KeyField x.kind field) :
    Option.Rel R (x.field? field) (y.field? field) :=
  option_rel_mono (H.field?_keyed h field) fun _ _ hc => hc.resolve_right fun hK => hkey hK.2

theorem field?_cases (h : R x y) (field : String) (hkey : ¬ KeyField x.kind field) :
    (x.field? field = none ∧ y.field? field = none) ∨
      ∃ c c', x.field? field = some c ∧ y.field? field = some c' ∧ R c c' := by
  have hfield := H.field? h field hkey
  generalize x.field? field = n, y.field? field = n' at hfield ⊢
  cases hfield with
  | none => exact .inl ⟨rfl, rfl⟩
  | some hn => exact .inr ⟨_, _, rfl, rfl, hn⟩

theorem isField_eq (h : R x y) (hc : R c c') {field : String} (hkey : ¬ KeyField x.kind field) :
    x.isField field c = y.isField field c' := by
  unfold Node.isField
  rcases H.field?_cases h field hkey with ⟨hx, hy⟩ | ⟨n, n', hx, hy, hn⟩
  · rw [hx, hy]
  · rw [hx, hy]
    exact H.alike hn hc

/-- The children of a node without keys are related. -/
theorem unkeyed (h : R x y) (hkey : ∀ field, ¬ KeyField x.kind field) :
    Matched Node.Mute R x.children y.children :=
  (H.children h).mono fun _ _ hc => hc.related.resolve_right fun ⟨_, field, _, hfield⟩ =>
    hkey field hfield

/-! ## Keys -/

theorem keyName?_eq {k k' : Option Node} (h : Option.Rel (fun c c' => R c c' ∨ K c c') k k') :
    keyName? k = keyName? k' := by
  cases h with
  | none => rfl
  | @some n n' hn =>
      rcases hn with hn | hn
      · unfold keyName?
        dsimp only
        have hname := H.name hn
        rw [H.kind hn] at hname ⊢
        split
        · rename_i hk
          rw [hname (by rcases hk with hk | hk <;> rw [hk] <;> decide)]
        · split
          · rename_i hk
            rw [hname (by rw [hk]; decide)]
          · rfl
      · exact H.key hn

theorem keyName?_field (h : R x y) (field : String) :
    keyName? (x.field? field) = keyName? (y.field? field) :=
  H.keyName?_eq (option_rel_mono (H.field?_keyed h field) fun _ _ hc => hc.imp_right And.left)

/-! ## Accesses -/

theorem startsAt_eq (h : R x y) : startsAt name x = startsAt name y := by
  unfold startsAt
  rcases H.field?_cases h "object" (not_keyField (by decide)) with
    ⟨hx, hy⟩ | ⟨n, n', hx, hy, hn⟩
  · rw [hx, hy]
  · rw [hx, hy]
    dsimp only
    rw [H.kind hn]
    split
    · rename_i hk
      rw [H.name hn (by rw [H.kind hn, hk]; decide)]
    · split
      · rename_i hk
        have hk : n.kind = "member_expression" := (H.kind hn).trans hk
        rcases H.field?_cases hn "object" (not_keyField (by decide)) with
          ⟨ht, ht'⟩ | ⟨this, this', ht, ht', hthis⟩
        · rw [ht, ht']
        · rcases H.field?_cases hn "property" (by rw [hk]; decide) with
            ⟨hp, hp'⟩ | ⟨p, p', hp, hp', -⟩
          · rw [ht, ht', hp, hp']
          · rw [ht, ht', hp, hp']
            dsimp only
            rw [H.kind hthis, H.property hn hk hp hp']
      · rfl

/-- **The way outwards is the same**: it leads past related nodes, and not beyond a node that is
no access. -/
theorem outward_alike {as bs : List Node} (h : R x y)
    (hs : Surroundings R as bs) :
    SameOutcome (fun p q => p.1 = q.1 ∧ Option.Rel (Around R) p.2 q.2)
      (outward x as) (outward y bs) := by
  have hkey : ∀ {x y}, R x y → keyName? (x.field? "property") = keyName? (y.field? "property") :=
    fun h => H.keyName?_field h "property"
  induction hs generalizing x y with
  | nil =>
      rw [outward, outward, hkey h]
      refine .bind_left fun key => ?_
      cases key with
      | none => exact .pure ⟨rfl, .none⟩
      | some field => exact .pure ⟨rfl, .some ⟨h, .nil⟩⟩
  | @step p p' ps ps' hp hps ih =>
      rw [outward, outward, hkey h, H.kind hp, H.isField_eq hp h (not_keyField (by decide))]
      refine .bind_left fun key => ?_
      cases key with
      | none => exact .pure ⟨rfl, .none⟩
      | some field =>
          -- if it does not go on further out, the way ends at these two
          have hhere : Around R ⟨x, p :: ps⟩ ⟨y, p' :: ps'⟩ := ⟨h, .step hp hps⟩
          dsimp only
          split
          · refine (ih hp).bind fun r r' hr => ?_
            obtain ⟨names, last⟩ := r
            obtain ⟨names', last'⟩ := r'
            obtain ⟨rfl, hlast⟩ := hr
            refine .pure ⟨rfl, ?_⟩
            cases hlast with
            | none => exact .some hhere
            | some hlast => exact .some hlast
          · exact .pure ⟨rfl, .some hhere⟩
  | @scope p p' ps ps' hp hkind =>
      rw [outward, outward, hkey h, ← H.kind hp]
      refine .bind_left fun key => ?_
      cases key with
      | none => exact .pure ⟨rfl, .none⟩
      | some field =>
          -- the scope is no access, so the way ends here
          dsimp only
          rw [if_neg fun hon => hkind hon.1, if_neg fun hon => hkind hon.1]
          exact .pure ⟨rfl, .some ⟨h, .scope hp hkind⟩⟩

theorem involvement?_alike (h : Around R f g) :
    Option.Rel R (involvement? f) (involvement? g) := by
  have hparent : ∀ {p p'}, R p p' → Option.Rel R
      (if p.kind = "call_expression" ∧ p.isField "function" f.node then some p
        else if p.kind ∈ assignmentKinds ∧ p.isField "left" f.node then some p else none)
      (if p'.kind = "call_expression" ∧ p'.isField "function" g.node then some p'
        else if p'.kind ∈ assignmentKinds ∧ p'.isField "left" g.node then some p' else none) := by
    intro p p' hp
    rw [H.kind hp, H.isField_eq hp h.node (not_keyField (by decide)),
      H.isField_eq hp h.node (not_keyField (by decide))]
    split
    · exact .some hp
    · split
      · exact .some hp
      · exact .none
  obtain ⟨n, above⟩ := f
  obtain ⟨n', above'⟩ := g
  cases h.above with
  | nil => exact .none
  | step hp => exact hparent hp
  | scope hp => exact hparent hp

theorem accessFragment_alike (h : Around R f g) :
    SameOutcome (Shape.Alike R) (accessFragment name f) (accessFragment name g) := by
  unfold accessFragment
  rw [H.startsAt_eq h.node]
  refine .bind_left fun starts => ?_
  split
  · refine (H.outward_alike h.node h.above).bind fun r r' hr => ?_
    obtain ⟨names, last⟩ := r
    obtain ⟨names', last'⟩ := r'
    obtain ⟨rfl, hlast⟩ := hr
    cases names with
    | nil => exact .pure .unknown
    | cons field names =>
        cases hlast with
        | none => exact .pure .unknown
        | some hlast => exact .pure (Shape.Alike.leaf (H.involvement?_alike hlast)).nest
  · exact .pure .unknown

/-! ## Paths -/

theorem objectChain_alike (h : R x y) :
    List.Forall₂ R (objectChain x) (objectChain y) := by
  induction x using Node.induction generalizing y with
  | mk d cs ih =>
      rw [objectChain_eq, objectChain_eq]
      refine .cons h ?_
      rcases H.field?_cases h "object" (not_keyField (by decide)) with
        ⟨hx, hy⟩ | ⟨c, c', hx, hy, hc⟩
      · rw [hx, hy]
        exact .nil
      · rw [hx, hy]
        exact ih c (Node.mem_of_field? hx) hc

theorem chainPath?_eq {chain chain' : List Node}
    (h : List.Forall₂ R chain chain') : chainPath? name chain = chainPath? name chain' := by
  induction h with
  | nil => rfl
  | @cons n n' rest rest' hn hrest ih =>
      rw [chainPath?, chainPath?, H.kind hn, H.keyName?_field hn "property", ih]
      split
      · rename_i hk
        rw [H.name hn (by rw [H.kind hn, hk]; decide)]
      · cases hrest with
        | nil => rfl
        | cons ho _ =>
            split
            · refine bind_congr fun key => ?_
              cases key with
              | none => rfl
              | some property =>
                  dsimp only
                  rw [H.kind ho]
            · rfl

theorem path?_eq {e e' : Option Node} (h : Option.Rel R e e') :
    path? name e = path? name e' := by
  cases h with
  | none => rfl
  | some hn => exact H.chainPath?_eq (H.objectChain_alike hn)

/-! ## Patterns and literals -/

theorem patternElement?_alike (h : R x y)
    (hpair : SameOutcome (Option.Rel (Shape.Alike R)) (pairPatternShape? x) (pairPatternShape? y)) :
    SameOutcome (Option.Rel (FieldAlike R)) (patternElement? x) (patternElement? y) := by
  unfold patternElement?
  rw [H.isContent_eq h, H.kind h, H.keyName?_field h "key"]
  split
  · exact .pure .none
  · split
    · rename_i hk
      rw [H.name h (by rw [H.kind h, hk]; decide)]
      exact .bind_left fun text => .pure (.some ⟨rfl, .unknown⟩)
    · split
      · rcases H.field?_cases h "left" (not_keyField (by decide)) with
          ⟨hx, hy⟩ | ⟨left, left', hx, hy, hleft⟩
        · rw [hx, hy]
          exact .pure .none
        · rw [hx, hy]
          dsimp only
          rw [H.kind hleft]
          split
          · rename_i hk
            rw [H.name hleft (by rw [H.kind hleft, hk]; decide)]
            have hright := H.field? h "right" (not_keyField (by decide))
            exact .bind_left fun text => .pure (.some ⟨rfl, .leaf hright⟩)
          · exact .pure .none
      · split
        · refine .bind_left fun key => ?_
          cases key with
          | none => exact .pure .none
          | some key =>
              refine hpair.bind fun s t hst => .pure ?_
              cases hst with
              | none => exact .none
              | some hst => exact .some ⟨rfl, hst⟩
        · exact .pure .none

/-- **Related patterns tell objects that are alike, and so do all their parts.** -/
theorem pattern_alike (h : R x y) :
    (x.kind = "object_pattern" →
        SameOutcome (Shape.Alike R) (patternShape x) (patternShape y)) ∧
      SameOutcome (Shape.Alike R) (boundShape x) (boundShape y) ∧
      SameOutcome (Option.Rel (Shape.Alike R)) (pairPatternShape? x) (pairPatternShape? y) := by
  -- each of the three asks another one of a node further down, so they go through together
  induction x using Node.induction generalizing y with
  | mk d cs ih =>
      have hpattern : (Node.mk d cs).kind = "object_pattern" →
          SameOutcome (Shape.Alike R) (patternShape (.mk d cs)) (patternShape y) := by
        intro hk
        rw [patternShape_eq, patternShape_eq]
        refine withFields_alike (fun _ hc => patternElement?_mute hc)
          (H.unkeyed h fun field => ?_) ?_ .unknown
        · rw [hk]
          simp [KeyField, classFieldKinds]
        · exact fun c hc c' hR => H.patternElement?_alike hR (ih c hc hR).2.2
      have hright := H.field? h "right" (not_keyField (by decide))
      refine ⟨hpattern, ?_, ?_⟩
      · rw [boundShape_eq, boundShape_eq, ← H.kind h]
        split
        · exact hpattern ‹_›
        · split
          · rcases H.field?_cases h "left" (not_keyField (by decide)) with
              ⟨hx, hy⟩ | ⟨left, left', hx, hy, hleft⟩
            · rw [hx, hy]
              exact .pure (.leaf hright)
            · rw [hx, hy]
              dsimp only
              rw [← H.kind hleft]
              split
              · exact (ih left (Node.mem_of_field? hx) hleft).1 ‹_›
              · exact .pure (.leaf hright)
          · exact .pure .unknown
      · rw [pairPatternShape?_eq, pairPatternShape?_eq]
        rcases H.field?_cases h "value" (not_keyField (by decide)) with
          ⟨hx, hy⟩ | ⟨value, value', hx, hy, hvalue⟩
        · rw [hx, hy]
          exact .pure .none
        · rw [hx, hy]
          exact (ih value (Node.mem_of_field? hx) hvalue).2.1.bind fun s t hst => .pure (.some hst)

theorem literalMember?_alike (h : R x y)
    (hpair : SameOutcome (Shape.Alike R) (pairShape x) (pairShape y)) :
    SameOutcome (Option.Rel (FieldAlike R)) (literalMember? x) (literalMember? y) := by
  unfold literalMember?
  rw [H.isContent_eq h, H.kind h, H.keyName?_field h "key"]
  split
  · exact .pure .none
  · split
    · rename_i hk
      rw [H.name h (by rw [H.kind h, hk]; decide)]
      exact .bind_left fun text => .pure (.some ⟨rfl, .unknown⟩)
    · split
      · refine .bind_left fun key => ?_
        cases key with
        | none => exact .pure .none
        | some key => exact hpair.bind fun s t hst => .pure (.some ⟨rfl, hst⟩)
      · exact .pure .none

theorem hasContent_eq (h : R x y) (hkey : ∀ field, ¬ KeyField x.kind field) :
    x.children.any Node.isContent = y.children.any Node.isContent :=
  (H.unkeyed h hkey).any_eq (fun _ hc => hc.isContent) fun _ _ hc => H.isContent_eq hc

/-- **Related literals tell objects that are alike, and so do all their parts.** -/
theorem literal_alike (h : R x y) :
    (x.kind = "object" → SameOutcome (Shape.Alike R) (literalShape x) (literalShape y)) ∧
      SameOutcome (Shape.Alike R) (valueShape x) (valueShape y) ∧
      SameOutcome (Shape.Alike R) (pairShape x) (pairShape y) := by
  induction x using Node.induction generalizing y with
  | mk d cs ih =>
      have hobject : (Node.mk d cs).kind = "object" →
          ∀ field, ¬ KeyField (Node.mk d cs).kind field := by
        intro hk field
        rw [hk]
        simp [KeyField, classFieldKinds]
      have hliteral : (Node.mk d cs).kind = "object" →
          SameOutcome (Shape.Alike R) (literalShape (.mk d cs)) (literalShape y) := by
        intro hk
        rw [literalShape_eq, literalShape_eq]
        refine withFields_alike (fun _ hc => literalMember?_mute hc) (H.unkeyed h (hobject hk)) ?_
          .unknown
        exact fun c hc c' hR => H.literalMember?_alike hR (ih c hc hR).2.2
      refine ⟨hliteral, ?_, ?_⟩
      · rw [valueShape_eq, valueShape_eq, ← H.kind h]
        by_cases hk : (Node.mk d cs).kind = "object"
        · rw [H.hasContent_eq h (hobject hk)]
          split
          · exact hliteral hk
          · exact .pure (.leaf (.some h))
        · rw [if_neg fun hon => hk hon.1, if_neg fun hon => hk hon.1]
          exact .pure (.leaf (.some h))
      · rw [pairShape_eq, pairShape_eq]
        rcases H.field?_cases h "value" (not_keyField (by decide)) with
          ⟨hx, hy⟩ | ⟨value, value', hx, hy, hvalue⟩
        · rw [hx, hy]
          exact .pure (.leaf .none)
        · rw [hx, hy]
          exact (ih value (Node.mem_of_field? hx) hvalue).2.1

/-! ## Fragments -/

theorem describedFragment_alike {kind : String} {shapeOf : Node → Except Fault Fragment}
    (hshape : ∀ x y, R x y → x.kind = kind →
      SameOutcome (Shape.Alike R) (shapeOf x) (shapeOf y))
    {n n' t t' : Option Node} (hn : Option.Rel R n n') (ht : Option.Rel R t t') :
    SameOutcome (Shape.Alike R) (describedFragment kind shapeOf name n t)
      (describedFragment kind shapeOf name n' t') := by
  unfold describedFragment
  cases hn with
  | none => exact .pure .unknown
  | some hn =>
      dsimp only
      rw [← H.kind hn, H.path?_eq ht]
      split
      · rename_i hk
        refine .bind_left fun path => ?_
        cases path with
        | none => exact .pure .unknown
        | some path => exact (hshape _ _ hn hk).bind fun s t hst => .pure hst.nest
      · exact .pure .unknown

theorem classFieldFragment_alike (h : R x y) :
    SameOutcome (Shape.Alike R) (classFieldFragment name x) (classFieldFragment name y) := by
  have hname : ∀ field, Option.Rel (fun c c' => R c c' ∨ K c c') (x.field? field)
      (y.field? field) :=
    fun field => option_rel_mono (H.field?_keyed h field) fun _ _ hc => hc.imp_right And.left
  unfold classFieldFragment
  rw [H.keyName?_eq (option_rel_orElse (hname "name") (hname "property"))]
  refine .bind_left fun key => ?_
  split
  · rcases H.field?_cases h "value" (not_keyField (by decide)) with
      ⟨hx, hy⟩ | ⟨value, value', hx, hy, hvalue⟩
    · rw [hx, hy]
      exact .pure .unknown
    · rw [hx, hy]
      dsimp only
      rw [← H.kind hvalue]
      split
      · exact (H.literal_alike hvalue).1 ‹_›
      · exact .pure .unknown
  · exact .pure .unknown

/-- **Two places tell fragments that are alike.** -/
theorem fragment_alike (h : Stands R f g) :
    SameOutcome (Shape.Alike R) (fragment name f) (fragment name g) := by
  unfold fragment
  dsimp only
  rw [← H.kind h.node]
  split
  · rename_i hk
    exact H.accessFragment_alike ⟨h.node, h.above hk⟩
  · split
    · rename_i hk
      exact H.describedFragment_alike (fun _ _ h => (H.pattern_alike h).1)
        (H.field? h.node "name" (by rw [hk]; decide))
        (H.field? h.node "value" (by rw [hk]; decide))
    · split
      · exact H.describedFragment_alike (fun _ _ h => (H.literal_alike h).1)
          (H.field? h.node "right" (not_keyField (by decide)))
          (H.field? h.node "left" (not_keyField (by decide)))
      · split
        · exact H.classFieldFragment_alike h.node
        · exact .pure .unknown

/-! ## Scopes -/

/-- The places of two scopes go together, but for some in the first one that are no usages. -/
theorem descendants (h : Stands R f g) :
    Matched (fun p => p.node.kind ∉ usageKinds) (Paired R) f.descendants g.descendants := by
  obtain ⟨n, above⟩ := f
  induction n using Node.induction generalizing above g with
  | mk d cs ih =>
      rw [Focus.descendants_eq_flatMap, Focus.descendants_eq_flatMap]
      refine .cons (.inl h) ?_
      refine (H.children h.node).flatMap (fun c _ hc => ?_) fun c hmem c' hc => ?_
      · -- there is nothing below a comment
        rw [Focus.descendants_eq_flatMap]
        show Matched _ _ (_ :: c.children.flatMap _) []
        rw [hc.children]
        refine .skip ?_ .nil
        show c.kind ∉ usageKinds
        rw [hc.kind]
        decide
      · rcases hc.related with hR | ⟨hK, -⟩
        · exact ih c hmem _ (h.child hR)
        · -- the second key stands alone, so what is below the first one is left over
          rw [Focus.descendants_eq_flatMap, Focus.descendants_eq_flatMap (g.child c')]
          show Matched _ _ _ (_ :: c'.children.flatMap _)
          rw [H.bare hK]
          refine .cons (.inr ⟨H.idle hK .root, H.plain hK⟩) (Matched.of_skip fun p hp => ?_)
          obtain ⟨n, hn, hp⟩ := List.mem_flatMap.mp hp
          have hbelow := (Focus.mem_descendants_iff.mp hp).within
          exact H.idle hK ((Node.Within.child .root hn).trans hbelow)

/-- **Related scopes tell shapes that are alike.** -/
theorem gather_alike (h : Stands R f g) :
    SameOutcome (Option.Rel (Shape.Alike R)) (gather f name) (gather g name) := by
  have hfragments : SameOutcome (Matched (· = .unknown) (Shape.Alike R)) (fragments f name)
      (fragments g name) := by
    refine (H.descendants h).mapM (fun p hp => ⟨_, fragment_of_kind hp, rfl⟩) fun p q hpq => ?_
    rcases hpq with hpq | ⟨hp, hq⟩
    · exact H.fragment_alike hpq
    · rw [fragment_of_kind hp, fragment_of_kind hq]
      exact .ok .unknown
  unfold gather
  refine hfragments.bind fun ss ts hst => ?_
  have hshape := foldl_merge_alike hst .unknown
  dsimp only
  rw [hshape.isUnknown_eq]
  split
  · exact .pure .none
  · exact .pure (.some hshape)

end Likeness

end Usage

/-- **Scopes that resemble each other tell shapes that are alike.** -/
theorem Syntax.Resemblance.gather_alike (H : Resemblance R) (h : Stands R f g) :
    SameOutcome (Option.Rel (Shape.Alike R)) (Usage.gather f name) (Usage.gather g name) :=
  (Usage.Likeness.of_resemblance H).gather_alike h

end ScriptTypes
