import ScriptTypes.Proofs.Fragments
import ScriptTypes.Proofs.InferredTypes
import ScriptTypes.Proofs.Reparsed

/-!
# What is read after the edits

Everything that a decision reads off a tree is read off names, strings and numerals, off
kinds, and off who fills which field of whom. All of this is the same in the tree after
the edits. What is read is therefore the same as well, or at least it tells nothing where
it told nothing before.
-/

namespace ScriptTypes.Annotation.Reparsed

open Syntax Usage

variable {doc : Document} {edits : List Edit} {root : Kept} {p : Place} {name : String}

/-! ## Names and accesses -/

theorem keyName?_after (H : Reparsed doc edits root) (hp : (Place.ofRoot root).Below p) :
    keyName? (some p.node.after) = keyName? (some p.node.before) := by
  unfold keyName?
  dsimp only
  rw [show p.node.after.kind = p.node.before.kind from H.kind_eq hp]
  split
  · rename_i hk
    have htext : p.node.after.text = p.node.before.text := by
      rcases hk with hk | hk
      · exact H.text_eq_of_kind hp hk (by decide)
      · exact H.text_eq_of_kind hp hk (by decide)
    rw [htext]
  · split
    · rename_i hk
      rw [H.text_eq_of_kind hp hk (by decide)]
    · rfl

/-- The name of a field that is a key is the same. -/
theorem keyName?_field (H : Reparsed doc edits root) (hp : (Place.ofRoot root).Below p)
    {field : String} (hf : field ≠ "type" ∧ field ≠ "type_arguments") :
    keyName? (p.node.after.field? field) = keyName? (p.node.before.field? field) := by
  rw [H.field?_after hp hf, Kept.field?_before]
  cases hc : p.node.field? field with
  | none => rfl
  | some c => exact H.keyName?_after (below_child hp (Kept.mem_of_find? hc))

theorem startsAt_after (H : Reparsed doc edits root) (hp : (Place.ofRoot root).Below p) :
    startsAt name p.node.after = startsAt name p.node.before := by
  unfold startsAt
  rw [H.field?_after hp (by decide), Kept.field?_before]
  cases ho : p.node.field? "object" with
  | none => rfl
  | some object =>
      have hobject := below_child hp (Kept.mem_of_find? ho)
      have hkind : object.after.kind = object.before.kind := H.kind_eq hobject
      dsimp only [Option.map_some]
      rw [hkind]
      split
      · rename_i hk
        have htext : object.after.text = object.before.text :=
          H.text_eq_of_kind hobject hk (by decide)
        rw [htext]
      · split
        · have hfields : ∀ {field : String}, field ≠ "type" ∧ field ≠ "type_arguments" →
              object.after.field? field = (object.field? field).map Kept.after :=
            fun hf => H.field?_after hobject hf
          rw [hfields (by decide), hfields (by decide), Kept.field?_before, Kept.field?_before]
          cases ht : object.field? "object" with
          | none => rfl
          | some this =>
              cases hn : object.field? "property" with
              | none => rfl
              | some property =>
                  have hthis : this.after.kind = this.before.kind :=
                    H.kind_eq (below_child hobject (Kept.mem_of_find? ht))
                  have htext : property.after.text = property.before.text :=
                    H.property_text_eq hobject hn
                  dsimp only [Option.map_some]
                  rw [hthis, htext]
        · rfl

/-- The path from a binding to an expression is the same. -/
theorem chainPath?_after (H : Reparsed doc edits root) (hp : (Place.ofRoot root).Below p) :
    chainPath? name (objectChain p.node.after) = chainPath? name (objectChain p.node.before) := by
  obtain ⟨k, above⟩ := p
  induction k using Kept.induction generalizing above with
  | mk k ih =>
      have hkind : k.after.kind = k.before.kind := H.kind_eq hp
      have hkey : keyName? (k.after.field? "property") = keyName? (k.before.field? "property") :=
        H.keyName?_field hp (by decide)
      have hafter : k.after.field? "object" = (k.field? "object").map Kept.after :=
        H.field?_after hp (by decide)
      have hbefore : k.before.field? "object" = (k.field? "object").map Kept.before :=
        Kept.field?_before
      show chainPath? name (objectChain k.after) = chainPath? name (objectChain k.before)
      rw [objectChain_eq, objectChain_eq k.before, chainPath?, chainPath?, hkind, hkey, hafter,
        hbefore]
      split
      · rename_i hk
        have htext : k.after.text = k.before.text :=
          H.text_eq_of_kind hp hk (by decide)
        rw [htext]
      · split
        · cases ho : k.field? "object" with
          | none => rfl
          | some object =>
              have hmem := Kept.mem_of_find? ho
              have hobject : object.after.kind = object.before.kind :=
                H.kind_eq (below_child hp hmem)
              have hpath := ih object hmem _ (below_child hp hmem)
              dsimp only [Option.map_some, Option.getD_some]
              rw [show chainPath? name (objectChain object.after) =
                chainPath? name (objectChain object.before) from hpath]
              rw [objectChain_eq object.after, objectChain_eq object.before]
              refine bind_congr fun key => ?_
              cases key with
              | none => rfl
              | some key =>
                  dsimp only
                  rw [hobject]
        · rfl

/-! ## Patterns and literals that tell nothing -/

/-- Where no child tells a field, no child tells one after the edits. -/
theorem withFields_after (H : Reparsed doc edits root) (hp : (Place.ofRoot root).Below p)
    (habove : p.above ≠ []) (hk : p.node.old.kind ∉ ownerKinds)
    {tell? : Node → Except Fault (Option (String × Fragment))}
    (htell : ∀ q, (Place.ofRoot root).Below q → tell? q.node.before = .ok none →
      tell? q.node.after = .ok none)
    (h : withFields tell? .unknown p.node.before.children = .ok .unknown) :
    withFields tell? .unknown p.node.after.children = .ok .unknown := by
  rw [withFields_eq_unknown_iff, Kept.children_before, befores_eq] at h
  rw [withFields_eq_unknown_iff, H.children_after hp habove hk]
  intro n hn
  obtain ⟨c, hc, rfl⟩ := List.mem_map.mp hn
  exact htell _ (below_child hp hc) (h _ (List.mem_map_of_mem hc))

/-- An element of a pattern that tells no field tells none after the edits. -/
theorem patternElement?_after (H : Reparsed doc edits root) (hp : (Place.ofRoot root).Below p)
    (h : patternElement? p.node.before = .ok none) : patternElement? p.node.after = .ok none := by
  unfold patternElement? at h ⊢
  have hkind : p.node.after.kind = p.node.before.kind := H.kind_eq hp
  rw [H.isContent_eq hp, hkind, H.keyName?_field hp (by decide), H.field?_after hp (by decide)]
  rw [Kept.field?_before] at h
  split at h
  · rename_i hc
    rw [if_pos hc]
    rfl
  · rename_i hc
    rw [if_neg hc]
    split at h
    · -- a shorthand tells a field
      obtain ⟨_, _, h⟩ := bind_eq_ok.mp h
      cases pure_eq_ok.mp h
    · rename_i hk₁
      rw [if_neg hk₁]
      split at h
      · rename_i hk₂
        rw [if_pos hk₂]
        cases hl : p.node.field? "left" with
        | none => rfl
        | some left =>
            rw [hl] at h
            have hleft : left.after.kind = left.before.kind :=
              H.kind_eq (below_child hp (Kept.mem_of_find? hl))
            dsimp only [Option.map_some] at h ⊢
            rw [hleft]
            split at h
            · -- so does a shorthand with a default
              obtain ⟨_, _, h⟩ := bind_eq_ok.mp h
              cases pure_eq_ok.mp h
            · rename_i hk₃
              rw [if_neg hk₃]
              rfl
      · rename_i hk₂
        rw [if_neg hk₂]
        split at h
        · rename_i hk₃
          rw [if_pos hk₃]
          obtain ⟨key, hkey, h⟩ := bind_eq_ok.mp h
          rw [hkey]
          cases key with
          | none => rfl
          | some key =>
              obtain ⟨shape, hshape, h⟩ := bind_eq_ok.mp h
              obtain rfl := Option.map_eq_none_iff.mp (pure_eq_ok.mp h)
              rw [pairPatternShape?_eq, Kept.field?_before] at hshape
              rw [pairPatternShape?_eq, H.field?_after hp (by decide)]
              cases hv : p.node.field? "value" with
              | none => rfl
              | some value =>
                  -- and a pair with a key and a value
                  rw [hv] at hshape
                  obtain ⟨_, _, hshape⟩ := bind_eq_ok.mp hshape
                  cases pure_eq_ok.mp hshape
        · rename_i hk₃
          rw [if_neg hk₃]
          rfl

/-- A pattern that tells nothing tells nothing after the edits. -/
theorem patternShape_after (H : Reparsed doc edits root) (hp : (Place.ofRoot root).Below p)
    (habove : p.above ≠ []) (hk : p.node.old.kind ∉ ownerKinds)
    (h : patternShape p.node.before = .ok .unknown) :
    patternShape p.node.after = .ok .unknown := by
  rw [patternShape_eq] at h ⊢
  exact H.withFields_after hp habove hk (fun _ hq => H.patternElement?_after hq) h

/-- A member of a literal that tells no field tells none after the edits. -/
theorem literalMember?_after (H : Reparsed doc edits root) (hp : (Place.ofRoot root).Below p)
    (h : literalMember? p.node.before = .ok none) : literalMember? p.node.after = .ok none := by
  unfold literalMember? at h ⊢
  have hkind : p.node.after.kind = p.node.before.kind := H.kind_eq hp
  rw [H.isContent_eq hp, hkind, H.keyName?_field hp (by decide)]
  split at h
  · rename_i hc
    rw [if_pos hc]
    rfl
  · rename_i hc
    rw [if_neg hc]
    split at h
    · obtain ⟨_, _, h⟩ := bind_eq_ok.mp h
      cases pure_eq_ok.mp h
    · rename_i hk₁
      rw [if_neg hk₁]
      split at h
      · rename_i hk₂
        rw [if_pos hk₂]
        obtain ⟨key, hkey, h⟩ := bind_eq_ok.mp h
        rw [hkey]
        cases key with
        | none => rfl
        | some key =>
            -- a pair with a key tells a field
            obtain ⟨_, _, h⟩ := bind_eq_ok.mp h
            cases pure_eq_ok.mp h
      · rename_i hk₂
        rw [if_neg hk₂]
        rfl

/-- A literal that tells nothing tells nothing after the edits. -/
theorem literalShape_after (H : Reparsed doc edits root) (hp : (Place.ofRoot root).Below p)
    (habove : p.above ≠ []) (hk : p.node.old.kind ∉ ownerKinds)
    (h : literalShape p.node.before = .ok .unknown) :
    literalShape p.node.after = .ok .unknown := by
  rw [literalShape_eq] at h ⊢
  exact H.withFields_after hp habove hk (fun _ hq => H.literalMember?_after hq) h

/-! ## Usages -/

theorem nest_eq_unknown {path : List String} {s : Fragment}
    (h : Shape.nest path s = .unknown) : path = [] ∧ s = .unknown := by
  cases path with
  | nil => exact ⟨rfl, h⟩
  | cons field path => cases h

theorem outward_of_nameless {access : Node} {above : List Node}
    (h : keyName? (access.field? "property") = .ok none) :
    outward access above = .ok ([], none) := by
  cases above with
  | nil => rw [outward, h]; rfl
  | cons parent above => rw [outward, h]; rfl

theorem accessFragment_after (H : Reparsed doc edits root) (hp : (Place.ofRoot root).Below p)
    (h : accessFragment name p.before = .ok .unknown) :
    accessFragment name p.after = .ok .unknown := by
  unfold accessFragment at h ⊢
  rw [Place.node_after, H.startsAt_after hp]
  obtain ⟨starts, hstarts, h⟩ := bind_eq_ok.mp h
  rw [show startsAt name p.node.before = .ok starts from hstarts]
  cases starts with
  | false => rfl
  | true =>
      rw [if_pos rfl] at h
      obtain ⟨⟨fields, outermost⟩, hout, h⟩ := bind_eq_ok.mp h
      rcases gives_outward.sound _ hout with ⟨_, hnone⟩ | ⟨last, hlast, hchain⟩
      · have hnone' : keyName? (p.node.after.field? "property") = .ok none := by
          rw [H.keyName?_field hp (by decide)]
          exact hnone
        refine bind_eq_ok.mpr ⟨true, rfl, ?_⟩
        rw [if_pos rfl]
        exact bind_eq_ok.mpr ⟨_, outward_of_nameless hnone', rfl⟩
      · -- the access has a name, so something was told
        dsimp only at hlast hchain
        subst hlast
        obtain ⟨field, fields, rfl⟩ := List.exists_cons_of_ne_nil hchain.ne_nil
        cases pure_eq_ok.mp h

/-- A description that tells nothing tells nothing after the edits, if its shape does not. -/
theorem describedFragment_after (H : Reparsed doc edits root) (hp : (Place.ofRoot root).Below p)
    {kind description target : String} {shapeOf : Node → Except Fault Fragment}
    (hd : description ≠ "type" ∧ description ≠ "type_arguments")
    (ht : target ≠ "type" ∧ target ≠ "type_arguments")
    (hshape : ∀ q, (Place.ofRoot root).Below q → q.above ≠ [] → q.node.old.kind = kind →
      shapeOf q.node.before = .ok .unknown → shapeOf q.node.after = .ok .unknown)
    (h : describedFragment kind shapeOf name (p.node.before.field? description)
      (p.node.before.field? target) = .ok .unknown) :
    describedFragment kind shapeOf name (p.node.after.field? description)
      (p.node.after.field? target) = .ok .unknown := by
  rw [H.field?_after hp hd, H.field?_after hp ht]
  rw [Kept.field?_before, Kept.field?_before] at h
  unfold describedFragment at h ⊢
  cases hn : p.node.field? description with
  | none => rfl
  | some n =>
      rw [hn] at h
      have hbelow := below_child hp (Kept.mem_of_find? hn)
      have hkind : n.after.kind = n.before.kind := H.kind_eq hbelow
      dsimp only [Option.map_some] at h ⊢
      rw [hkind]
      split at h
      · rename_i hk
        rw [if_pos hk]
        cases hv : p.node.field? target with
        | none => rfl
        | some value =>
            rw [hv] at h
            obtain ⟨path, hpath, h⟩ := bind_eq_ok.mp h
            have hpath' : path? name (some value.after) = .ok path :=
              (H.chainPath?_after (below_child hp (Kept.mem_of_find? hv))).trans hpath
            rw [Option.map_some, hpath']
            cases path with
            | none => rfl
            | some path =>
                obtain ⟨shape, hs, h⟩ := bind_eq_ok.mp h
                obtain ⟨rfl, rfl⟩ := nest_eq_unknown (pure_eq_ok.mp h)
                have hs' := hshape _ hbelow (List.cons_ne_nil _ _) hk hs
                refine bind_eq_ok.mpr ⟨_, rfl, ?_⟩
                exact bind_eq_ok.mpr ⟨_, hs', rfl⟩
      · rename_i hk
        rw [if_neg hk]
        rfl

theorem classFieldFragment_after (H : Reparsed doc edits root) (hp : (Place.ofRoot root).Below p)
    (h : classFieldFragment name p.node.before = .ok .unknown) :
    classFieldFragment name p.node.after = .ok .unknown := by
  have hkey : keyName? (p.node.after.field? "name" <|> p.node.after.field? "property") =
      keyName? (p.node.before.field? "name" <|> p.node.before.field? "property") := by
    rw [H.field?_after hp (by decide), H.field?_after hp (by decide), Kept.field?_before,
      Kept.field?_before]
    cases hn : p.node.field? "name" with
    | some c => exact H.keyName?_after (below_child hp (Kept.mem_of_find? hn))
    | none =>
        cases hc : p.node.field? "property" with
        | none => rfl
        | some c => exact H.keyName?_after (below_child hp (Kept.mem_of_find? hc))
  unfold classFieldFragment at h ⊢
  obtain ⟨key, hk, h⟩ := bind_eq_ok.mp h
  rw [hkey]
  refine bind_eq_ok.mpr ⟨key, hk, ?_⟩
  split at h
  · rename_i hname
    rw [if_pos hname, H.field?_after hp (by decide)]
    rw [Kept.field?_before] at h
    cases hv : p.node.field? "value" with
    | none => rfl
    | some value =>
        rw [hv] at h
        have hvalue := below_child hp (Kept.mem_of_find? hv)
        have hkind : value.after.kind = value.before.kind := H.kind_eq hvalue
        dsimp only [Option.map_some] at h ⊢
        rw [hkind]
        split at h
        · rename_i hobject
          rw [if_pos hobject]
          refine H.literalShape_after hvalue (List.cons_ne_nil _ _) ?_ h
          simp [ownerKinds, show value.old.kind = _ from hobject]
        · rename_i hobject
          rw [if_neg hobject]
          rfl
  · rename_i hname
    rw [if_neg hname]
    rfl

/-- **A node that tells nothing tells nothing after the edits.** -/
theorem fragment_after (H : Reparsed doc edits root) (hp : (Place.ofRoot root).Below p)
    (h : fragment name p.before = .ok .unknown) : fragment name p.after = .ok .unknown := by
  have hkind : p.after.node.kind = p.before.node.kind := H.kind_eq hp
  unfold fragment at h ⊢
  dsimp only at h ⊢
  rw [hkind]
  split at h
  · rename_i hk
    rw [if_pos hk]
    exact H.accessFragment_after hp h
  · rename_i hk₁
    rw [if_neg hk₁]
    split at h
    · rename_i hk
      rw [if_pos hk]
      refine H.describedFragment_after hp (by decide) (by decide) (fun q hq habove hkq hs => ?_) h
      exact H.patternShape_after hq habove (by simp [ownerKinds, hkq]) hs
    · rename_i hk₂
      rw [if_neg hk₂]
      split at h
      · rename_i hk
        rw [if_pos hk]
        refine H.describedFragment_after hp (by decide) (by decide) (fun q hq habove hkq hs => ?_) h
        exact H.literalShape_after hq habove (by simp [ownerKinds, hkq]) hs
      · rename_i hk₃
        rw [if_neg hk₃]
        split at h
        · rename_i hk
          rw [if_pos hk]
          exact H.classFieldFragment_after hp h
        · rename_i hk₄
          rw [if_neg hk₄]
          rfl

/-- Nothing is told by a node that nothing dispatches on. -/
theorem fragment_of_inert {f : Focus} (hk : f.node.kind ∉ dispatchedKinds) :
    fragment name f = .ok .unknown := by
  refine fragment_of_kind fun hmem => hk ?_
  -- a usage is among the kinds that are dispatched on
  exact (by decide : usageKinds ⊆ dispatchedKinds) hmem

/-- **A scope that tells nothing of a binding tells nothing of it after the edits.** -/
theorem gather_after (H : Reparsed doc edits root) (hp : (Place.ofRoot root).Below p)
    (h : gather p.before name = .ok none) : gather p.after name = .ok none := by
  rw [gather_eq_none_iff] at h ⊢
  intro f hf
  -- a node of the scope was there before, or it is in an annotation
  rcases Place.below_after (Focus.mem_descendants_iff.mp hf) with
    ⟨q, hq, rfl⟩ | ⟨q, n, hq, hn, hwithin⟩
  · exact H.fragment_after (hp.trans hq) (h _ (Focus.mem_descendants_iff.mpr hq.before))
  · exact fragment_of_inert ((H.added q n (hp.trans hq) hn).1.kinds _ hwithin)

/-! ## Types and values -/

/-- An expression that tells no type tells none after the edits. -/
theorem inferType?_after (H : Reparsed doc edits root) (hp : (Place.ofRoot root).Below p)
    (h : inferType? p.node.before = .ok none) : inferType? p.node.after = .ok none := by
  obtain ⟨k, above⟩ := p
  -- the induction is on the kept node; only an assignment looks further down
  induction k using Kept.induction generalizing above with
  | mk k ih =>
      have hkind : k.new.kind = k.old.kind := H.kind_eq hp
      replace h : inferType? (.mk k.old (befores k.children)) = .ok none := h
      show inferType? (.mk k.new (afters k.children)) = .ok none
      rw [inferType?] at h ⊢
      rw [hkind]
      split at h
      · obtain ⟨_, _, h⟩ := bind_eq_ok.mp h
        cases pure_eq_ok.mp h
      · rename_i hk₁
        rw [if_neg hk₁]
        cases hl : InferredType.ofLiteral? k.old.kind with
        | some t =>
            rw [hl] at h
            cases pure_eq_ok.mp h
        | none =>
            rw [hl] at h
            dsimp only at h ⊢
            split at h
            · rename_i hk₂
              have hbytes : k.new.bytes = k.old.bytes :=
                (H.same _ hp).text (.inl (by simp [textualKinds, hk₂]))
              rw [if_pos hk₂, hbytes]
              exact h
            · rename_i hk₂
              rw [if_neg hk₂]
              split at h
              · obtain ⟨_, _, h⟩ := bind_eq_ok.mp h
                cases pure_eq_ok.mp h
              · rename_i hk₃
                rw [if_neg hk₃]
                split at h
                · -- the type of an assignment is that of what is assigned
                  rename_i hk₄
                  rw [if_pos hk₄, assignedType?_eq]
                  rw [assignedType?_eq] at h
                  have hafter : Node.firstIn "right" (afters k.children) =
                      (k.field? "right").map Kept.after := H.field?_after hp (by decide)
                  have hbefore : Node.firstIn "right" (befores k.children) =
                      (k.field? "right").map Kept.before := Kept.field?_before
                  rw [hafter]
                  rw [hbefore] at h
                  cases hr : k.field? "right" with
                  | none => rfl
                  | some right =>
                      rw [hr] at h
                      have hmem := Kept.mem_of_find? hr
                      exact ih right hmem _ (below_child hp hmem) h
                · rename_i hk₄
                  rw [if_neg hk₄]
                  split at h
                  · obtain ⟨_, _, h⟩ := bind_eq_ok.mp h
                    cases pure_eq_ok.mp h
                  · rename_i hk₅
                    rw [if_neg hk₅]
                    rfl

theorem isNullish_after (H : Reparsed doc edits root) (hp : (Place.ofRoot root).Below p) :
    isNullish p.node.after = isNullish p.node.before := by
  have hkind : p.node.after.kind = p.node.before.kind := H.kind_eq hp
  unfold isNullish
  rw [hkind]
  split
  · rfl
  · split
    · rename_i hk
      rw [H.text_eq_of_kind hp hk (by decide)]
    · rfl

theorem namedChildren_after (H : Reparsed doc edits root) (hp : (Place.ofRoot root).Below p)
    (habove : p.above ≠ []) (hk : p.node.old.kind ∉ ownerKinds) :
    p.node.after.namedChildren = [] ↔ p.node.before.namedChildren = [] := by
  unfold Node.namedChildren
  rw [H.children_after hp habove hk, Kept.children_before, befores_eq, List.filter_eq_nil_iff,
    List.filter_eq_nil_iff, List.forall_mem_map, List.forall_mem_map]
  refine forall₂_congr fun c hc => ?_
  rw [show c.after.isContent = c.before.isContent from H.isContent_eq (below_child hp hc)]

/-- Whether the value of a declarator leaves its type open is the same, and what it tells then. -/
theorem openValue?_after (H : Reparsed doc edits root) (hp : (Place.ofRoot root).Below p)
    {expression : Option (Option Node)}
    (h : openValue? (p.node.before.field? "value") = .ok expression) :
    ∃ expression', openValue? (p.node.after.field? "value") = .ok expression' ∧
      (expression = none → expression' = none) ∧
      ∀ e, expression = some e → ∃ e', expression' = some e' ∧
        (inferTypeOf? e = .ok none → inferTypeOf? e' = .ok none) := by
  rw [H.field?_after hp (by decide)]
  rw [Kept.field?_before] at h
  cases hv : p.node.field? "value" with
  | none =>
      rw [hv] at h
      obtain rfl := pure_eq_ok.mp h
      refine ⟨some none, rfl, by simp, fun e he => ?_⟩
      obtain rfl := Option.some.inj he
      exact ⟨none, rfl, id⟩
  | some v =>
      rw [hv] at h
      have hbelow := below_child hp (Kept.mem_of_find? hv)
      have hkind : v.after.kind = v.before.kind := H.kind_eq hbelow
      have hnull : isNullish v.after = isNullish v.before := H.isNullish_after hbelow
      unfold openValue? at h ⊢
      dsimp only [Option.map_some] at h ⊢
      rw [hnull, hkind]
      obtain ⟨null, hn, h⟩ := bind_eq_ok.mp h
      rw [hn]
      cases null with
      | true =>
          -- there is nothing to tell the type by, before and after
          obtain rfl := pure_eq_ok.mp h
          refine ⟨some none, rfl, by simp, fun e he => ?_⟩
          obtain rfl := Option.some.inj he
          exact ⟨none, rfl, id⟩
      | false =>
          rw [if_neg (by simp)] at h
          split at h
          · -- an empty list stays empty, since nothing is added to it
            rename_i hk
            obtain rfl := pure_eq_ok.mp h
            have hempty : v.after.namedChildren = [] :=
              (H.namedChildren_after hbelow (List.cons_ne_nil _ _)
                (by simp [ownerKinds, show v.old.kind = _ from hk.1])).mpr hk.2
            refine ⟨some (some v.after), ?_, by simp, fun e he => ?_⟩
            · refine bind_eq_ok.mpr ⟨false, rfl, ?_⟩
              rw [if_neg (by simp), if_pos ⟨hk.1, hempty⟩]
              rfl
            · obtain rfl := Option.some.inj he
              exact ⟨_, rfl, H.inferType?_after hbelow⟩
          · rename_i hk
            obtain rfl := pure_eq_ok.mp h
            refine ⟨none, ?_, fun _ => rfl, by simp⟩
            refine bind_eq_ok.mpr ⟨false, rfl, ?_⟩
            rw [if_neg (by simp), if_neg]
            · rfl
            · rintro ⟨harray, hempty⟩
              refine hk ⟨harray, ?_⟩
              exact (H.namedChildren_after hbelow (List.cons_ne_nil _ _)
                (by simp [ownerKinds, show v.old.kind = _ from harray])).mp hempty

/-- Whether a class is one that components extend is the same. -/
theorem isComponentClass_after (H : Reparsed doc edits root) (hp : (Place.ofRoot root).Below p) :
    isComponentClass p.node.after = isComponentClass p.node.before := by
  have hkind : p.node.after.kind = p.node.before.kind := H.kind_eq hp
  unfold isComponentClass
  rw [hkind, H.field?_after hp (by decide), Kept.field?_before]
  split
  · rename_i hk
    rw [H.text_eq_of_kind hp hk (by decide)]
  · split
    · cases hc : p.node.field? "property" with
      | none => rfl
      | some property =>
          dsimp only [Option.map_some]
          rw [H.property_text_eq hp hc]
    · rfl

/-! ## Surroundings -/

/-- A place is a child of the place of its parent. -/
theorem mem_of_parent? (hp : (Place.ofRoot root).Below p) {q : Place} (hq : p.parent? = some q) :
    (Place.ofRoot root).Below q ∧ p.node ∈ q.node.keptChildren := by
  cases hp with
  | self => cases hq
  | child hbelow hc =>
      obtain rfl := Option.some.inj hq
      exact ⟨hbelow, hc⟩

theorem inLoopHead_after (H : Reparsed doc edits root) (hw : WellFormed doc.root)
    (hp : (Place.ofRoot root).Below p) : inLoopHead p.after = inLoopHead p.before := by
  unfold inLoopHead
  rw [Place.parent?_after, Place.parent?_before]
  cases hd : p.parent? with
  | none => rfl
  | some declaration =>
      obtain ⟨hdeclaration, _⟩ := mem_of_parent? hp hd
      dsimp only [Option.map_some]
      rw [Place.parent?_after, Place.parent?_before]
      cases hl : declaration.parent? with
      | none => rfl
      | some loop =>
          obtain ⟨hloop, hmem⟩ := mem_of_parent? hdeclaration hl
          have hkind : loop.after.node.kind = loop.before.node.kind := H.kind_eq hloop
          have hbody : loop.after.node.isField "body" declaration.after.node =
              loop.before.node.isField "body" declaration.before.node :=
            H.isField_after hw hloop (by decide) hmem
          dsimp only [Option.map_some]
          rw [hkind, hbody]

/-- The scope of a list of parameters is at the same place. -/
theorem parameterScope?_after (H : Reparsed doc edits root) (hp : (Place.ofRoot root).Below p) :
    parameterScope? p.before = none ∧ parameterScope? p.after = none ∨
      ∃ s, (Place.ofRoot root).Below s ∧ parameterScope? p.before = some s.before ∧
        parameterScope? p.after = some s.after := by
  unfold parameterScope?
  rw [H.findAncestor?_after hp, Place.findAncestor?_before, Place.parent?_after,
    Place.parent?_before]
  cases ha : p.findAncestor? functionKinds with
  | some s =>
      have hmem : s ∈ Place.chain p.above := List.mem_of_find?_eq_some ha
      exact .inr ⟨s, hp.chain s hmem, rfl, rfl⟩
  | none =>
      cases hparent : p.parent? with
      | none => exact .inl ⟨rfl, rfl⟩
      | some s => exact .inr ⟨s, (mem_of_parent? hp hparent).1, rfl, rfl⟩

/-- The range of a node is one after the edits. -/
theorem span_after (H : Reparsed doc edits root) (hw : WellFormed doc.root)
    (hp : (Place.ofRoot root).Below p) : ∃ span, p.node.after.span = .ok span := by
  have hwithin : doc.root.Within p.node.before := by
    rw [← H.before]
    exact (Place.Below.before hp).within
  have hle : p.node.after.start ≤ p.node.after.stop :=
    (H.same p hp).ordered (hw.ordered _ hwithin)
  exact ⟨_, dif_pos (Int.ofNat_le.mpr hle)⟩

/-- The class whose constructor a scope is can still be told. -/
theorem constructedClass?_after (H : Reparsed doc edits root) (hw : WellFormed doc.root)
    (hp : (Place.ofRoot root).Below p) {range : Option Span}
    (h : constructedClass? p.before = .ok range) :
    ∃ range', constructedClass? p.after = .ok range' := by
  have hkind : p.after.node.kind = p.before.node.kind := H.kind_eq hp
  unfold constructedClass? at h ⊢
  rw [hkind, Place.parent?_after, Place.node_after, H.field?_after hp (by decide)]
  rw [Place.parent?_before, Place.node_before, Kept.field?_before] at h
  split at h
  · rename_i hk
    rw [Place.node_before, if_pos hk]
    cases hm : p.node.field? "name" with
    | none => exact ⟨_, rfl⟩
    | some method =>
        rw [hm] at h
        obtain ⟨text, htext, h⟩ := bind_eq_ok.mp h
        obtain ⟨text', htext'⟩ := (H.same_child hp (Kept.mem_of_find? hm)).readable ⟨text, htext⟩
        -- the name of the method may be another one, but that there is a range does not hang on it
        replace htext' : method.after.text = .ok text' := htext'
        dsimp only [Option.map_some]
        rw [htext']
        show ∃ range', (if text' = "constructor" then _ else _) = _
        by_cases hc : text' = "constructor"
        · rw [if_pos hc]
          cases hbody : p.parent? with
          | none => exact ⟨_, rfl⟩
          | some body =>
              rw [Option.map_some, Option.bind_some, Place.parent?_after]
              cases hd : body.parent? with
              | none => exact ⟨_, rfl⟩
              | some declaration =>
                  have hdeclaration := (mem_of_parent? (mem_of_parent? hp hbody).1 hd).1
                  obtain ⟨span, hspan⟩ := H.span_after hw hdeclaration
                  exact ⟨some span, bind_eq_ok.mpr ⟨span, hspan, rfl⟩⟩
        · rw [if_neg hc]
          exact ⟨_, rfl⟩
  · rename_i hk
    rw [Place.node_before, if_neg hk]
    exact ⟨_, rfl⟩

/-- A parameter that was given no interface of a component is given none where there are none. -/
theorem constructorProps?_after (H : Reparsed doc edits root) (hw : WellFormed doc.root)
    (hp : (Place.ofRoot root).Below p) {d e : Draft} {props : Option String}
    (h : d.constructorProps? p.before name = .ok props) (he : e.propsInterfaces = []) :
    e.constructorProps? p.after name = .ok none := by
  unfold Draft.constructorProps? at h ⊢
  split at h
  · rename_i hname
    obtain ⟨range, hrange, _⟩ := bind_eq_ok.mp h
    obtain ⟨range', hrange'⟩ := H.constructedClass?_after hw hp hrange
    rw [if_pos hname, hrange', he]
    cases range' <;> rfl
  · rename_i hname
    rw [if_neg hname]
    rfl

end ScriptTypes.Annotation.Reparsed
