import ScriptTypes.Proofs.Fragments
import ScriptTypes.Proofs.Nodes
import ScriptTypes.Proofs.ShapeMap

/-!
# Trees that resemble each other

What is inferred from a tree depends on what its nodes say of themselves and on how they stand to
each other, and not on which nodes they are. A *resemblance* is a relation between the nodes of
two trees that keeps all that matters: related nodes say the same, and their children go
together, one by one, in the fields that they fill. Comments of the first tree may lack in the
second one.

For every step of the inference there is one lemma: at related nodes it comes to the same. What
stands around a node matters only as far as accesses to members go, so it is enough if the nodes
around two places are related up to the first one that is no such access.
-/

namespace ScriptTypes

/-! ## Lists that go together -/

/-- Two lists go together, but for members of the first one that are skipped. -/
inductive Matched {α β : Type} (skip : α → Prop) (r : α → β → Prop) : List α → List β → Prop where
  | nil : Matched skip r [] []
  | cons {a : α} {b : β} {as : List α} {bs : List β} : r a b → Matched skip r as bs →
      Matched skip r (a :: as) (b :: bs)
  | skip {a : α} {as : List α} {bs : List β} : skip a → Matched skip r as bs →
      Matched skip r (a :: as) bs

section Lists

variable {α β γ δ : Type} {skip : α → Prop} {skip' : γ → Prop} {r : α → β → Prop}
  {r' : γ → δ → Prop} {as as' : List α} {bs bs' : List β}

theorem option_rel_head? (h : List.Forall₂ r as bs) : Option.Rel r as.head? bs.head? := by
  cases h with
  | nil => exact .none
  | cons hab _ => exact .some hab

theorem option_rel_mono {r₂ : α → β → Prop} {a : Option α} {b : Option β} (h : Option.Rel r a b)
    (hr : ∀ a b, r a b → r₂ a b) : Option.Rel r₂ a b := by
  cases h with
  | none => exact .none
  | some h => exact .some (hr _ _ h)

theorem option_rel_orElse {a a' : Option α} {b b' : Option β} (h : Option.Rel r a b)
    (h' : Option.Rel r a' b') : Option.Rel r (a <|> a') (b <|> b') := by
  cases h with
  | none => exact h'
  | some h => exact .some h

namespace Matched

theorem of_forall₂ (h : List.Forall₂ r as bs) : Matched skip r as bs := by
  induction h with
  | nil => exact .nil
  | cons hab _ ih => exact .cons hab ih

/-- Lists go together one by one if no member is skipped. -/
theorem forall₂ (h : Matched (fun _ => False) r as bs) : List.Forall₂ r as bs := by
  induction h with
  | nil => exact .nil
  | cons hab _ ih => exact .cons hab ih
  | skip hfalse _ _ => exact hfalse.elim

/-- A list that is skipped goes with nothing. -/
theorem of_skip (h : ∀ a ∈ as, skip a) : Matched skip r as [] := by
  induction as with
  | nil => exact .nil
  | cons a as ih =>
      exact .skip (h a List.mem_cons_self) (ih fun a ha => h a (List.mem_cons_of_mem _ ha))

theorem mono {r₂ : α → β → Prop} (h : Matched skip r as bs) (hr : ∀ a b, r a b → r₂ a b) :
    Matched skip r₂ as bs := by
  induction h with
  | nil => exact .nil
  | cons hab _ ih => exact .cons (hr _ _ hab) ih
  | skip hskip _ ih => exact .skip hskip ih

theorem append (h : Matched skip r as bs) (h' : Matched skip r as' bs') :
    Matched skip r (as ++ as') (bs ++ bs') := by
  induction h with
  | nil => exact h'
  | cons hab _ ih => exact .cons hab ih
  | skip hskip _ ih => exact .skip hskip ih

theorem flatMap {f : α → List γ} {g : β → List δ} (h : Matched skip r as bs)
    (hskip : ∀ a ∈ as, skip a → Matched skip' r' (f a) [])
    (hr : ∀ a ∈ as, ∀ b, r a b → Matched skip' r' (f a) (g b)) :
    Matched skip' r' (as.flatMap f) (bs.flatMap g) := by
  induction h with
  | nil => exact .nil
  | @cons a b as bs hab _ ih =>
      rw [List.flatMap_cons, List.flatMap_cons]
      exact (hr a List.mem_cons_self b hab).append
        (ih (fun a ha => hskip a (List.mem_cons_of_mem _ ha))
          fun a ha => hr a (List.mem_cons_of_mem _ ha))
  | @skip a as bs ha _ ih =>
      rw [List.flatMap_cons, ← List.nil_append (bs.flatMap g)]
      exact (hskip a List.mem_cons_self ha).append
        (ih (fun a ha => hskip a (List.mem_cons_of_mem _ ha))
          fun a ha => hr a (List.mem_cons_of_mem _ ha))

/-- What is chosen goes together if nothing is chosen that is skipped. -/
theorem filter {p : α → Bool} {q : β → Bool} (h : Matched skip r as bs)
    (hskip : ∀ a, skip a → p a = false) (hr : ∀ a b, r a b → p a = q b) :
    List.Forall₂ r (as.filter p) (bs.filter q) := by
  induction h with
  | nil => exact .nil
  | @cons a b _ _ hab _ ih =>
      rw [List.filter_cons, List.filter_cons, hr a b hab]
      cases q b with
      | true => exact .cons hab ih
      | false => exact ih
  | @skip a _ _ ha _ ih =>
      rw [List.filter_cons, hskip a ha]
      exact ih

theorem find? {p : α → Bool} {q : β → Bool} (h : Matched skip r as bs)
    (hskip : ∀ a, skip a → p a = false) (hr : ∀ a b, r a b → p a = q b) :
    Option.Rel r (as.find? p) (bs.find? q) := by
  rw [← List.head?_filter, ← List.head?_filter]
  exact option_rel_head? (h.filter hskip hr)

theorem any_eq {p : α → Bool} {q : β → Bool} (h : Matched skip r as bs)
    (hskip : ∀ a, skip a → p a = false) (hr : ∀ a b, r a b → p a = q b) :
    as.any p = bs.any q := by
  induction h with
  | nil => rfl
  | cons hab _ ih => rw [List.any_cons, List.any_cons, hr _ _ hab, ih]
  | skip ha _ ih => rw [List.any_cons, hskip _ ha, Bool.false_or, ih]

/-- Going through two lists that go together ends alike if no skipped member fails. -/
theorem mapM {ε : Type} {f : α → Except ε γ} {g : β → Except ε δ} (h : Matched skip r as bs)
    (hskip : ∀ a, skip a → ∃ c, f a = .ok c ∧ skip' c)
    (hr : ∀ a b, r a b → SameOutcome r' (f a) (g b)) :
    SameOutcome (Matched skip' r') (as.mapM f) (bs.mapM g) := by
  induction h with
  | nil => exact .pure .nil
  | cons hab _ ih =>
      rw [List.mapM_cons, List.mapM_cons]
      exact (hr _ _ hab).bind fun c d hcd => ih.bind fun cs ds hrest => .pure (.cons hcd hrest)
  | @skip a as bs ha _ ih =>
      obtain ⟨c, hc, hskipped⟩ := hskip a ha
      rw [List.mapM_cons, hc]
      -- the results of the others stay as they are, with one more in front
      have hrest : SameOutcome (Matched skip' r') (as.mapM f >>= fun cs => pure (c :: cs))
          (bs.mapM g >>= pure) := ih.bind fun cs ds hrest => .pure (.skip hskipped hrest)
      rwa [bind_pure] at hrest

end Matched

end Lists

namespace Syntax

/-! ## Resemblances -/

/-- A comment with nothing below it that fills no field. -/
structure Node.Mute (n : Node) : Prop where
  /-- It is a comment. -/
  kind : n.kind = "comment"
  /-- It fills no field. -/
  field : n.data.field = none
  /-- There is nothing below it. -/
  children : n.children = []

theorem Node.Mute.isContent {n : Node} (h : n.Mute) : n.isContent = false := by
  unfold Node.isContent
  rw [h.kind, bne_self_eq_false, Bool.and_false]

/-- Related siblings fill the same field. -/
def Siblings (R : Node → Node → Prop) (c c' : Node) : Prop := R c c' ∧ c.data.field = c'.data.field

/-- Related nodes say the same of themselves, and their children go together. -/
structure Resemblance (R : Node → Node → Prop) : Prop where
  /-- They are of one kind. -/
  kind : ∀ {x y}, R x y → x.kind = y.kind
  /-- They start at the same offset. -/
  start : ∀ {x y}, R x y → x.start = y.start
  /-- They end at the same offset. -/
  stop : ∀ {x y}, R x y → x.stop = y.stop
  /-- Both are bare tokens, or neither is. -/
  named : ∀ {x y}, R x y → x.named = y.named
  /-- They have the same bytes. -/
  bytes : ∀ {x y}, R x y → x.data.bytes = y.data.bytes
  /-- Their children go together, but for comments. -/
  children : ∀ {x y}, R x y → Matched Node.Mute (Siblings R) x.children y.children

variable {R : Node → Node → Prop} {x y c c' : Node} {f g : Focus}

/-- The nodes above two places are related, as far as an access to a member leads. -/
inductive Surroundings (R : Node → Node → Prop) : List Node → List Node → Prop where
  | nil : Surroundings R [] []
  | step {p p' : Node} {ps ps' : List Node} : R p p' → Surroundings R ps ps' →
      Surroundings R (p :: ps) (p' :: ps')
  /-- Behind a node that is no such access anything may stand. -/
  | scope {p p' : Node} {ps ps' : List Node} : R p p' → p.kind ≠ "member_expression" →
      Surroundings R (p :: ps) (p' :: ps')

/-- Two places at related nodes in such surroundings. -/
structure Around (R : Node → Node → Prop) (f g : Focus) : Prop where
  /-- The nodes are related. -/
  node : R f.node g.node
  /-- What stands above them matches. -/
  above : Surroundings R f.above g.above

/-- Two places at related nodes whose surroundings match if they matter at all. -/
structure Stands (R : Node → Node → Prop) (f g : Focus) : Prop where
  /-- The nodes are related. -/
  node : R f.node g.node
  /-- If the node is an access to a member, what stands above it matches. -/
  above : f.node.kind = "member_expression" → Surroundings R f.above g.above

/-- What stands above two children matches: the nodes themselves do. -/
theorem Stands.child (h : Stands R f g) (hc : R c c') : Stands R (f.child c) (g.child c') where
  node := hc
  above := by
    intro _
    by_cases hk : f.node.kind = "member_expression"
    · exact .step h.node (h.above hk)
    · exact .scope h.node hk

namespace Resemblance

variable (H : Resemblance R)

include H

theorem text_eq (h : R x y) : x.text = y.text := by
  unfold Node.text
  rw [H.bytes h]

theorem span_eq (h : R x y) : x.span = y.span := by
  unfold Node.span
  rw [H.start h, H.stop h]

theorem isContent_eq (h : R x y) : x.isContent = y.isContent := by
  unfold Node.isContent
  rw [H.named h, H.kind h]

theorem namedChildren (h : R x y) : List.Forall₂ (Siblings R) x.namedChildren y.namedChildren :=
  (H.children h).filter (fun _ hc => hc.isContent) fun _ _ hc => H.isContent_eq hc.1

theorem field? (h : R x y) (field : String) : Option.Rel R (x.field? field) (y.field? field) := by
  have hfind : Option.Rel (Siblings R) (x.field? field) (y.field? field) := by
    refine (H.children h).find? (fun c hc => ?_) fun c c' hc => ?_
    · rw [hc.field]
      rfl
    · rw [hc.2]
  exact option_rel_mono hfind fun _ _ hc => hc.1

theorem field?_cases (h : R x y) (field : String) :
    (x.field? field = none ∧ y.field? field = none) ∨
      ∃ c c', x.field? field = some c ∧ y.field? field = some c' ∧ R c c' := by
  have hfield := H.field? h field
  generalize x.field? field = n, y.field? field = n' at hfield ⊢
  cases hfield with
  | none => exact .inl ⟨rfl, rfl⟩
  | some hn => exact .inr ⟨_, _, rfl, rfl, hn⟩

theorem childOfKind? (h : R x y) {kinds : List String} (hkinds : "comment" ∉ kinds) :
    Option.Rel R (x.childOfKind? kinds) (y.childOfKind? kinds) := by
  have hfind : Option.Rel (Siblings R) (x.childOfKind? kinds) (y.childOfKind? kinds) := by
    refine (H.children h).find? (fun c hc => ?_) fun c c' hc => ?_
    · exact decide_eq_false fun hmem => hkinds (hc.kind ▸ hmem)
    · rw [H.kind hc.1]
  exact option_rel_mono hfind fun _ _ hc => hc.1

theorem hasChild_eq (h : R x y) {kind : String} (hkind : kind ≠ "comment") :
    x.hasChild kind = y.hasChild kind := by
  refine (H.children h).any_eq (fun c hc => ?_) fun c c' hc => ?_
  · rw [hc.kind]
    exact beq_false_of_ne hkind.symm
  · rw [H.kind hc.1]

theorem isField_eq (h : R x y) (hc : R c c') (field : String) :
    x.isField field c = y.isField field c' := by
  have hfield := H.field? h field
  unfold Node.isField
  generalize x.field? field = n, y.field? field = n' at hfield ⊢
  cases hfield with
  | none => rfl
  | some hn =>
      dsimp only [Node.alike]
      rw [H.kind hn, H.start hn, H.stop hn, H.kind hc, H.start hc, H.stop hc]

/-- The places in two trees go together, but for comments, if going down keeps them together. -/
theorem descendants {S : Focus → Focus → Prop} (hnode : ∀ {f g}, S f g → R f.node g.node)
    (hchild : ∀ {f g c c'}, S f g → R c c' → S (f.child c) (g.child c')) (h : S f g) :
    Matched (fun p => p.node.Mute) S f.descendants g.descendants := by
  obtain ⟨n, above⟩ := f
  induction n using Node.induction generalizing above g with
  | mk d cs ih =>
      rw [Focus.descendants_eq_flatMap, Focus.descendants_eq_flatMap]
      refine .cons h ?_
      refine (H.children (hnode h)).flatMap (fun c _ hc => ?_) fun c hmem c' hc => ?_
      · -- there is nothing below a comment
        rw [Focus.descendants_eq_flatMap]
        show Matched _ _ (_ :: c.children.flatMap _) []
        rw [hc.children]
        exact .skip hc .nil
      · exact ih c hmem _ (hchild h hc.1)

/-! ## Types -/

/-- The types of elements come to the same if those of related elements are the same. -/
theorem elementType_eq {cs cs' : List Node} {shared : Option InferredType}
    (h : Matched Node.Mute (Siblings R) cs cs')
    (htype : ∀ c ∈ cs, ∀ c', R c c' → inferType? c = inferType? c') :
    elementType shared cs = elementType shared cs' := by
  induction h generalizing shared with
  | nil => rfl
  | @cons c c' cs cs' hc _ ih =>
      have hrest : ∀ shared, elementType shared cs = elementType shared cs' :=
        fun _ => ih fun c hc => htype c (List.mem_cons_of_mem _ hc)
      rw [elementType, elementType, H.isContent_eq hc.1, H.kind hc.1,
        htype c List.mem_cons_self c' hc.1]
      simp only [hrest]
  | skip hc _ ih =>
      rw [elementType, hc.isContent, if_neg Bool.false_ne_true]
      exact ih fun c hc => htype c (List.mem_cons_of_mem _ hc)

omit H in
theorem assignedType?_eq {cs cs' : List Node} (h : Matched Node.Mute (Siblings R) cs cs')
    (htype : ∀ c ∈ cs, ∀ c', R c c' → inferType? c = inferType? c') :
    assignedType? cs = assignedType? cs' := by
  induction h with
  | nil => rfl
  | @cons c c' cs cs' hc _ ih =>
      rw [assignedType?, assignedType?, hc.2, htype c List.mem_cons_self c' hc.1,
        ih fun c hc => htype c (List.mem_cons_of_mem _ hc)]
  | skip hc _ ih =>
      rw [assignedType?, hc.field, if_neg (by simp)]
      exact ih fun c hc => htype c (List.mem_cons_of_mem _ hc)

theorem isBigIntCall_eq (h : R x y) : isBigIntCall x = isBigIntCall y := by
  have hcallee := H.field? h "function"
  unfold isBigIntCall
  generalize x.field? "function" = n, y.field? "function" = n' at hcallee ⊢
  cases hcallee with
  | none => rfl
  | some hn =>
      dsimp only
      rw [H.kind hn, H.text_eq hn]

/-- **Related expressions tell the same type.** -/
theorem inferType?_eq (h : R x y) : inferType? x = inferType? y := by
  induction x using Node.induction generalizing y with
  | mk d cs ih =>
      obtain ⟨d', cs'⟩ := y
      have hkind : d.kind = d'.kind := H.kind h
      have hbytes : d.bytes = d'.bytes := H.bytes h
      have hchildren : Matched Node.Mute (Siblings R) cs cs' := H.children h
      have htype : ∀ c ∈ cs, ∀ c', R c c' → inferType? c = inferType? c' :=
        fun c hc c' hR => ih c hc hR
      rw [inferType?, inferType?, hkind, hbytes, H.elementType_eq hchildren htype,
        assignedType?_eq hchildren htype, H.isBigIntCall_eq h]

theorem inferTypeOf?_eq {e e' : Option Node} (h : Option.Rel R e e') :
    inferTypeOf? e = inferTypeOf? e' := by
  cases h with
  | none => rfl
  | some hn => exact H.inferType?_eq hn

end Resemblance

end Syntax

end ScriptTypes
