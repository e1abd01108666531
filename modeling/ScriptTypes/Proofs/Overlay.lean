import Mathlib.Data.List.Find
import ScriptTypes.Proofs.Tree

/-!
# A tree before and after

When a source changes a little, its tree does as well. To speak of both trees at once,
and of which node of the one is which node of the other, they are laid on top of each
other: an overlay is a tree of which every node was either kept, perhaps with changes,
or added with everything below it. Leaving out what was added gives the tree before;
looking at what the kept nodes have become gives the tree after.

Walking the two trees goes the same way, but for what was added, and looking for a child
finds the same child, unless what was added is what is looked for.
-/

namespace ScriptTypes.Syntax

/-- What became of a node. -/
inductive Overlay where
  /-- It was kept: what it said of itself before, what it says after, and what is below it. -/
  | kept (old new : NodeData) (children : List Overlay)
  /-- It was added. -/
  | added (node : Node)

/-- A node that was kept. -/
structure Kept where
  /-- What it said of itself. -/
  old : NodeData
  /-- What it says of itself now. -/
  new : NodeData
  /-- What became of its children, and what was added among them. -/
  children : List Overlay

/-- The node, if it was kept. -/
def Overlay.kept? : Overlay → Option Kept
  | .kept old new children => some ⟨old, new, children⟩
  | .added _ => none

mutual

/-- The node as it was, if it was there. -/
def Overlay.before? : Overlay → Option Node
  | .kept old _ children => some (.mk old (befores children))
  | .added _ => none

/-- What was there before. -/
def befores : List Overlay → List Node
  | [] => []
  | o :: os => o.before?.toList ++ befores os

end

mutual

/-- The node as it is now. -/
def Overlay.after : Overlay → Node
  | .kept _ new children => .mk new (afters children)
  | .added node => node

/-- What is there after. -/
def afters : List Overlay → List Node
  | [] => []
  | o :: os => o.after :: afters os

end

/-- The nodes that were kept. -/
def keptOf (os : List Overlay) : List Kept := os.filterMap Overlay.kept?

namespace Kept

variable {k c : Kept}

/-- The node as it was. -/
def before (k : Kept) : Node := .mk k.old (befores k.children)

/-- The node as it is now. -/
def after (k : Kept) : Node := .mk k.new (afters k.children)

@[simp] theorem children_before : k.before.children = befores k.children := rfl

@[simp] theorem children_after : k.after.children = afters k.children := rfl

/-- The children that were kept. -/
def keptChildren (k : Kept) : List Kept := keptOf k.children

/-- Whether a node was added among the children. -/
def Gains (k : Kept) (n : Node) : Prop := .added n ∈ k.children

/-- What holds of a kept node as soon as it holds of its kept children holds of all of them. -/
theorem induction {motive : Kept → Prop}
    (mk : ∀ k : Kept, (∀ c ∈ k.keptChildren, motive c) → motive k) (k : Kept) : motive k := by
  obtain ⟨old, new, children⟩ := k
  have hkept : ∀ os : List Overlay, (∀ o ∈ os, ∀ c, o.kept? = some c → motive c) →
      ∀ c ∈ keptOf os, motive c := by
    intro os h c hc
    obtain ⟨o, ho, hc⟩ := List.mem_filterMap.mp hc
    exact h o ho c hc
  refine Overlay.rec (motive_1 := fun o => ∀ c, o.kept? = some c → motive c)
    (motive_2 := fun os => ∀ o ∈ os, ∀ c, o.kept? = some c → motive c)
    ?_ ?_ ?_ ?_ (.kept old new children) _ rfl
  · intro old new children ih c hc
    obtain rfl := Option.some.inj hc
    exact mk _ (hkept children ih)
  · intro node c hc
    cases hc
  · intro o ho
    cases ho
  · intro o os iho ihos o' ho'
    rcases List.mem_cons.mp ho' with rfl | ho'
    · exact iho
    · exact ihos o' ho'

end Kept

theorem befores_eq (os : List Overlay) : befores os = (keptOf os).map Kept.before := by
  induction os with
  | nil => rfl
  | cons o os ih =>
      cases o with
      | kept old new children => rw [befores, ih]; rfl
      | added node => rw [befores, ih]; rfl

theorem mem_afters {os : List Overlay} {n : Node} :
    n ∈ afters os ↔ (∃ k ∈ keptOf os, n = k.after) ∨ .added n ∈ os := by
  induction os with
  | nil => simp [afters, keptOf]
  | cons o os ih =>
      cases o with
      | kept old new children =>
          rw [afters, List.mem_cons, ih]
          simp [keptOf, Overlay.kept?, Overlay.after, Kept.after, or_assoc]
      | added node =>
          rw [afters, List.mem_cons, ih]
          simp only [keptOf, Overlay.kept?, Overlay.after, List.mem_cons, Overlay.added.injEq]
          exact or_left_comm

/-- Where nothing was added there are the kept nodes and no others. -/
theorem afters_eq {os : List Overlay} (h : ∀ n, .added n ∉ os) :
    afters os = (keptOf os).map Kept.after := by
  induction os with
  | nil => rfl
  | cons o os ih =>
      cases o with
      | kept old new children =>
          rw [afters, ih fun n hn => h n (List.mem_cons_of_mem _ hn)]
          rfl
      | added node => exact absurd List.mem_cons_self (h node)

/-- Of what is there after, what is never added is kept. -/
theorem filter_afters {os : List Overlay} {q : Node → Bool}
    (h : ∀ n, .added n ∈ os → q n = false) :
    (afters os).filter q = ((keptOf os).filter fun c => q c.after).map Kept.after := by
  induction os with
  | nil => rfl
  | cons o os ih =>
      have hrest := ih fun n hn => h n (List.mem_cons_of_mem _ hn)
      cases o with
      | kept old new children =>
          rw [afters, List.filter_cons, hrest]
          show _ = ((⟨old, new, children⟩ :: keptOf os).filter fun c => q c.after).map Kept.after
          rw [List.filter_cons]
          show (if q (Kept.after ⟨old, new, children⟩) = true then _ else _) = _
          split <;> rfl
      | added node =>
          rw [afters, Overlay.after, List.filter_cons, h node List.mem_cons_self, hrest]
          rfl

/-- The first one of a sort is added, or it was the first one before. -/
theorem head?_filter_afters {os : List Overlay} {q : Node → Bool}
    (h : ∀ c ∈ keptOf os, q c.after = q c.before) {n : Node}
    (hn : ((afters os).filter q).head? = some n) :
    .added n ∈ os ∨ ∃ c ∈ keptOf os, n = c.after ∧
      ((befores os).filter q).head? = some c.before := by
  induction os with
  | nil => cases hn
  | cons o os ih =>
      cases o with
      | kept old new children =>
          have hrest := ih fun c hc => h c (List.mem_cons_of_mem _ hc)
          have hq : q (Kept.after ⟨old, new, children⟩) = q (Kept.before ⟨old, new, children⟩) :=
            h _ List.mem_cons_self
          replace hn : ((Kept.after ⟨old, new, children⟩ :: afters os).filter q).head? = some n :=
            hn
          show _ ∨ ∃ c ∈ (⟨old, new, children⟩ :: keptOf os), n = c.after ∧
            ((Kept.before ⟨old, new, children⟩ :: befores os).filter q).head? = some c.before
          rw [List.filter_cons, hq] at hn
          rw [List.filter_cons]
          split at hn
          · rename_i htrue
            rw [if_pos htrue]
            obtain rfl := Option.some.inj hn
            exact .inr ⟨_, List.mem_cons_self, rfl, rfl⟩
          · rename_i hfalse
            rw [if_neg hfalse]
            refine (hrest hn).imp (List.mem_cons_of_mem _) ?_
            rintro ⟨c, hc, hnc, hhead⟩
            exact ⟨c, List.mem_cons_of_mem _ hc, hnc, hhead⟩
      | added node =>
          rw [afters, Overlay.after, List.filter_cons] at hn
          split at hn
          · obtain rfl := Option.some.inj hn
            exact .inl List.mem_cons_self
          · exact (ih h hn).imp (List.mem_cons_of_mem _) id

/-! ## Looking for a child -/

namespace Kept

variable {k : Kept} {q : NodeData → Bool}

/-- The first kept child that was such. -/
def find? (k : Kept) (q : NodeData → Bool) : Option Kept := k.keptChildren.find? fun c => q c.old

/-- The first kept child that fills the field. -/
def field? (k : Kept) (field : String) : Option Kept := k.find? fun d => d.field == some field

/-- The first kept child of one of the kinds. -/
def childOfKind? (k : Kept) (kinds : List String) : Option Kept :=
  k.find? fun d => decide (d.kind ∈ kinds)

theorem find?_before : (k.before.children.find? fun n => q n.data) = (k.find? q).map before := by
  rw [children_before, befores_eq, List.find?_map]
  rfl

/-- After a change the same child is found, if it is neither added nor changed in that respect. -/
theorem find?_after (hadded : ∀ n, k.Gains n → q n.data = false)
    (hkept : ∀ c ∈ k.keptChildren, q c.new = q c.old) :
    (k.after.children.find? fun n => q n.data) = (k.find? q).map after := by
  obtain ⟨old, new, children⟩ := k
  show ((afters children).find? fun n => q n.data) =
    ((keptOf children).find? fun c => q c.old).map after
  replace hkept : ∀ c ∈ keptOf children, q c.new = q c.old := hkept
  induction children with
  | nil => rfl
  | cons o os ih =>
      replace ih := ih (fun n hn => hadded n (List.mem_cons_of_mem _ hn))
      cases o with
      | kept old new children =>
          have hq : q new = q old := hkept ⟨old, new, children⟩ List.mem_cons_self
          have hrest := ih fun c hc => hkept c (List.mem_cons_of_mem _ hc)
          rw [afters, Overlay.after, List.find?_cons]
          show _ = ((⟨old, new, children⟩ :: keptOf os).find? fun c => q c.old).map after
          rw [List.find?_cons]
          dsimp only [Node.data_mk]
          rw [hq, hrest]
          cases q old <;> rfl
      | added node =>
          have hq : q node.data = false := hadded node List.mem_cons_self
          rw [afters, Overlay.after, List.find?_cons, hq]
          exact ih hkept

theorem mem_of_find? {c : Kept} (h : k.find? q = some c) : c ∈ k.keptChildren :=
  List.mem_of_find?_eq_some h

theorem of_find? {c : Kept} (h : k.find? q = some c) : q c.old = true := by
  unfold find? at h
  exact List.find?_some (p := fun c : Kept => q c.old) h

theorem field?_before {field : String} :
    k.before.field? field = (k.field? field).map before :=
  find?_before (q := fun d => d.field == some field)

theorem childOfKind?_before {kinds : List String} :
    k.before.childOfKind? kinds = (k.childOfKind? kinds).map before :=
  find?_before (q := fun d => decide (d.kind ∈ kinds))

end Kept

/-! ## Places -/

/-- A kept node and its ancestors. -/
structure Place where
  /-- The node. -/
  node : Kept
  /-- Its ancestors, nearest first. -/
  above : List Kept

namespace Place

variable {p q r : Place}

/-- The place in the tree before. -/
def before (p : Place) : Focus := ⟨p.node.before, p.above.map Kept.before⟩

/-- The place in the tree after. -/
def after (p : Place) : Focus := ⟨p.node.after, p.above.map Kept.after⟩

/-- The place of the root. -/
def ofRoot (root : Kept) : Place := ⟨root, []⟩

/-- The place of a kept child. -/
def child (p : Place) (c : Kept) : Place := ⟨c, p.node :: p.above⟩

@[simp] theorem node_before : p.before.node = p.node.before := rfl

@[simp] theorem node_after : p.after.node = p.node.after := rfl

@[simp] theorem node_child {c : Kept} : (p.child c).node = c := rfl

/-- The place of the parent. -/
def parent? (p : Place) : Option Place :=
  match p.above with
  | [] => none
  | k :: ks => some ⟨k, ks⟩

theorem parent?_before : p.before.parent? = p.parent?.map before := by
  obtain ⟨node, _ | ⟨k, ks⟩⟩ := p <;> rfl

theorem parent?_after : p.after.parent? = p.parent?.map after := by
  obtain ⟨node, _ | ⟨k, ks⟩⟩ := p <;> rfl

/-- The places of some ancestors, each with the ones that follow it above it. -/
def chain : List Kept → List Place
  | [] => []
  | k :: ks => ⟨k, ks⟩ :: chain ks

/-- The place of the nearest ancestor of one of the kinds. -/
def findAncestor? (p : Place) (kinds : List String) : Option Place :=
  (chain p.above).find? fun a => decide (a.node.old.kind ∈ kinds)

theorem findAncestor?_before {kinds : List String} :
    p.before.findAncestor? kinds = (p.findAncestor? kinds).map before := by
  have key : ∀ ks : List Kept, Focus.chain (ks.map Kept.before) = (chain ks).map before := by
    intro ks
    induction ks with
    | nil => rfl
    | cons k ks ih => rw [List.map_cons, Focus.chain, ih]; rfl
  unfold Focus.findAncestor? Focus.ancestors
  show (Focus.chain (p.above.map Kept.before)).find? _ = _
  rw [key, List.find?_map]
  rfl

/-- The same ancestor is found after a change, if kinds are kept. -/
theorem findAncestor?_after {kinds : List String} (h : ∀ a ∈ chain p.above,
      a.node.new.kind = a.node.old.kind) :
    p.after.findAncestor? kinds = (p.findAncestor? kinds).map after := by
  have key : ∀ ks : List Kept, Focus.chain (ks.map Kept.after) = (chain ks).map after := by
    intro ks
    induction ks with
    | nil => rfl
    | cons k ks ih => rw [List.map_cons, Focus.chain, ih]; rfl
  unfold Focus.findAncestor? Focus.ancestors findAncestor?
  show (Focus.chain (p.above.map Kept.after)).find? _ = _
  rw [key, List.find?_map]
  refine congrArg _ (List.find?_congr fun a ha => ?_)
  show decide (a.node.new.kind ∈ kinds) = _
  rw [h a ha]

/-- A place is below another one: it is the same or one of a kept child of a place below. -/
inductive Below (p : Place) : Place → Prop where
  | self : Below p p
  | child {q : Place} {c : Kept} : Below p q → c ∈ q.node.keptChildren → Below p (q.child c)

theorem Below.trans (hpq : p.Below q) (hqr : q.Below r) : p.Below r := by
  induction hqr with
  | self => exact hpq
  | child _ hc ih => exact .child ih hc

theorem Below.before (h : p.Below q) : p.before.Below q.before := by
  induction h with
  | self => exact .self
  | child _ hc ih =>
      refine .child ih ?_
      rw [node_before, Kept.children_before, befores_eq]
      exact List.mem_map_of_mem hc

/-- Ancestors below a root are places below it as well. -/
theorem Below.chain {root : Kept} (h : (ofRoot root).Below p) :
    ∀ a ∈ chain p.above, (ofRoot root).Below a := by
  induction h with
  | self => intro a ha; cases ha
  | @child q c hq _ ih =>
      intro a ha
      rcases List.mem_cons.mp ha with rfl | ha
      · exact hq
      · exact ih a ha

/-- A place in the tree after is that of a kept node, or it is in something that was added. -/
theorem below_after {g : Focus} (h : p.after.Below g) :
    (∃ q, p.Below q ∧ g = q.after) ∨ ∃ q n, p.Below q ∧ q.node.Gains n ∧ n.Within g.node := by
  induction h with
  | self => exact .inl ⟨p, .self, rfl⟩
  | @child g c _ hc ih =>
      rcases ih with ⟨q, hq, rfl⟩ | ⟨q, n, hq, hn, hwithin⟩
      · rcases mem_afters.mp hc with ⟨k, hk, rfl⟩ | hadded
        · exact .inl ⟨q.child k, .child hq hk, rfl⟩
        · exact .inr ⟨q, c, hq, hadded, .root⟩
      · exact .inr ⟨q, n, hq, hn, .child hwithin hc⟩

end Place

/-! ## The walk -/

mutual

/-- The places of what became of a node. -/
def Place.walk (above : List Kept) : Overlay → List Place
  | .kept old new children =>
    ⟨⟨old, new, children⟩, above⟩ :: walkAll (⟨old, new, children⟩ :: above) children
  | .added _ => []

/-- The places of what became of some siblings. -/
def Place.walkAll (above : List Kept) : List Overlay → List Place
  | [] => []
  | o :: os => walk above o ++ walkAll above os

end

namespace Place

variable {p : Place} {β : Type}

/-- The places below a place, in the order of the source. -/
def descendants (p : Place) : List Place := p :: walkAll (p.node :: p.above) p.node.children

theorem mem_walkAll {above : List Kept} {os : List Overlay} {q : Place} :
    q ∈ walkAll above os ↔ ∃ c ∈ keptOf os, q ∈ Place.descendants ⟨c, above⟩ := by
  induction os with
  | nil => simp [walkAll, keptOf]
  | cons o os ih =>
      rw [walkAll, List.mem_append, ih]
      cases o with
      | kept old new children => simp [keptOf, Overlay.kept?, walk, descendants]
      | added node => simp [keptOf, Overlay.kept?, walk]

theorem mem_descendants_iff_child {q : Place} :
    q ∈ p.descendants ↔ q = p ∨ ∃ c ∈ p.node.keptChildren, q ∈ (p.child c).descendants := by
  rw [descendants, List.mem_cons, mem_walkAll]
  rfl

/-- A kept child of a listed node is listed. -/
theorem child_mem_descendants {q : Place} {c : Kept} (hq : q ∈ p.descendants)
    (hc : c ∈ q.node.keptChildren) : q.child c ∈ p.descendants := by
  obtain ⟨k, above⟩ := p
  induction k using Kept.induction generalizing above with
  | mk k ih =>
      rw [mem_descendants_iff_child] at hq ⊢
      rcases hq with rfl | ⟨c', hc', hq⟩
      · exact .inr ⟨c, hc, List.mem_cons_self⟩
      · exact .inr ⟨c', hc', ih c' hc' _ hq⟩

/-- **The walk lists the places of the nodes that were kept, and no others.** -/
theorem mem_descendants_iff {q : Place} : q ∈ p.descendants ↔ p.Below q := by
  constructor
  · intro h
    obtain ⟨k, above⟩ := p
    induction k using Kept.induction generalizing above with
    | mk k ih =>
        rcases mem_descendants_iff_child.mp h with rfl | ⟨c, hc, h⟩
        · exact .self
        · exact (Below.child .self hc).trans (ih c hc _ h)
  · intro h
    induction h with
    | self => exact List.mem_cons_self
    | child _ hc ih => exact child_mem_descendants ih hc

/-- **Before a change, the walk goes to the places of the nodes that were kept.** -/
theorem descendants_before (p : Place) : p.before.descendants = p.descendants.map before := by
  obtain ⟨k, above⟩ := p
  induction k using Kept.induction generalizing above with
  | mk k ih =>
      have hall : ∀ os : List Overlay, (∀ c ∈ keptOf os, c ∈ k.keptChildren) →
          Focus.walkAll (k.before :: above.map Kept.before) (befores os) =
            (walkAll (k :: above) os).map before := by
        intro os hos
        induction os with
        | nil => rfl
        | cons o os ihos =>
            cases o with
            | kept old new children =>
                have hc := hos ⟨old, new, children⟩ List.mem_cons_self
                show Focus.walk _ (Kept.before ⟨old, new, children⟩) ++
                  Focus.walkAll _ (befores os) = _
                -- the walks of a kept child go the same way by induction, those of the rest as well
                rw [walkAll, List.map_append]
                rw [ihos fun c hc => hos c (List.mem_cons_of_mem _ hc)]
                exact congrArg (· ++ _) (ih _ hc (k :: above))
            | added node =>
                rw [befores, walkAll, walk, List.nil_append]
                exact ihos hos
      rw [Focus.descendants_eq, descendants, List.map_cons]
      exact congrArg _ (hall k.children fun c hc => hc)

/--
**After a change, the walk goes the same way**, as far as something is looked for that is
not in what was added.
-/
theorem flatMap_descendants_after {g : Focus → List β}
    (h : ∀ q n f, p.Below q → q.node.Gains n → n.Within f.node → g f = []) :
    p.after.descendants.flatMap g = p.descendants.flatMap fun q => g q.after := by
  obtain ⟨k, above⟩ := p
  induction k using Kept.induction generalizing above with
  | mk k ih =>
      have hall : ∀ os : List Overlay, (∀ o ∈ os, o ∈ k.children) →
          (Focus.walkAll (k.after :: above.map Kept.after) (afters os)).flatMap g =
            (walkAll (k :: above) os).flatMap fun q => g q.after := by
        intro os hos
        induction os with
        | nil => rfl
        | cons o os ihos =>
            have hrest := ihos fun o ho => hos o (List.mem_cons_of_mem _ ho)
            have ho := hos o List.mem_cons_self
            cases o with
            | kept old new children =>
                have hc : (⟨old, new, children⟩ : Kept) ∈ k.keptChildren :=
                  List.mem_filterMap.mpr ⟨_, ho, rfl⟩
                rw [afters, Focus.walkAll, walkAll, List.flatMap_append, List.flatMap_append, hrest]
                refine congrArg (· ++ _) (ih _ hc (k :: above) ?_)
                exact fun q n f hq => h q n f ((Below.child .self hc).trans hq)
            | added node =>
                -- nothing is looked for in what was added
                have hnone :
                    (Focus.walk (k.after :: above.map Kept.after) node).flatMap g = [] := by
                  rw [List.flatMap_eq_nil_iff]
                  intro f hf
                  have hf : f ∈ Focus.descendants ⟨node, k.after :: above.map Kept.after⟩ := hf
                  exact h ⟨k, above⟩ node f .self ho (Focus.mem_descendants_iff.mp hf).within
                rw [afters, Focus.walkAll, walkAll, walk, List.flatMap_append, Overlay.after, hnone,
                  hrest]
                rfl
      rw [Focus.descendants_eq, descendants, List.flatMap_cons, List.flatMap_cons]
      exact congrArg _ (hall k.children fun o ho => ho)

end Place

end ScriptTypes.Syntax
