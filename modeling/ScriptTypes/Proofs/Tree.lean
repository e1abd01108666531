import Mathlib.Data.List.Basic
import ScriptTypes.Proofs.Outcome
import ScriptTypes.Syntax.Focus

/-!
# Where a node stands in a tree

The walk of a tree is a list. What it lists are the nodes that can be reached from the
root by going down to children again and again, each with the ancestors passed on the
way. `Node.Within` and `Focus.Below` say so without the walk; the one forgets the way
down, the other keeps it.
-/

namespace ScriptTypes.Syntax

/-- A node is in a tree: it is the root or a child of a node in the tree. -/
inductive Node.Within (root : Node) : Node → Prop where
  | root : Within root root
  | child {parent c : Node} : Within root parent → c ∈ parent.children → Within root c

/-- A place is below another one: it is the same or a child of a place below. -/
inductive Focus.Below (f : Focus) : Focus → Prop where
  | self : Below f f
  | child {g : Focus} {c : Node} : Below f g → c ∈ g.node.children → Below f (g.child c)

theorem Focus.Below.within {f g : Focus} (h : f.Below g) : f.node.Within g.node := by
  induction h with
  | self => exact .root
  | child _ hc ih => exact .child ih hc

/-- What stands above a place below the root is in the tree as well. -/
theorem Focus.Below.above_within {root : Node} {f : Focus} (h : (Focus.ofRoot root).Below f) :
    ∀ a ∈ f.above, root.Within a := by
  induction h with
  | self => intro a ha; cases ha
  | child hg _ ih =>
      intro a ha
      rcases List.mem_cons.mp ha with rfl | ha
      · exact hg.within
      · exact ih a ha

theorem Focus.Below.trans {f g k : Focus} (hfg : f.Below g) (hgk : g.Below k) : f.Below k := by
  induction hgk with
  | self => exact hfg
  | child _ hc ih => exact .child ih hc

/-- The ancestors of a place below the root are below it as well. -/
theorem Focus.Below.ancestor {root : Node} {f a : Focus} (h : (Focus.ofRoot root).Below f)
    (ha : a ∈ f.ancestors) : (Focus.ofRoot root).Below a := by
  induction h with
  | self => cases ha
  | child hg _ ih =>
      rcases List.mem_cons.mp ha with rfl | ha
      · exact hg
      · exact ih ha

theorem Focus.mem_ancestors_of_parent? {f p : Focus} (h : f.parent? = some p) :
    p ∈ f.ancestors := by
  unfold parent? at h
  unfold ancestors
  split at h
  · cases h
  · rename_i hf
    obtain rfl := Option.some.inj h
    rw [hf]
    exact List.mem_cons_self

/-- Every node of a tree is found somewhere below the root. -/
theorem Node.Within.exists_below {f : Focus} {n : Node} (h : f.node.Within n) :
    ∃ g, f.Below g ∧ g.node = n := by
  induction h with
  | root => exact ⟨f, .self, rfl⟩
  | @child parent c _ hc ih =>
      obtain ⟨g, hg, rfl⟩ := ih
      exact ⟨g.child c, .child hg hc, rfl⟩

theorem Node.Within.trans {r m n : Node} (hrm : r.Within m) (hmn : m.Within n) : r.Within n := by
  induction hmn with
  | root => exact hrm
  | child _ hc ih => exact .child ih hc

/-- A node in a tree is the root, or it is in the tree of one of its children. -/
theorem Node.Within.eq_or_child {r n : Node} (h : r.Within n) :
    n = r ∨ ∃ c ∈ r.children, c.Within n := by
  induction h with
  | root => exact .inl rfl
  | child _ hc ih =>
      rcases ih with rfl | ⟨d, hd, hwithin⟩
      · exact .inr ⟨_, hc, .root⟩
      · exact .inr ⟨d, hd, .child hwithin hc⟩

/-- What holds of a node as soon as it holds of its children holds of every node. -/
theorem Node.induction {motive : Node → Prop}
    (mk : ∀ d cs, (∀ c ∈ cs, motive c) → motive (.mk d cs)) (n : Node) : motive n :=
  Node.rec (motive_1 := motive) (motive_2 := fun cs => ∀ c ∈ cs, motive c) mk
    (fun _ hc => absurd hc List.not_mem_nil)
    (fun _ _ ih ihs c hc => by
      rcases List.mem_cons.mp hc with rfl | hc
      · exact ih
      · exact ihs c hc)
    n

/-! ## The walk -/

theorem Focus.mem_walkAll {above : List Node} {cs : List Node} {g : Focus} :
    g ∈ Focus.walkAll above cs ↔ ∃ c ∈ cs, g ∈ Focus.walk above c := by
  induction cs with
  | nil => simp [Focus.walkAll]
  | cons c cs ih => simp [Focus.walkAll, ih]

theorem Focus.descendants_eq (f : Focus) :
    f.descendants = f :: Focus.walkAll (f.node :: f.above) f.node.children := by
  obtain ⟨⟨d, cs⟩, above⟩ := f
  rfl

theorem Focus.mem_descendants_self (f : Focus) : f ∈ f.descendants := by
  rw [Focus.descendants_eq]
  exact List.mem_cons_self

theorem Focus.mem_descendants_iff_child {f g : Focus} :
    g ∈ f.descendants ↔ g = f ∨ ∃ c ∈ f.node.children, g ∈ (f.child c).descendants := by
  rw [Focus.descendants_eq, List.mem_cons, Focus.mem_walkAll]
  rfl

/-- A child of a listed node is listed. -/
theorem Focus.child_mem_descendants {f g : Focus} {c : Node} (hg : g ∈ f.descendants)
    (hc : c ∈ g.node.children) : g.child c ∈ f.descendants := by
  obtain ⟨n, above⟩ := f
  induction n using Node.induction generalizing above with
  | mk d cs ih =>
      rw [Focus.mem_descendants_iff_child] at hg ⊢
      rcases hg with rfl | ⟨c', hc', hg⟩
      · exact Or.inr ⟨c, hc, Focus.mem_descendants_self _⟩
      · exact Or.inr ⟨c', hc', ih c' hc' _ hg⟩

/-- **The walk lists the places below its start, and no others.** -/
theorem Focus.mem_descendants_iff {f g : Focus} : g ∈ f.descendants ↔ f.Below g := by
  constructor
  · intro h
    obtain ⟨n, above⟩ := f
    induction n using Node.induction generalizing above with
    | mk d cs ih =>
        rcases Focus.mem_descendants_iff_child.mp h with rfl | ⟨c, hc, hg⟩
        · exact .self
        · exact (Below.child .self hc).trans (ih c hc _ hg)
  · intro h
    induction h with
    | self => exact Focus.mem_descendants_self f
    | child _ hc ih => exact Focus.child_mem_descendants ih hc

/-- What holds at every place that the walk lists holds of every node in the tree. -/
theorem Node.forall_within_iff {root : Node} {P : Node → Prop} :
    (∀ n, root.Within n → P n) ↔ ∀ f ∈ (Focus.ofRoot root).descendants, P f.node := by
  constructor
  · intro h f hf
    exact h _ (Focus.mem_descendants_iff.mp hf).within
  · intro h n hn
    -- a node in the tree is at a place below the root, and those are listed
    have hn : (Focus.ofRoot root).node.Within n := hn
    obtain ⟨f, hf, rfl⟩ := hn.exists_below
    exact h f (Focus.mem_descendants_iff.mpr hf)

/-! ## Readable trees -/

/-- Every node of a tree can be read. -/
def Node.Readable (root : Node) : Prop := ∀ n, root.Within n → ∃ s, n.text = .ok s

instance (root : Node) : Decidable root.Readable :=
  decidable_of_iff _ Node.forall_within_iff.symm

/-- Everything around a place can be read: what is below it and what is below its ancestors. -/
def Focus.Readable (f : Focus) : Prop := ∀ a ∈ f.node :: f.above, a.Readable

/-- The first node fills the field, or one of the others does. -/
theorem Node.firstIn_cons {field : String} {c : Node} {cs : List Node} :
    Node.firstIn field (c :: cs) =
      if c.data.field = some field then some c else Node.firstIn field cs := by
  unfold Node.firstIn
  rw [List.find?_cons]
  by_cases hc : c.data.field = some field
  · rw [if_pos hc, hc, beq_self_eq_true]
  · rw [if_neg hc, beq_false_of_ne hc]

theorem Node.mem_of_field? {n c : Node} {field : String} (h : n.field? field = some c) :
    c ∈ n.children := List.mem_of_find?_eq_some h

theorem Node.Readable.child {n c : Node} (h : n.Readable) (hc : c ∈ n.children) : c.Readable :=
  fun m hm => h m ((Node.Within.child .root hc).trans hm)

theorem Node.Readable.field? {n c : Node} {field : String} (h : n.Readable)
    (hc : n.field? field = some c) : c.Readable := h.child (Node.mem_of_field? hc)

theorem Focus.Readable.node {f : Focus} (h : f.Readable) : f.node.Readable :=
  h f.node List.mem_cons_self

/-- Everything around a place below is around the place above it. -/
theorem Focus.Readable.below {f g : Focus} (h : f.Readable) (hg : f.Below g) : g.Readable := by
  induction hg with
  | self => exact h
  | child _ hc ih =>
      intro a ha
      rcases List.mem_cons.mp ha with rfl | ha
      · exact ih.node.child hc
      · exact ih a ha

theorem Node.gives_text {n : Node} : Gives n.Readable (fun s => n.text = .ok s) n.text where
  sound := fun _ h => h
  total := fun h => h n .root

end ScriptTypes.Syntax
