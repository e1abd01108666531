import ScriptTypes.Proofs.Fragments
import ScriptTypes.Shape.Interface

/-!
# Where the expressions of a shape come from

The leaves of a shape hold expressions, and writing an interface asks each of them for its
type. All of them are nodes of the tree that was searched: a usage contributes nothing but
nodes around it, and merging makes no new expressions. So they can be read if the tree can,
and then every shape has its members.
-/

namespace ScriptTypes

namespace Shape

variable {α : Type} {P : α → Prop} {a b s : Shape α} {fs gs : List (String × Shape α)}

/-- The expressions of a shape have a property. -/
inductive Leaves (P : α → Prop) : Shape α → Prop where
  | leaf {e : Option α} : (∀ x, e = some x → P x) → Leaves P (.leaf e)
  | branch {fs : List (String × Shape α)} : (∀ f ∈ fs, Leaves P f.2) → Leaves P (.branch fs)

theorem leaves_unknown : (unknown : Shape α).Leaves P := .leaf (by simp)

theorem Leaves.mono {Q : α → Prop} (h : s.Leaves P) (hPQ : ∀ x, P x → Q x) : s.Leaves Q := by
  induction h with
  | leaf he => exact .leaf fun x hx => hPQ x (he x hx)
  | branch _ ih => exact .branch ih

/-- Merging makes no new expressions. -/
theorem Leaves.merge (ha : a.Leaves P) (hb : b.Leaves P) : (merge a b).Leaves P := by
  -- on the shape that is merged in, since the merge goes by its fields
  induction hb generalizing a with
  | leaf he =>
      rcases a with (_ | _) | fs
      · rw [merge_unknown_leaf]; exact .leaf he
      · rw [merge_some_leaf]; exact ha
      · rw [merge_branch_leaf]; exact ha
  | branch hg ih =>
      cases ha with
      | leaf => rw [merge_leaf_branch]; exact .branch hg
      | branch hf =>
          rw [merge_branch_branch]
          exact .branch (forall_mergeFields (fun g h => ⟨hg g h, fun hc => ih g h hc⟩) hf)

theorem leaves_single {name : String} (h : s.Leaves P) : (single name s).Leaves P := by
  refine .branch fun f hf => ?_
  obtain rfl := List.mem_singleton.mp hf
  exact h

theorem Leaves.addField {name : String} (ha : a.Leaves P) (hs : s.Leaves P) :
    (a.addField name s).Leaves P := by
  rw [addField_eq_merge]
  exact ha.merge (leaves_single hs)

theorem Leaves.nest {path : List String} (h : s.Leaves P) : (Shape.nest path s).Leaves P := by
  induction path with
  | nil => exact h
  | cons name path ih => exact leaves_single ih

theorem leaves_foldl_merge {shapes : List (Shape α)} (hs : s.Leaves P)
    (h : ∀ t ∈ shapes, t.Leaves P) : (shapes.foldl Shape.merge s).Leaves P := by
  induction shapes generalizing s with
  | nil => exact hs
  | cons t shapes ih =>
      exact ih (hs.merge (h t List.mem_cons_self)) fun t ht => h t (List.mem_cons_of_mem _ ht)

theorem sortedBelow_eq (fs : List (String × Shape α)) :
    sortedBelow fs = fs.map fun f => (f.1, f.2.sorted) := by
  induction fs with
  | nil => rfl
  | cons f fs ih => rw [sortedBelow, ih, List.map_cons]

/-- The fields in their order are the fields, each with its own fields sorted. -/
theorem mem_inNameOrder_sortedBelow {f : String × Shape α} :
    f ∈ inNameOrder (sortedBelow fs) ↔ ∃ g ∈ fs, f = (g.1, g.2.sorted) := by
  unfold inNameOrder
  rw [List.mem_mergeSort, sortedBelow_eq, List.mem_map]
  exact exists_congr fun g => and_congr_right fun _ => eq_comm

/-- Sorting makes no new expressions. -/
theorem Leaves.sorted (h : s.Leaves P) : s.sorted.Leaves P := by
  induction h with
  | leaf he => rw [Shape.sorted]; exact .leaf he
  | branch _ ih =>
      rw [Shape.sorted]
      refine .branch fun f hf => ?_
      obtain ⟨g, hg, rfl⟩ := mem_inNameOrder_sortedBelow.mp hf
      exact ih g hg

end Shape

/-! ## Expressions in a tree -/

namespace Usage

open Syntax

variable {name : String} {root : Node}

/-- Patterns and literals of a tree tell expressions of that tree. -/
theorem inherited_leaves (root : Node) :
    Inherited root.Within (Shape.Leaves root.Within) (Shape.Leaves root.Within) where
  child := .child
  unknown := Shape.leaves_unknown
  leaf := .leaf
  nested := id
  addField := Shape.Leaves.addField

/-- The nodes above the last access on a chain are among those above the first. -/
theorem Chain.above_subset {access : Node} {above : List Node} {fields : List String}
    {last : Focus} (h : Chain access above fields last) : last.above ⊆ above := by
  induction h with
  | last => exact List.Subset.refl _
  | on _ _ _ ih => exact fun n hn => List.mem_cons_of_mem _ (ih hn)

theorem mem_above_of_involvement? {access : Focus} {n : Node} (h : involvement? access = some n) :
    n ∈ access.above := by
  unfold involvement? at h
  split at h
  · cases h
  · rename_i parent above habove
    rw [habove]
    split at h
    · obtain rfl := Option.some.inj h; exact List.mem_cons_self
    · split at h
      · obtain rfl := Option.some.inj h; exact List.mem_cons_self
      · cases h

/-- A usage tells expressions of the tree that it stands in. -/
theorem Recognised.leaves {f : Focus} {s : Fragment} (h : Recognised name f s)
    (hnode : root.Within f.node) (habove : ∀ a ∈ f.above, root.Within a) :
    s.Leaves root.Within := by
  have hfield : ∀ {field : String} {c : Node}, f.node.field? field = some c → root.Within c :=
    fun hc => .child hnode (Node.mem_of_field? hc)
  cases h with
  | accessed _ _ hchain =>
      refine Shape.Leaves.nest (.leaf fun n hn => ?_)
      exact habove n (hchain.above_subset (mem_above_of_involvement? hn))
  | destructured _ hp _ _ _ hs =>
      exact ((gives_pattern (inherited_leaves root) _ (hfield hp)).1.sound _ hs).nest
  | assigned _ _ hl _ _ hs =>
      exact ((gives_literal (inherited_leaves root) _ (hfield hl)).1.sound _ hs).nest
  | initialised _ _ hl _ hs =>
      exact (gives_literal (inherited_leaves root) _ (hfield hl)).1.sound _ hs

/-- **What a scope tells of a binding has expressions of the scope's tree at its leaves.** -/
theorem leaves_of_gather {scope : Focus} {shape : Shape Node}
    (h : gather scope name = .ok (some shape)) (hscope : (Focus.ofRoot root).Below scope) :
    shape.Leaves root.Within := by
  unfold gather at h
  obtain ⟨frags, hfrags, h⟩ := bind_eq_ok.mp h
  replace h := pure_eq_ok.mp h
  split at h
  · cases h
  · obtain rfl := Option.some.inj h
    refine Shape.leaves_foldl_merge Shape.leaves_unknown fun s hs => ?_
    obtain ⟨f, hf, hcontributes⟩ :=
      exists_of_mem_forall₂ ((gives_fragments scope name).sound frags hfrags) hs
    have hbelow := hscope.trans (Focus.mem_descendants_iff.mp hf)
    cases hcontributes with
    | usage h => exact h.leaves hbelow.within hbelow.above_within
    | nothing => exact Shape.leaves_unknown

end Usage

end ScriptTypes
