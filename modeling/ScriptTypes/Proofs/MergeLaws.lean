import ScriptTypes.Proofs.ShapePaths

/-!
# The laws of merging

What is known of an object is put together from many pieces, and it must not matter how they are
grouped, nor whether one of them comes twice. Merging shapes in which no two fields of an object
share a name is associative, down to the order of the fields; what is unknown is neutral; merging
a shape with itself changes nothing. It is not commutative, since the first shape decides on the
order of the fields and on the expressions, but which paths lead somewhere does not depend on the
order either.

The proofs go by what stands at each name: a list of fields is known by its names in their order
and by what is looked up at each.
-/

namespace ScriptTypes.Shape

variable {α : Type} {a b c s : Shape α} {fs gs hs : List (String × Shape α)} {p : List String}

/-! ## What is unknown -/

theorem unknown_merge (s : Shape α) : merge unknown s = s := by
  rcases s with (_ | e) | fs
  · rfl
  · rfl
  · rfl

theorem isUnknown_merge : (merge a b).isUnknown = (a.isUnknown && b.isUnknown) := by
  rcases a with (_ | x) | fs
  · exact congrArg isUnknown (unknown_merge b)
  · rcases b with e | gs
    · rw [merge_some_leaf]; rfl
    · rw [merge_leaf_branch]; rfl
  · rcases b with e | gs
    · rw [merge_branch_leaf]; rfl
    · rw [merge_branch_branch]; rfl

/-- A leaf adds nothing to a shape of which something is known. -/
theorem merge_leaf {e : Option α} (h : s.isUnknown = false) : merge s (leaf e) = s := by
  rcases s with (_ | x) | fs
  · cases h
  · exact merge_some_leaf
  · exact merge_branch_leaf

/-! ## Names in their order -/

theorem map_fst_mergeFields_assoc (hg : (gs.map (·.1)).Nodup) (hh : (hs.map (·.1)).Nodup) :
    (mergeFields (mergeFields fs gs) hs).map (·.1) =
      (mergeFields fs (mergeFields gs hs)).map (·.1) := by
  rw [map_fst_mergeFields hh, map_fst_mergeFields hg,
    map_fst_mergeFields (nodup_mergeFields hg hh), map_fst_mergeFields hh, List.filter_append,
    List.filter_filter, List.append_assoc]
  -- both ways, the last names that count are those which neither of the others has
  congr 2
  refine List.filter_congr fun n _ => ?_
  by_cases hf : n ∈ fs.map (·.1)
  · simp [hf]
  · simp [hf]

theorem map_fst_mergeFields_self (h : (fs.map (·.1)).Nodup) :
    (mergeFields fs fs).map (·.1) = fs.map (·.1) := by
  have hnone : (fs.map (·.1)).filter (· ∉ fs.map (·.1)) = [] := by
    refine List.filter_eq_nil_iff.mpr fun n hn => ?_
    rw [decide_eq_true_eq]
    exact fun hnot => hnot hn
  rw [map_fst_mergeFields h, hnone, List.append_nil]

/-! ## The laws -/

/-- The fields of three objects merge in either grouping if what stands at each name does. -/
theorem mergeFields_assoc (hf : (fs.map (·.1)).Nodup) (hg : (gs.map (·.1)).Nodup)
    (hh : (hs.map (·.1)).Nodup)
    (h : ∀ x ∈ fs, ∀ y ∈ gs, ∀ z ∈ hs,
      merge (merge x.2 y.2) z.2 = merge x.2 (merge y.2 z.2)) :
    mergeFields (mergeFields fs gs) hs = mergeFields fs (mergeFields gs hs) := by
  refine Named.eq_of_lookup (map_fst_mergeFields_assoc hg hh)
    (nodup_mergeFields (nodup_mergeFields hf hg) hh) fun name _ => ?_
  rw [lookup_mergeFields hh, lookup_mergeFields hg,
    lookup_mergeFields (nodup_mergeFields hg hh), lookup_mergeFields hh]
  cases hx : fs.lookup name with
  | none => cases gs.lookup name <;> cases hs.lookup name <;> rfl
  | some x =>
      cases hy : gs.lookup name with
      | none => cases hs.lookup name <;> rfl
      | some y =>
          cases hz : hs.lookup name with
          | none => rfl
          | some z =>
              exact congrArg some (h _ (Named.mem_of_lookup hx) _ (Named.mem_of_lookup hy) _
                (Named.mem_of_lookup hz))

/-- **Merging is associative**, down to the order of the fields. -/
theorem merge_assoc (ha : a.Distinct) (hb : b.Distinct) (hc : c.Distinct) :
    (a.merge b).merge c = a.merge (b.merge c) := by
  induction hc generalizing a b with
  | @leaf e =>
      cases hu : b.isUnknown with
      | true =>
          obtain rfl := eq_unknown_of_isUnknown hu
          rw [merge_unknown, unknown_merge]
      | false =>
          have hab : (a.merge b).isUnknown = false := by
            rw [isUnknown_merge, hu, Bool.and_false]
          rw [merge_leaf hu, merge_leaf hab]
  | @branch hs hnodup hchildren ih =>
      cases hb with
      | @leaf e =>
          -- of an object, a leaf in front leaves nothing
          rw [merge_leaf_branch]
          rcases a with (_ | x) | fs
          · rw [merge_unknown_leaf, merge_leaf_branch, merge_leaf_branch]
          · rw [merge_some_leaf]
          · rw [merge_branch_leaf]
      | @branch gs hgs hgchildren =>
          rw [merge_branch_branch]
          cases ha with
          | leaf => rw [merge_leaf_branch, merge_leaf_branch, merge_branch_branch]
          | @branch fs hfs hfchildren =>
              rw [merge_branch_branch, merge_branch_branch, merge_branch_branch,
                mergeFields_assoc hfs hgs hnodup]
              intro x hx y hy z hz
              exact ih z hz (hfchildren x hx) (hgchildren y hy)

/-- **Merging is idempotent.** -/
theorem merge_self (ha : a.Distinct) : a.merge a = a := by
  induction ha with
  | @leaf e =>
      cases e with
      | none => exact merge_unknown_leaf
      | some x => exact merge_some_leaf
  | @branch fs hnodup hchildren ih =>
      have hfields : mergeFields fs fs = fs := by
        have hnames := map_fst_mergeFields_self hnodup
        refine Named.eq_of_lookup hnames (hnames ▸ hnodup) fun name _ => ?_
        rw [lookup_mergeFields hnodup]
        cases hx : fs.lookup name with
        | none => rfl
        | some x => exact congrArg some (ih _ (Named.mem_of_lookup hx))
      rw [merge_branch_branch, hfields]

/-- A path leads somewhere in a merge if it does in one of the two shapes. -/
theorem hasPath_merge (hb : b.Distinct) :
    (a.merge b).HasPath p ↔ a.HasPath p ∨ b.HasPath p := by
  unfold HasPath
  rw [at?_merge hb, ← and_or_left]
  refine and_congr_right fun _ => ?_
  cases a.at? p <;> cases b.at? p <;> simp

theorem distinct_single {name : String} (h : s.Distinct) : (single name s).Distinct := by
  refine .branch (by simp) fun f hf => ?_
  obtain rfl := List.mem_singleton.mp hf
  exact h

/--
**Shapes are an idempotent monoid under merging, and adding a field is merging.** For shapes in
which no two fields of an object share a name, objects without fields included: how merges are
grouped makes no difference, what is unknown is neutral, and merging a shape with itself changes
nothing. A field is added by merging the object that has it alone. The same paths lead somewhere
whichever shape comes first, and names stay distinct.
-/
theorem merge_laws (ha : a.Distinct) (hb : b.Distinct) (hc : c.Distinct) :
    (a.merge b).merge c = a.merge (b.merge c) ∧
      (unknown.merge a = a ∧ a.merge unknown = a) ∧
      a.merge a = a ∧
      (∀ name, a.addField name c = a.merge (.branch [(name, c)])) ∧
      (∀ p, (a.merge b).HasPath p ↔ (b.merge a).HasPath p) ∧
      (a.merge b).Distinct ∧ ∀ name, (a.addField name c).Distinct := by
  have hpaths : ∀ p, (a.merge b).HasPath p ↔ (b.merge a).HasPath p := by
    intro p
    rw [hasPath_merge hb, hasPath_merge ha, or_comm]
  have hadd : ∀ name, (a.addField name c).Distinct := by
    intro name
    rw [addField_eq_merge]
    exact ha.merge (distinct_single hc)
  exact ⟨merge_assoc ha hb hc, ⟨unknown_merge a, merge_unknown a⟩, merge_self ha,
    fun name => addField_eq_merge a name c, hpaths, ha.merge hb, hadd⟩

/-- An object with a field of which nothing is known and an object without fields. -/
def twoFields : Shape Nat := .branch [("x", .leaf none), ("y", .branch [])]

/-- The same names in another order, with an object in an object and an expression. -/
def twoOthers : Shape Nat :=
  .branch [("y", .branch [("z", .leaf (some 1))]), ("x", .leaf (some 2))]

/-- One name more, and leaves and objects the other way round. -/
def threeFields : Shape Nat :=
  .branch [("w", .leaf none), ("x", .branch []), ("y", .leaf (some 3))]

/-- Three objects that share names come to the same object in both groupings. -/
theorem merge_laws_three_objects :
    (twoFields.Distinct ∧ twoOthers.Distinct ∧ threeFields.Distinct) ∧
      (twoFields.merge twoOthers).merge threeFields =
        .branch [("x", .branch []), ("y", .branch [("z", .leaf (some 1))]), ("w", .leaf none)] ∧
      twoFields.merge (twoOthers.merge threeFields) =
        (twoFields.merge twoOthers).merge threeFields ∧
      twoFields.merge twoFields = twoFields := by
  have htwo : twoFields.Distinct := by
    refine .branch (by decide) ?_
    simp only [List.forall_mem_cons]
    exact ⟨.leaf, .branch (by decide) (by simp), by simp⟩
  have hothers : twoOthers.Distinct := by
    refine .branch (by decide) ?_
    simp only [List.forall_mem_cons]
    exact ⟨distinct_single .leaf, .leaf, by simp⟩
  have hthree : threeFields.Distinct := by
    refine .branch (by decide) ?_
    simp only [List.forall_mem_cons]
    exact ⟨.leaf, .branch (by decide) (by simp), .leaf, by simp⟩
  have hlaws := merge_laws htwo hothers hthree
  exact ⟨⟨htwo, hothers, hthree⟩, rfl, hlaws.1.symm, hlaws.2.2.1⟩

end ScriptTypes.Shape
