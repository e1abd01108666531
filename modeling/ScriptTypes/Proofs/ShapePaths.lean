import ScriptTypes.Shape

/-!
# Paths through shapes

A shape is a tree of names, so it is known by its paths: what stands at each path of
field names, if anything. Merging two shapes merges what stands at each path, which is
all that there is to say about it. What a whole list of shapes says together then follows
by induction on the list: a path is there if one of them has it, and if none of them goes
on below it, the first expression that one of them has there is kept.

Looking up by name sees only the first field of a name, so this holds only of shapes in
which no two fields of an object share one. All shapes that are ever built are such.
-/

namespace ScriptTypes.Shape

variable {α : Type} {a b s : Shape α} {fs gs : List (String × Shape α)} {p q : List String}

/-- The shape at a path of field names. -/
def at? (s : Shape α) : List String → Option (Shape α)
  | [] => some s
  | name :: p => (s.fields.lookup name).bind (at? · p)

/-- A path of fields leads somewhere; at least one field is on it. -/
def HasPath (s : Shape α) (p : List String) : Prop := p ≠ [] ∧ (s.at? p).isSome = true

/-- The expression that a shape has exactly at a path. -/
def expressionAt? (s : Shape α) (p : List String) : Option α :=
  match s.at? p with
  | some (.leaf e) => e
  | _ => none

/-- No two fields of an object share a name, and no object is without fields. -/
inductive Proper : Shape α → Prop where
  | leaf {e : Option α} : Proper (.leaf e)
  | branch {fs : List (String × Shape α)} : fs ≠ [] → (fs.map (·.1)).Nodup →
      (∀ f ∈ fs, Proper f.2) → Proper (.branch fs)

/-- No two fields of an object share a name. -/
inductive Distinct : Shape α → Prop where
  | leaf {e : Option α} : Distinct (.leaf e)
  | branch {fs : List (String × Shape α)} : (fs.map (·.1)).Nodup →
      (∀ f ∈ fs, Distinct f.2) → Distinct (.branch fs)

/-- An object, of which perhaps nothing is known: no expression stands for the whole of it. -/
def IsObject (s : Shape α) : Prop := ∀ e, s ≠ .leaf (some e)

/-! ## Paths -/

@[simp] theorem at?_nil : s.at? [] = some s := rfl

theorem at?_cons {name : String} :
    s.at? (name :: p) = (s.fields.lookup name).bind (·.at? p) := rfl

theorem at?_append : s.at? (p ++ q) = (s.at? p).bind (·.at? q) := by
  induction p generalizing s with
  | nil => rfl
  | cons name p ih =>
      rw [List.cons_append, at?_cons, at?_cons, Option.bind_assoc]
      exact congrArg _ (funext fun _ => ih)

/-- Where a path leads somewhere, so does the way there. -/
theorem HasPath.of_prefix (h : s.HasPath q) (hpq : p <+: q) (hp : p ≠ []) : s.HasPath p := by
  obtain ⟨r, rfl⟩ := hpq
  refine ⟨hp, ?_⟩
  have hq := h.2
  rw [at?_append] at hq
  cases hs : s.at? p with
  | none => rw [hs] at hq; cases hq
  | some t => rfl

/-- Of a shape of which nothing is known no path leads anywhere. -/
theorem at?_unknown (hp : p ≠ []) : (unknown : Shape α).at? p = none := by
  cases p with
  | nil => exact absurd rfl hp
  | cons name p => rfl

theorem expressionAt?_unknown : (unknown : Shape α).expressionAt? p = none := by
  cases p <;> rfl

theorem expressionAt?_of_leaf {e : Option α} (h : s.at? p = some (.leaf e)) :
    s.expressionAt? p = e := by
  unfold expressionAt?
  rw [h]

theorem Proper.distinct (h : s.Proper) : s.Distinct := by
  induction h with
  | leaf => exact .leaf
  | branch _ hnodup _ ih => exact .branch hnodup ih

theorem Proper.of_lookup {name : String} {c : Shape α} (h : s.Proper)
    (hc : s.fields.lookup name = some c) : c.Proper := by
  cases h with
  | leaf => cases hc
  | branch _ _ hchildren => exact hchildren _ (Named.mem_of_lookup hc)

theorem Distinct.of_lookup {name : String} {c : Shape α} (h : s.Distinct)
    (hc : s.fields.lookup name = some c) : c.Distinct := by
  cases h with
  | leaf => cases hc
  | branch _ hchildren => exact hchildren _ (Named.mem_of_lookup hc)

theorem Distinct.nodup_fields (h : s.Distinct) : (s.fields.map (·.1)).Nodup := by
  cases h with
  | leaf => exact List.nodup_nil
  | branch hnodup _ => exact hnodup

theorem Proper.nodup_fields (h : s.Proper) : (s.fields.map (·.1)).Nodup :=
  h.distinct.nodup_fields

/-- At every path of a proper shape stands a proper shape. -/
theorem Proper.at? {t : Shape α} (h : s.Proper) (ht : s.at? p = some t) : t.Proper := by
  induction p generalizing s with
  | nil => obtain rfl := Option.some.inj ht; exact h
  | cons name p ih =>
      rw [at?_cons] at ht
      obtain ⟨c, hc, ht⟩ := Option.bind_eq_some_iff.mp ht
      exact ih (h.of_lookup hc) ht

/-- What stands where nothing goes on below is a leaf, since objects have fields. -/
theorem Proper.leaf_of_final {t : Shape α} (h : s.Proper) (ht : s.at? p = some t)
    (hfinal : ∀ q, s.HasPath q → p <+: q → q = p) : ∃ e, t = .leaf e := by
  have htp := h.at? ht
  cases htp with
  | leaf => exact ⟨_, rfl⟩
  | @branch fs hne _ _ =>
      obtain ⟨⟨name, c⟩, fs', rfl⟩ := List.exists_cons_of_ne_nil hne
      -- an object has a field, so the path goes on
      have hlong : s.HasPath (p ++ [name]) := by
        refine ⟨by simp, ?_⟩
        rw [at?_append, ht]
        simp [at?_cons, fields]
      have := congrArg List.length (hfinal _ hlong (List.prefix_append p [name]))
      simp at this

/-! ## Merging two shapes -/

/-- What is unknown adds nothing. -/
theorem merge_unknown (s : Shape α) : s.merge .unknown = s := by
  rcases s with (_ | e) | fs <;> rfl

@[simp] theorem merge_unknown_leaf {e : Option α} :
    merge (leaf none) (leaf e) = leaf e := by rw [merge]

@[simp] theorem merge_some_leaf {x : α} {e : Option α} :
    merge (leaf (some x)) (leaf e) = leaf (some x) := by rw [merge]; simp

@[simp] theorem merge_branch_leaf {e : Option α} :
    merge (branch fs) (leaf e) = branch fs := by rw [merge]; simp

@[simp] theorem merge_leaf_branch {e : Option α} :
    merge (leaf e) (branch gs) = branch gs := by rw [merge.eq_def]

@[simp] theorem merge_branch_branch :
    merge (branch fs) (branch gs) = branch (mergeFields fs gs) := by rw [merge]

/-- The fields of a merge are the merged fields, name by name. -/
theorem lookup_mergeFields {name : String} (h : (gs.map (·.1)).Nodup) :
    (mergeFields fs gs).lookup name = Option.merge merge (fs.lookup name) (gs.lookup name) := by
  induction gs generalizing fs with
  | nil => rw [mergeFields]; cases fs.lookup name <;> rfl
  | cons g gs ih =>
      obtain ⟨n, c⟩ := g
      rw [List.map_cons, List.nodup_cons] at h
      rw [mergeFields, ih h.2]
      -- the field that comes first is altered at its name, the others are left
      by_cases hn : name = n
      · subst hn
        have hnone : gs.lookup name = none := by
          rw [List.lookup_eq_none_iff]
          intro f hf
          have hne : name ≠ f.1 := fun he => h.1 (List.mem_map.mpr ⟨f, hf, he.symm⟩)
          exact bne_iff_ne.mpr hne
        rw [Named.lookup_alter_self, hnone, List.lookup_cons_self]
        cases fs.lookup name <;> rfl
      · rw [Named.lookup_alter_of_ne hn, List.lookup_cons, beq_false_of_ne hn]

theorem lookup_fields_merge {name : String} (hb : b.Distinct) :
    (merge a b).fields.lookup name =
      Option.merge merge (a.fields.lookup name) (b.fields.lookup name) := by
  cases b with
  | leaf e =>
      rcases a with (_ | _) | fs
      · rw [merge_unknown_leaf]; rfl
      · rw [merge_some_leaf]; rfl
      · rw [merge_branch_leaf]
        show fs.lookup name = Option.merge merge (fs.lookup name) none
        cases fs.lookup name <;> rfl
  | branch gs =>
      cases a with
      | leaf e =>
          rw [merge_leaf_branch]
          show gs.lookup name = Option.merge merge none (gs.lookup name)
          cases gs.lookup name <;> rfl
      | branch fs =>
          rw [merge_branch_branch]
          exact lookup_mergeFields hb.nodup_fields

/-- **Merging two shapes merges what stands at each path.** -/
theorem at?_merge (hb : b.Distinct) :
    (merge a b).at? p = Option.merge merge (a.at? p) (b.at? p) := by
  induction p generalizing a b with
  | nil => rfl
  | cons name p ih =>
      rw [at?_cons, at?_cons, at?_cons, lookup_fields_merge hb]
      cases hx : a.fields.lookup name with
      | none =>
          cases hy : b.fields.lookup name with
          | none => rfl
          | some y =>
              show y.at? p = Option.merge merge none (y.at? p)
              cases y.at? p <;> rfl
      | some x =>
          cases hy : b.fields.lookup name with
          | none =>
              show x.at? p = Option.merge merge (x.at? p) none
              cases x.at? p <;> rfl
          | some y => exact ih (hb.of_lookup hy)

/-- The names of merged fields: those that were there, and behind them those that are new. -/
theorem map_fst_mergeFields (h : (gs.map (·.1)).Nodup) : (mergeFields fs gs).map (·.1) =
    fs.map (·.1) ++ (gs.map (·.1)).filter (· ∉ fs.map (·.1)) := by
  induction gs generalizing fs with
  | nil => rw [mergeFields, List.map_nil, List.filter_nil, List.append_nil]
  | cons g gs ih =>
      obtain ⟨n, c⟩ := g
      rw [List.map_cons, List.nodup_cons] at h
      rw [mergeFields, ih h.2, Named.map_fst_alter, List.map_cons]
      by_cases hn : n ∈ fs.map (·.1)
      · rw [if_pos hn, List.filter_cons_of_neg (by simpa using hn)]
      · rw [if_neg hn, List.filter_cons_of_pos (by simpa using hn), List.append_assoc,
          List.singleton_append]
        -- the name that was just added is not among those still to come
        have hlater : ∀ m ∈ gs.map (·.1), m ≠ n := fun m hm he => h.1 (he ▸ hm)
        congr 2
        refine List.filter_congr fun m hm => ?_
        have hne := hlater m hm
        simp [hne]

theorem nodup_mergeFields (hf : (fs.map (·.1)).Nodup) (hg : (gs.map (·.1)).Nodup) :
    ((mergeFields fs gs).map (·.1)).Nodup := by
  rw [map_fst_mergeFields hg, List.nodup_append]
  refine ⟨hf, hg.filter _, ?_⟩
  rintro m hm _ hm' rfl
  exact of_decide_eq_true (List.mem_filter.mp hm').2 hm

/-- Fields keep what merging with the fields that are merged in keeps. -/
theorem forall_mergeFields {P : Shape α → Prop}
    (hg : ∀ g ∈ gs, P g.2 ∧ ∀ {c : Shape α}, P c → P (merge c g.2)) (hf : ∀ f ∈ fs, P f.2) :
    ∀ f ∈ mergeFields fs gs, P f.2 := by
  induction gs generalizing fs with
  | nil => rw [mergeFields]; exact hf
  | cons g gs ih =>
      obtain ⟨name, c⟩ := g
      obtain ⟨hc, hmerge⟩ := hg _ List.mem_cons_self
      rw [mergeFields]
      refine ih (fun g h => hg g (List.mem_cons_of_mem _ h)) fun f hmem => ?_
      rcases Named.mem_alter hmem with hmem | ⟨known, hknown, rfl⟩
      · exact hf f hmem
      · cases known with
        | none => exact hc
        | some k => exact hmerge (hf _ (hknown k rfl))

/-- Merging shapes with distinct names gives one. -/
theorem Distinct.merge (ha : a.Distinct) (hb : b.Distinct) : (merge a b).Distinct := by
  -- on the shape that is merged in, since the merge goes by its fields
  induction hb generalizing a with
  | leaf =>
      rcases a with (_ | _) | fs
      · rw [merge_unknown_leaf]; exact .leaf
      · rw [merge_some_leaf]; exact ha
      · rw [merge_branch_leaf]; exact ha
  | branch hnodup hchildren ih =>
      cases ha with
      | leaf =>
          rw [merge_leaf_branch]
          exact .branch hnodup hchildren
      | branch hnodup' hchildren' =>
          rw [merge_branch_branch]
          exact .branch (nodup_mergeFields hnodup' hnodup)
            (forall_mergeFields (fun g hg => ⟨hchildren g hg, fun hc => ih g hg hc⟩) hchildren')

/-- Merging proper shapes gives a proper one. -/
theorem Proper.merge (ha : a.Proper) (hb : b.Proper) : (merge a b).Proper := by
  induction hb generalizing a with
  | leaf =>
      rcases a with (_ | _) | fs
      · rw [merge_unknown_leaf]; exact .leaf
      · rw [merge_some_leaf]; exact ha
      · rw [merge_branch_leaf]; exact ha
  | @branch gs hne hnodup hchildren ih =>
      cases ha with
      | leaf =>
          rw [merge_leaf_branch]
          exact .branch hne hnodup hchildren
      | @branch fs hne' hnodup' hchildren' =>
          rw [merge_branch_branch]
          refine .branch (fun hnil => hne' ?_) (nodup_mergeFields hnodup' hnodup)
            (forall_mergeFields (fun g hg => ⟨hchildren g hg, fun hc => ih g hg hc⟩) hchildren')
          have hnames : (mergeFields fs gs).map (·.1) = _ := map_fst_mergeFields hnodup
          rw [hnil, List.map_nil] at hnames
          exact List.map_eq_nil_iff.mp (List.append_eq_nil_iff.mp hnames.symm).1

theorem isObject_branch : (branch fs).IsObject := fun _ h => by cases h

theorem isObject_unknown : (unknown : Shape α).IsObject := fun _ h => by cases h

theorem IsObject.merge (ha : a.IsObject) (hb : b.IsObject) : (merge a b).IsObject := by
  cases b with
  | leaf e =>
      rcases a with (_ | x) | fs
      · rw [merge_unknown_leaf]; exact hb
      · exact absurd rfl (ha x)
      · rw [merge_branch_leaf]; exact isObject_branch
  | branch gs =>
      cases a with
      | leaf e => rw [merge_leaf_branch]; exact isObject_branch
      | branch fs => rw [merge_branch_branch]; exact isObject_branch

/-- Of an object of which no path leads anywhere nothing is known. -/
theorem isUnknown_iff (hp : s.Proper) (ho : s.IsObject) :
    s.isUnknown = true ↔ ∀ p, ¬ s.HasPath p := by
  cases hp with
  | @leaf e =>
      cases e with
      | none =>
          refine iff_of_true rfl fun p h => ?_
          have := h.2
          rw [show (leaf none : Shape α) = unknown from rfl, at?_unknown h.1] at this
          cases this
      | some x => exact absurd rfl (ho x)
  | @branch fs hne _ _ =>
      refine iff_of_false (by simp [isUnknown]) fun h => ?_
      obtain ⟨⟨name, c⟩, fs', rfl⟩ := List.exists_cons_of_ne_nil hne
      exact h [name] ⟨by simp, by simp [at?_cons, fields]⟩

theorem eq_unknown_of_isUnknown (h : s.isUnknown = true) : s = unknown := by
  unfold isUnknown at h
  split at h
  · rfl
  · cases h

/-! ## Growing a shape -/

theorem proper_single {name : String} (h : s.Proper) : (single name s).Proper := by
  refine .branch (by simp) (by simp) fun f hf => ?_
  obtain rfl := List.mem_singleton.mp hf
  exact h

theorem Proper.addField {name : String} (ha : a.Proper) (hs : s.Proper) :
    (a.addField name s).Proper := by
  rw [addField_eq_merge]
  exact ha.merge (proper_single hs)

theorem isUnknown_addField {name : String} : (a.addField name s).isUnknown = false := by
  cases a with
  | leaf e => rfl
  | branch fs => rfl

theorem IsObject.addField {name : String} (ha : a.IsObject) : (a.addField name s).IsObject := by
  rw [addField_eq_merge]
  exact ha.merge isObject_branch

theorem Proper.nest (h : s.Proper) : (nest p s).Proper := by
  induction p with
  | nil => exact h
  | cons name p ih => exact proper_single ih

theorem isObject_nest (h : p = [] → s.IsObject) : (nest p s).IsObject := by
  cases p with
  | nil => exact h rfl
  | cons name p => exact isObject_branch

/-! ## Merging a list of shapes -/

variable {shapes : List (Shape α)}

theorem proper_foldl_merge (hs : s.Proper) (h : ∀ t ∈ shapes, t.Proper) :
    (shapes.foldl merge s).Proper := by
  induction shapes generalizing s with
  | nil => exact hs
  | cons t shapes ih =>
      exact ih (hs.merge (h t List.mem_cons_self)) fun t ht => h t (List.mem_cons_of_mem _ ht)

theorem isObject_foldl_merge (hs : s.IsObject) (h : ∀ t ∈ shapes, t.IsObject) :
    (shapes.foldl merge s).IsObject := by
  induction shapes generalizing s with
  | nil => exact hs
  | cons t shapes ih =>
      exact ih (hs.merge (h t List.mem_cons_self)) fun t ht => h t (List.mem_cons_of_mem _ ht)

theorem foldl_merge_unknown (n : Nat) :
    (List.replicate n unknown).foldl merge (unknown : Shape α) = unknown := by
  induction n with
  | zero => rfl
  | succ n ih =>
      rw [List.replicate_succ, List.foldl_cons]
      rw [show merge (unknown : Shape α) unknown = unknown from merge_unknown_leaf, ih]

/-- A path leads somewhere in a merge if it does in one of the shapes. -/
theorem isSome_at?_foldl_merge (h : ∀ t ∈ shapes, t.Proper) :
    ((shapes.foldl merge s).at? p).isSome = true ↔
      (s.at? p).isSome = true ∨ ∃ t ∈ shapes, (t.at? p).isSome = true := by
  induction shapes generalizing s with
  | nil => simp
  | cons t shapes ih =>
      have hmerge : ((s.merge t).at? p).isSome = true ↔
          (s.at? p).isSome = true ∨ (t.at? p).isSome = true := by
        rw [at?_merge (h t List.mem_cons_self).distinct]
        cases s.at? p <;> cases t.at? p <;> simp
      rw [List.foldl_cons, ih fun t ht => h t (List.mem_cons_of_mem _ ht), hmerge, or_assoc]
      simp

/--
Where none of the shapes has more than a leaf, their merge has a leaf, with the first of
their expressions.
-/
theorem eq_leaf_of_at?_foldl_merge (h : ∀ t ∈ shapes, t.Proper)
    (hleaf : ∀ t ∈ s :: shapes, ∀ u, t.at? p = some u → ∃ e, u = leaf e) :
    ∀ u, (shapes.foldl merge s).at? p = some u →
      u = leaf ((s :: shapes).findSome? (·.expressionAt? p)) := by
  induction shapes generalizing s with
  | nil =>
      intro u hu
      replace hu : s.at? p = some u := hu
      obtain ⟨e, rfl⟩ := hleaf s List.mem_cons_self u hu
      rw [List.findSome?_cons, expressionAt?_of_leaf hu]
      cases e <;> rfl
  | cons t shapes ih =>
      intro u hu
      have ht := h t List.mem_cons_self
      have hs' := hleaf s List.mem_cons_self
      have ht' := hleaf t (by simp)
      -- the merge of the first two has a leaf at most, with the first of their expressions
      have hboth : (∀ u, (merge s t).at? p = some u → ∃ e, u = leaf e) ∧
          (merge s t).expressionAt? p = (s.expressionAt? p <|> t.expressionAt? p) := by
        unfold expressionAt?
        rw [at?_merge ht.distinct]
        cases hx : s.at? p with
        | none =>
            cases hy : t.at? p with
            | none => simp
            | some y =>
                obtain ⟨e, rfl⟩ := ht' y hy
                simp
        | some x =>
            obtain ⟨e, rfl⟩ := hs' x hx
            cases hy : t.at? p with
            | none => simp
            | some y =>
                obtain ⟨e', rfl⟩ := ht' y hy
                cases e <;> simp
      have hrest : ∀ t' ∈ merge s t :: shapes, ∀ u, t'.at? p = some u → ∃ e, u = leaf e := by
        intro t' ht'
        rcases List.mem_cons.mp ht' with rfl | ht'
        · exact hboth.1
        · exact hleaf t' (by simp [ht'])
      rw [ih (fun t ht => h t (List.mem_cons_of_mem _ ht)) hrest u hu]
      rw [List.findSome?_cons, List.findSome?_cons, List.findSome?_cons, hboth.2]
      cases s.expressionAt? p <;> cases t.expressionAt? p <;> rfl

end ScriptTypes.Shape
