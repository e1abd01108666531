/-!
# Things by name

The fields of an object and the entries of a folder are lists of named things, in the
order in which they came. Two things are done with such a list: the first thing of a
name is looked up, and it is replaced by what becomes of it. A name that is new goes to
the end, so the order of discovery is kept.
-/

namespace ScriptTypes.Named

variable {β : Type} {name other : String} {f : Option β → β} {things : List (String × β)}

/--
The things with `f` applied to the first one of that name. A name that is not there yet
goes to the end, with what `f` makes of nothing.
-/
def alter (name : String) (f : Option β → β) : List (String × β) → List (String × β)
  | [] => [(name, f none)]
  | (n, b) :: rest => if n = name then (n, f (some b)) :: rest else (n, b) :: alter name f rest

theorem lookup_alter_self : (alter name f things).lookup name = some (f (things.lookup name)) := by
  induction things with
  | nil => simp [alter]
  | cons thing rest ih =>
    obtain ⟨n, b⟩ := thing
    by_cases h : n = name
    · simp [alter, h]
    · simp [alter, h, List.lookup_cons, beq_false_of_ne (Ne.symm h), ih]

theorem lookup_alter_of_ne (h : other ≠ name) :
    (alter name f things).lookup other = things.lookup other := by
  induction things with
  | nil => simp [alter, List.lookup_cons, beq_false_of_ne h]
  | cons thing rest ih =>
    obtain ⟨n, b⟩ := thing
    by_cases hn : n = name
    · subst hn; simp [alter, List.lookup_cons, beq_false_of_ne h]
    · simp [alter, hn, List.lookup_cons, ih]

/-- Altering keeps the names and their order; only a new name is added, behind the others. -/
theorem map_fst_alter : (alter name f things).map (·.1) =
    if name ∈ things.map (·.1) then things.map (·.1) else things.map (·.1) ++ [name] := by
  induction things with
  | nil => simp [alter]
  | cons thing rest ih =>
    obtain ⟨n, b⟩ := thing
    by_cases h : n = name
    · simp [alter, h]
    · rw [alter, if_neg h, List.map_cons, ih]
      by_cases hr : name ∈ rest.map (·.1) <;> simp_all [Ne.symm h]

/-- After altering there are the things that were there, and what became of the one of the name. -/
theorem mem_alter {thing : String × β} (h : thing ∈ alter name f things) :
    thing ∈ things ∨
      ∃ known, (∀ b, known = some b → (name, b) ∈ things) ∧ thing = (name, f known) := by
  induction things with
  | nil => exact .inr ⟨none, by simp, List.mem_singleton.mp h⟩
  | cons t rest ih =>
    obtain ⟨n, b⟩ := t
    rw [alter] at h
    split at h
    · rename_i hn
      subst hn
      rcases List.mem_cons.mp h with rfl | h
      · refine .inr ⟨some b, ?_, rfl⟩
        intro b' hb
        obtain rfl := Option.some.inj hb
        exact List.mem_cons_self
      · exact .inl (List.mem_cons_of_mem _ h)
    · rcases List.mem_cons.mp h with rfl | h
      · exact .inl List.mem_cons_self
      · refine (ih h).imp (List.mem_cons_of_mem _) ?_
        rintro ⟨known, hk, rfl⟩
        exact ⟨known, fun b h => List.mem_cons_of_mem _ (hk b h), rfl⟩

/-- What is looked up is among the things. -/
theorem mem_of_lookup {b : β} (h : things.lookup name = some b) : (name, b) ∈ things := by
  obtain ⟨before, after, rfl, _⟩ := List.lookup_eq_some_iff.mp h
  simp

/-- Where no two things have one name, each of them can be looked up. -/
theorem lookup_of_mem {b : β} (hnames : (things.map (·.1)).Nodup) (h : (name, b) ∈ things) :
    things.lookup name = some b := by
  induction things with
  | nil => cases h
  | cons thing rest ih =>
    obtain ⟨n, b'⟩ := thing
    rw [List.map_cons, List.nodup_cons] at hnames
    rcases List.mem_cons.mp h with heq | hmem
    · obtain ⟨rfl, rfl⟩ := Prod.mk.inj heq
      exact List.lookup_cons_self
    · have hne : name ≠ n := by
        rintro rfl
        exact hnames.1 (List.mem_map.mpr ⟨_, hmem, rfl⟩)
      rw [List.lookup_cons, beq_false_of_ne hne]
      exact ih hnames.2 hmem

/-- Things are known by their names in order and by what there is of each name. -/
theorem eq_of_mem {others : List (String × β)} (hnames : things.map (·.1) = others.map (·.1))
    (h : ∀ t ∈ things, ∀ o ∈ others, t.1 = o.1 → t.2 = o.2) : things = others := by
  induction things generalizing others with
  | nil => exact (List.map_eq_nil_iff.mp hnames.symm).symm
  | cons thing rest ih =>
    cases others with
    | nil => cases hnames
    | cons other others =>
      obtain ⟨hname, hrest⟩ := List.cons.inj hnames
      have hfirst : thing = other :=
        Prod.ext hname (h _ List.mem_cons_self _ List.mem_cons_self hname)
      rw [hfirst, ih hrest fun t ht o ho =>
        h t (List.mem_cons_of_mem _ ht) o (List.mem_cons_of_mem _ ho)]

/-- Things are known by their names in order and by what is looked up at each. -/
theorem eq_of_lookup {others : List (String × β)}
    (hnames : things.map (·.1) = others.map (·.1)) (hnodup : (things.map (·.1)).Nodup)
    (h : ∀ name ∈ things.map (·.1), things.lookup name = others.lookup name) :
    things = others := by
  refine eq_of_mem hnames fun t ht o ho hname => ?_
  have hthere : things.lookup t.1 = some t.2 := lookup_of_mem hnodup ht
  have hother : others.lookup o.1 = some o.2 := lookup_of_mem (hnames ▸ hnodup) ho
  have hboth := h t.1 (List.mem_map_of_mem ht)
  rw [hthere, hname, hother] at hboth
  exact Option.some.inj hboth

/-- Sorted things are in the order of their names. -/
theorem pairwise_mergeSort (things : List (String × β)) :
    (things.mergeSort fun a b => decide (a.1 ≤ b.1)).Pairwise fun a b => a.1 ≤ b.1 := by
  have hsorted : (things.mergeSort fun a b => decide (a.1 ≤ b.1)).Pairwise fun a b =>
      decide (a.1 ≤ b.1) = true := by
    refine List.pairwise_mergeSort ?_ ?_ things
    · intro a b c hab hbc
      exact decide_eq_true (String.le_trans (of_decide_eq_true hab) (of_decide_eq_true hbc))
    · intro a b
      rcases String.le_total a.1 b.1 with h | h
      · rw [decide_eq_true h, Bool.true_or]
      · rw [decide_eq_true h, Bool.or_true]
  exact hsorted.imp of_decide_eq_true

end ScriptTypes.Named
