import ScriptTypes.Proofs.Outcome
import ScriptTypes.Shape.Interface

/-!
# Shapes that are alike

Nothing that is done with a shape looks at the expressions at its leaves: merging, adding a
field and sorting come to the same whether the expressions are changed before or after. So two
shapes that have grown in the same way are alike, even if their expressions come from different
trees: they are what is left of one shape that has a pair of expressions at each leaf.
-/

namespace ScriptTypes.Shape

open Syntax (Node)

variable {α β γ : Type}

mutual

/-- The shape with other expressions at its leaves. -/
def map (f : α → β) : Shape α → Shape β
  | .leaf e => .leaf (e.map f)
  | .branch fs => .branch (mapFields f fs)

/-- The fields with other expressions at their leaves. -/
def mapFields (f : α → β) : List (String × Shape α) → List (String × Shape β)
  | [] => []
  | (name, s) :: rest => (name, map f s) :: mapFields f rest

end

variable {f : α → β}

theorem mapFields_eq (fs : List (String × Shape α)) :
    mapFields f fs = fs.map fun t => (t.1, t.2.map f) := by
  induction fs with
  | nil => rfl
  | cons t rest ih => rw [mapFields, ih, List.map_cons]

theorem isUnknown_map (s : Shape α) : (s.map f).isUnknown = s.isUnknown := by
  cases s with
  | leaf e => cases e <;> rfl
  | branch fs => rfl

/-! ## Merging -/

/-- Altering a field commutes with changing expressions if what is done to the field does. -/
theorem mapFields_alter {name : String} {g : Option (Shape α) → Shape α}
    {g' : Option (Shape β) → Shape β} (h : ∀ known, (g known).map f = g' (known.map (map f)))
    (fs : List (String × Shape α)) :
    mapFields f (Named.alter name g fs) = Named.alter name g' (mapFields f fs) := by
  induction fs with
  | nil => rw [Named.alter, mapFields, mapFields, h]; rfl
  | cons t rest ih =>
      obtain ⟨n, s⟩ := t
      rw [Named.alter, mapFields, Named.alter]
      split
      · rw [mapFields, h]; rfl
      · rw [mapFields, ih]

mutual

theorem map_merge (left right : Shape α) :
    (left.merge right).map f = (left.map f).merge (right.map f) := by
  match right with
  | .leaf e =>
    cases left with
    | leaf known => cases known <;> rfl
    | branch fs => rfl
  | .branch gs =>
    cases left with
    | leaf known => rfl
    | branch fs =>
        show Shape.branch (mapFields f (mergeFields fs gs)) =
          .branch (mergeFields (mapFields f fs) (mapFields f gs))
        rw [mapFields_mergeFields]

theorem mapFields_mergeFields (fs gs : List (String × Shape α)) :
    mapFields f (mergeFields fs gs) = mergeFields (mapFields f fs) (mapFields f gs) := by
  match gs with
  | [] => rfl
  | (name, child) :: gs =>
    rw [mergeFields, mapFields_mergeFields _ gs, mapFields, mergeFields]
    congr 1
    refine mapFields_alter (fun known => ?_) fs
    cases known with
    | none => rfl
    | some known => exact map_merge known child

end

theorem map_nest (path : List String) (s : Shape α) :
    (nest path s).map f = nest path (s.map f) := by
  induction path with
  | nil => rfl
  | cons name path ih =>
      show Shape.branch [(name, (nest path s).map f)] = _
      rw [ih]
      rfl

/-! ## Sorting and typing -/

theorem mapFields_inNameOrder (fs : List (String × Shape α)) :
    mapFields f (inNameOrder fs) = inNameOrder (mapFields f fs) := by
  unfold inNameOrder
  rw [mapFields_eq, mapFields_eq]
  exact List.map_mergeSort (fun _ _ _ _ => rfl)

mutual

theorem map_sorted (s : Shape α) : s.sorted.map f = (s.map f).sorted := by
  match s with
  | .leaf e => rfl
  | .branch fs =>
    show Shape.branch (mapFields f (inNameOrder (sortedBelow fs))) =
      .branch (inNameOrder (sortedBelow (mapFields f fs)))
    rw [mapFields_inNameOrder, mapFields_sortedBelow]

theorem mapFields_sortedBelow (fs : List (String × Shape α)) :
    mapFields f (sortedBelow fs) = sortedBelow (mapFields f fs) := by
  match fs with
  | [] => rfl
  | (name, s) :: rest =>
    rw [sortedBelow, mapFields, mapFields, sortedBelow, map_sorted s, mapFields_sortedBelow rest]

end

section Typed

variable {g g' : γ → Node}

mutual

theorem typed_map (h : ∀ c, inferType? (g c) = inferType? (g' c)) (s : Shape γ) :
    (s.map g).typed = (s.map g').typed := by
  match s with
  | .leaf none => rfl
  | .leaf (some c) =>
    show (return Shape.leaf (← inferType? (g c)) : Except Fault _) = _
    rw [h c]
    rfl
  | .branch fs =>
    show (return Shape.branch (← typedFields (mapFields g fs)) : Except Fault _) = _
    rw [typedFields_map h fs]
    rfl

theorem typedFields_map (h : ∀ c, inferType? (g c) = inferType? (g' c))
    (fs : List (String × Shape γ)) :
    typedFields (mapFields g fs) = typedFields (mapFields g' fs) := by
  match fs with
  | [] => rfl
  | (name, s) :: rest =>
    rw [mapFields, mapFields, typedFields, typedFields, typed_map h s, typedFields_map h rest]

end

/-- The members of an object are typed alike where its expressions are. -/
theorem members_map (h : ∀ c, inferType? (g c) = inferType? (g' c)) (s : Shape γ) :
    (s.map g).members = (s.map g').members := by
  cases s with
  | leaf e => rfl
  | branch fs =>
      have hsorted : ∀ k : γ → Node, ((Shape.branch fs).map k).members =
          typedFields (mapFields k (inNameOrder (sortedBelow fs))) := by
        intro k
        rw [mapFields_inNameOrder, mapFields_sortedBelow]
        rfl
      rw [hsorted, hsorted]
      exact typedFields_map h _

end Typed

/-! ## Shapes with related expressions -/

/-- Two shapes are alike: they have the same fields in the same order, and the expressions at
their leaves are related. -/
def Alike (r : α → β → Prop) (s : Shape α) (t : Shape β) : Prop :=
  ∃ both : Shape { p : α × β // r p.1 p.2 }, both.map (·.1.1) = s ∧ both.map (·.1.2) = t

namespace Alike

variable {r : α → β → Prop} {s s' : Shape α} {t t' : Shape β}

theorem leaf {e : Option α} {e' : Option β} (h : Option.Rel r e e') :
    Alike r (.leaf e) (.leaf e') := by
  cases h with
  | none => exact ⟨.leaf none, rfl, rfl⟩
  | @some a b h => exact ⟨.leaf (some ⟨(a, b), h⟩), rfl, rfl⟩

theorem unknown : Alike r .unknown .unknown := leaf .none

theorem merge (h : Alike r s t) (h' : Alike r s' t') : Alike r (s.merge s') (t.merge t') := by
  obtain ⟨both, rfl, rfl⟩ := h
  obtain ⟨both', rfl, rfl⟩ := h'
  exact ⟨both.merge both', map_merge _ _, map_merge _ _⟩

theorem nest {path : List String} (h : Alike r s t) : Alike r (.nest path s) (.nest path t) := by
  obtain ⟨both, rfl, rfl⟩ := h
  exact ⟨.nest path both, map_nest _ _, map_nest _ _⟩

theorem addField {name : String} (h : Alike r s t) (h' : Alike r s' t') :
    Alike r (s.addField name s') (t.addField name t') := by
  rw [addField_eq_merge, addField_eq_merge]
  have hmember : Alike r (.nest [name] s') (.nest [name] t') := h'.nest
  exact h.merge hmember

theorem isUnknown_eq (h : Alike r s t) : s.isUnknown = t.isUnknown := by
  obtain ⟨both, rfl, rfl⟩ := h
  rw [isUnknown_map, isUnknown_map]

/-- Shapes that are alike have fields of the same names. -/
theorem names_eq (h : Alike r s t) : s.fields.map (·.1) = t.fields.map (·.1) := by
  obtain ⟨both, rfl, rfl⟩ := h
  cases both with
  | leaf e => rfl
  | branch fs =>
      show (mapFields _ fs).map _ = (mapFields _ fs).map _
      rw [mapFields_eq, mapFields_eq, List.map_map, List.map_map]
      rfl

/-- Objects that are alike have the same members if related expressions tell the same type. -/
theorem members_eq {r : Node → Node → Prop} {s t : Shape Node} (h : Alike r s t)
    (hr : ∀ a b, r a b → inferType? a = inferType? b) : s.members = t.members := by
  obtain ⟨both, rfl, rfl⟩ := h
  exact members_map (fun c => hr _ _ c.2) both

end Alike

end ScriptTypes.Shape
