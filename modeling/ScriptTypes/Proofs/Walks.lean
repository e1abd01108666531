import Mathlib.Data.List.Nodup
import ScriptTypes.Proofs.WrittenTrees

/-!
# The walks of a tree agree

A tree is walked in three ways: down from a place through all that is below it, up from a place
by the links to parents, and down again to print an outline. Both walks down are loops with a
stack, of which the end is the top. What is on top is taken off, and its children are put on in
reverse, so that the first of them is on top next. `Drains` says what such a loop visits. At
every turn what is left to be visited is all that is below the places on the stack, from the
top of the stack on; so the loop visits what the recursion on the tree lists. The outline is
printed by the same loop on other items, the nodes with their depths.

If a tree is written down in pre-order, its nodes are told apart by their places in the list.
Then going down and going up can be compared: a node is below another one exactly if it finds
that one on its way up.
-/

namespace ScriptTypes.Syntax

/-! ## Loops with a stack -/

section Loops

variable {α β : Type} {below : α → List α} {stack visited other : List α}

/--
A loop takes the item at the end of a stack off, visits it, and puts the items below it on, the
first of them last. `Drains below stack visited` says that it visits these items, in this order,
until the stack is empty.
-/
inductive Drains (below : α → List α) : (stack visited : List α) → Prop where
  | empty : Drains below [] []
  | visit {stack visited : List α} {a : α} : stack.getLast? = some a →
      Drains below (stack.dropLast ++ (below a).reverse) visited → Drains below stack (a :: visited)

/-- A loop visits the same items in every run. -/
theorem Drains.unique (h : Drains below stack visited) (h' : Drains below stack other) :
    visited = other := by
  induction h generalizing other with
  | empty =>
      cases h' with
      | empty => rfl
      | visit hlast _ => cases hlast
  | visit hlast _ ih =>
      cases h' with
      | empty => cases hlast
      | visit hlast' hrest =>
          obtain rfl := Option.some.inj (hlast.symm.trans hlast')
          rw [ih hrest]

/-- On top of a stack, an item leads the loop through a walk before it goes on with the stack. -/
def Leads (below walk : α → List α) (a : α) : Prop :=
  ∀ stack visited, Drains below stack visited → Drains below (stack ++ [a]) (walk a ++ visited)

/-- Items that are put on in reverse are gone through in their order, each with its walk. -/
theorem Drains.push {walk : α → List α} {items : List α}
    (hitems : ∀ a ∈ items, Leads below walk a) (h : Drains below stack visited) :
    Drains below (stack ++ items.reverse) (items.flatMap walk ++ visited) := by
  induction items with
  | nil => simpa using h
  | cons a items ih =>
      have hrest := ih fun b hb => hitems b (List.mem_cons_of_mem _ hb)
      rw [List.reverse_cons, List.flatMap_cons, ← List.append_assoc stack,
        List.append_assoc (walk a)]
      exact hitems a List.mem_cons_self _ _ hrest

/-- A loop on the images of items visits the images, if what is below a visited item is the image
of what is below the item. -/
theorem Drains.map {below' : β → List β} (φ : α → β) (h : Drains below stack visited)
    (hbelow : ∀ a ∈ visited, below' (φ a) = (below a).map φ) :
    Drains below' (stack.map φ) (visited.map φ) := by
  induction h with
  | empty => exact .empty
  | @visit stack visited a hlast _ ih =>
      refine .visit (by rw [List.getLast?_map, hlast]; rfl) ?_
      have hrest := ih fun b hb => hbelow b (List.mem_cons_of_mem _ hb)
      rwa [List.map_append, List.map_dropLast, List.map_reverse,
        ← hbelow a List.mem_cons_self] at hrest

end Loops

namespace Focus

variable {root : Node} {f g : Focus}

/-! ## Down -/

/-- The children of a place. -/
def childPlaces (f : Focus) : List Focus := f.node.children.map f.child

/-- The walk from a place is what the place leads the loop through. -/
theorem leads_descendants (f : Focus) : Leads childPlaces descendants f := by
  intro stack visited h
  obtain ⟨n, above⟩ := f
  induction n using Node.induction generalizing above stack visited with
  | mk d cs ih =>
      rw [descendants_eq_flatMap, List.cons_append]
      refine .visit List.getLast?_concat ?_
      rw [List.dropLast_concat]
      have hitems : ∀ g ∈ childPlaces ⟨.mk d cs, above⟩, Leads childPlaces descendants g := by
        intro g hg stack visited hrest
        obtain ⟨c, hc, rfl⟩ := List.mem_map.mp hg
        exact ih c hc stack visited hrest (.mk d cs :: above)
      have hchildren := h.push hitems
      rwa [childPlaces, List.flatMap_map] at hchildren

/-- **Whatever is on the stack, the loop visits all that is below it, from the top on.** -/
theorem drains_iff {stack visited : List Focus} :
    Drains childPlaces stack visited ↔ visited = stack.reverse.flatMap descendants := by
  have hrun : Drains childPlaces stack (stack.reverse.flatMap descendants) := by
    have h := Drains.empty.push fun g (_ : g ∈ stack.reverse) => leads_descendants g
    rwa [List.nil_append, List.reverse_reverse, List.append_nil] at h
  exact ⟨fun h => h.unique hrun, fun h => h ▸ hrun⟩

/-- What is below a place is listed in one piece by a walk that comes to it. -/
theorem Below.infix (h : f.Below g) : g.descendants <:+: f.descendants := by
  induction h with
  | self => exact List.infix_rfl
  | @child g c _ hc ih =>
      refine List.IsInfix.trans ?_ ih
      obtain ⟨before, after, hchildren⟩ := List.append_of_mem hc
      rw [descendants_eq_flatMap g, hchildren, List.flatMap_append, List.flatMap_cons]
      exact ⟨g :: before.flatMap fun c => (g.child c).descendants,
        after.flatMap fun c => (g.child c).descendants, by simp⟩

/--
In a tree whose nodes are labelled with consecutive numbers, in the order of the walk, the labels
of a node and of all that is below it are consecutive as well.
-/
theorem Below.map_id (hf : (ofRoot root).Below f) {start : Nat}
    (hids : (ofRoot root).descendants.map (·.node.id) =
      List.range' start (ofRoot root).descendants.length) :
    f.descendants.map (·.node.id) = List.range' f.node.id f.descendants.length := by
  obtain ⟨before, after, hsplit⟩ := hf.infix.map (·.node.id)
  rw [hids] at hsplit
  obtain ⟨k, -, hbefore, -⟩ := List.range'_eq_append_iff.mp hsplit.symm
  obtain ⟨m, -, -, hlabels⟩ := List.range'_eq_append_iff.mp hbefore.symm
  have hlength := congrArg List.length hlabels
  rw [List.length_map, List.length_range'] at hlength
  rw [← hlength] at hlabels
  -- the first label is that of the place itself
  have hfirst := congrArg List.head? hlabels
  rw [List.head?_map, descendants_eq, List.head?_cons, List.length_cons, List.range'_succ] at hfirst
  rw [hlabels, ← Option.some.inj hfirst]

/-! ## Up -/

/-- A loop goes to the parent of a place, to the parent of that, and so on. `Climbs parent passed`
says that it passes these places, in this order, until there is no parent. -/
inductive Climbs : (parent : Option Focus) → (passed : List Focus) → Prop where
  | out : Climbs none []
  | up {p : Focus} {passed : List Focus} : Climbs p.parent? passed → Climbs (some p) (p :: passed)

/-- The loop passes the ancestors. -/
theorem climbs_iff {passed : List Focus} : Climbs f.parent? passed ↔ passed = f.ancestors := by
  obtain ⟨n, above⟩ := f
  induction above generalizing n passed with
  | nil =>
      constructor
      · intro h
        cases h
        rfl
      · rintro rfl
        exact .out
  | cons p above ih =>
      constructor
      · intro h
        cases h with
        | up hrest => exact congrArg (_ :: ·) ((ih p).mp hrest)
      · rintro rfl
        exact .up ((ih p).mpr rfl)

theorem length_ancestors (f : Focus) : f.ancestors.length = f.above.length := by
  obtain ⟨n, above⟩ := f
  show (chain above).length = above.length
  induction above with
  | nil => rfl
  | cons p above ih => exact congrArg (· + 1) ih

/-- Fewer nodes stand above an ancestor. -/
theorem length_above_lt {a : Focus} (ha : a ∈ f.ancestors) : a.above.length < f.above.length := by
  obtain ⟨n, above⟩ := f
  change a ∈ chain above at ha
  show a.above.length < above.length
  induction above with
  | nil => cases ha
  | cons p above ih =>
      rw [List.length_cons]
      rcases List.mem_cons.mp ha with rfl | ha
      · exact Nat.lt_succ_self _
      · exact Nat.lt_succ_of_lt (ih ha)

/-- On the way up from a place below another one come places below that one, and in the end the
ancestors of it. -/
theorem Below.exists_between (h : f.Below g) : ∃ between,
    g.ancestors = between ++ f.ancestors ∧ ∀ a ∈ between, f.Below a := by
  induction h with
  | self => exact ⟨[], rfl, nofun⟩
  | @child g c hg _ ih =>
      obtain ⟨between, hbetween, hbelow⟩ := ih
      refine ⟨g :: between, congrArg (g :: ·) hbetween, fun a ha => ?_⟩
      rcases List.mem_cons.mp ha with rfl | ha
      · exact hg
      · exact hbelow a ha

theorem Below.length_above (h : f.Below g) : f.above.length ≤ g.above.length := by
  obtain ⟨between, hbetween, _⟩ := h.exists_between
  rw [← length_ancestors, ← length_ancestors, hbetween, List.length_append]
  omega

/-- A place in a tree is below its ancestors. -/
theorem below_of_mem_ancestors (hg : (ofRoot root).Below g) (hf : f ∈ g.ancestors) :
    f.Below g := by
  induction hg with
  | self => cases hf
  | child _ hc ih =>
      rcases List.mem_cons.mp hf with rfl | hf
      · exact .child .self hc
      · exact .child (ih hf) hc

/-- A place finds every place that it is below on its way up, if it does not start there. -/
theorem Below.eq_or_mem_ancestors (h : f.Below g) : g = f ∨ f ∈ g.ancestors := by
  induction h with
  | self => exact .inl rfl
  | child _ _ ih =>
      rcases ih with rfl | ih
      · exact .inr List.mem_cons_self
      · exact .inr (List.mem_cons_of_mem _ ih)

/-- **Going down and going up agree.** -/
theorem mem_ancestors_iff (hg : (ofRoot root).Below g) :
    f ∈ g.ancestors ↔ g ∈ f.descendants ∧ g ≠ f := by
  rw [mem_descendants_iff]
  constructor
  · intro hf
    refine ⟨below_of_mem_ancestors hg hf, ?_⟩
    rintro rfl
    exact Nat.lt_irrefl _ (length_above_lt hf)
  · rintro ⟨hbelow, hne⟩
    exact hbelow.eq_or_mem_ancestors.resolve_left hne

/-! ## Depth -/

/-- How far a place is below another one. -/
def depthOf (f g : Focus) : Nat := g.above.length - f.above.length

/-- The depth counts the ancestors on the way up that are still below the start of the walk. -/
theorem Below.exists_depth (h : f.Below g) : ∃ between, g.ancestors = between ++ f.ancestors ∧
    between.length = f.depthOf g ∧ ∀ a ∈ g.ancestors, a ∈ between ↔ a ∈ f.descendants := by
  obtain ⟨between, hbetween, hbelow⟩ := h.exists_between
  have hlength : between.length = f.depthOf g := by
    rw [depthOf, ← length_ancestors, ← length_ancestors, hbetween, List.length_append]
    omega
  refine ⟨between, hbetween, hlength, fun a ha => ?_⟩
  rw [mem_descendants_iff]
  refine ⟨hbelow a, fun hfa => ?_⟩
  rw [hbetween, List.mem_append] at ha
  -- an ancestor of the start has fewer nodes above it than what is below the start
  refine ha.resolve_right fun hup => ?_
  have hless := length_above_lt hup
  have hmore := hfa.length_above
  omega

end Focus

/-! ## The outline -/

/-- What the loop of the outline puts on for an item: the children of the node, one step deeper. -/
def outlineBelow (entry : Nat × Node) : List (Nat × Node) :=
  entry.2.children.map fun c => (entry.1 + 1, c)

namespace Focus

variable {f : Focus}

/-- The item of the outline for a place. -/
def entry (f g : Focus) : Nat × Node := (f.depthOf g, g.node)

/-- **The loop of the outline visits what the walk lists, each node with its depth.** -/
theorem drains_outline_iff {visited : List (Nat × Node)} :
    Drains outlineBelow [(0, f.node)] visited ↔ visited = f.descendants.map f.entry := by
  have hrun : Drains outlineBelow [(0, f.node)] (f.descendants.map f.entry) := by
    have hwalk : Drains childPlaces [f] f.descendants :=
      drains_iff.mpr (List.flatMap_singleton _ _).symm
    have hbelow : ∀ g ∈ f.descendants, outlineBelow (f.entry g) = g.childPlaces.map f.entry := by
      intro g hg
      have habove := (mem_descendants_iff.mp hg).length_above
      unfold outlineBelow childPlaces
      rw [List.map_map]
      refine List.map_congr_left fun c _ => Prod.ext ?_ rfl
      show f.depthOf g + 1 = (g.above.length + 1) - f.above.length
      unfold depthOf
      omega
    have hmap := hwalk.map f.entry hbelow
    rwa [List.map_singleton, entry, depthOf, Nat.sub_self] at hmap
  exact ⟨fun h => h.unique hrun, fun h => h ▸ hrun⟩

end Focus

theorem outlineAll_eq (depth : Nat) (nodes : List Node) :
    outlineAll depth nodes = nodes.flatMap (outline depth) := by
  induction nodes with
  | nil => rfl
  | cons n nodes ih => rw [outlineAll, ih, List.flatMap_cons]

/-- The outline lists the named nodes of the walk with their depths. -/
theorem outline_eq (depth : Nat) (f : Focus) :
    outline depth f.node = (f.descendants.filter (·.node.named)).map fun g =>
      (depth + f.depthOf g, g.node) := by
  obtain ⟨n, above⟩ := f
  induction n using Node.induction generalizing above depth with
  | mk d cs ih =>
      have hbelow : outlineAll (depth + 1) cs =
          ((cs.flatMap fun c => (Focus.child ⟨.mk d cs, above⟩ c).descendants).filter
            (·.node.named)).map fun g => (depth + Focus.depthOf ⟨.mk d cs, above⟩ g, g.node) := by
        rw [outlineAll_eq, List.filter_flatMap, List.map_flatMap]
        refine List.flatMap_congr fun c hc => ?_
        rw [show outline (depth + 1) c = _ from ih c hc (depth + 1) (.mk d cs :: above)]
        refine List.map_congr_left fun g hg => Prod.ext ?_ rfl
        have habove := (Focus.mem_descendants_iff.mp (List.mem_filter.mp hg).1).length_above
        simp only [Focus.depthOf, List.length_cons] at habove ⊢
        omega
      have hself : Focus.depthOf ⟨.mk d cs, above⟩ ⟨.mk d cs, above⟩ = 0 := Nat.sub_self _
      rw [Focus.descendants_eq_flatMap, List.filter_cons, outline, hbelow]
      by_cases hnamed : d.named
      · rw [if_pos hnamed, if_pos (show (Node.mk d cs).named = true from hnamed), List.map_cons,
          hself]
        rfl
      · rw [if_neg hnamed, if_neg (show ¬ (Node.mk d cs).named = true from hnamed)]
        rfl

/-- The lines of an outline are the named nodes of the walk, indented by their depths. -/
theorem outlineOf_eq (f : Focus) :
    outlineOf f.node = (f.descendants.filter (·.node.named)).map fun g =>
      outlineLine (f.depthOf g) g.node := by
  unfold outlineOf
  rw [outline_eq, List.map_map]
  refine List.map_congr_left fun g _ => ?_
  show outlineLine (0 + f.depthOf g) g.node = _
  rw [Nat.zero_add]

/-! ## A tree that is written down -/

/-- How the walks from a place of a tree fit together. -/
structure Focus.WalksAgree (root : Node) (f : Focus) : Prop where
  /-- The loop that goes down ends, and it visits what is listed. -/
  loop : ∀ visited, Drains childPlaces [f] visited ↔ visited = f.descendants
  /-- The place itself and those below it are listed, and no others. -/
  below : ∀ g, g ∈ f.descendants ↔ f.Below g
  /-- They are listed once each and in the order of the list, where they stand in one piece. -/
  labels : f.descendants.map (·.node.id) = List.range' f.node.id f.descendants.length
  /-- The loop that goes up ends, and it passes the ancestors, nearest first. -/
  climb : ∀ passed, Climbs f.parent? passed ↔ passed = f.ancestors
  /-- Another place is listed exactly if it comes here on its way up. -/
  up : ∀ g ∈ (ofRoot root).descendants, g.node.id ≠ f.node.id →
    (g ∈ f.descendants ↔ f ∈ g.ancestors)
  /-- The ancestor that is found is of one of the kinds, and no nearer one is. -/
  nearest : ∀ kinds a, f.findAncestor? kinds = some a ↔ ∃ nearer farther,
    f.ancestors = nearer ++ a :: farther ∧ a.node.kind ∈ kinds ∧ ∀ b ∈ nearer, b.node.kind ∉ kinds
  /-- If none is found, there is none. -/
  unfound : ∀ kinds, f.findAncestor? kinds = none ↔ ∀ a ∈ f.ancestors, a.node.kind ∉ kinds
  /-- The loop of the outline ends, and it visits what is listed, each node with its depth. -/
  outlineLoop : ∀ visited, Drains outlineBelow [(0, f.node)] visited ↔
    visited = f.descendants.map f.entry
  /-- The depth of a node is the number of its ancestors that are listed. -/
  depth : ∀ g ∈ f.descendants, ∃ between, g.ancestors = between ++ f.ancestors ∧
    between.length = f.depthOf g ∧ ∀ a ∈ g.ancestors, a ∈ between ↔ a ∈ f.descendants
  /-- The outline has a line for each named node that is listed, indented by its depth. -/
  lines : outlineOf f.node = (f.descendants.filter (·.node.named)).map fun g =>
    outlineLine (f.depthOf g) g.node

theorem Focus.findAncestor?_eq_some_iff {f a : Focus} {kinds : List String} :
    f.findAncestor? kinds = some a ↔ ∃ nearer farther, f.ancestors = nearer ++ a :: farther ∧
      a.node.kind ∈ kinds ∧ ∀ b ∈ nearer, b.node.kind ∉ kinds := by
  unfold findAncestor?
  rw [List.find?_eq_some_iff_append]
  simp only [decide_eq_true_eq, Bool.not_eq_true', decide_eq_false_iff_not]
  exact ⟨fun ⟨hkind, nearer, farther, h, hnone⟩ => ⟨nearer, farther, h, hkind, hnone⟩,
    fun ⟨nearer, farther, h, hkind, hnone⟩ => ⟨hkind, nearer, farther, h, hnone⟩⟩

theorem Focus.findAncestor?_eq_none_iff {f : Focus} {kinds : List String} :
    f.findAncestor? kinds = none ↔ ∀ a ∈ f.ancestors, a.node.kind ∉ kinds := by
  unfold findAncestor?
  simp only [List.find?_eq_none, decide_eq_true_eq]

/--
**The walks of a tree agree.** A tree that is written down in pre-order is read, and the records
describe what is listed below its root, one by one. From every place of it the loop down lists
the nodes below in the order of the list; the loop up passes the ancestors, nearest first, and
comes to those that have the place below them; a search among them finds the nearest that fits;
and the outline has the named nodes below, in the same order, each with its depth.
-/
theorem InPreorder.walks_agree {records : List Record} (h : InPreorder records)
    (source : List UInt8) :
    ∃ root, treeOfRecords? source records = some root ∧
      List.Forall₂ (Describes source) records.zipIdx (Focus.ofRoot root).descendants ∧
      ∀ f ∈ (Focus.ofRoot root).descendants, f.WalksAgree root := by
  obtain ⟨root, hroot, hplaces⟩ := h.read source
  have hids := map_id_of_describes hplaces
  refine ⟨root, hroot, hplaces, fun f hf => ?_⟩
  have hbelow := Focus.mem_descendants_iff.mp hf
  exact {
    loop := fun visited => by
      rw [Focus.drains_iff, List.reverse_singleton, List.flatMap_singleton]
    below := fun _ => Focus.mem_descendants_iff
    labels := hbelow.map_id hids
    climb := fun _ => Focus.climbs_iff
    up := fun g hg hne => by
      have hother : g ≠ f := fun hsame => hne (hsame ▸ rfl)
      rw [Focus.mem_ancestors_iff (Focus.mem_descendants_iff.mp hg), and_iff_left hother]
    nearest := fun _ _ => Focus.findAncestor?_eq_some_iff
    unfound := fun _ => Focus.findAncestor?_eq_none_iff
    outlineLoop := fun _ => Focus.drains_outline_iff
    depth := fun _ hg => (Focus.mem_descendants_iff.mp hg).exists_depth
    lines := outlineOf_eq f }

/-- A call with a number behind an open bracket, and a comment after it. -/
def callRecords : List Record := [
  ⟨"program", 0, 9, none, true, none⟩,
  ⟨"call_expression", 0, 4, some 0, true, none⟩,
  ⟨"identifier", 0, 1, some 1, true, some "function"⟩,
  ⟨"arguments", 1, 4, some 1, true, some "arguments"⟩,
  ⟨"(", 1, 2, some 3, false, none⟩,
  ⟨"number", 2, 3, some 3, true, none⟩,
  ⟨"comment", 5, 9, some 0, true, none⟩]

example : (treeOfRecords? [] callRecords).map outlineOf = some ["program [0-9]",
    " call_expression [0-4]", "  identifier [0-1]", "  arguments [1-4]", "   number [2-3]",
    " comment [5-9]"] := by
  decide +kernel

/-- The walks of a call and of the comment after it agree. -/
theorem walks_agree_of_call :
    InPreorder callRecords ∧ ∃ root, treeOfRecords? [] callRecords = some root ∧
      List.Forall₂ (Describes []) callRecords.zipIdx (Focus.ofRoot root).descendants ∧
      ∀ f ∈ (Focus.ofRoot root).descendants, f.WalksAgree root := by
  have h : InPreorder callRecords :=
    .root rfl <| .cons rfl (by simp) <| .cons rfl (by simp) <| .cons rfl (by simp) <|
      .cons rfl (by simp) <| .cons rfl (by simp) <| .cons rfl (by simp) .nil
  exact ⟨h, h.walks_agree []⟩

end ScriptTypes.Syntax
