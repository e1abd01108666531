import Mathlib.Data.List.Forall2
import ScriptTypes.Proofs.Nodes
import ScriptTypes.Syntax.Outline

/-!
# Trees that are written down in pre-order

A tree is written as a list of records that name their parents by their places. The list is in
pre-order if the parent of each record but the first is the record just in front of it, or an
ancestor of that one: whoever reads on either goes down, or goes up some way and then down
again. That is all that is asked of a list. From it `Spells` makes the recursive form, in which
what is below a record follows it in one piece.

The list is read from its end, so all children of a node have been built when its turn comes.
What has been built is kept by the place of the parent. Reading what a list spells adds the
nodes to those of their parent and touches no place in front of it but that one, which is the
invariant of the loop. So the tree that is read lists its nodes as the list does.
-/

namespace ScriptTypes.Syntax

variable {source : List UInt8} {records : List Record} {place parent : Nat}

/-! ## Pre-order -/

/--
Some records, from a place on, go on in pre-order. The `spine` holds the places of the record
in front of them and of its ancestors, nearest first.
-/
inductive GoOn : (spine : List Nat) → (place : Nat) → List Record → Prop where
  | nil {spine : List Nat} {place : Nat} : GoOn spine place []
  | cons {spine : List Nat} {place parent : Nat} {record : Record} {records : List Record} :
      record.parent = some parent → parent ∈ spine →
      GoOn (place :: spine.dropWhile (· ≠ parent)) (place + 1) records →
      GoOn spine place (record :: records)

/-- Some records are a tree in pre-order. -/
inductive InPreorder : List Record → Prop where
  | root {record : Record} {records : List Record} : record.parent = none → GoOn [0] 1 records →
      InPreorder (record :: records)

/--
Some records, from a place on, are those of some siblings and of all that is below them: a
record of a sibling, the records below it, and those of the siblings that follow.
-/
inductive Spells (source : List UInt8) :
    (parent place : Nat) → List Record → List Node → Prop where
  | nil {parent place : Nat} : Spells source parent place [] []
  | cons {parent place : Nat} {record : Record} {below after : List Record}
      {children siblings : List Node} : record.parent = some parent →
      Spells source place (place + 1) below children →
      Spells source parent (place + 1 + below.length) after siblings →
      Spells source parent place (record :: (below ++ after))
        (.mk (record.data source place) children :: siblings)

/-- Records that go on in pre-order are first those below the record in front of them. -/
theorem GoOn.exists_spelled (source : List UInt8) {spine : List Nat}
    (h : GoOn (parent :: spine) place records) :
    ∃ below after children, records = below ++ after ∧
      Spells source parent place below children ∧ GoOn spine (place + below.length) after := by
  induction hn : records.length using Nat.strongRecOn generalizing parent spine place records with
  | ind n ih =>
      cases h with
      | nil => exact ⟨[], [], [], rfl, .nil, .nil⟩
      | @cons _ _ p record records hparent hmem hrest =>
          rw [List.length_cons] at hn
          by_cases hp : parent = p
          · subst hp
            rw [List.dropWhile_cons_of_neg (by simp)] at hrest
            -- a child: first comes what is below it, then the siblings that follow
            obtain ⟨below, rest, children, rfl, hbelow, hrest⟩ :=
              ih _ (by omega) hrest rfl
            rw [List.length_append] at hn
            obtain ⟨siblingsBelow, after, siblings, rfl, hsiblings, hafter⟩ :=
              ih _ (by omega) hrest rfl
            refine ⟨record :: (below ++ siblingsBelow), after, _, by simp, .cons hparent hbelow
              hsiblings, ?_⟩
            rw [List.length_cons, List.length_append]
            convert hafter using 1
            omega
          · -- a child of an ancestor: nothing is below the record in front any more
            rw [List.dropWhile_cons_of_pos (by simpa using hp)] at hrest
            have hmem : p ∈ spine := (List.mem_cons.mp hmem).resolve_left (Ne.symm hp)
            exact ⟨[], _, [], rfl, .nil, .cons hparent hmem hrest⟩

/-- A tree in pre-order is a first record and what is spelled below it. -/
theorem InPreorder.exists_spelled (source : List UInt8) (h : InPreorder records) :
    ∃ record below children, records = record :: below ∧ record.parent = none ∧
      Spells source 0 1 below children := by
  cases h with
  | @root record rest hparent hrest =>
      obtain ⟨below, after, children, rfl, hbelow, hafter⟩ := hrest.exists_spelled source
      have hnone : after = [] := by
        cases hafter with
        | nil => rfl
        | cons _ hmem _ => cases hmem
      subst hnone
      exact ⟨record, below, children, by rw [List.append_nil], hparent, hbelow⟩

/-! ## Reading -/

namespace Pending

variable {pending : Pending}

/-- The children of the node at a place that have been built. -/
def built (pending : Pending) (place : Nat) : List Node := pending.getD place []

/-- What has been built once some records, from a place on, are worked through from their end. -/
def read (source : List UInt8) (place : Nat) (records : List Record) (pending : Pending) :
    Pending :=
  (records.zipIdx place).foldr (fun entry pending => pending.settle source entry) pending

theorem read_cons {record : Record} :
    read source place (record :: records) pending =
      (read source (place + 1) records pending).settle source (record, place) := rfl

theorem read_append {before after : List Record} :
    read source place (before ++ after) pending =
      read source place before (read source (place + before.length) after pending) := by
  unfold read
  rw [List.zipIdx_append, List.foldr_append]

theorem built_settle (source : List UInt8) {entry : Record × Nat}
    (hparent : entry.1.parent = some parent) (hsize : parent < pending.size) (other : Nat) :
    (pending.settle source entry).built other =
      if other = parent then
        .mk (entry.1.data source entry.2) (pending.built entry.2) :: pending.built parent
      else pending.built other := by
  unfold settle built
  simp only [hparent, Array.getD_eq_getD_getElem?, Array.getElem?_modify]
  by_cases hother : other = parent
  · subst hother
    simp [hsize]
  · simp [hother, Ne.symm hother]

theorem size_settle {entry : Record × Nat} : (pending.settle source entry).size = pending.size := by
  unfold settle
  dsimp only
  split
  · exact Array.size_modify
  · rfl

/--
**Reading what some records spell adds it to the children of its parent.** In front of the
records nothing else changes, and what is behind them is not touched.
-/
theorem built_read {nodes : List Node} (h : Spells source parent place records nodes)
    (pending : Pending) (hparent : parent < place) (hsize : place + records.length ≤ pending.size)
    (hfresh : ∀ i, place ≤ i → i < place + records.length → pending.built i = []) :
    (read source place records pending).size = pending.size ∧
    (read source place records pending).built parent = nodes ++ pending.built parent ∧
    ∀ i, i ≠ parent → i < place ∨ place + records.length ≤ i →
      (read source place records pending).built i = pending.built i := by
  induction h generalizing pending with
  | nil => exact ⟨rfl, rfl, fun _ _ _ => rfl⟩
  | @cons parent place record below after children siblings hrecord _ _ ihbelow ihafter =>
      rw [List.length_cons, List.length_append] at hsize hfresh
      -- first what follows, then what is below, and the record itself at last
      obtain ⟨hsize₁, hbuilt₁, hsame₁⟩ := ihafter pending (by omega) (by omega)
        fun i h₁ h₂ => hfresh i (by omega) (by omega)
      rw [read_cons, read_append]
      generalize read source (place + 1 + below.length) after pending = later
        at hsize₁ hbuilt₁ hsame₁ ⊢
      obtain ⟨hsize₂, hbuilt₂, hsame₂⟩ := ihbelow later (by omega) (by omega)
        fun i h₁ h₂ => by
          rw [hsame₁ i (by omega) (by omega)]
          exact hfresh i (by omega) (by omega)
      generalize read source (place + 1) below later = now at hsize₂ hbuilt₂ hsame₂ ⊢
      have hchildren : now.built place = children := by
        rw [hbuilt₂, hsame₁ place (by omega) (by omega), hfresh place (by omega) (by omega),
          List.append_nil]
      have hroom : parent < now.size := by omega
      have hsettle := @built_settle _ now source (record, place) hrecord hroom
      refine ⟨by rw [size_settle]; omega, ?_, fun i hi hout => ?_⟩
      · rw [hsettle, if_pos rfl, hchildren, hsame₂ parent (by omega) (by omega), hbuilt₁]
        rfl
      · rw [List.length_cons, List.length_append] at hout
        rw [hsettle, if_neg hi, hsame₂ i (by omega) (by omega), hsame₁ i hi (by omega)]

end Pending

/-- Reading a tree in pre-order gives the tree that it spells. -/
theorem treeOfRecords?_of_spells {record : Record} {below : List Record} {children : List Node}
    (h : Spells source 0 1 below children) :
    treeOfRecords? source (record :: below) = some (.mk (record.data source 0) children) := by
  have hempty : ∀ i, (Array.replicate (below.length + 1) ([] : List Node)).getD i [] = [] := by
    intro i
    rw [Array.getD_eq_getD_getElem?, Array.getElem?_replicate]
    split <;> rfl
  have hread := (Pending.built_read h (Array.replicate (below.length + 1) [])
    Nat.one_pos (by rw [Array.size_replicate]; omega) fun i _ _ => hempty i).2.1
  have hbuilt : (((below.zipIdx 1).reverse.foldl (Pending.settle source)
      (Array.replicate (below.length + 1) [])).getD 0 []) = children := by
    rw [List.foldl_reverse]
    refine hread.trans ?_
    rw [Pending.built, hempty, List.append_nil]
  exact congrArg (fun nodes => some (Node.mk (record.data source 0) nodes)) hbuilt

/-! ## What is read -/

/-- A record and its place in the list describe a place of a tree: what the node says of itself,
and which node is its parent. -/
structure Describes (source : List UInt8) (entry : Record × Nat) (f : Focus) : Prop where
  /-- The node says what the record says. -/
  data : f.node.data = entry.1.data source entry.2
  /-- The parent is the node at the place that the record names. -/
  parent : f.parent?.map (·.node.id) = entry.1.parent

/-- Records describe the siblings that they spell and all that is below them, one by one. -/
theorem Spells.describes {nodes above : List Node} (h : Spells source parent place records nodes)
    (habove : above.head?.map Node.id = some parent) :
    List.Forall₂ (Describes source) (records.zipIdx place) (Focus.walkAll above nodes) := by
  induction h generalizing above with
  | nil => exact .nil
  | @cons parent place record below after children siblings hrecord _ _ ihbelow ihafter =>
      rw [List.zipIdx_cons, List.zipIdx_append, Focus.walkAll, Focus.walk, List.cons_append]
      refine .cons ⟨rfl, ?_⟩ (List.rel_append (ihbelow rfl) (ihafter habove))
      rw [hrecord, ← habove]
      cases above <;> rfl

/--
**A tree that is written down in pre-order is read, and its walk goes through the list.** The
walk comes to as many places as there are records, and each record describes the place with its
number: the node says of itself what the record says, and its parent is the node at the place
that the record names.
-/
theorem InPreorder.read (h : InPreorder records) (source : List UInt8) :
    ∃ root, treeOfRecords? source records = some root ∧
      List.Forall₂ (Describes source) records.zipIdx (Focus.ofRoot root).descendants := by
  obtain ⟨record, below, children, rfl, hparent, hbelow⟩ := h.exists_spelled source
  refine ⟨_, treeOfRecords?_of_spells hbelow, ?_⟩
  rw [List.zipIdx_cons, Focus.descendants_eq]
  refine .cons ⟨rfl, by rw [hparent]; rfl⟩ (hbelow.describes rfl)

/-- The nodes are labelled with their places in the list. -/
theorem map_id_of_describes {places : List Focus} {start : Nat}
    (h : List.Forall₂ (Describes source) (records.zipIdx start) places) :
    places.map (·.node.id) = List.range' start places.length := by
  induction records generalizing start places with
  | nil =>
      cases h
      rfl
  | cons record records ih =>
      rw [List.zipIdx_cons] at h
      cases h with
      | cons hfirst hrest =>
          rw [List.map_cons, ih hrest, List.length_cons, List.range'_succ]
          exact congrArg (· :: _) (congrArg NodeData.id hfirst.data)

end ScriptTypes.Syntax
