import Mathlib.Data.List.Flatten
import Mathlib.Data.List.Perm.Subperm
import ScriptTypes.Proofs.Tree

/-!
# The nodes of a tree, as often as they occur

A tree can hold two nodes that say the same of themselves, so what is told of its nodes once
each is told by lists up to the order of their members: a list that is `Subperm` of the nodes
of a tree takes none of them twice. Every node but the root is a child of exactly one other.
-/

namespace ScriptTypes.Syntax

/-- The node and everything below it, in the order of the source. -/
def Node.nodes (n : Node) : List Node := (Focus.ofRoot n).descendants.map (·.node)

theorem Focus.walkAll_eq (above : List Node) (cs : List Node) :
    Focus.walkAll above cs = cs.flatMap (Focus.walk above) := by
  induction cs with
  | nil => rfl
  | cons c cs ih => rw [Focus.walkAll, ih, List.flatMap_cons]

/-- A walk lists a place first, and then what is below its children, one after the other. -/
theorem Focus.descendants_eq_flatMap (f : Focus) :
    f.descendants = f :: f.node.children.flatMap fun c => (f.child c).descendants := by
  rw [Focus.descendants_eq, Focus.walkAll_eq]
  rfl

/-- Which nodes a walk lists does not depend on what stands above its start. -/
theorem Focus.map_node_descendants (f : Focus) : f.descendants.map (·.node) = f.node.nodes := by
  obtain ⟨n, above⟩ := f
  unfold Node.nodes
  show (Focus.mk n above).descendants.map _ = (Focus.mk n []).descendants.map _
  -- going down hands ancestors along on both sides, so the induction is about any two lists
  generalize ([] : List Node) = other
  induction n using Node.induction generalizing above other with
  | mk d cs ih =>
      rw [Focus.descendants_eq_flatMap, Focus.descendants_eq_flatMap, List.map_cons, List.map_cons,
        List.map_flatMap, List.map_flatMap]
      congr 1
      exact List.flatMap_congr fun c hc => ih c hc _ _

theorem Node.nodes_eq (n : Node) : n.nodes = n :: n.children.flatMap Node.nodes := by
  unfold Node.nodes
  rw [Focus.descendants_eq_flatMap, List.map_cons, List.map_flatMap]
  congr 1
  exact List.flatMap_congr fun c _ => Focus.map_node_descendants _

/-- **Every node is the root or a child, and a child of one node only.** -/
theorem Node.nodes_perm (n : Node) : n.nodes.Perm (n :: n.nodes.flatMap Node.children) := by
  induction n using Node.induction with
  | mk d cs ih =>
      have hbelow : (cs.flatMap Node.nodes).Perm
          (cs ++ cs.flatMap fun c => c.nodes.flatMap Node.children) := by
        have hsplit := List.flatMap_append_perm cs (fun c => [c])
          fun c => c.nodes.flatMap Node.children
        rw [List.flatMap_singleton'] at hsplit
        -- each child comes in front of what is below it; here all of them are taken in front
        exact (List.Perm.flatMap_left cs ih).trans hsplit.symm
      rw [Node.nodes_eq, Node.children_mk, List.flatMap_cons, Node.children_mk, List.flatMap_assoc]
      exact hbelow.cons _

/-- The children of all nodes are nodes, each of them once. -/
theorem Node.flatMap_children_subperm (n : Node) :
    (n.nodes.flatMap Node.children).Subperm n.nodes :=
  (List.sublist_cons_self n _).subperm.trans n.nodes_perm.symm.subperm

section Lists

variable {α β : Type}

theorem subperm_flatMap {l l' : List α} (h : l.Subperm l') (f : α → List β) :
    (l.flatMap f).Subperm (l'.flatMap f) := by
  obtain ⟨m, hperm, hsub⟩ := h
  exact ⟨m.flatMap f, hperm.flatMap_right f, hsub.flatMap f⟩

/-- What occurs no more often in each part occurs no more often in the whole. -/
theorem count_flatMap_le [DecidableEq β] {l : List α} {f g : α → List β} {b : β}
    (h : ∀ a ∈ l, (f a).count b ≤ (g a).count b) :
    (l.flatMap f).count b ≤ (l.flatMap g).count b := by
  induction l with
  | nil => exact Nat.le_refl _
  | cons a l ih =>
      rw [List.flatMap_cons, List.flatMap_cons, List.count_append, List.count_append]
      exact Nat.add_le_add (h a List.mem_cons_self) (ih fun a ha => h a (List.mem_cons_of_mem _ ha))

/-- What is taken from each part, besides something else, is taken from the whole besides it. -/
theorem subperm_flatten {parts : List α} {news : List (List β)} {f g : α → List β}
    (h : List.Forall₂ (fun a new => (new ++ f a).Subperm (g a)) parts news) :
    (news.flatten ++ parts.flatMap f).Subperm (parts.flatMap g) := by
  induction h with
  | nil => exact List.Subperm.refl _
  | @cons a new parts news ha _ ih =>
      -- what is asked of the first part changes places with what the others give
      have hperm : ((new ++ news.flatten) ++ (f a ++ parts.flatMap f)).Perm
          ((new ++ f a) ++ (news.flatten ++ parts.flatMap f)) := by
        rw [List.append_assoc, List.append_assoc]
        refine List.Perm.append_left new ?_
        rw [← List.append_assoc, ← List.append_assoc]
        exact List.perm_append_comm.append_right _
      rw [List.flatten_cons, List.flatMap_cons, List.flatMap_cons]
      exact hperm.subperm.trans (ha.append ih)

end Lists

end ScriptTypes.Syntax
