import ScriptTypes.Proofs.Insertions

/-!
# Bindings that a type could be written behind

A parameter, a declarator and a catch clause bind something, and where they say nothing of
its type one could be written. This file tells by the tree alone which bindings these are:
`eligible` lists them in the order of the source. Not all of them get a type. Of some nothing
is known, and a few patterns take none.
-/

namespace ScriptTypes.Annotation

open Syntax

/-! ## Places that leave the type open -/

/-- A place that says nothing of the type of what it binds. -/
def Untyped (place : Node) : Prop := ∀ c ∈ place.children, c.kind ≠ "type_annotation"

instance (place : Node) : Decidable (Untyped place) :=
  inferInstanceAs (Decidable (∀ c ∈ place.children, c.kind ≠ "type_annotation"))

theorem untyped_iff {place : Node} : Untyped place ↔ place.hasChild "type_annotation" = false := by
  constructor
  · intro h
    refine List.any_eq_false.mpr fun c hc hk => h c hc ?_
    exact eq_of_beq hk
  · exact not_hasChild

/-- A declarator in the head of a loop. What the loop repeats is no part of its head. -/
def InHead (declarator : Focus) : Prop :=
  ∃ declaration loop, declarator.parent? = some declaration ∧ declaration.parent? = some loop ∧
    (loop.node.kind = "for_statement" ∨ loop.node.kind = "for_in_statement") ∧
    ∀ body, loop.node.field? "body" = some body → body.alike declaration.node = false

theorem inHead_iff {declarator : Focus} : InHead declarator ↔ inLoopHead declarator = true := by
  unfold InHead inLoopHead Node.isField
  cases hdeclaration : declarator.parent? with
  | none => simp
  | some declaration =>
      cases hloop : declaration.parent? with
      | none => simp [hloop]
      | some loop =>
          cases hbody : loop.node.field? "body" with
          | none => simp [hloop, hbody, loopKinds]
          | some body => simp [hloop, hbody, loopKinds]

instance (declarator : Focus) : Decidable (InHead declarator) := decidable_of_iff _ inHead_iff.symm

/-- A value that says that there is none. -/
def SaysNothing (value : Node) : Prop :=
  value.kind = "null" ∨ value.kind = "undefined" ∨
    value.kind = "identifier" ∧ value.text = .ok "undefined"

theorem saysNothing_iff {value : Node} {nullish : Bool} (h : isNullish value = .ok nullish) :
    SaysNothing value ↔ nullish = true := by
  unfold isNullish at h
  unfold SaysNothing
  split at h
  · rename_i hk
    obtain rfl := pure_eq_ok.mp h
    simp only [iff_true]
    exact hk.imp_right .inl
  · rename_i hk
    obtain ⟨hnull, hundefined⟩ := not_or.mp hk
    split at h
    · rename_i hname
      obtain ⟨text, htext, h⟩ := bind_eq_ok.mp h
      obtain rfl := pure_eq_ok.mp h
      simp [hname, htext]
    · rename_i hname
      obtain rfl := pure_eq_ok.mp h
      simp [hnull, hundefined, hname]

/-- A declarator without a value, with one that says that there is none, or with an empty array. -/
def LeftOpen (declarator : Node) : Prop :=
  ∀ value, declarator.field? "value" = some value →
    SaysNothing value ∨ value.kind = "array" ∧ value.namedChildren = []

theorem leftOpen_iff {declarator : Node} {answer : Option (Option Node)}
    (h : openValue? (declarator.field? "value") = .ok answer) :
    LeftOpen declarator ↔ answer ≠ none := by
  unfold openValue? at h
  unfold LeftOpen
  cases hv : declarator.field? "value" with
  | none =>
      rw [hv] at h
      obtain rfl := pure_eq_ok.mp h
      simp
  | some value =>
      rw [hv] at h
      obtain ⟨nullish, hn, h⟩ := bind_eq_ok.mp h
      have hnothing := saysNothing_iff hn
      cases nullish with
      | true =>
          obtain rfl := pure_eq_ok.mp h
          simp [hnothing]
      | false =>
          simp only [Bool.false_eq_true, if_false] at h
          split at h
          · rename_i harray
            obtain rfl := pure_eq_ok.mp h
            simp [harray]
          · rename_i harray
            obtain rfl := pure_eq_ok.mp h
            simpa [hnothing] using harray

instance (declarator : Node) : Decidable (LeftOpen declarator) :=
  match h : declarator.field? "value" with
  | none => isTrue fun _ hv => by cases h.symm.trans hv
  | some value =>
    decidable_of_iff ((value.kind = "null" ∨ value.kind = "undefined" ∨
      value.kind = "identifier" ∧ value.text = .ok "undefined") ∨
        value.kind = "array" ∧ value.namedChildren = []) (by
      unfold LeftOpen
      rw [h]
      simp [SaysNothing])

/-! ## The bindings of a tree -/

/-- The patterns that a node binds without a type, from left to right. -/
def eligibleAt (f : Focus) : List Node :=
  if f.node.kind = "formal_parameters" then
    f.node.namedChildren.filterMap fun p =>
      if p.kind = "required_parameter" ∧ Untyped p then p.field? "pattern" else none
  else if f.node.kind = "variable_declarator" then
    if ¬ InHead f ∧ Untyped f.node ∧ LeftOpen f.node then (f.node.field? "name").toList else []
  else if f.node.kind = "catch_clause" then
    if Untyped f.node then (f.node.field? "parameter").toList else []
  else []

/-- The patterns that are bound in a tree without a type, in the order of the source. -/
def eligible (root : Node) : List Node := (Focus.ofRoot root).descendants.flatMap eligibleAt

/-- The pattern that a place binds without a type. -/
def Site.eligible? : Site → Option Node
  | .parameter _ p => if Untyped p then p.field? "pattern" else none
  | .declarator f =>
    if ¬ InHead f ∧ Untyped f.node ∧ LeftOpen f.node then f.node.field? "name" else none
  | .catchClause n => if Untyped n then n.field? "parameter" else none
  | .classDefinition _ => none

theorem eligibleAt_eq (f : Focus) : eligibleAt f = (Site.at f).filterMap Site.eligible? := by
  have hone : ∀ site : Site, [site].filterMap Site.eligible? = site.eligible?.toList := by
    intro site
    rw [List.filterMap_cons]
    cases site.eligible? <;> rfl
  -- both go by the kind of the node, and in the same order
  unfold eligibleAt Site.at
  split
  · rw [List.filterMap_map, List.filterMap_filter]
    congr 1
    funext p
    by_cases hk : p.kind = "required_parameter"
    · simp [hk, Site.eligible?]
    · simp [hk]
  · split
    · rw [hone, Site.eligible?, apply_ite Option.toList]
      rfl
    · split
      · rw [hone, Site.eligible?, apply_ite Option.toList]
        rfl
      · split
        · rfl
        · rfl

/-- The places of a tree bind without a type what the tree does, in the same order. -/
theorem eligible_eq (root : Node) : eligible root = (Site.all root).filterMap Site.eligible? := by
  unfold eligible Site.all
  rw [List.filterMap_flatMap]
  exact List.flatMap_congr fun f _ => eligibleAt_eq f

end ScriptTypes.Annotation
