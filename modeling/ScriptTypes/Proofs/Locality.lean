import ScriptTypes.Proofs.Gathering

/-!
# What stands around a scope does not matter

The usages of a name are read off the nodes of its scope, but an access is followed outwards to
the accesses that go on from it, and to the call or the assignment that it takes part in. A
scope that is no such access itself stops all of that. So a scope tells the same wherever it
stands, up to the expressions at the leaves: these are the nodes at the same places below it.
-/

namespace ScriptTypes

namespace Syntax

/-! ## Trees that agree -/

/-- Two nodes say the same, but for their labels and for the fields that they fill. -/
def NodeData.saysAs (d d' : NodeData) : Bool :=
  d.kind == d'.kind && d.start == d'.start && d.stop == d'.stop && d.named == d'.named &&
    d.bytes == d'.bytes

mutual

/-- Two trees agree: their nodes say the same, and those below the roots fill the same fields. -/
def Node.agrees : Node → Node → Bool
  | .mk d cs, .mk d' cs' => d.saysAs d' && agreesAll cs cs'

/-- The nodes of two lists agree one by one and fill the same fields. -/
def Node.agreesAll : List Node → List Node → Bool
  | [], [] => true
  | c :: cs, c' :: cs' => c.data.field == c'.data.field && agrees c c' && agreesAll cs cs'
  | [], _ :: _ => false
  | _ :: _, [] => false

end

/-- Two nodes are at the same place in two trees, as the way down from the roots tells. -/
inductive Node.Corresponds (root root' : Node) : Node → Node → Prop where
  | root : Corresponds root root' root root'
  | child {p p' c c' : Node} : Corresponds root root' p p' →
      (c, c') ∈ p.children.zip p'.children → Corresponds root root' c c'

variable {x y root root' : Node} {f g : Focus}

namespace Node

theorem agrees_iff : x.agrees y ↔ x.data.saysAs y.data ∧ agreesAll x.children y.children := by
  obtain ⟨d, cs⟩ := x
  obtain ⟨d', cs'⟩ := y
  rw [agrees, Bool.and_eq_true, data_mk, data_mk, children_mk, children_mk]

theorem forall₂_of_agreesAll {cs cs' : List Node} (h : agreesAll cs cs') :
    List.Forall₂ (fun c c' => c.agrees c' ∧ c.data.field = c'.data.field) cs cs' := by
  induction cs generalizing cs' with
  | nil =>
      cases cs' with
      | nil => exact .nil
      | cons c' cs' => exact absurd h Bool.false_ne_true
  | cons c cs ih =>
      cases cs' with
      | nil => exact absurd h Bool.false_ne_true
      | cons c' cs' =>
          rw [agreesAll, Bool.and_eq_true, Bool.and_eq_true] at h
          exact .cons ⟨h.1.2, eq_of_beq h.1.1⟩ (ih h.2)

/-- What is at the same place in trees that agree agrees. -/
theorem Corresponds.agrees (h : Corresponds root root' x y) (hroot : root.agrees root') :
    x.agrees y := by
  induction h with
  | root => exact hroot
  | child _ hc ih => exact (List.forall₂_zip (forall₂_of_agreesAll (agrees_iff.mp ih).2) hc).1

/-- The children of two nodes at the same place are at the same places. -/
theorem Corresponds.children (h : Corresponds root root' x y) (hroot : root.agrees root') :
    List.Forall₂ (Siblings (Corresponds root root')) x.children y.children := by
  have hchildren := forall₂_of_agreesAll (agrees_iff.mp (h.agrees hroot)).2
  refine List.forall₂_iff_zip.mpr ⟨hchildren.length_eq, fun hc => ?_⟩
  exact ⟨.child h hc, (List.forall₂_zip hchildren hc).2⟩

end Node

/-- Trees that agree resemble each other, place by place. -/
theorem Resemblance.of_agrees (h : root.agrees root') :
    Resemblance (Node.Corresponds root root') := by
  have hsame : ∀ {x y}, Node.Corresponds root root' x y →
      (((x.kind = y.kind ∧ x.start = y.start) ∧ x.stop = y.stop) ∧ x.named = y.named) ∧
        x.data.bytes = y.data.bytes := by
    intro x y hxy
    have hdata : x.data.saysAs y.data := (Node.agrees_iff.mp (hxy.agrees h)).1
    rw [NodeData.saysAs] at hdata
    simp only [Bool.and_eq_true, beq_iff_eq] at hdata
    exact hdata
  exact {
    kind := fun hxy => (hsame hxy).1.1.1.1
    start := fun hxy => (hsame hxy).1.1.1.2
    stop := fun hxy => (hsame hxy).1.1.2
    named := fun hxy => (hsame hxy).1.2
    bytes := fun hxy => (hsame hxy).2
    children := fun hxy => .of_forall₂ (hxy.children h) }

/-- What stands right above a place below a scope is below it, too, or the place is the scope. -/
theorem Focus.Below.eq_or_parent {n p : Node} {ps : List Node} (h : f.Below ⟨n, p :: ps⟩) :
    f = ⟨n, p :: ps⟩ ∨ f.Below ⟨p, ps⟩ := by
  generalize hplace : (⟨n, p :: ps⟩ : Focus) = place at h
  cases h with
  | self => exact .inl rfl
  | @child g c hg _ =>
      obtain ⟨rfl, rfl, rfl⟩ : n = c ∧ p = g.node ∧ ps = g.above := by
        simpa [Focus.child] using hplace
      exact .inr hg

end Syntax

namespace Usage

open Syntax

variable {scope : Focus}

/-! ## The way outwards -/

/-- What stands right above an access below a scope is below the scope, unless it is one itself. -/
theorem below_parent {access p : Node} {ps : List Node}
    (hscope : scope.node.kind ≠ "member_expression") (hkind : access.kind = "member_expression")
    (h : scope.Below ⟨access, p :: ps⟩) : scope.Below ⟨p, ps⟩ := by
  rcases h.eq_or_parent with rfl | hp
  · exact absurd hkind hscope
  · exact hp

/-- The way outwards from an access ends at an access, below any scope that is none itself. -/
theorem outward_below {access : Node} {above : List Node} {names : List String} {last : Focus}
    (hscope : scope.node.kind ≠ "member_expression") (hkind : access.kind = "member_expression")
    (h : scope.Below ⟨access, above⟩) (hout : outward access above = .ok (names, some last)) :
    scope.Below last ∧ last.node.kind = "member_expression" := by
  -- on what is above the access, which is below the scope all the way
  induction above generalizing access names with
  | nil =>
      rw [outward] at hout
      obtain ⟨key, -, hout⟩ := bind_eq_ok.mp hout
      cases key with
      | none => cases hout
      | some key =>
          cases hout
          exact ⟨h, hkind⟩
  | cons parent above ih =>
      rw [outward] at hout
      obtain ⟨key, -, hout⟩ := bind_eq_ok.mp hout
      cases key with
      | none => cases hout
      | some key =>
          dsimp only at hout
          split at hout
          · rename_i hon
            obtain ⟨⟨names', last'⟩, hrest, hout⟩ := bind_eq_ok.mp hout
            cases last' with
            | none =>
                cases hout
                exact ⟨h, hkind⟩
            | some last' =>
                cases hout
                exact ih hon.1 (below_parent hscope hkind h) hrest
          · cases hout
            exact ⟨h, hkind⟩

/-- The call or the assignment that an access takes part in is in any scope around it. -/
theorem involvement?_within {access : Focus} {n : Node}
    (hscope : scope.node.kind ≠ "member_expression")
    (hkind : access.node.kind = "member_expression") (h : scope.Below access)
    (hn : involvement? access = some n) : scope.node.Within n := by
  obtain ⟨access, above⟩ := access
  cases above with
  | nil => cases hn
  | cons parent above =>
      have hparent : scope.node.Within parent := (below_parent hscope hkind h).within
      unfold involvement? at hn
      dsimp only at hn
      split at hn
      · cases hn
        exact hparent
      · split at hn
        · cases hn
          exact hparent
        · cases hn

/-! ## The main theorem -/

/--
**Usages are local to their scope.** Two scopes that agree tell the same of a name whatever
stands around them, with the expressions at the same places; neither the way outwards from an
access in a scope nor the call or the assignment at its end is outside of the scope.
-/
theorem gather_is_local {s t : Focus} (name : String) (h : s.node.agrees t.node)
    (hscope : s.node.kind ≠ "member_expression") :
    SameOutcome (Option.Rel (Shape.Alike (Node.Corresponds s.node t.node)))
        (gather s name) (gather t name) ∧
      ∀ access names last, s.Below access → access.node.kind = "member_expression" →
        outward access.node access.above = .ok (names, some last) →
        s.Below last ∧ ∀ n, involvement? last = some n → s.node.Within n := by
  refine ⟨?_, fun access names last hbelow hkind hout => ?_⟩
  · have hstands : Stands (Node.Corresponds s.node t.node) s t :=
      ⟨.root, fun hk => absurd hk hscope⟩
    exact (Resemblance.of_agrees h).gather_alike hstands
  · obtain ⟨hlast, hkind⟩ := outward_below hscope hkind hbelow hout
    exact ⟨hlast, fun n hn => involvement?_within hscope hkind hlast hn⟩

/-! ### A block in two surroundings -/

namespace Surrounded

/-- The access `p.x` and nothing else in a block; its nodes carry a label. -/
def block (id : Nat) : Node :=
  .mk ⟨id, "statement_block", 4, 7, true, none, [112, 46, 120]⟩
    [.mk ⟨id, "member_expression", 4, 7, true, none, [112, 46, 120]⟩
      [.mk ⟨id, "identifier", 4, 5, true, some "object", [112]⟩ [],
       .mk ⟨id, "property_identifier", 6, 7, true, some "property", [120]⟩ []]]

/-- An access to a member of a node, and a call of it. -/
def calls (object : Node) : List Node :=
  let access := Node.mk ⟨2, "member_expression", 4, 7, true, some "function", []⟩ [object]
  [access, .mk ⟨2, "call_expression", 4, 9, true, none, []⟩ [access]]

end Surrounded

theorem gather_is_local_block :
    (Surrounded.block 0).agrees (Surrounded.block 1) ∧
      (Surrounded.block 0).kind ≠ "member_expression" ∧
      SameOutcome (Option.Rel (Shape.Alike
          (Node.Corresponds (Surrounded.block 0) (Surrounded.block 1))))
        (gather ⟨Surrounded.block 0, []⟩ "p")
        (gather ⟨Surrounded.block 1, Surrounded.calls (Surrounded.block 1)⟩ "p") ∧
      gather ⟨Surrounded.block 0, []⟩ "p" = .ok (some (.branch [("x", .leaf none)])) := by
  have hagrees : (Surrounded.block 0).agrees (Surrounded.block 1) := by decide
  have hscope : (Surrounded.block 0).kind ≠ "member_expression" := by decide
  have hlocal := gather_is_local "p" (s := ⟨Surrounded.block 0, []⟩)
    (t := ⟨Surrounded.block 1, Surrounded.calls (Surrounded.block 1)⟩) hagrees hscope
  exact ⟨hagrees, hscope, hlocal.1, rfl⟩

end Usage

end ScriptTypes
