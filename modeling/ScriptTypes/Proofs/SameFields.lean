import Mathlib
import ScriptTypes.Proofs.ReadBack
import ScriptTypes.Proofs.Totality

/-!
# The text of an interface is canonical

Two objects have the same interface, under one name, if and only if they have the same fields
with the same types, in whatever order the fields were discovered. That two shapes have the same
fields, `SameFields`, is said of any relation between the expressions at their leaves: with
equality it is a change of order and nothing else, and then not even the failures of the two
interfaces differ.

One direction rests on the sort, which leaves no trace of the order at any depth; the other on
the interface's being read back: what is read has the same fields as what was written.
-/

namespace ScriptTypes.Shape

open Syntax (Node)

variable {α β γ : Type} {a : Shape α} {b : Shape β} {c : Shape γ}
  {r : Option α → Option β → Prop}

/--
Two shapes have the same fields, in whatever order: where one is an object, so is the other,
with fields of the same names, and the expressions at their leaves are related.
-/
inductive SameFields (r : Option α → Option β → Prop) : Shape α → Shape β → Prop where
  | leaf {e : Option α} {e' : Option β} : r e e' → SameFields r (.leaf e) (.leaf e')
  | branch {fs : List (String × Shape α)} {gs : List (String × Shape β)} :
      (∀ name, name ∈ fs.map (·.1) ↔ name ∈ gs.map (·.1)) →
      (∀ f ∈ fs, ∀ g ∈ gs, f.1 = g.1 → SameFields r f.2 g.2) →
      SameFields r (.branch fs) (.branch gs)

/-- Where the names are the same, each field has a partner of its name. -/
theorem exists_partner {fs : List (String × α)} {gs : List (String × β)}
    (h : ∀ name, name ∈ fs.map (·.1) ↔ name ∈ gs.map (·.1)) {f : String × α} (hf : f ∈ fs) :
    ∃ g ∈ gs, g.1 = f.1 :=
  List.mem_map.mp ((h f.1).mp (List.mem_map_of_mem hf))

namespace SameFields

theorem symm (h : SameFields r a b) : SameFields (fun e' e => r e e') b a := by
  induction h with
  | leaf he => exact .leaf he
  | branch hnames _ ih =>
      exact .branch (fun name => (hnames name).symm) fun g hg f hf hname => ih f hf g hg hname.symm

theorem trans {r' : Option β → Option γ → Prop} (h : SameFields r a b) (h' : SameFields r' b c) :
    SameFields (fun e e'' => ∃ e', r e e' ∧ r' e' e'') a c := by
  induction h generalizing c with
  | leaf he =>
      cases h' with
      | leaf he' => exact .leaf ⟨_, he, he'⟩
  | @branch fs gs hnames _ ih =>
      cases h' with
      | @branch _ hs hnames' hchildren' =>
          refine .branch (fun name => (hnames name).trans (hnames' name)) fun f hf k hk hname => ?_
          obtain ⟨g, hg, hgf⟩ := exists_partner hnames hf
          exact ih f hf g hg hgf.symm (hchildren' g hg k hk (hgf.trans hname))

/-- The names of one shape are those of the other. -/
theorem names {P : String → Prop} (h : SameFields r a b) (ha : a.Names P) : b.Names P := by
  induction h with
  | leaf => exact .leaf
  | @branch fs gs hnames _ ih =>
      cases ha with
      | branch hf hchildren =>
          have hpartner : ∀ g ∈ gs, ∃ f ∈ fs, f.1 = g.1 := fun _ hg =>
            exists_partner (fun name => (hnames name).symm) hg
          refine .branch (fun g hg => ?_) fun g hg => ?_
          · obtain ⟨f, hmem, hname⟩ := hpartner g hg
            exact hname ▸ hf f hmem
          · obtain ⟨f, hmem, hname⟩ := hpartner g hg
            exact ih f hmem g hg hname (hchildren f hmem)

end SameFields

/-! ## Sorting -/

section Sorting

variable {fs : List (String × Shape α)} {gs : List (String × Shape β)}

theorem map_fst_sorted (fs : List (String × Shape α)) :
    ((inNameOrder (sortedBelow fs)).map (·.1)).Perm (fs.map (·.1)) := by
  have hnames : (sortedBelow fs).map (·.1) = fs.map (·.1) := by
    rw [sortedBelow_eq, List.map_map]
    rfl
  have hperm := (List.mergeSort_perm (sortedBelow fs) fun a b => decide (a.1 ≤ b.1)).map (·.1)
  exact hnames ▸ hperm

/-- Sorting leaves no trace of the order in which the names came. -/
theorem map_fst_sorted_congr (hf : (fs.map (·.1)).Nodup) (hg : (gs.map (·.1)).Nodup)
    (h : ∀ name, name ∈ fs.map (·.1) ↔ name ∈ gs.map (·.1)) :
    (inNameOrder (sortedBelow fs)).map (·.1) = (inNameOrder (sortedBelow gs)).map (·.1) := by
  have hperm : (fs.map (·.1)).Perm (gs.map (·.1)) := (List.perm_ext_iff_of_nodup hf hg).mpr h
  have hinOrder : ∀ {γ : Type} (hs : List (String × Shape γ)),
      ((inNameOrder hs).map (·.1)).Pairwise (· ≤ ·) := fun hs =>
    List.pairwise_map.mpr (Named.pairwise_mergeSort hs)
  exact ((map_fst_sorted fs).trans (hperm.trans (map_fst_sorted gs).symm)).eq_of_pairwise
    (fun m n _ _ => String.le_antisymm) (hinOrder _) (hinOrder _)

/-- **Shapes that differ in the order of their fields only are the same once sorted.** -/
theorem SameFields.sorted_eq {a b : Shape α} (h : SameFields Eq a b) (ha : a.Distinct)
    (hb : b.Distinct) : a.sorted = b.sorted := by
  induction h with
  | leaf he => rw [he]
  | @branch fs gs hnames _ ih =>
      cases ha with
      | branch hf hfchildren =>
          cases hb with
          | branch hg hgchildren =>
              refine congrArg Shape.branch
                (Named.eq_of_mem (map_fst_sorted_congr hf hg hnames) ?_)
              intro t ht o ho hname
              obtain ⟨f, hmem, rfl⟩ := mem_inNameOrder_sortedBelow.mp ht
              obtain ⟨g, hmem', rfl⟩ := mem_inNameOrder_sortedBelow.mp ho
              exact ih f hmem g hmem' hname (hfchildren f hmem) (hgchildren g hmem')

end Sorting

/-! ## Types -/

section Types

variable {s : Shape Node} {fs : List (String × Shape Node)}
  {ts : List (String × Shape InferredType)}

theorem typedFields_eq_ok (h : typedFields fs = .ok ts) :
    List.Forall₂ (fun f t => f.1 = t.1 ∧ f.2.typed = .ok t.2) fs ts := by
  induction fs generalizing ts with
  | nil =>
      obtain rfl := pure_eq_ok.mp h
      exact .nil
  | cons f fs ih =>
      rw [typedFields] at h
      obtain ⟨t, ht, h⟩ := bind_eq_ok.mp h
      obtain ⟨rest, hrest, h⟩ := bind_eq_ok.mp h
      obtain rfl := pure_eq_ok.mp h
      exact .cons ⟨rfl, ht⟩ (ih hrest)

theorem map_fst_typedFields (h : typedFields fs = .ok ts) : ts.map (·.1) = fs.map (·.1) := by
  replace h := typedFields_eq_ok h
  induction h with
  | nil => rfl
  | cons hfirst _ ih => rw [List.map_cons, List.map_cons, ih, hfirst.1]

/-- Each field that is typed once sorted is a field that was there. -/
theorem mem_typedFields_sorted {t : String × Shape InferredType}
    (h : typedFields (inNameOrder (sortedBelow fs)) = .ok ts) (ht : t ∈ ts) :
    ∃ f ∈ fs, f.1 = t.1 ∧ f.2.sorted.typed = .ok t.2 := by
  obtain ⟨g, hg, hname, htyped⟩ := exists_of_mem_forall₂ (typedFields_eq_ok h) ht
  obtain ⟨f, hf, rfl⟩ := mem_inNameOrder_sortedBelow.mp hg
  exact ⟨f, hf, hname, htyped⟩

/-- Sorting a shape and typing it leaves its fields the same. -/
theorem Distinct.sameFields_typed (hs : s.Distinct) {t : Shape InferredType}
    (h : s.sorted.typed = .ok t) : SameFields (fun e told => inferTypeOf? e = .ok told) s t := by
  induction hs generalizing t with
  | leaf =>
      obtain ⟨told, htold, h⟩ := bind_eq_ok.mp h
      obtain rfl := pure_eq_ok.mp h
      exact .leaf htold
  | @branch fs hnodup _ ih =>
      obtain ⟨ts, hts, h⟩ := bind_eq_ok.mp h
      obtain rfl := pure_eq_ok.mp h
      refine .branch (fun name => ?_) fun f hf u hu hname => ?_
      · rw [map_fst_typedFields hts]
        exact (map_fst_sorted fs).mem_iff.symm
      · obtain ⟨g, hg, hgname, htyped⟩ := mem_typedFields_sorted hts hu
        -- no other field has this name
        have hboth := Named.lookup_of_mem hnodup hf
        rw [hname, ← hgname, Named.lookup_of_mem hnodup hg] at hboth
        obtain rfl : g = f := Prod.ext (hgname.trans hname.symm) (Option.some.inj hboth)
        exact ih g hg htyped

/-- The type that is written at a leaf with an expression: what it tells, or else `any`. -/
def WrittenAs (e : Option Node) (t : Option InferredType) : Prop :=
  ∃ told, inferTypeOf? e = .ok told ∧ t = some (told.getD .any)

theorem WrittenAs.exists_told {e : Option Node} {t : Option InferredType} (h : WrittenAs e t) :
    ∃ told, inferTypeOf? e = .ok told := h.imp fun _ h => h.1

/-- At leaves with these expressions one type is written. -/
def SameType (e e' : Option Node) : Prop := ∃ t, WrittenAs e t ∧ WrittenAs e' t

theorem settledFields_eq (ts : List (String × Shape InferredType)) :
    settledFields ts = ts.map fun t => (t.1, t.2.settled) := by
  induction ts with
  | nil => rfl
  | cons t ts ih => rw [settledFields, ih, List.map_cons]

theorem exists_typedFields_sorted (h : ∀ f ∈ fs, ∃ t, f.2.sorted.typed = .ok t) :
    ∃ ts, typedFields (inNameOrder (sortedBelow fs)) = .ok ts := by
  refine exists_typedFields fun t ht => ?_
  obtain ⟨f, hf, rfl⟩ := mem_inNameOrder_sortedBelow.mp ht
  exact h f hf

/-- Fields of the same names are settled alike once sorted if those of each name are. -/
theorem settledFields_congr {gs : List (String × Shape Node)}
    {us : List (String × Shape InferredType)} (hf : (fs.map (·.1)).Nodup)
    (hg : (gs.map (·.1)).Nodup) (hnames : ∀ name, name ∈ fs.map (·.1) ↔ name ∈ gs.map (·.1))
    (hts : typedFields (inNameOrder (sortedBelow fs)) = .ok ts)
    (hus : typedFields (inNameOrder (sortedBelow gs)) = .ok us)
    (h : ∀ f ∈ fs, ∀ g ∈ gs, f.1 = g.1 → ∀ t u, f.2.sorted.typed = .ok t →
      g.2.sorted.typed = .ok u → t.settled = u.settled) :
    settledFields ts = settledFields us := by
  rw [settledFields_eq, settledFields_eq]
  refine Named.eq_of_mem ?_ fun x hx y hy hname => ?_
  · rw [List.map_map, List.map_map]
    calc ts.map (·.1)
        = (inNameOrder (sortedBelow fs)).map (·.1) := map_fst_typedFields hts
      _ = (inNameOrder (sortedBelow gs)).map (·.1) := map_fst_sorted_congr hf hg hnames
      _ = us.map (·.1) := (map_fst_typedFields hus).symm
  · obtain ⟨t, ht, rfl⟩ := List.mem_map.mp hx
    obtain ⟨u, hu, rfl⟩ := List.mem_map.mp hy
    obtain ⟨f, hmem, hfname, hft⟩ := mem_typedFields_sorted hts ht
    obtain ⟨g, hmem', hgname, hgu⟩ := mem_typedFields_sorted hus hu
    exact h f hmem g hmem' (hfname.trans (hname.trans hgname.symm)) _ _ hft hgu

/-- A shape is typed once sorted if each expression at a leaf tells a type or tells none. -/
theorem SameFields.exists_typed {r : Option Node → Option β → Prop}
    (hr : ∀ e e', r e e' → ∃ told, inferTypeOf? e = .ok told) (h : SameFields r s b) :
    ∃ t, s.sorted.typed = .ok t := by
  induction h with
  | leaf he =>
      obtain ⟨told, htold⟩ := hr _ _ he
      exact ⟨.leaf told, bind_eq_ok.mpr ⟨told, htold, rfl⟩⟩
  | @branch fs gs hnames _ ih =>
      have hfields : ∃ ts, typedFields (inNameOrder (sortedBelow fs)) = .ok ts := by
        refine exists_typedFields_sorted fun f hf => ?_
        obtain ⟨g, hg, hname⟩ := exists_partner hnames hf
        exact ih f hf g hg hname.symm
      obtain ⟨ts, hts⟩ := hfields
      exact ⟨.branch ts, bind_eq_ok.mpr ⟨ts, hts, rfl⟩⟩

/-- **Shapes with the same fields and types are settled alike once sorted.** -/
theorem SameFields.settled_eq {a b : Shape Node} {t u : Shape InferredType}
    (h : SameFields SameType a b) (ha : a.Distinct) (hb : b.Distinct)
    (ht : a.sorted.typed = .ok t) (hu : b.sorted.typed = .ok u) : t.settled = u.settled := by
  induction h generalizing t u with
  | leaf he =>
      obtain ⟨_, ⟨told, htold, rfl⟩, told', htold', heq⟩ := he
      obtain ⟨_, hleft, h⟩ := bind_eq_ok.mp ht
      obtain rfl := pure_eq_ok.mp h
      obtain rfl := Except.ok.inj (htold.symm.trans hleft)
      obtain ⟨_, hright, h⟩ := bind_eq_ok.mp hu
      obtain rfl := pure_eq_ok.mp h
      obtain rfl := Except.ok.inj (htold'.symm.trans hright)
      rw [settled, settled, heq]
  | @branch fs gs hnames _ ih =>
      obtain ⟨ts, hts, h⟩ := bind_eq_ok.mp ht
      obtain rfl := pure_eq_ok.mp h
      obtain ⟨us, hus, h⟩ := bind_eq_ok.mp hu
      obtain rfl := pure_eq_ok.mp h
      cases ha with
      | branch hf hfchildren =>
          cases hb with
          | branch hg hgchildren =>
              have hsettled : settledFields ts = settledFields us := by
                refine settledFields_congr hf hg hnames hts hus ?_
                intro f hmem g hmem' hname t u
                exact ih f hmem g hmem' hname (hfchildren f hmem) (hgchildren g hmem')
              rw [settled, settled, hsettled]

end Types

/-! ## Interfaces -/

section Interfaces

variable {name text : String} {fs gs : List (String × Shape Node)}

/-- Settling the types of a shape leaves its fields the same. -/
theorem SameFields.settled {r : Option α → Option InferredType → Prop} {a : Shape α}
    {t : Shape InferredType} (h : SameFields r a t) :
    SameFields (fun e u => ∃ told, r e told ∧ u = some (told.getD .any)) a t.settled := by
  induction h with
  | leaf he => exact .leaf ⟨_, he, rfl⟩
  | @branch fs ts hnames _ ih =>
      rw [Shape.settled, settledFields_eq]
      refine .branch (fun name => ?_) fun f hf u hu hname => ?_
      · rw [List.map_map]
        exact hnames name
      · obtain ⟨t, ht, rfl⟩ := List.mem_map.mp hu
        exact ih f hf t ht hname

theorem interfaceText_eq_ok :
    (branch fs).interfaceText name = .ok text ↔
      ∃ ts, (branch fs).sorted.typed = .ok (.branch ts) ∧ interfaceWith name ts = text := by
  have hmembers : ∀ ts, (branch fs).sorted.typed = .ok (.branch ts) ↔
      (branch fs).members = .ok ts := by
    intro ts
    refine bind_eq_ok.trans ⟨?_, fun h => ⟨ts, h, rfl⟩⟩
    rintro ⟨ts', hts, h⟩
    obtain rfl := Shape.branch.inj (pure_eq_ok.mp h)
    exact hts
  unfold interfaceText
  rw [bind_eq_ok]
  exact exists_congr fun ts => and_congr (hmembers ts).symm pure_eq_ok

/-- What is read back from an interface has the fields that it was written for. -/
theorem exists_read (hf : (branch fs).Distinct) (hn : (branch fs).Names Legible)
    (h : (branch fs).interfaceText name = .ok text) :
    ∃ ms, readInterface name text = some ms ∧ SameFields WrittenAs (.branch fs) (.branch ms) := by
  obtain ⟨ts, hts, rfl⟩ := interfaceText_eq_ok.mp h
  have hsame := hf.sameFields_typed hts
  exact ⟨settledFields ts, readInterface_interfaceWith (hsame.names hn), hsame.settled⟩

/--
**The text of an interface is canonical and loses nothing.** Let no two fields of an object share
a name, and let names have no space, line feed and colon. Then two objects have the same
interface, whatever it is called, if and only if they have, at every depth, fields of the same
names, objects and leaves at the same of them, and the same types at the leaves. The order in
which the fields were discovered makes no difference even where types cannot be told, and fields
and types can be read back from the text.
-/
theorem interfaceText_canonical (hf : (branch fs).Distinct) (hg : (branch gs).Distinct)
    (hfn : (branch fs).Names Legible) (hgn : (branch gs).Names Legible) :
    ((∃ text, (branch fs).interfaceText name = .ok text ∧
        (branch gs).interfaceText name = .ok text) ↔
      SameFields SameType (.branch fs) (.branch gs)) ∧
    (SameFields Eq (.branch fs) (.branch gs) →
      (branch fs).interfaceText name = (branch gs).interfaceText name) ∧
    ∀ text, (branch fs).interfaceText name = .ok text →
      ∃ ms, readInterface name text = some ms ∧
        SameFields WrittenAs (.branch fs) (.branch ms) := by
  refine ⟨⟨?_, ?_⟩, ?_, fun text => exists_read hf hfn⟩
  · rintro ⟨text, hft, hgt⟩
    obtain ⟨ms, hread, hfm⟩ := exists_read hf hfn hft
    obtain ⟨ms', hread', hgm⟩ := exists_read hg hgn hgt
    obtain rfl := Option.some.inj (hread.symm.trans hread')
    exact hfm.trans hgm.symm
  · intro h
    obtain ⟨t, ht⟩ := h.exists_typed fun _ _ ⟨_, hw, _⟩ => hw.exists_told
    obtain ⟨u, hu⟩ := h.symm.exists_typed fun _ _ ⟨_, _, hw⟩ => hw.exists_told
    have hsettled := h.settled_eq hf hg ht hu
    obtain ⟨ts, _, hbranch⟩ := bind_eq_ok.mp ht
    obtain rfl := pure_eq_ok.mp hbranch
    obtain ⟨us, _, hbranch⟩ := bind_eq_ok.mp hu
    obtain rfl := pure_eq_ok.mp hbranch
    have htext : interfaceWith name us = interfaceWith name ts := by
      rw [← interfaceWith_settled us, ← interfaceWith_settled ts, Shape.branch.inj hsettled]
    exact ⟨interfaceWith name ts, interfaceText_eq_ok.mpr ⟨ts, ht, rfl⟩,
      interfaceText_eq_ok.mpr ⟨us, hu, htext⟩⟩
  · intro h
    have hsorted := h.sorted_eq hf hg
    unfold interfaceText members
    dsimp only
    rw [hsorted]

end Interfaces

/-! ## Two objects with one interface -/

namespace Props

/-- A numeral without surroundings. -/
def numeral (digit : String) : Node :=
  .mk ⟨0, "number", 0, 1, true, none, Utf8.encode digit⟩ []

/-- An array of these elements. -/
def array (elements : List Node) : Node := .mk ⟨0, "array", 0, 0, true, none, []⟩ elements

/-- An array, an object in which an object is empty, and a name that begins as another does. -/
def fields : List (String × Shape Node) :=
  [("b", .leaf (some (array [numeral "1"]))),
   ("a", .branch [("y", .leaf none), ("x", .branch [])]), ("ab", .leaf (some (numeral "2")))]

/-- The same fields in another order, with other expressions of the same types. -/
def others : List (String × Shape Node) :=
  [("ab", .leaf (some (numeral "3"))),
   ("a", .branch [("x", .branch []), ("y", .leaf none)]),
   ("b", .leaf (some (array [numeral "4", numeral "5"])))]

/-- The interface of both. -/
def text : String :=
  "interface P \x7b\n    a: \x7b\n        x: \x7b\n        \x7d,\n        y: any,\n    \x7d,\n" ++
    "    ab: number,\n    b: number[],\n\x7d\n\n"

theorem distinct_fields : (branch fields).Distinct := by
  refine .branch (by decide) ?_
  simp only [fields, List.forall_mem_cons]
  refine ⟨.leaf, .branch (by decide) ?_, .leaf, by simp⟩
  simp only [List.forall_mem_cons]
  exact ⟨.leaf, .branch (by decide) (by simp), by simp⟩

theorem distinct_others : (branch others).Distinct := by
  refine .branch (by decide) ?_
  simp only [others, List.forall_mem_cons]
  refine ⟨.leaf, .branch (by decide) ?_, .leaf, by simp⟩
  simp only [List.forall_mem_cons]
  exact ⟨.branch (by decide) (by simp), .leaf, by simp⟩

theorem legible_fields : (branch fields).Names Legible := by
  refine .branch (by decide) ?_
  simp only [fields, List.forall_mem_cons]
  refine ⟨.leaf, .branch (by decide) ?_, .leaf, by simp⟩
  simp only [List.forall_mem_cons]
  exact ⟨.leaf, .branch (by simp) (by simp), by simp⟩

theorem legible_others : (branch others).Names Legible := by
  refine .branch (by decide) ?_
  simp only [others, List.forall_mem_cons]
  refine ⟨.leaf, .branch (by decide) ?_, .leaf, by simp⟩
  simp only [List.forall_mem_cons]
  exact ⟨.branch (by simp) (by simp), .leaf, by simp⟩

end Props

/-- Objects with the same fields in another order have one interface, which is read back. -/
theorem interfaceText_canonical_props :
    ((branch Props.fields).Distinct ∧ (branch Props.others).Distinct ∧
      (branch Props.fields).Names Legible ∧ (branch Props.others).Names Legible) ∧
      (branch Props.fields).interfaceText "P" = .ok Props.text ∧
      (branch Props.others).interfaceText "P" = .ok Props.text ∧
      SameFields SameType (branch Props.fields) (branch Props.others) ∧
      ∃ ms, readInterface "P" Props.text = some ms ∧
        SameFields WrittenAs (branch Props.fields) (branch ms) := by
  have hfields : (branch Props.fields).interfaceText "P" = .ok Props.text := by cbv
  have hothers : (branch Props.others).interfaceText "P" = .ok Props.text := by cbv
  obtain ⟨hiff, -, hread⟩ := @interfaceText_canonical "P" _ _ Props.distinct_fields
    Props.distinct_others Props.legible_fields Props.legible_others
  exact ⟨⟨Props.distinct_fields, Props.distinct_others, Props.legible_fields,
    Props.legible_others⟩, hfields, hothers, hiff.mp ⟨Props.text, hfields, hothers⟩,
    hread _ hfields⟩

end ScriptTypes.Shape
