import Mathlib
import ScriptTypes.Proofs.InterfaceBlock
import ScriptTypes.Proofs.TypeName

/-!
# The least free name

A free name is found by trying: the base first, then the base with the numbers from 2 on. The
candidates are distinct, so as many turns as there are names taken are enough, however the
names that are taken came about. What is found is the first candidate that is not taken, and
it is taken from then on.

Names that are claimed one after the other are therefore distinct. It does not matter that the
candidates of one base may be among those of another, as `Data22` is a candidate of `Data` and
of `Data2`: a name is compared with all that are taken, not with those of its own base.
-/

namespace ScriptTypes.TypeName

variable {base : String} {taken : List String}

/-! ## The search -/

/--
The search for a free name. It looks at `name`; if that is taken, it goes on to the base with
`number` behind it, and to the next number after that. `Looks base taken name number turns found`
says that it ends at `found` after so many turns.
-/
inductive Looks (base : String) (taken : List String) :
    (name : String) → (number turns : Nat) → (found : String) → Prop where
  /-- A name that is free is found. -/
  | free {name : String} {number : Nat} : name ∉ taken → Looks base taken name number 0 name
  /-- A name that is taken gives way to the next one. -/
  | taken {name found : String} {number turns : Nat} : name ∈ taken →
      Looks base taken (base ++ toString number) (number + 1) turns found →
      Looks base taken name number (turns + 1) found

/-- A search that is at a candidate runs through candidates that are taken, to one that is not. -/
theorem Looks.passes {name found : String} {number turns : Nat}
    (h : Looks base taken name number turns found) :
    ∀ i, name = candidate base i → number = i + 2 →
      found = candidate base (i + turns) ∧ found ∉ taken ∧
        ∀ j < turns, candidate base (i + j) ∈ taken := by
  induction h with
  | free hfree =>
      intro i hname _
      exact ⟨hname, hfree, fun j hj => absurd hj (Nat.not_lt_zero j)⟩
  | @taken name found number turns htaken _ ih =>
      intro i hname hnumber
      -- the base with the number behind it is the next candidate
      have hnext : base ++ toString number = candidate base (i + 1) := by rw [hnumber]; rfl
      obtain ⟨hfound, hfree, hpassed⟩ := ih (i + 1) hnext (by omega)
      refine ⟨by rw [hfound, Nat.add_right_comm, Nat.add_assoc], hfree, ?_⟩
      intro j hj
      cases j with
      | zero => exact hname ▸ htaken
      | succ j =>
          have hj := hpassed j (by omega)
          rwa [Nat.add_right_comm, Nat.add_assoc] at hj

/-- If the first free candidate is so many turns away, the search gets there in as many. -/
theorem looks_of_passed {n : Nat} (hfree : candidate base n ∉ taken)
    (hpassed : ∀ i < n, candidate base i ∈ taken) : ∀ turns ≤ n,
    Looks base taken (candidate base (n - turns)) (n - turns + 2) turns (candidate base n) := by
  intro turns
  induction turns with
  | zero => intro _; exact .free hfree
  | succ turns ih =>
      intro hle
      have hnext : n - turns = n - (turns + 1) + 1 := by omega
      have hrest := ih (by omega)
      rw [hnext] at hrest
      exact .taken (hpassed _ (by omega)) hrest

/--
The search from the base on has exactly one end. It is the free name, and there are no more
turns to it than there are names taken.
-/
theorem exists_turns (base : String) (taken : List String) :
    ∃ turns ≤ taken.toFinset.card, ∀ n found,
      Looks base taken base 2 n found ↔ n = turns ∧ found = free base taken := by
  obtain ⟨turns, hfree, hpassed⟩ := exists_least_free base taken
  have hname := free_eq_candidate hfree hpassed
  refine ⟨turns, le_card_of_passed hpassed, fun n found => ⟨fun h => ?_, ?_⟩⟩
  · obtain ⟨hfound, hend, hbefore⟩ := h.passes 0 rfl rfl
    simp only [Nat.zero_add] at hfound hbefore
    -- two candidates that both come after only taken ones are the same
    have hle : n ≤ turns := by
      by_contra hlt
      exact hfree (hbefore turns (by omega))
    have hge : turns ≤ n := by
      by_contra hlt
      exact hend (hfound ▸ hpassed n (by omega))
    obtain rfl := Nat.le_antisymm hle hge
    exact ⟨rfl, hfound.trans hname.symm⟩
  · rintro ⟨rfl, rfl⟩
    have h := looks_of_passed hfree hpassed n (Nat.le_refl n)
    rw [Nat.sub_self] at h
    exact hname ▸ h

/-- A base that is taken gets the least number from 2 on that makes it free. -/
theorem free_of_mem (h : base ∈ taken) :
    ∃ k ≥ 2, free base taken = base ++ toString k ∧ base ++ toString k ∉ taken ∧
      ∀ j ≥ 2, j < k → base ++ toString j ∈ taken := by
  obtain ⟨n, hfree, hpassed⟩ := exists_least_free base taken
  cases n with
  | zero => exact absurd h hfree
  | succ n =>
      refine ⟨n + 2, by omega, free_eq_candidate hfree hpassed, hfree, ?_⟩
      intro j hj hlt
      have hj' : candidate base (j - 2 + 1) = base ++ toString j := by
        rw [candidate, Nat.sub_add_cancel hj]
      exact hj' ▸ hpassed (j - 2 + 1) (by omega)

/-! ## Names that are claimed -/

/-- A name for a base: the free one, and the names that are taken with it. -/
def claim (base : String) (taken : List String) : String × List String :=
  (free base taken, free base taken :: taken)

/-- Names for one base after the other, and the names that are taken in the end. -/
def claimAll (taken : List String) : List String → List String × List String
  | [] => ([], taken)
  | base :: bases =>
    let one := claim base taken
    let rest := claimAll one.2 bases
    (one.1 :: rest.1, rest.2)

/-- An interface that is added claims its name from the names that are taken. -/
theorem claim_of_addInterface {doc : Annotation.Document} {d d' : Annotation.Draft} {name : String}
    {shape : Option (Shape Syntax.Node)} (h : d.addInterface doc base shape = .ok (name, d')) :
    claim base d.taken = (name, d'.taken) := by
  obtain ⟨rfl, _, _, _, rfl⟩ := Annotation.Draft.addInterface_eq_ok.mp h
  rfl

/-- The interfaces of a file have the names that are claimed for them in turn. -/
theorem claimAll_of_claims {wanted : List Annotation.Wanted} {interfaces : List (String × String)}
    (h : Annotation.Claims taken wanted interfaces) :
    interfaces.map (·.1) = (claimAll taken (wanted.map (·.base))).1 := by
  induction h with
  | nil => rfl
  | cons hname _ _ ih => rw [List.map_cons, ih, hname]; rfl

/-- Names that were claimed are taken, beside those that were. -/
theorem mem_claimAll (bases : List String) : ∀ {taken : List String} {name : String},
    name ∈ (claimAll taken bases).2 ↔ name ∈ (claimAll taken bases).1 ∨ name ∈ taken := by
  induction bases with
  | nil => intro taken name; simp [claimAll]
  | cons base bases ih =>
      intro taken name
      simp only [claimAll, claim, ih, List.mem_cons]
      exact or_left_comm.trans or_assoc.symm

/-- None of the names that are claimed was taken. -/
theorem claimAll_not_mem (bases : List String) : ∀ {taken : List String},
    ∀ name ∈ (claimAll taken bases).1, name ∉ taken := by
  induction bases with
  | nil => intro taken name h; cases h
  | cons base bases ih =>
      intro taken name h
      rcases List.mem_cons.mp h with rfl | h
      · exact free_not_mem base taken
      · exact fun hmem => ih name h (List.mem_cons_of_mem _ hmem)

/-- Names that are claimed one after the other are distinct. -/
theorem claimAll_nodup (bases : List String) : ∀ {taken : List String},
    (claimAll taken bases).1.Nodup := by
  induction bases with
  | nil => intro taken; exact List.nodup_nil
  | cons base bases ih =>
      intro taken
      refine List.nodup_cons.mpr ⟨fun hmem => ?_, ih⟩
      exact claimAll_not_mem bases _ hmem List.mem_cons_self

theorem length_claimAll (bases : List String) : ∀ {taken : List String},
    (claimAll taken bases).1.length = bases.length := by
  induction bases with
  | nil => intro taken; rfl
  | cons base bases ih => intro taken; exact congrArg (· + 1) ih

/--
**A name that is claimed is the least free one, and names that are claimed are distinct.**
Whatever names are taken, the search from a base ends, in one way only, and in no more turns
than there are names taken. It ends at the base if that is free, and else at the base with the
least number from 2 on that makes it free; exactly this name is taken in addition. So the names
claimed for any bases in turn are distinct, one for each base, and none of them was taken.
-/
theorem claim_takes_least_free (taken : List String) :
    (∀ base,
      (∃ turns ≤ taken.toFinset.card, ∀ n found,
        Looks base taken base 2 n found ↔ n = turns ∧ found = (claim base taken).1) ∧
      (base ∉ taken → (claim base taken).1 = base) ∧
      (base ∈ taken → ∃ k ≥ 2, (claim base taken).1 = base ++ toString k ∧
        base ++ toString k ∉ taken ∧ ∀ j ≥ 2, j < k → base ++ toString j ∈ taken) ∧
      (claim base taken).1 ∉ taken ∧
      (claim base taken).2.toFinset = insert (claim base taken).1 taken.toFinset) ∧
    ∀ bases,
      (claimAll taken bases).1.Nodup ∧ (claimAll taken bases).1.Disjoint taken ∧
      (claimAll taken bases).1.length = bases.length ∧
      (claimAll taken bases).2.toFinset =
        (claimAll taken bases).1.toFinset ∪ taken.toFinset := by
  refine ⟨fun base => ⟨exists_turns base taken, free_eq_base, free_of_mem,
    free_not_mem base taken, List.toFinset_cons⟩, fun bases => ?_⟩
  refine ⟨claimAll_nodup bases, claimAll_not_mem bases, length_claimAll bases, ?_⟩
  ext name
  simp only [List.mem_toFinset, Finset.mem_union]
  exact mem_claimAll bases

/-- Bases whose candidates are among those of one another get distinct names. -/
theorem claim_takes_least_free_numbered :
    (claimAll ["Data", "Data2"] ["Data", "Data2", "Data2", "Data22"]).1 =
        ["Data3", "Data22", "Data23", "Data222"] ∧
      ["Data3", "Data22", "Data23", "Data222"].Nodup ∧
      ∃ k ≥ 2, free "Data" ["Data", "Data2"] = "Data" ++ toString k ∧
        "Data" ++ toString k ∉ ["Data", "Data2"] ∧
        ∀ j ≥ 2, j < k → "Data" ++ toString j ∈ ["Data", "Data2"] := by
  have hnames : (claimAll ["Data", "Data2"] ["Data", "Data2", "Data2", "Data22"]).1 =
      ["Data3", "Data22", "Data23", "Data222"] := by decide +kernel
  refine ⟨hnames, ?_, ?_⟩
  · rw [← hnames]
    exact ((claim_takes_least_free _).2 _).1
  · have htaken : "Data" ∈ ["Data", "Data2"] := List.mem_cons_self
    exact ((claim_takes_least_free ["Data", "Data2"]).1 "Data").2.2.1 htaken

end ScriptTypes.TypeName
