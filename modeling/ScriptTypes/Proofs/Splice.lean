import Mathlib.Data.List.Basic
import ScriptTypes.Patch

/-!
# What splicing does, byte by byte

`splice` sorts the edits and copies slices of the source between them. Two descriptions
say what comes out of that without sorting and slicing:

* `interleave` walks along the source and writes, in front of each byte and at the end,
  the texts that were recorded for that offset, in the order of their recording;
* `unsplice` takes the inserted texts out again, and what is left is the source.
-/

namespace ScriptTypes

/-- The texts recorded for an offset, in the order of their recording. -/
def textsAt (edits : List Edit) (offset : Nat) : List UInt8 :=
  (edits.filter fun e => e.offset = offset).flatMap fun e => Utf8.encode e.text

/-- Bytes from an offset on, each with the texts recorded for its offset in front of it. -/
def interleaveFrom (offset : Nat) (edits : List Edit) : List UInt8 → List UInt8
  | [] => textsAt edits offset
  | b :: rest => textsAt edits offset ++ b :: interleaveFrom (offset + 1) edits rest

/-- A source, each byte with the texts recorded for its offset in front of it. -/
def interleave (source : List UInt8) (edits : List Edit) : List UInt8 :=
  interleaveFrom 0 edits source

/-- What is left of spliced bytes from an offset on when edits in order are taken out. -/
def unspliceFrom (pointer : Nat) (rest : List UInt8) : List Edit → List UInt8
  | [] => rest
  | e :: edits =>
    rest.take (e.offset - pointer) ++
      unspliceFrom e.offset (rest.drop (e.offset - pointer + (Utf8.encode e.text).length)) edits

/-- What is left of spliced bytes when the texts of the edits are taken out. -/
def unsplice (spliced : List UInt8) (edits : List Edit) : List UInt8 :=
  unspliceFrom 0 spliced (Edit.inOrder edits)

/-! ## Edits in order -/

theorem mem_inOrder {edits : List Edit} {e : Edit} : e ∈ Edit.inOrder edits ↔ e ∈ edits := by
  unfold Edit.inOrder
  exact List.mem_mergeSort

theorem pairwise_inOrder (edits : List Edit) :
    (Edit.inOrder edits).Pairwise fun a b => a.offset ≤ b.offset := by
  have htrans : ∀ a b c : Edit, decide (a.offset ≤ b.offset) = true →
      decide (b.offset ≤ c.offset) = true → decide (a.offset ≤ c.offset) = true := by
    intro a b c hab hbc
    simp only [decide_eq_true_eq] at hab hbc ⊢
    omega
  have htotal : ∀ a b : Edit,
      (decide (a.offset ≤ b.offset) || decide (b.offset ≤ a.offset)) = true := by
    intro a b
    simp only [Bool.or_eq_true, decide_eq_true_eq]
    omega
  have h := List.pairwise_mergeSort htrans htotal edits
  exact h.imp fun hab => of_decide_eq_true hab

/-- Sorting is stable: edits that share an offset stay in the order of their recording. -/
theorem filter_inOrder (edits : List Edit) (offset : Nat) :
    ((Edit.inOrder edits).filter fun e => e.offset = offset) =
      edits.filter fun e => e.offset = offset := by
  have hsorted : (edits.filter fun e => e.offset = offset).Pairwise
      fun a b => decide (a.offset ≤ b.offset) = true := by
    refine List.Pairwise.imp_of_mem (R := fun _ _ => True) ?_
      (List.pairwise_of_forall fun _ _ => trivial)
    intro a b ha hb _
    have ha' := (List.mem_filter.mp ha).2
    have hb' := (List.mem_filter.mp hb).2
    simp only [decide_eq_true_eq] at ha' hb' ⊢
    omega
  -- what was in order before sorting is a sublist of what is sorted
  have hsub : (edits.filter fun e => e.offset = offset).Sublist (Edit.inOrder edits) :=
    List.sublist_mergeSort
      (fun a b c hab hbc => by simp only [decide_eq_true_eq] at hab hbc ⊢; omega)
      (fun a b => by simp only [Bool.or_eq_true, decide_eq_true_eq]; omega)
      hsorted List.filter_sublist
  have hsub' := hsub.filter fun e => decide (e.offset = offset)
  rw [List.filter_filter] at hsub'
  simp only [Bool.and_self] at hsub'
  -- of the same length, since sorting only permutes
  refine (hsub'.eq_of_length ?_).symm
  exact ((List.mergeSort_perm edits _).filter _).length_eq.symm

theorem textsAt_inOrder (edits : List Edit) (offset : Nat) :
    textsAt (Edit.inOrder edits) offset = textsAt edits offset := by
  unfold textsAt
  rw [filter_inOrder]

/-! ## Splicing and walking along -/

theorem interleaveFrom_congr {f g : List Edit} {rest : List UInt8} :
    ∀ {offset : Nat}, (∀ o, offset ≤ o → textsAt f o = textsAt g o) →
      interleaveFrom offset f rest = interleaveFrom offset g rest := by
  induction rest with
  | nil => intro offset h; exact h offset (Nat.le_refl _)
  | cons b rest ih =>
      intro offset h
      rw [interleaveFrom, interleaveFrom, h offset (Nat.le_refl _),
        ih fun o ho => h o (by omega)]

/-- An edit at the very offset comes before everything else. -/
theorem interleaveFrom_cons_self {e : Edit} {edits : List Edit} {rest : List UInt8} :
    interleaveFrom e.offset (e :: edits) rest =
      Utf8.encode e.text ++ interleaveFrom e.offset edits rest := by
  have hself : textsAt (e :: edits) e.offset = Utf8.encode e.text ++ textsAt edits e.offset := by
    simp [textsAt]
  cases rest with
  | nil => exact hself
  | cons b rest =>
      have hlater : ∀ o, e.offset + 1 ≤ o → textsAt (e :: edits) o = textsAt edits o := by
        intro o ho
        unfold textsAt
        rw [List.filter_cons_of_neg (by simp only [decide_eq_true_eq]; omega)]
      rw [interleaveFrom, interleaveFrom, hself, interleaveFrom_congr hlater, List.append_assoc]

theorem textsAt_eq_nil {edits : List Edit} {offset : Nat} (h : ∀ e ∈ edits, offset < e.offset) :
    textsAt edits offset = [] := by
  unfold textsAt
  rw [List.filter_eq_nil_iff.mpr, List.flatMap_nil]
  intro e he
  have := h e he
  simp only [decide_eq_true_eq]
  omega

theorem spliceFrom_eq_interleaveFrom {rest : List UInt8} :
    ∀ {offset : Nat} {edits : List Edit},
      (edits.Pairwise fun a b => a.offset ≤ b.offset) →
      (∀ e ∈ edits, offset ≤ e.offset ∧ e.offset ≤ offset + rest.length) →
      spliceFrom offset rest edits = interleaveFrom offset edits rest := by
  induction rest with
  | nil =>
      intro offset edits hp hin
      induction edits with
      | nil => rfl
      | cons e edits ih =>
          -- the source is at its end, so every edit that is left is here
          have he : e.offset = offset := by
            have := hin e List.mem_cons_self
            simp only [List.length_nil] at this
            omega
          subst he
          rw [interleaveFrom_cons_self,
            ← ih hp.of_cons fun e' h => hin e' (List.mem_cons_of_mem _ h)]
          simp [spliceFrom]
  | cons b rest ihrest =>
      intro offset edits hp hin
      induction edits with
      | nil =>
          rw [interleaveFrom, ← ihrest List.Pairwise.nil (by simp)]
          simp [spliceFrom, textsAt]
      | cons e edits ih =>
          rcases Nat.eq_or_lt_of_le (hin e List.mem_cons_self).1 with he | he
          · subst he
            rw [interleaveFrom_cons_self,
              ← ih hp.of_cons fun e' h => hin e' (List.mem_cons_of_mem _ h)]
            simp [spliceFrom]
          · -- the next edit comes after this byte, so the byte is copied
            have hlater : ∀ e' ∈ e :: edits, offset < e'.offset := by
              intro e' h
              rcases List.mem_cons.mp h with rfl | h
              · exact he
              · exact Nat.lt_of_lt_of_le he (List.rel_of_pairwise_cons hp h)
            have hstep : spliceFrom offset (b :: rest) (e :: edits) =
                b :: spliceFrom (offset + 1) rest (e :: edits) := by
              obtain ⟨k, hk⟩ : ∃ k, e.offset - offset = k + 1 := ⟨e.offset - offset - 1, by omega⟩
              have hk' : e.offset - (offset + 1) = k := by omega
              simp [spliceFrom, hk, hk']
            rw [hstep, interleaveFrom, textsAt_eq_nil hlater, ihrest hp, List.nil_append]
            intro e' h
            have h1 := hlater e' h
            have h2 := (hin e' h).2
            rw [List.length_cons] at h2
            omega

/-- **Splicing writes, in front of each byte, the texts recorded for its offset.** -/
theorem splice_eq_interleave {source : List UInt8} {edits : List Edit}
    (h : ∀ e ∈ edits, e.offset ≤ source.length) :
    splice source edits = interleave source edits := by
  unfold splice interleave
  rw [spliceFrom_eq_interleaveFrom (pairwise_inOrder edits)]
  · exact interleaveFrom_congr fun o _ => textsAt_inOrder edits o
  · intro e he
    have := h e (mem_inOrder.mp he)
    omega

theorem interleave_nil (source : List UInt8) : interleave source [] = source :=
  (splice_eq_interleave (by simp)).symm.trans (splice_nil source)

/-! ## Taking the insertions out again -/

theorem unspliceFrom_spliceFrom {edits : List Edit} :
    ∀ {pointer : Nat} {rest : List UInt8},
      (edits.Pairwise fun a b => a.offset ≤ b.offset) →
      (∀ e ∈ edits, pointer ≤ e.offset ∧ e.offset ≤ pointer + rest.length) →
      unspliceFrom pointer (spliceFrom pointer rest edits) edits = rest := by
  induction edits with
  | nil => intro pointer rest _ _; rfl
  | cons e edits ih =>
      intro pointer rest hp hin
      have he := hin e List.mem_cons_self
      have hlen : (rest.take (e.offset - pointer)).length = e.offset - pointer := by
        rw [List.length_take]; omega
      rw [spliceFrom, unspliceFrom, List.append_assoc, List.take_append_of_le_length (by omega),
        List.take_of_length_le (by omega)]
      have hdrop : (rest.take (e.offset - pointer) ++ (Utf8.encode e.text ++
            spliceFrom e.offset (rest.drop (e.offset - pointer)) edits)).drop
              (e.offset - pointer + (Utf8.encode e.text).length) =
          spliceFrom e.offset (rest.drop (e.offset - pointer)) edits := by
        rw [← List.append_assoc]
        exact List.drop_left' (by rw [List.length_append, hlen])
      -- what is skipped is the text of the edit, and the rest is as long as it was
      rw [hdrop, ih hp.of_cons, List.take_append_drop]
      intro e' he'
      have h1 := List.rel_of_pairwise_cons hp he'
      have h2 := (hin e' (List.mem_cons_of_mem _ he')).2
      rw [List.length_drop]
      omega

/-- **Taking the insertions out again leaves the source.** -/
theorem unsplice_splice {source : List UInt8} {edits : List Edit}
    (h : ∀ e ∈ edits, e.offset ≤ source.length) :
    unsplice (splice source edits) edits = source := by
  unfold unsplice splice
  refine unspliceFrom_spliceFrom (pairwise_inOrder edits) fun e he => ?_
  have := h e (mem_inOrder.mp he)
  omega

end ScriptTypes
