import ScriptTypes.Annotation.Draft
import ScriptTypes.Proofs.Splice
import ScriptTypes.Proofs.Utf8

/-!
# Between characters

Offsets count bytes, so an offset may fall inside a character. A *boundary* of a text is
an offset that does not: the text is cut in two there. Three facts are all that patching
needs of them. The bytes between two boundaries are those of a text; a text into which
texts are written at boundaries is a text again; and the place where interfaces go is a
boundary, if the `#!` line that may stand in front of it ends at one.
-/

namespace ScriptTypes

/-- An offset of a text that cuts no character. -/
def Utf8.Boundary (s : String) (offset : Nat) : Prop :=
  ∃ before after, s = before ++ after ∧ (Utf8.encode before).length = offset

namespace Utf8

theorem encode_append (s t : String) : encode (s ++ t) = encode s ++ encode t := by
  simp [encode]

theorem encode_ofList_cons (c : Char) (cs : List Char) :
    encode (String.ofList (c :: cs)) = String.utf8EncodeChar c ++ encode (String.ofList cs) := by
  simp [encode]

/-- The text of the bytes that stand between two boundaries. -/
theorem exists_encode_between {s : String} {start stop : Nat} (hstart : Boundary s start)
    (hstop : Boundary s stop) (hle : start ≤ stop) :
    ∃ t, ((encode s).drop start).take (stop - start) = encode t := by
  obtain ⟨a, b, hab, rfl⟩ := hstart
  obtain ⟨c, d, hcd, rfl⟩ := hstop
  have hsame : a.toList ++ b.toList = c.toList ++ d.toList := by
    rw [← String.toList_append, ← String.toList_append, ← hab, ← hcd]
  have hdrop : (encode s).drop (encode a).length = encode b := by
    rw [hab, encode_append, List.drop_left]
  rw [hdrop]
  rcases List.append_eq_append_iff.mp hsame with ⟨m, hc, hb⟩ | ⟨m, ha, _⟩
  · -- the second cut comes after the first, and `m` stands between them
    obtain rfl : c = a ++ String.ofList m := by
      rw [← String.toList_inj, String.toList_append, String.toList_ofList, hc]
    obtain rfl : b = String.ofList m ++ d := by
      rw [← String.toList_inj, String.toList_append, String.toList_ofList, hb]
    refine ⟨String.ofList m, ?_⟩
    rw [encode_append, encode_append, List.length_append, Nat.add_sub_cancel_left, List.take_left]
  · refine ⟨"", ?_⟩
    obtain rfl : a = c ++ String.ofList m := by
      rw [← String.toList_inj, String.toList_append, String.toList_ofList, ha]
    rw [encode_append, List.length_append] at hle
    rw [encode_append, List.length_append, show (encode c).length -
      ((encode c).length + (encode (String.ofList m)).length) = 0 by omega, List.take_zero,
      encode_empty]

theorem Boundary.le {s : String} {offset : Nat} (h : Boundary s offset) :
    offset ≤ (encode s).length := by
  obtain ⟨a, b, rfl, rfl⟩ := h
  rw [encode_append, List.length_append]
  exact Nat.le_add_right _ _

theorem boundary_zero (s : String) : Boundary s 0 := ⟨"", s, by simp, by simp⟩

/-- Behind the first character, the boundaries are those of the rest. -/
theorem boundary_cons_iff {c : Char} {cs : List Char} {offset : Nat} :
    Boundary (String.ofList (c :: cs)) offset ↔ offset = 0 ∨
      ∃ rest, Boundary (String.ofList cs) rest ∧
        offset = (String.utf8EncodeChar c).length + rest := by
  constructor
  · rintro ⟨a, b, hab, rfl⟩
    have hlist : c :: cs = a.toList ++ b.toList := by
      rw [← String.toList_append, ← hab, String.toList_ofList]
    cases ha : a.toList with
    | nil =>
        left
        rw [String.toList_eq_nil_iff.mp ha]
        rfl
    | cons c' as =>
        right
        rw [ha, List.cons_append, List.cons.injEq] at hlist
        obtain ⟨rfl, rfl⟩ := hlist
        obtain rfl : a = String.ofList (c :: as) := by rw [← ha, String.ofList_toList]
        refine ⟨_, ⟨String.ofList as, b, ?_, rfl⟩, ?_⟩
        · rw [← String.toList_inj, String.toList_append, String.toList_ofList, String.toList_ofList]
        · rw [encode_ofList_cons, List.length_append]
  · rintro (rfl | ⟨rest, ⟨a, b, hab, rfl⟩, rfl⟩)
    · exact boundary_zero _
    · refine ⟨String.ofList (c :: a.toList), b, ?_, ?_⟩
      · have hlist : cs = a.toList ++ b.toList := by
          rw [← String.toList_append, ← hab, String.toList_ofList]
        rw [← String.toList_inj, String.toList_append, String.toList_ofList, String.toList_ofList,
          hlist, List.cons_append]
      · rw [encode_ofList_cons, List.length_append, String.ofList_toList]

/-- The boundaries of a text, from its start to its end. -/
def boundaries : List Char → List Nat
  | [] => [0]
  | c :: cs => 0 :: (boundaries cs).map ((String.utf8EncodeChar c).length + ·)

theorem mem_boundaries {cs : List Char} {offset : Nat} :
    offset ∈ boundaries cs ↔ Boundary (String.ofList cs) offset := by
  induction cs generalizing offset with
  | nil =>
      rw [boundaries, List.mem_singleton]
      constructor
      · rintro rfl
        exact boundary_zero _
      · intro h
        exact Nat.le_zero.mp h.le
  | cons c cs ih =>
      rw [boundaries, List.mem_cons, List.mem_map, boundary_cons_iff]
      refine or_congr_right ⟨?_, ?_⟩
      · rintro ⟨rest, hrest, rfl⟩
        exact ⟨rest, ih.mp hrest, rfl⟩
      · rintro ⟨rest, hrest, rfl⟩
        exact ⟨rest, ih.mpr hrest, rfl⟩

instance (s : String) (offset : Nat) : Decidable (Boundary s offset) :=
  decidable_of_iff (offset ∈ boundaries s.toList) <| by rw [mem_boundaries, String.ofList_toList]

end Utf8

/-! ## Writing at boundaries -/

/-- The texts recorded for an offset are one text. -/
theorem exists_encode_textsAt (edits : List Edit) (offset : Nat) :
    ∃ t, textsAt edits offset = Utf8.encode t := by
  unfold textsAt
  induction edits.filter fun e => e.offset = offset with
  | nil => exact ⟨"", rfl⟩
  | cons e edits ih =>
      obtain ⟨t, ht⟩ := ih
      exact ⟨e.text ++ t, by rw [List.flatMap_cons, ht, Utf8.encode_append]⟩

/-- Bytes in front of which nothing is recorded are copied. -/
theorem interleaveFrom_append {edits : List Edit} {bytes rest : List UInt8} {offset : Nat}
    (h : ∀ e ∈ edits, e.offset < offset ∨ offset + bytes.length ≤ e.offset) :
    interleaveFrom offset edits (bytes ++ rest) =
      bytes ++ interleaveFrom (offset + bytes.length) edits rest := by
  induction bytes generalizing offset with
  | nil => rfl
  | cons b bytes ih =>
      have hnone : textsAt edits offset = [] := by
        unfold textsAt
        rw [List.filter_eq_nil_iff.mpr, List.flatMap_nil]
        intro e he
        have := h e he
        rw [List.length_cons] at this
        simp only [decide_eq_true_eq]
        omega
      have hnext : ∀ e ∈ edits, e.offset < offset + 1 ∨ offset + 1 + bytes.length ≤ e.offset := by
        intro e he
        have := h e he
        rw [List.length_cons] at this
        omega
      rw [List.cons_append, interleaveFrom, hnone, List.nil_append, ih hnext, List.cons_append,
        List.length_cons, Nat.add_right_comm, Nat.add_assoc]

theorem exists_encode_interleaveFrom {edits : List Edit} {cs : List Char} {offset : Nat}
    (h : ∀ e ∈ edits, offset ≤ e.offset →
      Utf8.Boundary (String.ofList cs) (e.offset - offset)) :
    ∃ t, interleaveFrom offset edits (Utf8.encode (String.ofList cs)) = Utf8.encode t := by
  induction cs generalizing offset with
  | nil => exact exists_encode_textsAt edits offset
  | cons c cs ih =>
      obtain ⟨b, bs, hc⟩ : ∃ b bs, String.utf8EncodeChar c = b :: bs :=
        List.exists_cons_of_ne_nil String.utf8EncodeChar_ne_nil
      -- nothing is recorded between the first byte of the character and the next character
      have hinner : ∀ e ∈ edits,
          e.offset < offset + 1 ∨ offset + 1 + bs.length ≤ e.offset := by
        intro e he
        by_cases hle : offset ≤ e.offset
        · rcases Utf8.boundary_cons_iff.mp (h e he hle) with hzero | ⟨rest, _, hrest⟩
          · omega
          · rw [hc, List.length_cons] at hrest
            omega
        · omega
      have hlater : ∀ e ∈ edits, offset + 1 + bs.length ≤ e.offset →
          Utf8.Boundary (String.ofList cs) (e.offset - (offset + 1 + bs.length)) := by
        intro e he hle
        rcases Utf8.boundary_cons_iff.mp (h e he (by omega)) with hzero | ⟨rest, hrest, heq⟩
        · omega
        · rw [hc, List.length_cons] at heq
          rwa [show e.offset - (offset + 1 + bs.length) = rest by omega]
      obtain ⟨t, ht⟩ := ih hlater
      obtain ⟨inserted, hi⟩ := exists_encode_textsAt edits offset
      refine ⟨inserted ++ String.singleton c ++ t, ?_⟩
      rw [Utf8.encode_ofList_cons, hc, List.cons_append, interleaveFrom, hi,
        interleaveFrom_append hinner, ht, Utf8.encode_append, Utf8.encode_append,
        show Utf8.encode (String.singleton c) = b :: bs by simp [Utf8.encode, hc]]
      simp

/-- **Texts written into a text at boundaries leave a text.** -/
theorem exists_encode_splice {s : String} {edits : List Edit}
    (h : ∀ e ∈ edits, Utf8.Boundary s e.offset) :
    ∃ t, splice (Utf8.encode s) edits = Utf8.encode t := by
  rw [splice_eq_interleave fun e he => (h e he).le]
  have hcs : s = String.ofList s.toList := (String.ofList_toList).symm
  unfold interleave
  rw [hcs]
  refine exists_encode_interleaveFrom fun e he _ => ?_
  rw [← hcs]
  exact h e he

/-! ## The start of a file -/

namespace Utf8

/-- A small byte, such as that of a line feed, occurs in no character but its own. -/
theorem utf8EncodeChar_of_mem {c : Char} {b : UInt8} (hb : b.toNat < 0x80)
    (h : b ∈ String.utf8EncodeChar c) : String.utf8EncodeChar c = [b] := by
  have hvalid : c.toNat.isValidChar := c.valid
  have henc := utf8EncodeChar_ofNat hvalid
  rw [Char.ofNat_toNat] at henc
  have hbound : c.toNat < 0x110000 := by
    rcases hvalid with hlow | ⟨_, hhigh⟩ <;> omega
  rw [henc] at h ⊢
  split at h
  · rw [if_pos ‹_›]
    rw [List.mem_singleton] at h
    rw [h]
  · -- every byte of a longer character is at least 0x80
    exfalso
    split at h
    · simp only [List.mem_cons, List.not_mem_nil, or_false, ← UInt8.toNat_inj,
        UInt8.toNat_ofNat'] at h
      omega
    · split at h
      all_goals
        simp only [List.mem_cons, List.not_mem_nil, or_false, ← UInt8.toNat_inj,
          UInt8.toNat_ofNat'] at h
        omega

/-- Behind a line feed is a boundary. -/
theorem boundary_of_lineFeed {cs : List Char} {offset : Nat}
    (h : (encode (String.ofList cs))[offset]? = some 10) :
    Boundary (String.ofList cs) (offset + 1) := by
  induction cs generalizing offset with
  | nil => simp [encode] at h
  | cons c cs ih =>
      rw [encode_ofList_cons] at h
      rw [boundary_cons_iff]
      right
      rcases Nat.lt_or_ge offset (String.utf8EncodeChar c).length with hlt | hge
      · rw [List.getElem?_append_left hlt] at h
        have hone := utf8EncodeChar_of_mem (by decide) (List.mem_of_getElem? h)
        rw [hone, List.length_singleton] at hlt
        exact ⟨0, boundary_zero _, by rw [hone, List.length_singleton]; omega⟩
      · rw [List.getElem?_append_right hge] at h
        exact ⟨_, ih h, by omega⟩

end Utf8

namespace Annotation.Document

theorem boundary_afterLine {s : String} {offset : Nat} (h : Utf8.Boundary s offset) :
    Utf8.Boundary s (afterLine (Utf8.encode s) offset) := by
  unfold afterLine
  split
  · rename_i i hi
    obtain ⟨hlt, hfeed, _⟩ := List.findIdx?_eq_some_iff_getElem.mp hi
    have hget : (Utf8.encode s)[offset + i]? = some 10 := by
      rw [← List.getElem?_drop, List.getElem?_eq_getElem hlt, eq_of_beq hfeed]
    have hcs : s = String.ofList s.toList := (String.ofList_toList).symm
    rw [hcs] at hget ⊢
    exact Utf8.boundary_of_lineFeed hget
  · exact h

theorem boundary_byteOrderMark {s : String} (h : byteOrderMark <+: Utf8.encode s) :
    Utf8.Boundary s byteOrderMark.length := by
  obtain ⟨rest, hrest⟩ := h
  have hmark : String.utf8EncodeChar '\ufeff' = byteOrderMark := by decide
  -- reading the text back reads the mark first
  have hread := Utf8.decodeFrom_flatMap s.toList 0
  obtain ⟨position, hfirst⟩ := Utf8.decodeFrom_utf8EncodeChar '\ufeff' rest 0
  have hbytes : s.toList.flatMap String.utf8EncodeChar =
      String.utf8EncodeChar '\ufeff' ++ rest := by rw [hmark, hrest]; rfl
  rw [hbytes, hfirst] at hread
  cases hr : Utf8.decodeFrom position none rest with
  | error f => rw [hr] at hread; cases hread
  | ok cs =>
      rw [hr] at hread
      have hlist : '\ufeff' :: cs = s.toList := Except.ok.inj hread
      refine ⟨String.singleton '\ufeff', String.ofList cs, ?_, by decide⟩
      rw [← String.toList_inj, String.toList_append, String.toList_ofList, ← hlist]
      rfl

/-- **Interfaces go to a boundary**, if the line that may be in front of them ends at one. -/
theorem boundary_fileStart {doc : Document}
    (h : ∀ line ∈ doc.root.children, Utf8.Boundary doc.source line.stop) :
    Utf8.Boundary doc.source doc.fileStart := by
  unfold fileStart
  split
  · rename_i line hline
    obtain ⟨first, hfirst, hkind⟩ := Option.bind_eq_some_iff.mp hline
    have hline : line = first := by
      unfold Syntax.Node.ofKind? at hkind
      split at hkind
      · exact (Option.some.inj hkind).symm
      · cases hkind
    subst hline
    exact boundary_afterLine (h line (List.mem_of_head? hfirst))
  · split
    · rename_i hmark
      exact boundary_byteOrderMark (List.isPrefixOf_iff_prefix.mp hmark)
    · exact Utf8.boundary_zero _

end Annotation.Document

end ScriptTypes
