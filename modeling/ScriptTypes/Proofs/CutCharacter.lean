import ScriptTypes.Proofs.Boundary
import ScriptTypes.Proofs.Outcome
import ScriptTypes.Proofs.Recording

/-!
# Insertions inside of characters

A text that is written into the middle of a character tears it apart: behind the first bytes of
the character stands the first byte of the inserted text, and no character goes on with a byte
that starts one. So what was a text is none any more, whatever else has been inserted. An
insertion of nothing tears nothing apart, and insertions at boundaries leave a text. Together this
tells exactly when a patched source can be read back.
-/

namespace ScriptTypes

namespace Utf8

/-- An offset of a text that lies inside of a character, behind its first byte. -/
def InsideCharacter (s : String) (offset : Nat) : Prop :=
  ∃ before c after, s = before ++ String.singleton c ++ after ∧
    (encode before).length < offset ∧
    offset < (encode before).length + (String.utf8EncodeChar c).length

theorem InsideCharacter.not_boundary {s : String} {offset : Nat} (h : InsideCharacter s offset) :
    ¬ Boundary s offset := by
  obtain ⟨before, c, after, rfl, hlow, hhigh⟩ := h
  rintro ⟨a, b, hab, rfl⟩
  have hlist : before.toList ++ (c :: after.toList) = a.toList ++ b.toList := by
    rw [← String.toList_append, ← hab]
    simp
  rcases List.append_eq_append_iff.mp hlist with ⟨m, ha, hm⟩ | ⟨m, hbefore, _⟩
  · obtain rfl : a = before ++ String.ofList m := by
      rw [← String.toList_inj, String.toList_append, String.toList_ofList, ha]
    rw [encode_append, List.length_append] at hlow hhigh
    cases m with
    | nil => exact Nat.lt_irrefl _ hlow
    | cons c' m =>
        -- the part up to the offset holds the whole character
        obtain rfl : c = c' := (List.cons.inj hm).1
        rw [encode_ofList_cons, List.length_append] at hhigh
        omega
  · obtain rfl : before = a ++ String.ofList m := by
      rw [← String.toList_inj, String.toList_append, String.toList_ofList, hbefore]
    rw [encode_append, List.length_append] at hlow
    omega

theorem insideCharacter_of_not_boundary {cs : List Char} {offset : Nat}
    (hle : offset ≤ (encode (String.ofList cs)).length)
    (h : ¬ Boundary (String.ofList cs) offset) : InsideCharacter (String.ofList cs) offset := by
  induction cs generalizing offset with
  | nil =>
      obtain rfl : offset = 0 := Nat.le_zero.mp hle
      exact absurd (boundary_zero _) h
  | cons c cs ih =>
      rw [boundary_cons_iff] at h
      rw [encode_ofList_cons, List.length_append] at hle
      have hpos : offset ≠ 0 := fun hzero => h (.inl hzero)
      by_cases hin : offset < (String.utf8EncodeChar c).length
      · refine ⟨"", c, String.ofList cs, ?_, ?_, ?_⟩
        · rw [← String.toList_inj]; simp
        · rw [encode_empty, List.length_nil]; omega
        · rw [encode_empty, List.length_nil]; omega
      · have hrest : ¬ Boundary (String.ofList cs) (offset - (String.utf8EncodeChar c).length) :=
          fun hb => h (.inr ⟨_, hb, by omega⟩)
        obtain ⟨before, c', after, hs, hlow, hhigh⟩ := ih (by omega) hrest
        refine ⟨String.ofList (c :: before.toList), c', after, ?_, ?_, ?_⟩
        · rw [← String.toList_inj] at hs ⊢
          simpa using hs
        · rw [encode_ofList_cons, List.length_append, String.ofList_toList]; omega
        · rw [encode_ofList_cons, List.length_append, String.ofList_toList]; omega

/-- Every offset of a text is a boundary or lies inside of a character. -/
theorem insideCharacter_iff {s : String} {offset : Nat} (hle : offset ≤ (encode s).length) :
    InsideCharacter s offset ↔ ¬ Boundary s offset := by
  constructor
  · exact InsideCharacter.not_boundary
  · intro h
    have hcs : s = String.ofList s.toList := (String.ofList_toList).symm
    rw [hcs] at hle h ⊢
    exact insideCharacter_of_not_boundary hle h

/-! ## Bytes that go on and bytes that start -/

/-- A state in the middle of a character takes only bytes that continue one. -/
def Unfinished.Continuing (u : Unfinished) : Prop := ∀ b, u.low ≤ b → b ≤ u.high → Continues b

theorem Unfinished.continuing_advance (u : Unfinished) (b : UInt8) :
    (u.advance b).Continuing := by
  intro x hlow hhigh
  exact ⟨UInt8.le_iff_toNat_le.mp hlow, UInt8.le_iff_toNat_le.mp hhigh⟩

theorem continuing_of_ofLead? {b : UInt8} {position : Nat} {u : Unfinished}
    (h : Unfinished.ofLead? b position = some u) : u.Continuing := by
  intro x hlow hhigh
  unfold Unfinished.ofLead? at h
  dsimp only at h
  repeat' split at h
  all_goals cases h
  all_goals
    simp only [UInt8.le_iff_toNat_le, UInt8.reduceToNat] at hlow hhigh
    exact ⟨by omega, by omega⟩

theorem not_continues_of_ofLead? {b : UInt8} {position : Nat} {u : Unfinished}
    (h : Unfinished.ofLead? b position = some u) : ¬ Continues b := by
  rintro ⟨_, hhigh⟩
  unfold Unfinished.ofLead? at h
  simp only [UInt8.le_iff_toNat_le, UInt8.reduceToNat, ← UInt8.toNat_inj] at h
  repeat' split at h
  all_goals first | omega | cases h

/-- A character in one byte, or its first byte and what completes it. -/
theorem utf8EncodeChar_cases (c : Char) (position : Nat) :
    (∃ b, String.utf8EncodeChar c = [b] ∧ b < 0x80) ∨
      ∃ (b : UInt8) (bs : List UInt8) (u : Unfinished),
        String.utf8EncodeChar c = b :: bs ∧ ¬ b < 0x80 ∧
          Unfinished.ofLead? b position = some u ∧
          Completes u.missing u.low u.high bs := by
  have hvalid : c.toNat.isValidChar := c.valid
  rcases Nat.lt_or_ge c.toNat 0x80 with hsmall | hlarge
  · left
    have henc := utf8EncodeChar_ofNat hvalid
    rw [Char.ofNat_toNat, if_pos (by omega)] at henc
    refine ⟨_, henc, ?_⟩
    rw [UInt8.lt_iff_toNat_lt, toNat_ofNat_of_lt (by omega)]
    exact hsmall
  · right
    have hlead := exists_lead hvalid hlarge position
    rwa [Char.ofNat_toNat] at hlead

/-- A character starts with a byte that continues none. -/
theorem not_continues_of_utf8EncodeChar {c : Char} {b : UInt8} {bs : List UInt8}
    (h : String.utf8EncodeChar c = b :: bs) : ¬ Continues b := by
  rcases utf8EncodeChar_cases c 0 with ⟨b', hc, hsmall⟩ | ⟨b', bs', u, hc, _, hu, _⟩
  · obtain ⟨rfl, _⟩ := List.cons.inj (h.symm.trans hc)
    rintro ⟨hlow, _⟩
    exact Nat.not_le.mpr (UInt8.lt_iff_toNat_lt.mp hsmall) hlow
  · obtain ⟨rfl, _⟩ := List.cons.inj (h.symm.trans hc)
    exact not_continues_of_ofLead? hu

/-- A text starts with a byte that continues no character. -/
theorem not_continues_of_encode {t : String} {b : UInt8} {bs : List UInt8}
    (h : encode t = b :: bs) : ¬ Continues b := by
  have hcs : t = String.ofList t.toList := (String.ofList_toList).symm
  rw [hcs] at h
  cases ht : t.toList with
  | nil => rw [ht] at h; cases h
  | cons c cs =>
      rw [ht, encode_ofList_cons] at h
      cases hc : String.utf8EncodeChar c with
      | nil => exact absurd hc String.utf8EncodeChar_ne_nil
      | cons b' bs' =>
          rw [hc, List.cons_append] at h
          obtain ⟨rfl, _⟩ := List.cons.inj h
          exact not_continues_of_utf8EncodeChar hc

/-- In the middle of a character, a byte that continues none is refused. -/
theorem decodeFrom_broken {u : Unfinished} {b : UInt8} {rest : List UInt8} {position : Nat}
    (hu : u.Continuing) (hb : ¬ Continues b) :
    decodeFrom position (some u) (b :: rest) = .error (u.fault .invalidContinuation) := by
  rw [decodeFrom]
  exact if_neg fun h => hb (hu b h.1 h.2)

/-- A text that was written is read back, whatever follows it. -/
theorem decodeFrom_encode (t : String) (rest : List UInt8) (position : Nat) :
    ∃ position', decodeFrom position none (encode t ++ rest) =
      (t.toList ++ ·) <$> decodeFrom position' none rest := by
  unfold encode
  induction t.toList generalizing position with
  | nil => exact ⟨position, by simp⟩
  | cons c cs ih =>
      obtain ⟨position₁, h₁⟩ :=
        decodeFrom_utf8EncodeChar c (cs.flatMap String.utf8EncodeChar ++ rest) position
      obtain ⟨position₂, h₂⟩ := ih position₁
      refine ⟨position₂, ?_⟩
      rw [List.flatMap_cons, List.append_assoc, h₁, h₂]
      cases decodeFrom position₂ none rest <;> rfl

end Utf8

/-! ## Insertions that tear a character apart -/

/-- An insertion of something leaves bytes at its offset, and no character goes on there. -/
theorem exists_textsAt_cons {edits : List Edit} {e : Edit} (he : e ∈ edits) (ht : e.text ≠ "") :
    ∃ b bs, textsAt edits e.offset = b :: bs ∧ ¬ Utf8.Continues b := by
  obtain ⟨t, htexts⟩ := exists_encode_textsAt edits e.offset
  cases hcons : textsAt edits e.offset with
  | nil =>
      have hnil := List.flatMap_eq_nil_iff.mp hcons e (List.mem_filter.mpr ⟨he, by simp⟩)
      exact absurd (Utf8.encode_injective (t := "") hnil) ht
  | cons b bs => exact ⟨b, bs, rfl, Utf8.not_continues_of_encode (htexts.symm.trans hcons)⟩

/--
Where the bytes that complete a character are read back with insertions among them, there are
no insertions in front of any of these bytes.
-/
theorem forall_outside_of_decodeFrom {edits : List Edit} (hne : ∀ e ∈ edits, e.text ≠ "")
    {missing : Nat} {low high : UInt8} {bs : List UInt8}
    (hc : Utf8.Completes missing low high bs) :
    ∀ {u : Utf8.Unfinished} {offset position : Nat} {rest : List UInt8} {cs : List Char},
      u.missing = missing → u.low = low → u.high = high → u.Continuing →
      Utf8.decodeFrom position (some u) (interleaveFrom offset edits (bs ++ rest)) = .ok cs →
      ∀ e ∈ edits, e.offset < offset ∨ offset + bs.length ≤ e.offset := by
  -- an insertion at the very offset would be read in the middle of the character
  have hhere : ∀ {u : Utf8.Unfinished} {offset position : Nat} {b : UInt8} {rest : List UInt8}
      {cs : List Char}, u.Continuing →
      Utf8.decodeFrom position (some u) (interleaveFrom offset edits (b :: rest)) = .ok cs →
      ∀ e ∈ edits, e.offset ≠ offset := by
    intro u offset position b rest cs hu h e he heq
    obtain ⟨x, xs, htexts, hx⟩ := exists_textsAt_cons he (hne e he)
    rw [interleaveFrom, ← heq, htexts, List.cons_append, Utf8.decodeFrom_broken hu hx] at h
    cases h
  have hskip : ∀ {offset : Nat} {b : UInt8} {rest : List UInt8}, (∀ e ∈ edits, e.offset ≠ offset) →
      interleaveFrom offset edits (b :: rest) = b :: interleaveFrom (offset + 1) edits rest := by
    intro offset b rest hnone
    rw [interleaveFrom, textsAt, List.filter_eq_nil_iff.mpr, List.flatMap_nil, List.nil_append]
    intro e he
    simpa using hnone e he
  induction hc with
  | @last low high b hlow hhigh =>
      intro u offset position rest cs hm hl hh hu h e he
      have hat := hhere hu h e he
      rw [List.length_singleton]
      omega
  | @next missing low high b bs hlow hhigh hbs ih =>
      intro u offset position rest cs hm hl hh hu h e he
      have hnone := hhere hu h
      rw [List.cons_append, hskip hnone,
        Utf8.decodeFrom_advance ⟨hl ▸ hlow, hh ▸ hhigh⟩ (by omega)] at h
      have hlater := ih (u := u.advance b) (by show u.missing - 1 = missing + 1; omega) rfl rfl
        (u.continuing_advance b) h e he
      have hat := hnone e he
      rw [List.length_cons]
      omega

/--
Where a character is read back with insertions around it, none of them stands inside of it, and
what follows it is read back, too.
-/
theorem outside_of_decodeFrom {edits : List Edit} (hne : ∀ e ∈ edits, e.text ≠ "") {c : Char}
    {b : UInt8} {bs rest : List UInt8} {ts : List Char} {offset position : Nat}
    (hc : String.utf8EncodeChar c = b :: bs)
    (h : Utf8.decodeFrom position none (interleaveFrom offset edits (b :: (bs ++ rest))) = .ok ts) :
    (∀ e ∈ edits, e.offset < offset + 1 ∨ offset + 1 + bs.length ≤ e.offset) ∧
      ∃ position' ts', Utf8.decodeFrom position' none
        (interleaveFrom (offset + 1 + bs.length) edits rest) = .ok ts' := by
  -- the texts in front of the character are read first
  obtain ⟨t, htexts⟩ := exists_encode_textsAt edits offset
  obtain ⟨position₁, hfirst⟩ :=
    Utf8.decodeFrom_encode t (b :: interleaveFrom (offset + 1) edits (bs ++ rest)) position
  rw [interleaveFrom, htexts, hfirst] at h
  obtain ⟨ts₁, h₁, _⟩ := map_eq_ok.mp h
  rcases Utf8.utf8EncodeChar_cases c position₁ with
    ⟨b', hb, hsmall⟩ | ⟨b', bs', u, hb, hlarge, hu, hcomp⟩
  · obtain ⟨rfl, rfl⟩ := List.cons.inj (hc.symm.trans hb)
    rw [Utf8.decodeFrom_small hsmall] at h₁
    obtain ⟨ts₂, h₂, _⟩ := map_eq_ok.mp h₁
    exact ⟨fun e _ => by simp only [List.length_nil]; omega, _, _, h₂⟩
  · obtain ⟨rfl, rfl⟩ := List.cons.inj (hc.symm.trans hb)
    rw [Utf8.decodeFrom_lead hlarge hu] at h₁
    have hout := forall_outside_of_decodeFrom hne hcomp rfl rfl rfl
      (Utf8.continuing_of_ofLead? hu) h₁
    rw [interleaveFrom_append hout, Utf8.decodeFrom_completes hcomp rfl rfl rfl] at h₁
    obtain ⟨ts₂, h₂, _⟩ := map_eq_ok.mp h₁
    exact ⟨hout, _, _, h₂⟩

/-- Where a text is read back with insertions in it, they stand at its boundaries. -/
theorem boundary_of_decodeFrom {edits : List Edit} (hne : ∀ e ∈ edits, e.text ≠ "")
    {cs ts : List Char} {offset position : Nat}
    (h : Utf8.decodeFrom position none
      (interleaveFrom offset edits (Utf8.encode (String.ofList cs))) = .ok ts) :
    ∀ e ∈ edits, offset ≤ e.offset →
      e.offset ≤ offset + (Utf8.encode (String.ofList cs)).length →
      Utf8.Boundary (String.ofList cs) (e.offset - offset) := by
  induction cs generalizing offset position ts with
  | nil =>
      intro e _ hle hge
      obtain rfl : e.offset = offset := Nat.le_antisymm hge hle
      rw [Nat.sub_self]
      exact Utf8.boundary_zero _
  | cons c cs ih =>
      intro e he hle hge
      obtain ⟨b, bs, hc⟩ : ∃ b bs, String.utf8EncodeChar c = b :: bs :=
        List.exists_cons_of_ne_nil String.utf8EncodeChar_ne_nil
      rw [Utf8.encode_ofList_cons, hc] at h hge
      obtain ⟨hout, position', ts', hrest⟩ := outside_of_decodeFrom hne hc h
      rw [List.length_append, List.length_cons] at hge
      rw [Utf8.boundary_cons_iff]
      by_cases hat : e.offset = offset
      · left; omega
      · right
        have hbehind : offset + 1 + bs.length ≤ e.offset := by
          rcases hout e he with h | h <;> omega
        refine ⟨_, ih hrest e he hbehind (by omega), ?_⟩
        rw [hc, List.length_cons]
        omega

/-! ## When a patched text can be read back -/

/-- Insertions of nothing leave no bytes. -/
theorem textsAt_filter_text (edits : List Edit) (offset : Nat) :
    textsAt (edits.filter fun e => e.text ≠ "") offset = textsAt edits offset := by
  unfold textsAt
  induction edits with
  | nil => rfl
  | cons e edits ih =>
      rw [List.filter_filter] at ih ⊢
      by_cases hat : e.offset = offset
      · by_cases ht : e.text = ""
        · simpa [List.filter_cons, hat, ht] using ih
        · simpa [List.filter_cons, hat, ht] using ih
      · simpa [List.filter_cons, hat] using ih

theorem splice_filter_text {source : List UInt8} {edits : List Edit}
    (h : ∀ e ∈ edits, e.offset ≤ source.length) :
    splice source (edits.filter fun e => e.text ≠ "") = splice source edits := by
  rw [splice_eq_interleave h, splice_eq_interleave fun e he => h e (List.mem_filter.mp he).1]
  exact interleaveFrom_congr fun offset _ => textsAt_filter_text edits offset

/-- A patched text can be read back exactly if all that was inserted stands at boundaries. -/
theorem exists_decode_splice_iff {s : String} {edits : List Edit}
    (h : ∀ e ∈ edits, e.offset ≤ (Utf8.encode s).length) :
    (∃ t, Utf8.decode (splice (Utf8.encode s) edits) = .ok t) ↔
      ∀ e ∈ edits, e.text ≠ "" → Utf8.Boundary s e.offset := by
  have hfilter : ∀ {e : Edit}, e ∈ (edits.filter fun e => e.text ≠ "") ↔
      e ∈ edits ∧ e.text ≠ "" := by
    intro e
    rw [List.mem_filter, decide_eq_true_eq]
  rw [← splice_filter_text h]
  constructor
  · rintro ⟨t, ht⟩ e he htext
    rw [splice_eq_interleave fun e he => h e (hfilter.mp he).1] at ht
    unfold Utf8.decode interleave at ht
    obtain ⟨cs, hcs, _⟩ := map_eq_ok.mp ht
    rw [← String.ofList_toList (s := s)] at hcs ⊢
    refine boundary_of_decodeFrom (fun e he => (hfilter.mp he).2) hcs e
      (hfilter.mpr ⟨he, htext⟩) (Nat.zero_le _) ?_
    rw [String.ofList_toList, Nat.zero_add]
    exact h e he
  · intro hall
    have hbounds : ∀ e ∈ edits.filter fun e => e.text ≠ "", Utf8.Boundary s e.offset :=
      fun e he => hall e (hfilter.mp he).1 (hfilter.mp he).2
    obtain ⟨t, ht⟩ := exists_encode_splice hbounds
    exact ⟨t, by rw [ht, Utf8.decode_encode]⟩

namespace Patch

/--
**Patching a text breaks it exactly where something is written into a character.** Whatever
insertions were asked for, the patched source cannot be read back if and only if one of those
recorded is not empty and lies inside of a character of the source. Otherwise the text that is read
back has the patched bytes.
-/
theorem apply_unreadable_iff {source : List UInt8} {s : String} (h : textOf source = .ok s)
    (requests : List Request) :
    ((∃ fault, (ofRequests source requests).apply = .error (.undecodable fault)) ↔
      ∃ e ∈ (ofRequests source requests).edits, e.text ≠ "" ∧ Utf8.InsideCharacter s e.offset) ∧
    ((¬ ∃ e ∈ (ofRequests source requests).edits,
        e.text ≠ "" ∧ Utf8.InsideCharacter s e.offset) →
      ∃ t, (ofRequests source requests).apply = .ok t ∧
        Utf8.encode t = splice source (ofRequests source requests).edits) := by
  obtain rfl : Utf8.encode s = source := encode_of_textOf h
  have hinside := (ofRequests (Utf8.encode s) requests).inside
  rw [source_ofRequests] at hinside
  have happly : (ofRequests (Utf8.encode s) requests).apply =
      (Utf8.decode (splice (Utf8.encode s) (ofRequests (Utf8.encode s) requests).edits)).mapError
        .undecodable := by
    unfold apply textOf
    rw [source_ofRequests]
  have hreads := exists_decode_splice_iff hinside
  -- an insertion at no boundary is one inside of a character
  have hbroken : (∃ e ∈ (ofRequests (Utf8.encode s) requests).edits,
        e.text ≠ "" ∧ Utf8.InsideCharacter s e.offset) ↔
      ¬ ∃ t, Utf8.decode (splice (Utf8.encode s) (ofRequests (Utf8.encode s) requests).edits) =
        .ok t := by
    rw [hreads]
    constructor
    · rintro ⟨e, he, htext, hin⟩ hall
      exact hin.not_boundary (hall e he htext)
    · intro hnot
      by_contra hnone
      refine hnot fun e he htext => ?_
      by_contra hcut
      exact hnone ⟨e, he, htext, (Utf8.insideCharacter_iff (hinside e he)).mpr hcut⟩
  rw [hbroken, happly]
  cases hd : Utf8.decode
      (splice (Utf8.encode s) (ofRequests (Utf8.encode s) requests).edits) with
  | error fault =>
      refine ⟨iff_of_true ⟨fault, rfl⟩ (by simp), fun hall => ?_⟩
      exact absurd hall (by simp)
  | ok t =>
      refine ⟨iff_of_false (by simp [Except.mapError]) (by simp), fun _ => ?_⟩
      exact ⟨t, rfl, Utf8.encode_of_decode hd⟩

/--
A text with an accented letter of two bytes: a letter written between these two breaks it, but not
an empty text written there and a letter in front of them.
-/
theorem apply_unreadable_iff_accent :
    textOf [0x61, 0xC3, 0xA9] = .ok "aé" ∧
    (∃ fault, (ofRequests [0x61, 0xC3, 0xA9] [.before ⟨2, 3, by decide⟩ "x"]).apply =
      .error (.undecodable fault)) ∧
    ∃ t, (ofRequests [0x61, 0xC3, 0xA9]
        [.before ⟨2, 3, by decide⟩ "", .behind ⟨0, 1, by decide⟩ "x"]).apply = .ok t ∧
      Utf8.encode t = [0x61, 0x78, 0xC3, 0xA9] := by
  have htext : textOf [0x61, 0xC3, 0xA9] = .ok "aé" := by decide
  refine ⟨htext, ?_, ?_⟩
  · refine (apply_unreadable_iff htext _).1.mpr ⟨⟨2, "x"⟩, ?_, by decide, ?_⟩
    · rw [edits_ofRequests]; decide
    · exact ⟨"a", 'é', "", by decide, by decide, by decide⟩
  · have hedits : (ofRequests [0x61, 0xC3, 0xA9]
        [.before ⟨2, 3, by decide⟩ "", .behind ⟨0, 1, by decide⟩ "x"]).edits =
          [⟨2, ""⟩, ⟨1, "x"⟩] := by
      rw [edits_ofRequests]; decide
    have hnone : ¬ ∃ e ∈ [(⟨2, ""⟩ : Edit), ⟨1, "x"⟩],
        e.text ≠ "" ∧ Utf8.InsideCharacter "aé" e.offset := by
      rintro ⟨e, he, htext, hin⟩
      rcases List.mem_cons.mp he with rfl | he
      · exact htext rfl
      · obtain rfl := List.mem_singleton.mp he
        exact hin.not_boundary (by decide)
    rw [← hedits] at hnone
    obtain ⟨t, ht, hbytes⟩ := (apply_unreadable_iff htext _).2 hnone
    refine ⟨t, ht, ?_⟩
    rw [hbytes, hedits, splice_eq_interleave (by decide)]
    decide

end Patch

end ScriptTypes
