import Mathlib.Data.List.Basic
import ScriptTypes.Fault

/-!
# Reading bytes back

`Utf8.encode` writes a text as bytes and `Utf8.decode` reads bytes one at a time. The two
are inverse to each other: what was written is read back, and whatever can be read was
written. So the bytes that can be read are exactly those of texts, and everything that is
said about patched bytes can be said about the patched text.

The reader works in the middle of a character for most of its time. What such a state
still accepts is a list of bytes that *completes* it, and the number spelled in the end
depends on the state and that list only.
-/

namespace ScriptTypes.Utf8

/-- The bytes that complete a character: the first in a range, any others plain continuations. -/
inductive Completes : (missing : Nat) → (low high : UInt8) → List UInt8 → Prop where
  | last {low high b : UInt8} : low ≤ b → b ≤ high → Completes 1 low high [b]
  | next {missing : Nat} {low high b : UInt8} {bs : List UInt8} :
      low ≤ b → b ≤ high → Completes (missing + 1) 0x80 0xBF bs →
      Completes (missing + 2) low high (b :: bs)

/-- The number spelled once some further bytes have been read. -/
def spelled (value : Nat) (bs : List UInt8) : Nat :=
  bs.foldl (fun v b => v * 64 + (b.toNat - 0x80)) value

/-- The bytes of a character, by the number of the character. -/
theorem utf8EncodeChar_ofNat {n : Nat} (h : n.isValidChar) :
    String.utf8EncodeChar (Char.ofNat n) =
      if n ≤ 0x7F then [UInt8.ofNat n]
      else if n ≤ 0x7FF then [UInt8.ofNat (n / 64 % 32 + 0xC0), UInt8.ofNat (n % 64 + 0x80)]
      else if n ≤ 0xFFFF then
        [UInt8.ofNat (n / 4096 % 16 + 0xE0), UInt8.ofNat (n / 64 % 64 + 0x80),
          UInt8.ofNat (n % 64 + 0x80)]
      else
        [UInt8.ofNat (n / 262144 % 8 + 0xF0), UInt8.ofNat (n / 4096 % 64 + 0x80),
          UInt8.ofNat (n / 64 % 64 + 0x80), UInt8.ofNat (n % 64 + 0x80)] := by
  have hv : (Char.ofNat n).val.toNat = n := by
    show (Char.ofNat n).toNat = n
    rw [Char.ofNat, dif_pos h]
    rfl
  unfold String.utf8EncodeChar
  rw [hv]

/-! ## In the middle of a character -/

/-- The state after a further byte that is not the last. -/
def Unfinished.advance (u : Unfinished) (b : UInt8) : Unfinished :=
  { u with seen := u.seen + 1, missing := u.missing - 1, value := u.extend b,
           low := 0x80, high := 0xBF }

theorem spelled_cons (u : Unfinished) (b : UInt8) (bs : List UInt8) :
    spelled u.value (b :: bs) = spelled (u.advance b).value bs := by
  have hv : (u.advance b).value = u.value * 64 + (b.toNat - 0x80) := by rfl
  unfold spelled
  rw [hv, List.foldl_cons]

theorem decodeFrom_last {u : Unfinished} {b : UInt8} {bs : List UInt8} {position : Nat}
    (hb : u.low ≤ b ∧ b ≤ u.high) (hm : u.missing ≤ 1) :
    decodeFrom position (some u) (b :: bs) =
      (Char.ofNat (u.extend b) :: ·) <$> decodeFrom (position + 1) none bs := by
  rw [decodeFrom]
  simp only [hb, and_self, if_true, hm]

theorem decodeFrom_advance {u : Unfinished} {b : UInt8} {bs : List UInt8} {position : Nat}
    (hb : u.low ≤ b ∧ b ≤ u.high) (hm : 2 ≤ u.missing) :
    decodeFrom position (some u) (b :: bs) =
      decodeFrom (position + 1) (some (u.advance b)) bs := by
  rw [decodeFrom]
  simp only [hb, and_self, if_true]
  rw [if_neg (by omega)]
  rfl

theorem decodeFrom_completes {missing : Nat} {low high : UInt8} {bs rest : List UInt8}
    (h : Completes missing low high bs) :
    ∀ {u : Unfinished} {position : Nat}, u.missing = missing → u.low = low → u.high = high →
      decodeFrom position (some u) (bs ++ rest) =
        (Char.ofNat (spelled u.value bs) :: ·) <$> decodeFrom (position + bs.length) none rest := by
  induction h with
  | last hlow hhigh =>
      intro u position hm hl hh
      exact decodeFrom_last ⟨hl ▸ hlow, hh ▸ hhigh⟩ (by omega)
  | @next missing low high b bs hlow hhigh _ ih =>
      intro u position hm hl hh
      rw [List.cons_append, decodeFrom_advance ⟨hl ▸ hlow, hh ▸ hhigh⟩ (by omega),
        ih (u := u.advance b) (by show u.missing - 1 = missing + 1; omega) rfl rfl,
        List.length_cons, spelled_cons, Nat.add_right_comm, ← Nat.add_assoc]

/-- Whatever is read in the middle of a character first completes it. -/
theorem completes_of_decodeFrom {bs : List UInt8} :
    ∀ {u : Unfinished} {position : Nat} {cs : List Char}, 1 ≤ u.missing →
      decodeFrom position (some u) bs = .ok cs →
      ∃ (first rest : List UInt8) (position' : Nat) (cs' : List Char), bs = first ++ rest ∧
        Completes u.missing u.low u.high first ∧ cs = Char.ofNat (spelled u.value first) :: cs' ∧
        decodeFrom position' none rest = .ok cs' := by
  induction bs with
  | nil => intro u position cs _ h; rw [decodeFrom] at h; cases h
  | cons b bs ih =>
      intro u position cs hm h
      by_cases hb : u.low ≤ b ∧ b ≤ u.high
      · rcases Nat.lt_or_ge u.missing 2 with hlast | hmore
        · rw [decodeFrom_last hb (by omega)] at h
          have hone : u.missing = 1 := by omega
          cases hr : decodeFrom (position + 1) none bs with
          | error f => rw [hr] at h; cases h
          | ok cs' =>
              rw [hr] at h
              refine ⟨[b], bs, position + 1, cs', rfl, ?_, (Except.ok.inj h).symm, hr⟩
              rw [hone]; exact .last hb.1 hb.2
        · rw [decodeFrom_advance hb hmore] at h
          obtain ⟨k, hk⟩ : ∃ k, u.missing = k + 2 := ⟨u.missing - 2, by omega⟩
          have hadv : (u.advance b).missing = k + 1 := by show u.missing - 1 = k + 1; omega
          obtain ⟨first, rest, position', cs', hbs, hc, hcs, hr⟩ := ih (by omega) h
          refine ⟨b :: first, rest, position', cs', by rw [hbs]; rfl, ?_, by
            rw [spelled_cons, hcs], hr⟩
          rw [hk]
          rw [hadv] at hc
          exact .next hb.1 hb.2 hc
      · rw [decodeFrom] at h
        simp only [hb, if_false] at h
        cases h

/-! ## At the start of a character -/

theorem missing_pos_of_ofLead? {b : UInt8} {position : Nat} {u : Unfinished}
    (h : Unfinished.ofLead? b position = some u) : 1 ≤ u.missing := by
  unfold Unfinished.ofLead? at h
  dsimp only at h
  repeat' split at h
  all_goals
    cases h
    try exact Nat.le_add_left 1 _

theorem Completes.one_iff {low high : UInt8} {bs : List UInt8} :
    Completes 1 low high bs ↔ ∃ b, bs = [b] ∧ low ≤ b ∧ b ≤ high := by
  constructor
  · intro h
    cases h with
    | last hl hh => exact ⟨_, rfl, hl, hh⟩
  · rintro ⟨b, rfl, hl, hh⟩
    exact .last hl hh

theorem Completes.succ_iff {missing : Nat} {low high : UInt8} {bs : List UInt8} :
    Completes (missing + 2) low high bs ↔
      ∃ b rest, bs = b :: rest ∧ (low ≤ b ∧ b ≤ high) ∧
        Completes (missing + 1) 0x80 0xBF rest := by
  constructor
  · intro h
    cases h with
    | next hl hh hr => exact ⟨_, _, rfl, ⟨hl, hh⟩, hr⟩
  · rintro ⟨b, rest, rfl, hb, hr⟩
    exact .next hb.1 hb.2 hr

/-- A plain continuation byte. -/
def Continues (b : UInt8) : Prop := 0x80 ≤ b.toNat ∧ b.toNat ≤ 0xBF

theorem utf8EncodeChar_two {b x : UInt8} (hb : 0xC2 ≤ b.toNat ∧ b.toNat ≤ 0xDF)
    (hx : Continues x) :
    String.utf8EncodeChar (Char.ofNat ((b.toNat - 0xC0) * 64 + (x.toNat - 0x80))) = [b, x] := by
  unfold Continues at hx
  rw [utf8EncodeChar_ofNat (by left; omega), if_neg (by omega), if_pos (by omega)]
  simp only [List.cons.injEq, ← UInt8.toNat_inj, UInt8.toNat_ofNat', and_true]
  omega

theorem utf8EncodeChar_three {b x y : UInt8} (hb : 0xE0 ≤ b.toNat ∧ b.toNat ≤ 0xEF)
    (hx : Continues x) (hy : Continues y) (hlong : b.toNat = 0xE0 → 0xA0 ≤ x.toNat)
    (hsurrogate : b.toNat = 0xED → x.toNat ≤ 0x9F) :
    String.utf8EncodeChar (Char.ofNat
      (((b.toNat - 0xE0) * 64 + (x.toNat - 0x80)) * 64 + (y.toNat - 0x80))) = [b, x, y] := by
  unfold Continues at hx hy
  have hlow : 0x800 ≤ ((b.toNat - 0xE0) * 64 + (x.toNat - 0x80)) * 64 + (y.toNat - 0x80) := by
    rcases Nat.eq_or_lt_of_le hb.1 with he | he
    · have := hlong he.symm; omega
    · omega
  have hvalid : (((b.toNat - 0xE0) * 64 + (x.toNat - 0x80)) * 64
      + (y.toNat - 0x80)).isValidChar := by
    rcases Nat.lt_trichotomy b.toNat 0xED with h | h | h
    · left; omega
    · have := hsurrogate h; left; omega
    · right; omega
  rw [utf8EncodeChar_ofNat hvalid, if_neg (by omega), if_neg (by omega), if_pos (by omega)]
  simp only [List.cons.injEq, ← UInt8.toNat_inj, UInt8.toNat_ofNat', and_true]
  omega

theorem utf8EncodeChar_four {b x y z : UInt8} (hb : 0xF0 ≤ b.toNat ∧ b.toNat ≤ 0xF4)
    (hx : Continues x) (hy : Continues y) (hz : Continues z)
    (hlong : b.toNat = 0xF0 → 0x90 ≤ x.toNat) (hbeyond : b.toNat = 0xF4 → x.toNat ≤ 0x8F) :
    String.utf8EncodeChar (Char.ofNat
      ((((b.toNat - 0xF0) * 64 + (x.toNat - 0x80)) * 64 + (y.toNat - 0x80)) * 64
        + (z.toNat - 0x80))) = [b, x, y, z] := by
  unfold Continues at hx hy hz
  have hlow : 0x10000 ≤ (((b.toNat - 0xF0) * 64 + (x.toNat - 0x80)) * 64 + (y.toNat - 0x80)) * 64
      + (z.toNat - 0x80) := by
    rcases Nat.eq_or_lt_of_le hb.1 with he | he
    · have := hlong he.symm; omega
    · omega
  have hvalid : ((((b.toNat - 0xF0) * 64 + (x.toNat - 0x80)) * 64 + (y.toNat - 0x80)) * 64
      + (z.toNat - 0x80)).isValidChar := by
    rcases Nat.eq_or_lt_of_le hb.2 with he | he
    · have := hbeyond he; right; omega
    · right; omega
  rw [utf8EncodeChar_ofNat hvalid, if_neg (by omega), if_neg (by omega), if_neg (by omega)]
  simp only [List.cons.injEq, ← UInt8.toNat_inj, UInt8.toNat_ofNat', and_true]
  omega

/-- A first byte and what completes it are the bytes of the character that they spell. -/
theorem utf8EncodeChar_spelled {b : UInt8} {position : Nat} {u : Unfinished} {bs : List UInt8}
    (h : Unfinished.ofLead? b position = some u) (hc : Completes u.missing u.low u.high bs) :
    String.utf8EncodeChar (Char.ofNat (spelled u.value bs)) = b :: bs := by
  unfold Unfinished.ofLead? at h
  dsimp only at h
  repeat' split at h
  all_goals cases h
  · rename_i hb
    obtain ⟨x, rfl, hx⟩ := Completes.one_iff.mp hc
    simp only [UInt8.le_iff_toNat_le, UInt8.reduceToNat] at hb hx
    exact utf8EncodeChar_two hb hx
  all_goals
    rename_i hb
    obtain ⟨x, rest, rfl, hx, hrest⟩ := Completes.succ_iff.mp hc
    simp only [UInt8.le_iff_toNat_le, UInt8.reduceToNat] at hx
  · -- the least first byte of three: the second rules out shorter forms
    obtain ⟨y, rfl, hy⟩ := Completes.one_iff.mp hrest
    simp only [UInt8.le_iff_toNat_le, UInt8.reduceToNat] at hy
    subst hb
    exact utf8EncodeChar_three (b := 0xE0) (by decide) ⟨by omega, hx.2⟩ hy (fun _ => hx.1)
      (fun h => absurd h (by decide))
  · -- the first byte of the surrogates: the second rules them out
    obtain ⟨y, rfl, hy⟩ := Completes.one_iff.mp hrest
    simp only [UInt8.le_iff_toNat_le, UInt8.reduceToNat] at hy
    subst hb
    exact utf8EncodeChar_three (b := 0xED) (by decide) ⟨hx.1, by omega⟩ hy
      (fun h => absurd h (by decide)) (fun _ => hx.2)
  · rename_i hE0 hED
    obtain ⟨y, rfl, hy⟩ := Completes.one_iff.mp hrest
    simp only [UInt8.le_iff_toNat_le, UInt8.reduceToNat, ← UInt8.toNat_inj] at hb hy hE0 hED
    exact utf8EncodeChar_three ⟨by omega, hb.2⟩ hx hy (fun h => absurd h hE0)
      (fun h => absurd h hED)
  all_goals
    obtain ⟨y, rest, rfl, hy, hrest⟩ := Completes.succ_iff.mp hrest
    obtain ⟨z, rfl, hz⟩ := Completes.one_iff.mp hrest
    simp only [UInt8.le_iff_toNat_le, UInt8.reduceToNat] at hy hz
  · -- the least first byte of four: the second rules out shorter forms
    subst hb
    exact utf8EncodeChar_four (b := 0xF0) (by decide) ⟨by omega, hx.2⟩ hy hz (fun _ => hx.1)
      (fun h => absurd h (by decide))
  · simp only [UInt8.le_iff_toNat_le, UInt8.reduceToNat] at hb
    exact utf8EncodeChar_four ⟨by omega, by omega⟩ hx hy hz (fun h => by omega)
      (fun h => by omega)
  · -- the greatest first byte: the second rules out numbers that are no characters
    subst hb
    exact utf8EncodeChar_four (b := 0xF4) (by decide) ⟨hx.1, by omega⟩ hy hz
      (fun h => absurd h (by decide)) (fun _ => hx.2)

theorem utf8EncodeChar_injective {c d : Char}
    (h : String.utf8EncodeChar c = String.utf8EncodeChar d) : c = d := by
  have hc := ByteArray.utf8DecodeChar?_utf8EncodeChar_append (b := ByteArray.empty) (c := c)
  rw [h, ByteArray.utf8DecodeChar?_utf8EncodeChar_append] at hc
  exact (Option.some.inj hc).symm

theorem ofLead?_two {b : UInt8} (position : Nat) (hb : 0xC2 ≤ b.toNat ∧ b.toNat ≤ 0xDF) :
    ∃ u, Unfinished.ofLead? b position = some u ∧ u.missing = 1 ∧ u.low = 0x80 ∧
      u.high = 0xBF := by
  unfold Unfinished.ofLead?
  simp only [UInt8.le_iff_toNat_le, UInt8.reduceToNat]
  rw [if_pos hb]
  exact ⟨_, rfl, rfl, rfl, rfl⟩

theorem ofLead?_three {b : UInt8} (position : Nat) (hb : 0xE0 ≤ b.toNat ∧ b.toNat ≤ 0xEF) :
    ∃ u, Unfinished.ofLead? b position = some u ∧ u.missing = 2 ∧
      u.low = (if b.toNat = 0xE0 then 0xA0 else 0x80) ∧
      u.high = (if b.toNat = 0xED then 0x9F else 0xBF) := by
  unfold Unfinished.ofLead?
  simp only [UInt8.le_iff_toNat_le, UInt8.reduceToNat, ← UInt8.toNat_inj]
  rw [if_neg (by omega)]
  split
  · rename_i h; exact ⟨_, rfl, rfl, rfl, by rw [if_neg (by omega)]⟩
  · split
    · rename_i h; exact ⟨_, rfl, rfl, rfl, rfl⟩
    · rw [if_pos (by omega)]; exact ⟨_, rfl, rfl, rfl, rfl⟩

theorem ofLead?_four {b : UInt8} (position : Nat) (hb : 0xF0 ≤ b.toNat ∧ b.toNat ≤ 0xF4) :
    ∃ u, Unfinished.ofLead? b position = some u ∧ u.missing = 3 ∧
      u.low = (if b.toNat = 0xF0 then 0x90 else 0x80) ∧
      u.high = (if b.toNat = 0xF4 then 0x8F else 0xBF) := by
  unfold Unfinished.ofLead?
  simp only [UInt8.le_iff_toNat_le, UInt8.reduceToNat, ← UInt8.toNat_inj]
  rw [if_neg (by omega), if_neg (by omega), if_neg (by omega), if_neg (by omega)]
  split
  · exact ⟨_, rfl, rfl, rfl, by rw [if_neg (by omega)]⟩
  · split
    · rw [if_neg (by omega)]; exact ⟨_, rfl, rfl, rfl, rfl⟩
    · rw [if_pos (by omega), if_pos (by omega)]; exact ⟨_, rfl, rfl, rfl, rfl⟩

theorem toNat_ofNat_of_lt {n : Nat} (h : n < 256) : (UInt8.ofNat n).toNat = n := by
  rw [UInt8.toNat_ofNat', Nat.mod_eq_of_lt h]

theorem continuation_within (n : Nat) :
    0x80 ≤ UInt8.ofNat (n % 64 + 0x80) ∧ UInt8.ofNat (n % 64 + 0x80) ≤ 0xBF := by
  rw [UInt8.le_iff_toNat_le, UInt8.le_iff_toNat_le, toNat_ofNat_of_lt (by omega)]
  exact ⟨Nat.le_add_left _ _, by simp only [UInt8.reduceToNat]; omega⟩

theorem not_lt_of_toNat {b : UInt8} (h : 0x80 ≤ b.toNat) : ¬ b < 0x80 := by
  rw [UInt8.lt_iff_toNat_lt]
  exact Nat.not_lt.mpr h

/-- Every character beyond the one-byte ones is a first byte and what completes it. -/
theorem exists_lead {n : Nat} (hn : n.isValidChar) (h : 0x80 ≤ n) (position : Nat) :
    ∃ (b : UInt8) (bs : List UInt8) (u : Unfinished),
      String.utf8EncodeChar (Char.ofNat n) = b :: bs ∧ ¬ b < 0x80 ∧
        Unfinished.ofLead? b position = some u ∧ Completes u.missing u.low u.high bs := by
  have hn' : n < 0xD800 ∨ (0xDFFF < n ∧ n < 0x110000) := hn
  rw [utf8EncodeChar_ofNat hn, if_neg (by omega)]
  split
  · have hb := toNat_ofNat_of_lt (n := n / 64 % 32 + 0xC0) (by omega)
    obtain ⟨u, hu, hm, hl, hh⟩ := ofLead?_two position
      (b := UInt8.ofNat (n / 64 % 32 + 0xC0)) ⟨by omega, by omega⟩
    refine ⟨_, _, u, rfl, not_lt_of_toNat (by omega), hu, ?_⟩
    rw [hm, hl, hh]
    exact .last (continuation_within n).1 (continuation_within n).2
  · split
    · have hb := toNat_ofNat_of_lt (n := n / 4096 % 16 + 0xE0) (by omega)
      have hx := toNat_ofNat_of_lt (n := n / 64 % 64 + 0x80) (by omega)
      obtain ⟨u, hu, hm, hl, hh⟩ := ofLead?_three position
        (b := UInt8.ofNat (n / 4096 % 16 + 0xE0)) ⟨by omega, by omega⟩
      refine ⟨_, _, u, rfl, not_lt_of_toNat (by omega), hu, ?_⟩
      rw [hm]
      refine .next ?_ ?_ (.last (continuation_within n).1 (continuation_within n).2)
      · rw [hl, UInt8.le_iff_toNat_le, hx]
        split <;> simp only [UInt8.reduceToNat] <;> omega
      · rw [hh, UInt8.le_iff_toNat_le, hx]
        split <;> simp only [UInt8.reduceToNat] <;> omega
    · have hb := toNat_ofNat_of_lt (n := n / 262144 % 8 + 0xF0) (by omega)
      have hx := toNat_ofNat_of_lt (n := n / 4096 % 64 + 0x80) (by omega)
      obtain ⟨u, hu, hm, hl, hh⟩ := ofLead?_four position
        (b := UInt8.ofNat (n / 262144 % 8 + 0xF0)) ⟨by omega, by omega⟩
      refine ⟨_, _, u, rfl, not_lt_of_toNat (by omega), hu, ?_⟩
      rw [hm]
      refine .next ?_ ?_ (.next (continuation_within _).1 (continuation_within _).2
        (.last (continuation_within n).1 (continuation_within n).2))
      · rw [hl, UInt8.le_iff_toNat_le, hx]
        split <;> simp only [UInt8.reduceToNat] <;> omega
      · rw [hh, UInt8.le_iff_toNat_le, hx]
        split <;> simp only [UInt8.reduceToNat] <;> omega

/-! ## Whole texts -/

theorem decodeFrom_small {b : UInt8} {bs : List UInt8} {position : Nat} (h : b < 0x80) :
    decodeFrom position none (b :: bs) =
      (Char.ofNat b.toNat :: ·) <$> decodeFrom (position + 1) none bs := by
  rw [decodeFrom]
  simp only [h, if_true]

theorem decodeFrom_lead {b : UInt8} {bs : List UInt8} {position : Nat} {u : Unfinished}
    (h : ¬ b < 0x80) (hu : Unfinished.ofLead? b position = some u) :
    decodeFrom position none (b :: bs) = decodeFrom (position + 1) (some u) bs := by
  rw [decodeFrom]
  simp only [h, if_false, hu]

/-- A character that was written is read back, whatever follows it. -/
theorem decodeFrom_utf8EncodeChar (c : Char) (rest : List UInt8) (position : Nat) :
    ∃ position', decodeFrom position none (String.utf8EncodeChar c ++ rest) =
      (c :: ·) <$> decodeFrom position' none rest := by
  have hvalid : c.toNat.isValidChar := c.valid
  rcases Nat.lt_or_ge c.toNat 0x80 with hsmall | hlarge
  · have hb : (UInt8.ofNat c.toNat).toNat = c.toNat := toNat_ofNat_of_lt (by omega)
    have hc := utf8EncodeChar_ofNat hvalid
    rw [Char.ofNat_toNat, if_pos (by omega)] at hc
    refine ⟨position + 1, ?_⟩
    rw [hc, List.singleton_append, decodeFrom_small, hb, Char.ofNat_toNat]
    rw [UInt8.lt_iff_toNat_lt, hb]
    exact hsmall
  · obtain ⟨b, bs, u, hc, hb, hu, hcomp⟩ := exists_lead hvalid hlarge position
    rw [Char.ofNat_toNat] at hc
    have hspelled : Char.ofNat (spelled u.value bs) = c :=
      utf8EncodeChar_injective ((utf8EncodeChar_spelled hu hcomp).trans hc.symm)
    refine ⟨position + 1 + bs.length, ?_⟩
    rw [hc, List.cons_append, decodeFrom_lead hb hu, decodeFrom_completes hcomp rfl rfl rfl,
      hspelled]

theorem decodeFrom_flatMap (cs : List Char) (position : Nat) :
    decodeFrom position none (cs.flatMap String.utf8EncodeChar) = .ok cs := by
  induction cs generalizing position with
  | nil => rfl
  | cons c cs ih =>
      obtain ⟨position', h⟩ :=
        decodeFrom_utf8EncodeChar c (cs.flatMap String.utf8EncodeChar) position
      rw [List.flatMap_cons, h, ih]
      rfl

/-- **A text that was written is read back.** -/
theorem decode_encode (s : String) : decode (encode s) = .ok s := by
  unfold decode encode
  rw [decodeFrom_flatMap]
  show Except.ok (String.ofList s.toList) = .ok s
  rw [String.ofList_toList]

theorem encode_injective {s t : String} (h : encode s = encode t) : s = t := by
  have hs := decode_encode s
  rw [h] at hs
  exact Except.ok.inj (hs.symm.trans (decode_encode t))

theorem flatMap_of_decodeFrom (n : Nat) :
    ∀ {bytes : List UInt8} {position : Nat} {cs : List Char}, bytes.length ≤ n →
      decodeFrom position none bytes = .ok cs → cs.flatMap String.utf8EncodeChar = bytes := by
  induction n with
  | zero =>
      intro bytes position cs hn h
      rw [List.length_eq_zero_iff.mp (Nat.le_zero.mp hn)] at h ⊢
      rw [decodeFrom] at h
      cases h
      rfl
  | succ n ih =>
      intro bytes position cs hn h
      cases bytes with
      | nil => rw [decodeFrom] at h; cases h; rfl
      | cons b bs =>
          rw [List.length_cons] at hn
          by_cases hb : b < 0x80
          · rw [decodeFrom_small hb] at h
            cases hr : decodeFrom (position + 1) none bs with
            | error f => rw [hr] at h; cases h
            | ok cs' =>
                rw [hr] at h
                obtain rfl := Except.ok.inj h
                have hb' : b.toNat < 0x80 := UInt8.lt_iff_toNat_lt.mp hb
                rw [List.flatMap_cons, ih (by omega) hr,
                  utf8EncodeChar_ofNat (Or.inl (by omega)), if_pos (by omega), UInt8.ofNat_toNat]
                rfl
          · cases hu : Unfinished.ofLead? b position with
            | none => rw [decodeFrom] at h; simp only [hb, if_false, hu] at h; cases h
            | some u =>
                rw [decodeFrom_lead hb hu] at h
                obtain ⟨first, rest, position', cs', hbs, hc, rfl, hr⟩ :=
                  completes_of_decodeFrom (missing_pos_of_ofLead? hu) h
                have hlen : rest.length ≤ n := by
                  have := congrArg List.length hbs
                  rw [List.length_append] at this
                  omega
                rw [List.flatMap_cons, ih hlen hr, utf8EncodeChar_spelled hu hc, hbs]
                rfl

/-- **Whatever can be read was written.** -/
theorem encode_of_decode {bytes : List UInt8} {s : String} (h : decode bytes = .ok s) :
    encode s = bytes := by
  unfold decode at h
  cases hr : decodeFrom 0 none bytes with
  | error f => rw [hr] at h; cases h
  | ok cs =>
      rw [hr] at h
      obtain rfl := Except.ok.inj h
      unfold encode
      rw [String.toList_ofList]
      exact flatMap_of_decodeFrom bytes.length (Nat.le_refl _) hr

end ScriptTypes.Utf8

namespace ScriptTypes

theorem textOf_encode (s : String) : textOf (Utf8.encode s) = .ok s := by
  unfold textOf
  rw [Utf8.decode_encode]
  rfl

theorem encode_of_textOf {bytes : List UInt8} {s : String} (h : textOf bytes = .ok s) :
    Utf8.encode s = bytes := by
  unfold textOf at h
  cases hr : Utf8.decode bytes with
  | error f => rw [hr] at h; cases h
  | ok s' =>
      rw [hr] at h
      obtain rfl := Except.ok.inj h
      exact Utf8.encode_of_decode hr

end ScriptTypes
