import Mathlib
import ScriptTypes.Proofs.Splice

/-!
# Recording insertions

Insertions are asked for one after the other, in any order. One whose offset lies inside of the
source is recorded behind the others; any other is refused, and leaves no trace. So what has been
recorded is known from the list of the requests alone, and what becomes of the source is known
from what has been recorded: in front of each byte, and at the end, stand the texts that were
recorded for that offset, in the order in which they came. How the requests for different offsets
were mixed makes no difference.
-/

namespace ScriptTypes

/-- An insertion that is asked for. -/
inductive Request where
  /-- A text in front of a range. -/
  | before (span : Span) (text : String)
  /-- A text behind a range. -/
  | behind (span : Span) (text : String)

namespace Request

/-- The offset where the text is to stand. -/
def offset : Request → Int
  | before span _ => span.start
  | behind span _ => span.stop

/-- The text. -/
def text : Request → String
  | before _ text => text
  | behind _ text => text

/-- What is to be recorded in a source of `size` bytes: nothing if the offset lies outside. -/
def edit? (size : Nat) (r : Request) : Option Edit :=
  if 0 ≤ r.offset ∧ r.offset ≤ size then some ⟨r.offset.toNat, r.text⟩ else none

end Request

namespace Patch

variable {p : Patch} {source : List UInt8} {requests : List Request}

/-- The patch after a request. -/
def perform (p : Patch) : Request → Except Fault Patch
  | .before span text => p.insertBefore span text
  | .behind span text => p.insertAfter span text

/-- The patch after a request that may be refused. -/
def attempt (p : Patch) (r : Request) : Patch :=
  match p.perform r with
  | .ok q => q
  | .error _ => p

/-- A source with what is left of some requests, each of which may be refused. -/
def ofRequests (source : List UInt8) (requests : List Request) : Patch :=
  requests.foldl attempt (ofSource source)

/-! ## One request -/

theorem perform_eq (p : Patch) (r : Request) : p.perform r = p.insertAt r.offset r.text := by
  cases r <;> rfl

theorem perform_of_edit? {r : Request} {e : Edit} (h : r.edit? p.source.length = some e) :
    ∃ q, p.perform r = .ok q ∧ q.source = p.source ∧ q.edits = p.edits ++ [e] := by
  have hwithin : Edit.within p.source.length r.offset r.text = .ok e := by
    unfold Request.edit? at h
    unfold Edit.within
    split at h
    · rename_i hin
      rw [if_pos hin, Option.some.inj h]
    · cases h
  rw [perform_eq]
  unfold insertAt
  split
  · rename_i e' he'
    obtain rfl := Except.ok.inj (he'.symm.trans hwithin)
    exact ⟨_, rfl, rfl, rfl⟩
  · rename_i f hf
    cases hf.symm.trans hwithin

theorem perform_of_edit?_none {r : Request} (h : r.edit? p.source.length = none) :
    p.perform r = .error (.offsetOutside r.offset p.source.length) := by
  have hwithin : Edit.within p.source.length r.offset r.text =
      .error (.offsetOutside r.offset p.source.length) := by
    unfold Request.edit? at h
    unfold Edit.within
    split at h
    · cases h
    · rename_i hout
      rw [if_neg hout]
  rw [perform_eq]
  unfold insertAt
  split
  · rename_i e he
    cases he.symm.trans hwithin
  · rename_i f hf
    obtain rfl := Except.error.inj (hf.symm.trans hwithin)
    rfl

/-- A request that is refused leaves the patch as it is. -/
theorem attempt_eq (p : Patch) (r : Request) :
    (p.attempt r).source = p.source ∧
      (p.attempt r).edits = p.edits ++ (r.edit? p.source.length).toList := by
  unfold attempt
  cases h : r.edit? p.source.length with
  | some e =>
      obtain ⟨q, hq, hsource, hedits⟩ := perform_of_edit? h
      rw [hq]
      exact ⟨hsource, hedits⟩
  | none =>
      rw [perform_of_edit?_none h]
      exact ⟨rfl, (List.append_nil _).symm⟩

/-! ## Many requests -/

theorem foldl_attempt (p : Patch) (requests : List Request) :
    (requests.foldl attempt p).source = p.source ∧
      (requests.foldl attempt p).edits =
        p.edits ++ requests.filterMap (·.edit? p.source.length) := by
  induction requests generalizing p with
  | nil => exact ⟨rfl, (List.append_nil _).symm⟩
  | cons r requests ih =>
      obtain ⟨hsource, hedits⟩ := attempt_eq p r
      obtain ⟨ihsource, ihedits⟩ := ih (p.attempt r)
      rw [List.foldl_cons]
      refine ⟨ihsource.trans hsource, ?_⟩
      rw [ihedits, hedits, hsource, List.append_assoc]
      congr 1
      cases h : r.edit? p.source.length with
      | none => rw [List.filterMap_cons_none h]; rfl
      | some e => rw [List.filterMap_cons_some h]; rfl

theorem source_ofRequests : (ofRequests source requests).source = source :=
  (foldl_attempt (ofSource source) requests).1

theorem edits_ofRequests :
    (ofRequests source requests).edits = requests.filterMap (·.edit? source.length) :=
  (foldl_attempt (ofSource source) requests).2

/-- What a further request comes to. -/
theorem perform_ofRequests (r : Request) :
    ((ofRequests source requests).perform r).map edits =
      match r.edit? source.length with
      | some e => .ok ((ofRequests source requests).edits ++ [e])
      | none => .error (.offsetOutside r.offset source.length) := by
  have hsource : (ofRequests source requests).source = source := source_ofRequests
  cases h : r.edit? source.length with
  | some e =>
      obtain ⟨q, hq, _, hedits⟩ := perform_of_edit? (p := ofRequests source requests)
        (by rw [hsource]; exact h)
      rw [hq]
      exact congrArg Except.ok hedits
  | none =>
      rw [perform_of_edit?_none (by rw [hsource]; exact h), hsource]
      rfl

end Patch

/-! ## What becomes of the source -/

/-- Walking along a source is going through its offsets, the end included. -/
theorem interleaveFrom_eq_flatMap {edits : List Edit} {rest : List UInt8} {offset : Nat} :
    interleaveFrom offset edits rest = (List.range (rest.length + 1)).flatMap fun i =>
      textsAt edits (offset + i) ++ rest[i]?.toList := by
  induction rest generalizing offset with
  | nil => simp [interleaveFrom]
  | cons b rest ih =>
      rw [interleaveFrom, ih, List.length_cons, List.range_succ_eq_map (n := rest.length + 1),
        List.flatMap_cons, List.flatMap_map]
      simp [Nat.add_assoc, Nat.add_comm 1]

theorem length_spliceFrom {edits : List Edit} {rest : List UInt8} {pointer : Nat} :
    (spliceFrom pointer rest edits).length =
      rest.length + (edits.map fun e => (Utf8.encode e.text).length).sum := by
  induction edits generalizing pointer rest with
  | nil => rfl
  | cons e edits ih =>
      rw [spliceFrom, List.length_append, List.length_append, ih, List.length_take,
        List.length_drop, List.map_cons, List.sum_cons]
      omega

/-- A source grows by the texts that are inserted. -/
theorem length_splice (source : List UInt8) (edits : List Edit) :
    (splice source edits).length =
      source.length + (edits.map fun e => (Utf8.encode e.text).length).sum := by
  have hperm : (Edit.inOrder edits).Perm edits := List.mergeSort_perm edits _
  unfold splice
  rw [length_spliceFrom, (hperm.map _).sum_eq]

/-- Only the order of insertions at one offset counts. -/
theorem splice_congr {source : List UInt8} {f g : List Edit}
    (hf : ∀ e ∈ f, e.offset ≤ source.length) (hg : ∀ e ∈ g, e.offset ≤ source.length)
    (h : ∀ i, (f.filter fun e => e.offset = i) = g.filter fun e => e.offset = i) :
    splice source f = splice source g := by
  rw [splice_eq_interleave hf, splice_eq_interleave hg]
  refine interleaveFrom_congr fun i _ => ?_
  unfold textsAt
  rw [h i]

namespace Patch

/--
**Applying a patch writes, at each offset, the texts recorded for it.** Whatever insertions were
asked for: those inside of the source are recorded in their order, and any other is refused with
its offset. The bytes that are read back are, for each offset from the start to the end, the texts
recorded for it and then the byte of the source there. So the source grows by just these texts,
and requests that come to the same at each offset come to the same text.
-/
theorem apply_positionwise (source : List UInt8) (requests : List Request) :
    (∀ r : Request, ((ofRequests source requests).perform r).map edits =
      match r.edit? source.length with
      | some e => .ok ((ofRequests source requests).edits ++ [e])
      | none => .error (.offsetOutside r.offset source.length)) ∧
    (ofRequests source requests).edits = requests.filterMap (·.edit? source.length) ∧
    (∃ bytes, (ofRequests source requests).apply = textOf bytes ∧
      (bytes = (List.range (source.length + 1)).flatMap fun i =>
        (((ofRequests source requests).edits.filter fun e => e.offset = i).flatMap
          fun e => Utf8.encode e.text) ++ source[i]?.toList) ∧
      bytes.length = source.length +
        ((ofRequests source requests).edits.map fun e => (Utf8.encode e.text).length).sum) ∧
    ∀ others : List Request,
      (∀ i, ((ofRequests source others).edits.filter fun e => e.offset = i) =
        (ofRequests source requests).edits.filter fun e => e.offset = i) →
      (ofRequests source others).apply = (ofRequests source requests).apply := by
  have hinside : ∀ requests : List Request,
      ∀ e ∈ (ofRequests source requests).edits, e.offset ≤ source.length := by
    intro requests e he
    have h := (ofRequests source requests).inside e he
    rwa [source_ofRequests] at h
  have happly : ∀ requests : List Request, (ofRequests source requests).apply =
      textOf (splice source (ofRequests source requests).edits) := by
    intro requests
    unfold apply
    rw [source_ofRequests]
  refine ⟨perform_ofRequests, edits_ofRequests, ⟨_, happly requests, ?_, length_splice _ _⟩, ?_⟩
  · rw [splice_eq_interleave (hinside requests)]
    unfold interleave
    rw [interleaveFrom_eq_flatMap]
    simp only [Nat.zero_add, textsAt]
  · intro others h
    rw [happly, happly, splice_congr (hinside others) (hinside requests) h]

/--
Five insertions into three bytes: two at one offset, one at either end, and one too far on, which
is refused. Asked for in another order that keeps that of the two, they give the same text.
-/
theorem apply_positionwise_shuffled :
    (ofRequests [97, 98, 99]
      [.behind ⟨0, 3, by decide⟩ "!", .before ⟨1, 2, by decide⟩ "x", .behind ⟨2, 4, by decide⟩ "?",
        .before ⟨0, 0, by decide⟩ "<", .behind ⟨0, 1, by decide⟩ "y"]).apply = .ok "<axybc!" ∧
    (ofRequests [97, 98, 99]
      [.before ⟨1, 2, by decide⟩ "x", .behind ⟨0, 1, by decide⟩ "y", .before ⟨0, 0, by decide⟩ "<",
        .behind ⟨0, 3, by decide⟩ "!"]).apply = .ok "<axybc!" := by
  have hfirst : (ofRequests [97, 98, 99]
      [.behind ⟨0, 3, by decide⟩ "!", .before ⟨1, 2, by decide⟩ "x", .behind ⟨2, 4, by decide⟩ "?",
        .before ⟨0, 0, by decide⟩ "<", .behind ⟨0, 1, by decide⟩ "y"]).apply = .ok "<axybc!" := by
    obtain ⟨bytes, happly, hbytes, _⟩ := (apply_positionwise _ _).2.2.1
    rw [happly, hbytes, edits_ofRequests]
    decide
  refine ⟨hfirst, ?_⟩
  rw [← hfirst]
  refine (apply_positionwise _ _).2.2.2 _ fun i => ?_
  rw [edits_ofRequests, edits_ofRequests]
  show (List.filter (fun e => decide (e.offset = i))
      [⟨1, "x"⟩, ⟨1, "y"⟩, ⟨0, "<"⟩, ⟨3, "!"⟩] : List Edit) =
    List.filter (fun e => decide (e.offset = i)) [⟨3, "!"⟩, ⟨1, "x"⟩, ⟨0, "<"⟩, ⟨1, "y"⟩]
  by_cases h0 : 0 = i
  · subst h0; rfl
  · by_cases h1 : 1 = i
    · subst h1; rfl
    · simp [List.filter_cons, h0, h1]

end Patch

end ScriptTypes
