import ScriptTypes.Span

/-!
# Insertions into a source

Nothing of a source is ever removed: texts are inserted at byte offsets. Insertions
are recorded in any order and spliced in at the end, in the order of their offsets;
those that share an offset stay in the order in which they were recorded, so several
interfaces at the start of a file keep the order of their discovery.

The result is bytes. An offset may fall inside a character, and only reading the
bytes back tells whether they are still a text.
-/

namespace ScriptTypes

/-- A text to be inserted in front of the byte at an offset. -/
structure Edit where
  /-- The offset. -/
  offset : Nat
  /-- The text. -/
  text : String
deriving DecidableEq, Repr

/-- The edit at an offset of a source of `size` bytes; the end of the source is an offset, too. -/
def Edit.within (size : Nat) (offset : Int) (text : String) : Except Fault Edit :=
  if 0 ≤ offset ∧ offset ≤ size then .ok ⟨offset.toNat, text⟩
  else .error (.offsetOutside offset size)

theorem Edit.offset_le_of_within {size : Nat} {offset : Int} {text : String} {e : Edit}
    (h : Edit.within size offset text = .ok e) : e.offset ≤ size := by
  unfold Edit.within at h
  split at h
  · cases h; show offset.toNat ≤ size; omega
  · cases h

/-- The edits in the order of their offsets, edits that share one in the order given. -/
def Edit.inOrder (edits : List Edit) : List Edit :=
  edits.mergeSort fun a b => a.offset ≤ b.offset

/-- What `rest`, the source from the offset `pointer` on, becomes under edits in order. -/
def spliceFrom (pointer : Nat) (rest : List UInt8) : List Edit → List UInt8
  | [] => rest
  | e :: edits =>
    rest.take (e.offset - pointer) ++ Utf8.encode e.text ++
      spliceFrom e.offset (rest.drop (e.offset - pointer)) edits

/-- The bytes of a source with the edits inserted. -/
def splice (source : List UInt8) (edits : List Edit) : List UInt8 :=
  spliceFrom 0 source (Edit.inOrder edits)

@[simp] theorem splice_nil (source : List UInt8) : splice source [] = source := by
  simp [splice, Edit.inOrder, spliceFrom]

/-- A source and the insertions recorded for it, all of which lie inside. -/
structure Patch where
  /-- The bytes of the source. -/
  source : List UInt8
  /-- The insertions, in the order of recording. -/
  edits : List Edit
  /-- Every insertion lies inside the source or at its end. -/
  inside : ∀ e ∈ edits, e.offset ≤ source.length

namespace Patch

/-- A source without insertions. -/
def ofSource (source : List UInt8) : Patch := ⟨source, [], by simp⟩

/-- The patch with one more insertion. -/
def insertAt (p : Patch) (offset : Int) (text : String) : Except Fault Patch :=
  match h : Edit.within p.source.length offset text with
  | .ok e =>
    .ok ⟨p.source, p.edits ++ [e], by
      intro e' he
      rcases List.mem_append.mp he with he | he
      · exact p.inside e' he
      · rw [List.mem_singleton.mp he]; exact Edit.offset_le_of_within h⟩
  | .error f => .error f

/-- The patch with a text inserted where the range starts. -/
def insertBefore (p : Patch) (span : Span) (text : String) : Except Fault Patch :=
  p.insertAt span.start text

/-- The patch with a text inserted where the range ends. -/
def insertAfter (p : Patch) (span : Span) (text : String) : Except Fault Patch :=
  p.insertAt span.stop text

/-- The patched source, read back as text. -/
def apply (p : Patch) : Except Fault String := textOf (splice p.source p.edits)

end Patch

end ScriptTypes
