import ScriptTypes.Dialect
import ScriptTypes.Proofs.Ways

/-!
# Where targets stand

The target of a source has the name of the source with another suffix, one that no source
has. So without links a target and a source never stand at the same location, though a target
stands in the folder of its source.
-/

namespace ScriptTypes

namespace Files.Path

/-- A name is what stands in front of its suffix, and the suffix. -/
theorem splitName_append (name : List Char) : (splitName name).1 ++ (splitName name).2 = name := by
  unfold splitName
  dsimp only
  split
  · rename_i stem hstem
    split
    · exact List.append_nil name
    · have hname : name.reverse = name.reverse.takeWhile (· ≠ '.') ++ '.' :: stem := by
        rw [← hstem, List.takeWhile_append_dropWhile]
      calc stem.reverse ++ '.' :: (name.reverse.takeWhile (· ≠ '.')).reverse
          = (name.reverse.takeWhile (· ≠ '.') ++ '.' :: stem).reverse := by simp
        _ = name := by rw [← hname, List.reverse_reverse]
  · exact List.append_nil name

/-- The suffix of a name starts with the last dot, if that is not its first character. -/
theorem splitName_dot {stem ending : List Char} (hstem : stem ≠ []) (hending : ending ≠ [])
    (hdot : '.' ∉ ending) : splitName (stem ++ '.' :: ending) = (stem, '.' :: ending) := by
  have hreverse : (stem ++ '.' :: ending).reverse = ending.reverse ++ '.' :: stem.reverse := by
    simp
  have hends : ∀ c ∈ ending.reverse, decide (c ≠ '.') = true := by
    intro c hc
    exact decide_eq_true fun h => hdot (h ▸ List.mem_reverse.mp hc)
  unfold splitName
  rw [hreverse, List.takeWhile_append_of_pos hends, List.dropWhile_append_of_pos hends]
  simp [hstem, hending]

/-- A name does not start with its suffix. -/
theorem splitName_nil {name : List Char} (h : (splitName name).1 = []) :
    (splitName name).2 = [] := by
  unfold splitName at h ⊢
  dsimp only at h ⊢
  split
  · rename_i stem hstem
    simp only [hstem] at h
    split
    · rfl
    · rename_i hnot
      rw [if_neg hnot] at h
      exact absurd (.inr (List.reverse_eq_nil_iff.mp h)) hnot
  · rfl

variable {p : Path}

/-- A path with a name is its folder and the name. -/
theorem parts_eq (h : p.name ≠ "") : p.parts = p.parts.dropLast ++ [p.name] := by
  unfold name at h ⊢
  rcases List.eq_nil_or_concat p.parts with hnil | ⟨init, last, hparts⟩
  · rw [hnil] at h
    exact absurd rfl h
  · rw [hparts]
    simp

end Files.Path

open Files

namespace Dialect

variable {path target : Path} {language : String}

/-- The characters of a suffix are a dot and some letters. -/
theorem exists_ending (d : Dialect) :
    ∃ ending, d.suffix.toList = '.' :: ending ∧ ending ≠ [] ∧ '.' ∉ ending := by
  cases d with
  | typescript => exact ⟨['t', 's'], rfl, by decide, by decide⟩
  | tsx => exact ⟨['t', 's', 'x'], rfl, by decide, by decide⟩

/-- No file with the suffix of a dialect is a source. -/
theorem ofSuffix?_suffix (d : Dialect) : ofSuffix? (Text.lower d.suffix) = none := by
  cases d <;> decide +kernel

theorem isSource_of_ofFile {source : Option String} {d : Dialect}
    (h : Dialect.ofFile path source = .ok d) : isSource path = true := by
  unfold Dialect.ofFile at h
  unfold isSource
  cases hs : ofSuffix? (Text.lower path.suffix) with
  | none =>
      rw [hs] at h
      cases h
  | some d => rfl

/-- Whether a file is a source is told by its name. -/
theorem isSource_congr {other : Path} (h : path.name = other.name) :
    isSource path = isSource other := by
  unfold isSource Path.suffix
  rw [h]

/-- A source has a suffix. -/
theorem suffix_ne_of_isSource (h : isSource path = true) : path.suffix ≠ "" := by
  intro hs
  unfold isSource at h
  rw [hs] at h
  exact absurd h (by decide +kernel)

/-- A source has something in front of its suffix. -/
theorem stem_ne_of_isSource (h : isSource path = true) : path.stem.toList ≠ [] := by
  intro hstem
  rw [Path.stem, String.toList_ofList] at hstem
  refine suffix_ne_of_isSource h ?_
  rw [Path.suffix, Path.splitName_nil hstem]

theorem name_ne_of_isSource (h : isSource path = true) : path.name ≠ "" ∧ path.name ≠ ".." := by
  constructor
  · intro hname
    refine suffix_ne_of_isSource h ?_
    rw [Path.suffix, hname]
    rfl
  · intro hname
    refine suffix_ne_of_isSource h ?_
    rw [Path.suffix, hname]
    rfl

/-- The target of a path: the folder of the path, and its name with the suffix of a dialect. -/
theorem target_eq_ok_iff : Dialect.target path language = .ok target ↔
    ∃ d, Dialect.ofName language = .ok d ∧ path.name ≠ "" ∧
      target = { path with parts := path.parts.dropLast ++ [path.stem ++ d.suffix] } := by
  unfold Dialect.target Path.withSuffix?
  rw [bind_eq_ok]
  refine exists_congr fun d => and_congr_right fun _ => ?_
  by_cases hname : path.name = ""
  · rw [if_pos hname]
    exact iff_of_false nofun fun h => h.1 hname
  · rw [if_neg hname]
    dsimp only
    rw [pure_eq_ok, eq_comm]
    exact ⟨fun h => ⟨hname, h⟩, fun h => h.2⟩

theorem name_of_target (h : Dialect.target path language = .ok target) :
    ∃ d : Dialect, target.name = path.stem ++ d.suffix := by
  obtain ⟨d, _, _, rfl⟩ := target_eq_ok_iff.mp h
  exact ⟨d, by simp [Path.name]⟩

theorem name_ne_of_target (h : Dialect.target path language = .ok target) :
    target.name ≠ "" ∧ target.name ≠ ".." := by
  obtain ⟨d, hname⟩ := name_of_target h
  obtain ⟨ending, hsuffix, hending, hdot⟩ := d.exists_ending
  have hchars : target.name.toList = path.stem.toList ++ '.' :: ending := by
    rw [hname, String.toList_append, hsuffix]
  constructor
  · intro h
    rw [h] at hchars
    simp at hchars
  · intro h
    rw [h] at hchars
    cases hstem : path.stem.toList with
    | nil =>
        rw [hstem] at hchars
        obtain rfl : ['.'] = ending := (List.cons.inj hchars).2
        exact hdot List.mem_cons_self
    | cons c rest =>
        rw [hstem] at hchars
        cases rest with
        | nil => exact hending (List.cons.inj (List.cons.inj hchars).2).2.symm
        | cons c' rest => simp at hchars

/-- **The target of a source is no source.** -/
theorem not_isSource_target (hs : isSource path = true)
    (h : Dialect.target path language = .ok target) : isSource target = false := by
  obtain ⟨d, hname⟩ := name_of_target h
  obtain ⟨ending, hsuffix, hending, hdot⟩ := d.exists_ending
  have hsame : target.suffix = d.suffix := by
    unfold Path.suffix
    rw [hname, String.toList_append, hsuffix,
      Path.splitName_dot (stem_ne_of_isSource hs) hending hdot, ← hsuffix, String.ofList_toList]
  unfold isSource
  rw [hsame, ofSuffix?_suffix]
  rfl

end Dialect

/-! ## Locations -/

namespace Files.Disk

variable {d : Disk} {p path target other : Path} {whole : Bool} {place place' : Location}
  {language : String}

/-- A path with a name leads to the root only if there is a folder. -/
theorem ne_nil_of_lead (hname : p.name ≠ "") (h : d.lead whole p = .ok place)
    (hs : d.standing place ≠ .folder) : place ≠ [] := by
  have hparts : p.parts ≠ [] := by
    rw [Path.parts_eq hname]
    exact List.concat_ne_nil _ _
  rintro rfl
  exact hs (standing_top_of_lead hparts h)

/-- A path with a name leads to that name in the folder to which the rest of it leads. -/
theorem exists_folder_of_locate (hfree : d.LinkFree) (hname : p.name ≠ "" ∧ p.name ≠ "..")
    (h : d.locate p = .ok place) :
    ∃ folder, d.way (startOf d.working p.anchor) p.parts.dropLast = .ok folder ∧
      d.enter folder = .ok () ∧ place = folder ++ [p.name] := by
  obtain ⟨_, hway⟩ := (locate_eq_ok_iff hfree).mp h
  rw [Path.parts_eq hname.1] at hway
  exact (way_concat hname.2).mp hway

/-- **No source stands where the target of a source does**, if there are no links. -/
theorem locate_target_ne (hfree : d.LinkFree) (hs : Dialect.isSource path = true)
    (ho : Dialect.isSource other = true) (ht : Dialect.target path language = .ok target)
    (htarget : d.locate target = .ok place) (hother : d.locate other = .ok place') :
    place' ≠ place := by
  rintro rfl
  obtain ⟨folder, _, _, htarget⟩ :=
    exists_folder_of_locate hfree (Dialect.name_ne_of_target ht) htarget
  obtain ⟨folder', _, _, hother⟩ :=
    exists_folder_of_locate hfree (Dialect.name_ne_of_isSource ho) hother
  obtain ⟨_, hname⟩ := List.append_inj' (htarget.symm.trans hother) rfl
  have hsource := Dialect.isSource_congr (List.singleton_inj.mp hname)
  rw [Dialect.not_isSource_target hs ht, ho] at hsource
  cases hsource

end Files.Disk

end ScriptTypes
