import ScriptTypes.Proofs.SourceTree
import ScriptTypes.Proofs.Target

/-!
# Names of sources and of their targets

A file is a source by the end of its name: something, a dot, and the letters `js` or `jsx` in
either case. Lower case is taken as Unicode has it, where a letter outside of ASCII can become
one of ASCII; but only an `i` and a `k` come about like that, so for these suffixes it is no
more than the lower case of ASCII.

The target stands in the folder of its source and has the same name up to the last suffix, so
sources have one target exactly if they differ in nothing but the suffix. A path is spelled by
many texts, with doubled slashes and single dots; what is said here is said of the path that a
text spells, and the text of a target spells the target again.
-/

namespace ScriptTypes

/-! ## Lower case -/

namespace Text

/-- In ASCII the mapping leads from capitals to small letters and leaves the rest. -/
theorem lowerMap_apply_of_ascii {c : Char} (hc : c.toNat < 128) :
    lowerMap.apply c = [c.toLower] := by
  have htable : ∀ n < 128, lowerMap.apply (Char.ofNat n) = [(Char.ofNat n).toLower] := by
    decide +kernel
  have h := htable c.toNat hc
  rwa [Char.ofNat_toNat] at h

/-- Runs of characters outside of ASCII lead to characters outside of ASCII, but for that of the
Kelvin sign. -/
theorem distance_of_mem_runs : ∀ r ∈ lowerMap.runs, r.last < 128 ∨
    (128 : Int) ≤ r.first + r.distance ∧
      (r.last + r.distance < 0xd800 ∨ 0xdfff < r.first + r.distance ∧
        r.last + r.distance < 0x110000) ∨
    r.first + r.distance = 'k'.toNat ∧ r.last + r.distance = 'k'.toNat := by
  decide +kernel

/-- The lower case of a character outside of ASCII has an `i`, a `k`, or a character outside of
ASCII. -/
theorem exists_mem_lowerMap_apply {c : Char} (hc : 128 ≤ c.toNat) :
    ∃ a ∈ lowerMap.apply c, 128 ≤ a.toNat ∨ a = 'i' ∨ a = 'k' := by
  unfold CaseMap.apply
  split
  · rename_i image himage
    rw [show lowerMap.several = [(0x130, [0x69, 0x307])] from rfl, List.lookup_cons] at himage
    split at himage
    · obtain rfl := Option.some.inj himage
      exact ⟨'i', List.mem_cons_self, .inr (.inl rfl)⟩
    · cases himage
  · split
    · rename_i r hr
      have hcovers := List.find?_some hr
      simp only [CaseRun.covers, Bool.and_eq_true, decide_eq_true_eq] at hcovers
      refine ⟨_, List.mem_singleton_self _, ?_⟩
      rcases distance_of_mem_runs r (List.mem_of_find?_eq_some hr) with hlast | ⟨hlow, hhigh⟩ | hk
      · omega
      · -- the image is a character
        have hvalid : ((c.toNat : Int) + r.distance).toNat.isValidChar := by
          unfold Nat.isValidChar
          omega
        rw [Char.ofNat, dif_pos hvalid]
        left
        show 128 ≤ ((c.toNat : Int) + r.distance).toNat
        omega
      · right; right
        rw [show ((c.toNat : Int) + r.distance).toNat = 'k'.toNat by omega]
        rfl
    · exact ⟨c, List.mem_singleton_self _, .inl hc⟩

theorem toList_toLower (s : String) : s.toLower.toList = s.toList.map Char.toLower :=
  String.toList_map

theorem toLower_of_not_ascii {c : Char} (hc : 128 ≤ c.toNat) : c.toLower = c := by
  unfold Char.toLower
  refine dif_neg fun h => ?_
  have hle : c.toNat ≤ 'Z'.toNat := h.2
  have hz : 'Z'.toNat = 90 := rfl
  omega

theorem lowerFrom_cons_of_ascii {before cs : List Char} {c : Char} (hc : c.toNat < 128) :
    lowerFrom before (c :: cs) = c.toLower :: lowerFrom (c :: before) cs := by
  have hsigma : c ≠ 'Σ' := by
    rintro rfl
    exact absurd hc (by decide)
  simp only [lowerFrom, hsigma, decide_false, Bool.false_and, Bool.false_eq_true, if_false]
  rw [lowerMap_apply_of_ascii hc]
  rfl

theorem exists_mem_lowerFrom_cons (before cs : List Char) {c : Char} (hc : 128 ≤ c.toNat) :
    ∃ a ∈ lowerFrom before (c :: cs), 128 ≤ a.toNat ∨ a = 'i' ∨ a = 'k' := by
  simp only [lowerFrom]
  split
  · exact ⟨'ς', List.mem_cons_self, .inl (by decide)⟩
  · obtain ⟨a, ha, hout⟩ := exists_mem_lowerMap_apply hc
    exact ⟨a, List.mem_append_left _ ha, hout⟩

/-- A word of ASCII without `i` and `k` is the lower case of nothing but its letters in either
case. -/
theorem lowerFrom_eq_iff {word before cs : List Char}
    (hword : ∀ a ∈ word, a.toNat < 128 ∧ a ≠ 'i' ∧ a ≠ 'k') :
    lowerFrom before cs = word ↔ cs.map Char.toLower = word := by
  induction cs generalizing word before with
  | nil => rfl
  | cons c cs ih =>
      rw [List.map_cons]
      by_cases hc : c.toNat < 128
      · rw [lowerFrom_cons_of_ascii hc]
        cases word with
        | nil => exact iff_of_false nofun nofun
        | cons a word =>
            rw [List.cons_eq_cons, List.cons_eq_cons,
              ih fun b hb => hword b (List.mem_cons_of_mem _ hb)]
      · rw [Nat.not_lt] at hc
        refine iff_of_false ?_ ?_
        · rintro rfl
          obtain ⟨a, ha, hout⟩ := exists_mem_lowerFrom_cons before cs hc
          obtain ⟨hascii, hi, hk⟩ := hword a ha
          rcases hout with hout | hout | hout
          · omega
          · exact hi hout
          · exact hk hout
        · rintro rfl
          have hascii := (hword _ List.mem_cons_self).1
          rw [toLower_of_not_ascii hc] at hascii
          omega

end Text

/-! ## The parts of a name -/

namespace Files.Path

/-- A name has a suffix if a dot stands somewhere inside of it, after the last of which it is
taken apart. -/
theorem splitName_eq_iff {name stem ending : List Char} :
    splitName name = (stem, '.' :: ending) ↔
      name = stem ++ '.' :: ending ∧ stem ≠ [] ∧ ending ≠ [] ∧ '.' ∉ ending := by
  constructor
  · intro h
    have happend := splitName_append name
    rw [h] at happend
    have hstem : stem ≠ [] := by
      rintro rfl
      have hnil : (splitName name).2 = [] := splitName_nil (by rw [h])
      rw [h] at hnil
      cases hnil
    refine ⟨happend.symm, hstem, ?_⟩
    unfold splitName at h
    dsimp only at h
    split at h
    · split at h
      · cases h
      · rename_i hnot
        obtain ⟨_, hending⟩ := Prod.ext_iff.mp h
        obtain rfl := (List.cons.inj hending).2
        refine ⟨fun hnil => hnot (.inl (List.reverse_eq_nil_iff.mp hnil)), fun hmem => ?_⟩
        have hdot := List.all_eq_true.mp List.all_takeWhile _ (List.mem_reverse.mp hmem)
        simp at hdot
    · cases h
  · rintro ⟨rfl, hstem, hending, hdot⟩
    exact splitName_dot hstem hending hdot

/-! ## Texts of paths -/

variable {p : Path}

/-- No component is empty, a single dot, or has a slash in it. -/
def Normal (p : Path) : Prop := ∀ part ∈ p.parts, part ≠ "" ∧ part ≠ "." ∧ '/' ∉ part.toList

theorem pieces_append {piece cs : List Char} (h : '/' ∉ piece) :
    pieces (piece ++ '/' :: cs) = piece :: pieces cs := by
  induction piece with
  | nil => rfl
  | cons c piece ih =>
      rw [List.mem_cons, not_or] at h
      rw [List.cons_append, pieces, if_neg (Ne.symm h.1), ih h.2]

theorem pieces_of_not_mem {piece : List Char} (h : '/' ∉ piece) : pieces piece = [piece] := by
  induction piece with
  | nil => rfl
  | cons c piece ih =>
      rw [List.mem_cons, not_or] at h
      rw [pieces, if_neg (Ne.symm h.1), ih h.2]

/-- Text between slashes has no slash in it. -/
theorem not_mem_of_mem_pieces {cs piece : List Char} (h : piece ∈ pieces cs) : '/' ∉ piece := by
  induction cs generalizing piece with
  | nil =>
      rw [List.mem_singleton.mp h]
      exact List.not_mem_nil
  | cons c cs ih =>
      unfold pieces at h
      split at h
      · rcases List.mem_cons.mp h with rfl | h
        · exact List.not_mem_nil
        · exact ih h
      · rename_i hc
        split at h
        · rename_i first rest hpieces
          rcases List.mem_cons.mp h with rfl | h
          · rw [List.mem_cons, not_or]
            exact ⟨Ne.symm hc, ih (hpieces ▸ List.mem_cons_self)⟩
          · exact ih (hpieces ▸ List.mem_cons_of_mem _ h)
        · rw [List.mem_singleton.mp h, List.mem_singleton]
          exact Ne.symm hc

/-- Pieces that are put together with slashes are found again. -/
theorem pieces_intercalate {parts : List (List Char)} (hne : parts ≠ [])
    (h : ∀ part ∈ parts, '/' ∉ part) : pieces (['/'].intercalate parts) = parts := by
  induction parts with
  | nil => exact absurd rfl hne
  | cons part parts ih =>
      have hpart := h part List.mem_cons_self
      cases parts with
      | nil => rw [List.intercalate_singleton, pieces_of_not_mem hpart]
      | cons next parts =>
          rw [List.intercalate_cons_cons, List.append_assoc, List.singleton_append,
            pieces_append hpart,
            ih (List.cons_ne_nil _ _) fun q hq => h q (List.mem_cons_of_mem _ hq)]

/-- A text spells a normal path. -/
theorem normal_ofText (s : String) : (ofText s).Normal := by
  intro part hpart
  obtain ⟨hpart, hkept⟩ := List.mem_filter.mp hpart
  obtain ⟨piece, hpiece, rfl⟩ := List.mem_map.mp hpart
  rw [Bool.and_eq_true, bne_iff_ne, bne_iff_ne] at hkept
  rw [String.toList_ofList]
  exact ⟨hkept.1, hkept.2, not_mem_of_mem_pieces hpiece⟩

/-- What stands in front of a text that does not start with a slash is read off again. -/
theorem anchor_ofText {anchor : Anchor} {c : Char} {cs : List Char} (hc : c ≠ '/') :
    Anchor.ofText (anchor.text.toList ++ c :: cs) = anchor := by
  cases anchor <;> simp [Anchor.text, Anchor.ofText, hc]

/-- The slashes in front of a text spell no component. -/
theorem filter_pieces_append {anchor : Anchor} {cs : List Char} :
    ((pieces (anchor.text.toList ++ cs)).map String.ofList).filter (fun p => p != "" && p != ".") =
      ((pieces cs).map String.ofList).filter fun p => p != "" && p != "." := by
  cases anchor <;> rfl

/-- **The text of a normal path spells the path.** -/
theorem ofText_text (h : p.Normal) : ofText p.text = p := by
  obtain ⟨anchor, parts⟩ := p
  cases parts with
  | nil => cases anchor <;> decide +kernel
  | cons part parts =>
      have hslash : ∀ cs ∈ (part :: parts).map String.toList, '/' ∉ cs := by
        intro cs hcs
        obtain ⟨q, hq, rfl⟩ := List.mem_map.mp hcs
        exact (h q hq).2.2
      have hkept : (((part :: parts).map String.toList).map String.ofList).filter
          (fun p => p != "" && p != ".") = part :: parts := by
        simp only [List.map_map, Function.comp_def, String.ofList_toList, List.map_id']
        refine List.filter_eq_self.mpr fun q hq => ?_
        rw [Bool.and_eq_true, bne_iff_ne, bne_iff_ne]
        exact ⟨(h q hq).1, (h q hq).2.1⟩
      have hpieces : pieces (['/'].intercalate ((part :: parts).map String.toList)) =
          (part :: parts).map String.toList := pieces_intercalate (List.cons_ne_nil _ _) hslash
      have hpart : part.toList ≠ [] := fun hnil =>
        (h part List.mem_cons_self).1 (String.toList_eq_nil_iff.mp hnil)
      -- the first component is not empty, so the components do not start with a slash
      obtain ⟨c, cs, hbody, hc⟩ : ∃ c cs,
          ['/'].intercalate ((part :: parts).map String.toList) = c :: cs ∧ c ≠ '/' := by
        cases hbody : ['/'].intercalate ((part :: parts).map String.toList) with
        | nil =>
            rw [hbody] at hpieces
            exact absurd (List.cons.inj hpieces).1.symm hpart
        | cons c cs =>
            refine ⟨c, cs, rfl, ?_⟩
            rintro rfl
            rw [hbody] at hpieces
            exact absurd (List.cons.inj hpieces).1.symm hpart
      have htext : (Path.text ⟨anchor, part :: parts⟩).toList = anchor.text.toList ++ c :: cs := by
        have hspelled : (anchor.text ++ "/".intercalate (part :: parts)).toList =
            anchor.text.toList ++ c :: cs := by
          rw [String.toList_append, String.toList_intercalate, ← hbody]
          rfl
        unfold Path.text
        dsimp only
        rw [if_neg, hspelled]
        intro hempty
        rw [hempty] at hspelled
        simp at hspelled
      unfold ofText
      rw [htext, anchor_ofText hc, filter_pieces_append, ← hbody, hpieces, hkept]

/-! ## Folders and names -/

/-- The path without its last component. -/
def folder (p : Path) : Path := { p with parts := p.parts.dropLast }

/-- The name in two parts, as texts. -/
theorem stem_suffix_iff {stem ending : String} :
    p.stem = stem ∧ p.suffix = "." ++ ending ↔
      p.name = stem ++ "." ++ ending ∧ stem ≠ "" ∧ ending ≠ "" ∧ '.' ∉ ending.toList := by
  have hdot : ("." ++ ending).toList = '.' :: ending.toList := String.toList_append
  have hname : (stem ++ "." ++ ending).toList = stem.toList ++ '.' :: ending.toList := by
    rw [String.append_assoc, String.toList_append, hdot]
  have hsplit : splitName p.name.toList = (stem.toList, '.' :: ending.toList) ↔ _ :=
    splitName_eq_iff
  rw [← hname, ← hdot, String.toList_inj, ne_eq, ne_eq, String.toList_eq_nil_iff,
    String.toList_eq_nil_iff] at hsplit
  rw [ne_eq, ne_eq, ← hsplit, Prod.ext_iff, Path.stem, Path.suffix, ← String.toList_inj,
    ← String.toList_inj, String.toList_ofList, String.toList_ofList]

/-- A name without a suffix, or one that a dot takes apart. -/
theorem suffix_eq_or : p.suffix = "" ∨ ∃ ending, p.suffix = "." ++ ending := by
  unfold Path.suffix splitName
  dsimp only
  split
  · split
    · exact .inl rfl
    · refine .inr ⟨String.ofList (p.name.toList.reverse.takeWhile (· ≠ '.')).reverse, ?_⟩
      simp only [← String.toList_inj, String.toList_append, String.toList_ofList]
      rfl
  · exact .inl rfl

end Files.Path

open Files

namespace Dialect

variable {path other : Path} {language : String} {d : Dialect}

/-! ## Sources -/

/-- Letters that mean a kind of source, in capitals or in small letters. -/
def SourceEnding (ending : String) : Prop := ending.toLower = "js" ∨ ending.toLower = "jsx"

instance (ending : String) : Decidable (SourceEnding ending) :=
  inferInstanceAs (Decidable (_ ∨ _))

/-- For the suffixes of sources lower case is that of ASCII. -/
theorem lower_eq_iff {s word : String} (hword : word ∈ [".js", ".jsx"]) :
    Text.lower s = word ↔ s.toLower = word := by
  have hplain : ∀ a ∈ word.toList, a.toNat < 128 ∧ a ≠ 'i' ∧ a ≠ 'k' := by
    have hletters : ∀ a ∈ ['.', 'j', 's', 'x'], a.toNat < 128 ∧ a ≠ 'i' ∧ a ≠ 'k' := by simp
    intro a ha
    rcases List.mem_cons.mp hword with rfl | hword
    · exact hletters a (List.mem_append_left ['x'] (show a ∈ ['.', 'j', 's'] from ha))
    · rw [List.mem_singleton.mp hword] at ha
      exact hletters a ha
  rw [Text.lower, ← String.toList_inj, String.toList_ofList, Text.lowerFrom_eq_iff hplain,
    ← String.toList_inj, Text.toList_toLower]

theorem sourceSuffix_iff_of_suffix {ending : String} (h : path.suffix = "." ++ ending) :
    SourceSuffix path ↔ SourceEnding ending := by
  unfold SourceSuffix SourceEnding
  rw [h, lower_eq_iff (by simp), lower_eq_iff (by simp)]
  have hdot : ("." ++ ending).toLower.toList = '.' :: ending.toLower.toList := by
    rw [Text.toList_toLower, String.toList_append, Text.toList_toLower]
    rfl
  rw [← String.toList_inj, ← String.toList_inj, hdot, ← String.toList_inj, ← String.toList_inj]
  exact or_congr (List.cons_inj_right '.') (List.cons_inj_right '.')

theorem SourceEnding.not_mem {ending : String} (h : SourceEnding ending) :
    ending ≠ "" ∧ '.' ∉ ending.toList := by
  have hletters : '.' ∉ ending.toLower.toList := by
    rcases h with h | h <;> rw [h] <;> decide
  constructor
  · rintro rfl
    revert h
    decide +kernel
  · intro hdot
    rw [Text.toList_toLower] at hletters
    exact hletters (List.mem_map_of_mem hdot)

/-- **Sources are told by their names.** -/
theorem isSource_iff_name : isSource path = true ↔
    ∃ stem ending : String, path.name = stem ++ "." ++ ending ∧ stem ≠ "" ∧
      SourceEnding ending := by
  rw [isSource_iff]
  constructor
  · intro h
    rcases Path.suffix_eq_or (p := path) with hnone | ⟨ending, hsuffix⟩
    · exact absurd hnone (suffix_ne_of_isSource (isSource_iff.mpr h))
    · have hname := (Path.stem_suffix_iff (p := path)).mp ⟨rfl, hsuffix⟩
      exact ⟨path.stem, ending, hname.1, hname.2.1, (sourceSuffix_iff_of_suffix hsuffix).mp h⟩
  · rintro ⟨stem, ending, hname, hstem, hending⟩
    have hsuffix := (Path.stem_suffix_iff.mpr ⟨hname, hstem, hending.not_mem⟩).2
    exact (sourceSuffix_iff_of_suffix hsuffix).mpr hending

/-- The dialect of a file is found exactly if it is a source. -/
theorem exists_ofFile_iff {source : Option String} :
    (∃ found, Dialect.ofFile path source = .ok found) ↔ isSource path = true := by
  refine ⟨fun ⟨_, h⟩ => isSource_of_ofFile h, fun h => ?_⟩
  unfold isSource at h
  unfold Dialect.ofFile
  cases hs : ofSuffix? (Text.lower path.suffix) with
  | none =>
      rw [hs] at h
      cases h
  | some found => cases found <;> exact ⟨_, rfl⟩

/-! ## Targets -/

theorem target_of_isSource (hd : Dialect.ofName language = .ok d) (hs : isSource path = true) :
    Dialect.target path language =
      .ok { path with parts := path.parts.dropLast ++ [path.stem ++ d.suffix] } :=
  target_eq_ok_iff.mpr ⟨d, hd, (name_ne_of_isSource hs).1, rfl⟩

/-- Sources have one target if they have one folder and one name up to the suffix. -/
theorem target_eq_target_iff (hd : Dialect.ofName language = .ok d) (hs : isSource path = true)
    (ho : isSource other = true) : Dialect.target path language = Dialect.target other language ↔
      path.folder = other.folder ∧ path.stem = other.stem := by
  rw [target_of_isSource hd hs, target_of_isSource hd ho, Except.ok.injEq, Path.folder, Path.folder,
    Files.Path.mk.injEq, Files.Path.mk.injEq, and_assoc]
  refine and_congr_right fun _ => ⟨fun h => ?_, fun h => by rw [h.1, h.2]⟩
  obtain ⟨hfolder, hname⟩ := List.append_inj' h rfl
  have hchars := congrArg String.toList (List.singleton_inj.mp hname)
  rw [String.toList_append, String.toList_append, List.append_left_inj, String.toList_inj] at hchars
  exact ⟨hfolder, hchars⟩

/-- The target of a normal path is one. -/
theorem normal_target {target : Path} (hpath : path.Normal)
    (h : Dialect.target path language = .ok target) : target.Normal := by
  obtain ⟨d, _, hname, rfl⟩ := target_eq_ok_iff.mp h
  have hmem : path.name ∈ path.parts := by
    rw [Path.parts_eq hname]
    exact List.mem_append_right _ (List.mem_singleton_self _)
  have hslash : '/' ∉ path.stem.toList := by
    intro hslash
    refine (hpath _ hmem).2.2 ?_
    rw [← Path.splitName_append path.name.toList]
    rw [Path.stem, String.toList_ofList] at hslash
    exact List.mem_append_left _ hslash
  have hsuffix : '/' ∉ d.suffix.toList ∧ 1 < d.suffix.toList.length := by
    cases d <;> decide
  intro part hpart
  rcases List.mem_append.mp hpart with hpart | hpart
  · exact hpath part (List.dropLast_subset _ hpart)
  · rw [List.mem_singleton.mp hpart]
    -- the name is longer than a dot
    have hlong : ∀ short : String, short.toList.length ≤ 1 → path.stem ++ d.suffix ≠ short := by
      rintro short hshort rfl
      rw [String.toList_append, List.length_append] at hshort
      omega
    refine ⟨hlong "" (by decide), hlong "." (by decide), ?_⟩
    rw [String.toList_append, List.mem_append, not_or]
    exact ⟨hslash, hsuffix.1⟩

/--
**Targets stand beside their sources and are none.** A file is a source exactly if its name is
something, a dot, and letters that mean a kind of source; exactly then a dialect is found for it,
whatever the source says. The target of a source is in the folder of the source, has its name
with the suffix of the dialect in the place of the last one, is another path than the source
and no source, and its text spells it. Two sources have one target exactly if they have one
folder and one name up to the last suffix.
-/
theorem target_beside_source (hd : Dialect.ofName language = .ok d) (path : Path) :
    (isSource path = true ↔ ∃ stem ending : String, path.name = stem ++ "." ++ ending ∧
      stem ≠ "" ∧ SourceEnding ending) ∧
    (∀ source, (∃ found, Dialect.ofFile path source = .ok found) ↔ isSource path = true) ∧
    (isSource path = true →
      (∃ target, Dialect.target path language = .ok target ∧ target.folder = path.folder ∧
        (∃ ending, path.name = path.stem ++ "." ++ ending ∧ '.' ∉ ending.toList) ∧
        target.name = path.stem ++ d.suffix ∧ target ≠ path ∧ isSource target = false ∧
        ∀ text, path = Path.ofText text → Path.ofText target.text = target) ∧
      ∀ other, isSource other = true →
        (Dialect.target path language = Dialect.target other language ↔
          path.folder = other.folder ∧ path.stem = other.stem)) := by
  refine ⟨isSource_iff_name, fun _ => exists_ofFile_iff, fun hs => ⟨?_, fun other ho =>
    target_eq_target_iff hd hs ho⟩⟩
  have htarget := target_of_isSource hd hs
  have hno := not_isSource_target hs htarget
  refine ⟨_, htarget, by simp [Path.folder], ?_, by simp [Path.name], ?_, hno, ?_⟩
  · rcases Path.suffix_eq_or (p := path) with hnone | ⟨ending, hsuffix⟩
    · exact absurd hnone (suffix_ne_of_isSource hs)
    · have hname := Path.stem_suffix_iff.mp ⟨rfl, hsuffix⟩
      exact ⟨ending, hname.1, hname.2.2.2⟩
  · intro hsame
    rw [hsame, hs] at hno
    cases hno
  · rintro text rfl
    exact Path.ofText_text (normal_target (Path.normal_ofText text) htarget)

/-- A name with two dots and a suffix in capitals, in a path with a single dot at either end. -/
theorem target_beside_source_capitals :
    ∃ target, Dialect.target (Path.ofText "./in//a..JSX/.") " TSX " = .ok target ∧
      target.name = "a..tsx" ∧ isSource target = false ∧
      Dialect.target (Path.ofText "in/a..js") " TSX " = .ok target := by
  have hd : Dialect.ofName " TSX " = .ok .tsx := by decide +kernel
  have hs : isSource (Path.ofText "./in//a..JSX/.") = true := by decide +kernel
  have hstem : (Path.ofText "./in//a..JSX/.").stem = "a." := by decide +kernel
  obtain ⟨⟨target, htarget, _, _, hname, _, hno, _⟩, hsame⟩ :=
    (target_beside_source hd (Path.ofText "./in//a..JSX/.")).2.2 hs
  have hother := hsame (Path.ofText "in/a..js") (by decide +kernel)
  refine ⟨target, htarget, ?_, hno, ?_⟩
  · rw [hname, hstem]
    rfl
  · rw [← htarget]
    exact (hother.mpr (by decide +kernel)).symm

end Dialect

end ScriptTypes
