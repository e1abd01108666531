import Mathlib.Computability.Language
import ScriptTypes.Dialect
import ScriptTypes.Proofs.Outcome

/-!
# Which texts import React

What counts as an import is a language, put together from words, blanks and quotes. The search
reads on from a place by steps, each of which takes a part off the front of the text and hands
on what follows. `Reads` says that a step takes off the words of a language and nothing else; it
goes over from two steps to one after the other. Only blanks could be taken off in several
ways, but what comes next never starts with one, so it does no harm to take them all.

The search starts anew at every character. A place counts if no word goes on there, which the
search tells from the character in front, and the language says of all that is in front.
-/

namespace ScriptTypes

namespace ReactImport

open Text

/-! ## The language -/

/-- Any number of blanks, none among them. -/
def gap : Language Char := {cs | ∀ c ∈ cs, isBlank c = true}

/-- A quote of either kind. -/
def quote : Language Char := {['"'], ['\'']}

/-- The word alone. -/
def word (s : String) : Language Char := {s.toList}

/-- The name between quotes, behind blanks. -/
def quotedName : Language Char := gap * (quote * (word "react" * quote))

/-- An import in one of its three forms. -/
def imports : Language Char :=
  word "from" * quotedName + word "import" * quotedName +
    word "require" * (gap * word "(") * quotedName * (gap * word ")")

/-- Some text has an import in it, and no word in front that goes on there. -/
def Imports (source : String) : Prop :=
  ∃ before found after : String, source = before ++ found ++ after ∧ found.toList ∈ imports ∧
    ∀ c ∈ before.toList.getLast?, isWordChar c = false

/-! ## Steps -/

/-- A step takes the words of a language off the front of a text and hands on what follows. -/
def Reads (step : List Char → Option (List Char)) (language : Language Char) : Prop :=
  ∀ cs rest, step cs = some rest ↔ ∃ taken ∈ language, taken ++ rest = cs

variable {step next : List Char → Option (List Char)} {language language' : Language Char}

theorem Reads.mul (h : Reads step language) (h' : Reads next language') :
    Reads (fun cs => (step cs).bind next) (language * language') := by
  intro cs rest
  simp only [Option.bind_eq_some_iff, Language.mem_mul]
  constructor
  · rintro ⟨between, hstep, hnext⟩
    obtain ⟨first, hfirst, rfl⟩ := (h cs between).mp hstep
    obtain ⟨second, hsecond, rfl⟩ := (h' between rest).mp hnext
    exact ⟨_, ⟨first, hfirst, second, hsecond, rfl⟩, List.append_assoc _ _ _⟩
  · rintro ⟨_, ⟨first, hfirst, second, hsecond, rfl⟩, rfl⟩
    exact ⟨second ++ rest, (h _ _).mpr ⟨first, hfirst, (List.append_assoc _ _ _).symm⟩,
      (h' _ _).mpr ⟨second, hsecond, rfl⟩⟩

/-- All blanks are taken off, if what is to be read after them does not start with one. -/
theorem Reads.skip (h : Reads step language)
    (hstart : ∀ cs ∈ language, ∃ c ∈ cs.head?, isBlank c = false) :
    Reads (fun cs => step (cs.dropWhile isBlank)) (gap * language) := by
  intro cs rest
  rw [h]
  simp only [Language.mem_mul]
  constructor
  · rintro ⟨taken, htaken, hcs⟩
    refine ⟨_, ⟨cs.takeWhile isBlank, fun c hc => List.all_eq_true.mp List.all_takeWhile c hc,
      taken, htaken, rfl⟩, ?_⟩
    rw [List.append_assoc, hcs, List.takeWhile_append_dropWhile]
  · rintro ⟨_, ⟨blanks, hblanks, taken, htaken, rfl⟩, rfl⟩
    refine ⟨taken, htaken, ?_⟩
    obtain ⟨c, hc, hblank⟩ := hstart taken htaken
    cases taken with
    | nil => cases hc
    | cons d taken =>
        obtain rfl := Option.some.inj hc
        rw [List.append_assoc, List.dropWhile_append_of_pos hblanks, List.cons_append,
          List.dropWhile_cons_of_neg (by simp [hblank])]

theorem reads_word (s : String) : Reads s.toList.isPrefixOf? (word s) := by
  intro cs rest
  rw [List.isPrefixOf?_eq_some_iff_append_eq]
  exact ⟨fun h => ⟨_, rfl, h⟩, fun ⟨_, htaken, h⟩ => htaken ▸ h⟩

theorem reads_afterQuote : Reads afterQuote quote := by
  intro cs rest
  constructor
  · intro h
    unfold afterQuote at h
    split at h
    · exact ⟨['"'], .inl rfl, congrArg _ (Option.some.inj h).symm⟩
    · exact ⟨['\''], .inr rfl, congrArg _ (Option.some.inj h).symm⟩
    · cases h
  · rintro ⟨taken, rfl | rfl, rfl⟩ <;> rfl

theorem reads_afterToken (token : String) (h : ∃ c ∈ token.toList.head?, isBlank c = false) :
    Reads (afterToken token) (gap * word token) :=
  (reads_word token).skip fun _ hcs => (show _ = token.toList from hcs) ▸ h

theorem reads_afterName : Reads afterName quotedName := by
  have hname := reads_afterQuote.mul ((reads_word "react").mul reads_afterQuote)
  refine hname.skip fun cs hcs => ?_
  -- a quote is not blank
  obtain ⟨taken, rfl | rfl, rest, _, rfl⟩ := Language.mem_mul.mp hcs
  · exact ⟨'"', rfl, by decide⟩
  · exact ⟨'\'', rfl, by decide⟩

theorem Reads.isSome_iff (h : Reads step language) {cs : List Char} :
    (step cs).isSome = true ↔ ∃ taken ∈ language, taken <+: cs := by
  rw [Option.isSome_iff_exists]
  constructor
  · rintro ⟨rest, hrest⟩
    obtain ⟨taken, htaken, hcs⟩ := (h cs rest).mp hrest
    exact ⟨taken, htaken, rest, hcs⟩
  · rintro ⟨taken, htaken, rest, hcs⟩
    exact ⟨rest, (h cs rest).mpr ⟨taken, htaken, hcs⟩⟩

/-- An import that starts at a place is one of the language. -/
theorem startsHere_iff {cs : List Char} :
    startsHere cs = true ↔ ∃ found ∈ imports, found <+: cs := by
  have hfrom := (reads_word "from").mul reads_afterName
  have himport := (reads_word "import").mul reads_afterName
  have hopen := (reads_word "require").mul (reads_afterToken "(" ⟨_, rfl, by decide⟩)
  have hrequire := (hopen.mul reads_afterName).mul (reads_afterToken ")" ⟨_, rfl, by decide⟩)
  unfold startsHere imports
  rw [Bool.or_eq_true, Bool.or_eq_true, hfrom.isSome_iff, himport.isSome_iff, hrequire.isSome_iff]
  simp only [Language.mem_add, or_and_right, exists_or]

/-! ## The search -/

/-- The search goes on from a place to the end, at each character with what was just in front. -/
theorem occursFrom_iff {fresh : Bool} {cs : List Char} : occursFrom fresh cs = true ↔
    ∃ before found after, cs = before ++ found ++ after ∧ found ∈ imports ∧
      (before = [] → fresh = true) ∧ ∀ c ∈ before.getLast?, isWordChar c = false := by
  induction cs generalizing fresh with
  | nil =>
      refine iff_of_false Bool.false_ne_true ?_
      rintro ⟨before, found, after, hcs, hfound, _⟩
      -- no import is empty
      rw [eq_comm, List.append_eq_nil_iff, List.append_eq_nil_iff] at hcs
      rw [hcs.1.2] at hfound
      have hempty : startsHere [] = true := startsHere_iff.mpr ⟨[], hfound, List.nil_prefix⟩
      cases hempty
  | cons c cs ih =>
      rw [occursFrom, Bool.or_eq_true, Bool.and_eq_true, startsHere_iff, ih]
      constructor
      · rintro (⟨hfresh, found, hfound, after, hcs⟩ | ⟨before, found, after, rfl, hfound, hfirst,
          hlast⟩)
        · exact ⟨[], found, after, hcs.symm, hfound, fun _ => hfresh, nofun⟩
        · refine ⟨c :: before, found, after, rfl, hfound, nofun, fun d hd => ?_⟩
          cases before with
          | nil =>
              obtain rfl := Option.some.inj hd
              simpa using hfirst rfl
          | cons b before => exact hlast d (by rwa [List.getLast?_cons_cons] at hd)
      · rintro ⟨before, found, after, hcs, hfound, hfirst, hlast⟩
        cases before with
        | nil => exact .inl ⟨hfirst rfl, found, hfound, after, hcs.symm⟩
        | cons b before =>
            obtain ⟨rfl, rfl⟩ := List.cons.inj hcs
            refine .inr ⟨before, found, after, rfl, hfound, ?_, fun d hd => ?_⟩
            · rintro rfl
              simpa using hlast c rfl
            · refine hlast d ?_
              cases before with
              | nil => cases hd
              | cons b before => rwa [List.getLast?_cons_cons]

/-- **The search finds the imports of the language.** -/
theorem occursIn_iff {source : String} : occursIn source = true ↔ Imports source := by
  unfold occursIn Imports
  rw [occursFrom_iff]
  constructor
  · rintro ⟨before, found, after, hcs, hfound, _, hlast⟩
    refine ⟨String.ofList before, String.ofList found, String.ofList after, ?_, ?_, ?_⟩
    · rw [← String.toList_inj, hcs]
      simp
    · rwa [String.toList_ofList]
    · rwa [String.toList_ofList]
  · rintro ⟨before, found, after, rfl, hfound, hlast⟩
    exact ⟨before.toList, found.toList, after.toList, by simp, hfound, fun _ => rfl, hlast⟩

instance (source : String) : Decidable (Imports source) := decidable_of_iff _ occursIn_iff

/-- Text after an import takes nothing away. -/
theorem Imports.append {source : String} (h : Imports source) (more : String) :
    Imports (source ++ more) := by
  obtain ⟨before, found, after, rfl, hfound, hlast⟩ := h
  exact ⟨before, found, after ++ more, by rw [String.append_assoc], hfound, hlast⟩

end ReactImport

open Files ReactImport

/-- A plain script is written with markup if it imports React, and without if it does not. -/
theorem Dialect.ofFile_of_js {path : Path} (h : Text.lower path.suffix = ".js") (source : String) :
    Dialect.ofFile path (some source) =
      .ok (if occursIn source = true then .tsx else .typescript) := by
  unfold Dialect.ofFile
  rw [h]
  rfl

/--
**The search decides which texts import React.** It finds an import exactly if some part of the
text is one and does not go on a word; text that is added at the end takes none away. Of a plain
script it decides the dialect.
-/
theorem ReactImport.decides_imports (source : String) :
    (occursIn source = true ↔ Imports source) ∧
    (∀ more, occursIn source = true → occursIn (source ++ more) = true) ∧
    ∀ path : Path, Text.lower path.suffix = ".js" →
      (Dialect.ofFile path (some source) = .ok .tsx ↔ Imports source) ∧
      (Dialect.ofFile path (some source) = .ok .typescript ↔ ¬ Imports source) := by
  refine ⟨occursIn_iff, fun more h => ?_, fun path hpath => ?_⟩
  · exact occursIn_iff.mpr ((occursIn_iff.mp h).append more)
  · rw [Dialect.ofFile_of_js hpath, ← occursIn_iff]
    cases occursIn source <;> simp

example : ¬ Imports "import createRoot from 'react-dom'; xfrom 'react'; require('react';" := by
  decide +kernel

/-- The quotes differ, one blank is not one of ASCII, and the first word goes on another one. -/
theorem ReactImport.decides_imports_mixed :
    Imports "(xfrom 'react') require (\u00a0'react\")" ∧
      Imports ("(xfrom 'react') require (\u00a0'react\")" ++ ".createElement") ∧
      Dialect.ofFile (Path.ofText "src/.App.JS")
        (some "(xfrom 'react') require (\u00a0'react\")") = .ok .tsx := by
  have hdecides := decides_imports "(xfrom 'react') require (\u00a0'react\")"
  have hoccurs : occursIn "(xfrom 'react') require (\u00a0'react\")" = true := by decide +kernel
  have himports := hdecides.1.mp hoccurs
  have hjs : Text.lower (Path.ofText "src/.App.JS").suffix = ".js" := by decide +kernel
  exact ⟨himports, occursIn_iff.mp (hdecides.2.1 ".createElement" hoccurs),
    (hdecides.2.2 _ hjs).1.mpr himports⟩

end ScriptTypes
