import Mathlib
import ScriptTypes.Proofs.TypeName

/-!
# What Pascal case keeps of a text

Pascal case is computed letter by letter. Seen as a whole, it cuts the text into words, which
are the runs of ASCII letters and digits in it, capitalizes each and joins them. So it depends
on the words only, and what stands between words can be more or less: only where nothing stands
between two letters would something new part a word in two.

The name of a type is one word that is capitalized already, so Pascal case leaves it alone.
-/

namespace ScriptTypes.TypeName

/-! ## Words -/

/-- What stands between the characters of a text that are no ASCII letters or digits. -/
def parts (cs : List Char) : List (List Char) := cs.splitOnP (!·.isAlphanum)

/-- The longest runs of ASCII letters and digits in a text, in their order. -/
def words (cs : List Char) : List (List Char) := (parts cs).filter (· ≠ [])

/-- A word with its first letter in upper case. -/
def capitalize : List Char → List Char
  | [] => []
  | c :: cs => c.toUpper :: cs

/-- Nothing of the text is a word, or part of one. -/
def Between (cs : List Char) : Prop := ∀ c ∈ cs, c.isAlphanum = false

theorem parts_cons_of_isAlphanum {c : Char} {cs p : List Char} {ps : List (List Char)}
    (hc : c.isAlphanum = true) (h : parts cs = p :: ps) : parts (c :: cs) = (c :: p) :: ps := by
  unfold parts at h ⊢
  rw [List.splitOnP_cons_eq_if_modifyHead, h]
  simp [hc]

theorem parts_cons_of_not_isAlphanum {c : Char} {cs : List Char} (hc : c.isAlphanum = false) :
    parts (c :: cs) = [] :: parts cs := by
  unfold parts
  rw [List.splitOnP_cons_eq_if_modifyHead]
  simp [hc]

/-- All letters and digits of a text are in its parts. -/
theorem flatten_parts (cs : List Char) : (parts cs).flatten = cs.filter Char.isAlphanum := by
  induction cs with
  | nil => rfl
  | cons c cs ih =>
      by_cases hc : c.isAlphanum = true
      · obtain ⟨p, ps, hparts⟩ := List.exists_cons_of_ne_nil (List.splitOnP_ne_nil _ cs)
        rw [parts_cons_of_isAlphanum hc hparts, List.filter_cons_of_pos hc, ← ih,
          show parts cs = p :: ps from hparts]
        rfl
      · rw [parts_cons_of_not_isAlphanum (by simpa using hc), List.filter_cons_of_neg hc, ← ih]
        rfl

theorem flatten_words (cs : List Char) : (words cs).flatten = cs.filter Char.isAlphanum := by
  unfold words
  rw [List.flatten_filter_ne_nil, flatten_parts]

/-- What is joined letter by letter is the parts of the text, capitalized. -/
theorem joinedWords_eq_parts (cs : List Char) : ∃ p ps, parts cs = p :: ps ∧
    ∀ fresh, joinedWords fresh cs =
      (if fresh then capitalize p else p) ++ ps.flatMap capitalize := by
  induction cs with
  | nil => exact ⟨[], [], rfl, fun fresh => by cases fresh <;> rfl⟩
  | cons c cs ih =>
      obtain ⟨p, ps, hparts, hjoined⟩ := ih
      by_cases hc : c.isAlphanum = true
      · refine ⟨c :: p, ps, parts_cons_of_isAlphanum hc hparts, fun fresh => ?_⟩
        rw [joinedWords, if_pos hc, hjoined false]
        cases fresh <;> rfl
      · have hc : c.isAlphanum = false := by simpa using hc
        refine ⟨[], p :: ps, by rw [parts_cons_of_not_isAlphanum hc, hparts], fun fresh => ?_⟩
        rw [joinedWords, if_neg (by simp [hc]), hjoined true]
        cases fresh <;> rfl

/-- Empty parts count for nothing. -/
theorem flatMap_capitalize_filter (ps : List (List Char)) :
    (ps.filter (· ≠ [])).flatMap capitalize = ps.flatMap capitalize := by
  induction ps with
  | nil => rfl
  | cons p ps ih =>
      cases p with
      | nil => exact ih
      | cons c cs =>
          rw [List.filter_cons_of_pos (by simp), List.flatMap_cons, List.flatMap_cons, ih]

/-- The words of a text, capitalized and joined. -/
theorem joinedWords_eq_words (cs : List Char) :
    joinedWords true cs = (words cs).flatMap capitalize := by
  obtain ⟨p, ps, hparts, hjoined⟩ := joinedWords_eq_parts cs
  unfold words
  rw [hjoined true, flatMap_capitalize_filter, hparts, List.flatMap_cons]
  rfl

/-! ## What stands between words -/

/-- A character that is no letter or digit parts the words before it from those behind it. -/
theorem words_append_cons (before : List Char) {c : Char} (hc : c.isAlphanum = false)
    (after : List Char) : words (before ++ c :: after) = words before ++ words after := by
  unfold words parts
  rw [List.splitOnP_append_cons _ _ (by simpa using hc), List.filter_append]

theorem words_between_append {between : List Char} (h : Between between) (cs : List Char) :
    words (between ++ cs) = words cs := by
  induction between with
  | nil => rfl
  | cons c between ih =>
      calc words (c :: (between ++ cs)) = words [] ++ words (between ++ cs) :=
            words_append_cons [] (h c List.mem_cons_self) _
        _ = words cs := ih fun x hx => h x (List.mem_cons_of_mem c hx)

theorem words_append_between (cs : List Char) {between : List Char} (h : Between between) :
    words (cs ++ between) = words cs := by
  cases between with
  | nil => rw [List.append_nil]
  | cons c between =>
      have hrest : words between = [] := by
        have hrest := words_between_append (fun x hx => h x (List.mem_cons_of_mem c hx)) []
        rwa [List.append_nil] at hrest
      rw [words_append_cons cs (h c List.mem_cons_self), hrest, List.append_nil]

/-- Where no word goes on, more may stand between the words. -/
theorem words_insert {before after between : List Char} (h : Between between)
    (hgap : (∀ c ∈ before.getLast?, c.isAlphanum = false) ∨
      ∀ c ∈ after.head?, c.isAlphanum = false) :
    words (before ++ between ++ after) = words (before ++ after) := by
  rcases hgap with hgap | hgap
  · rcases List.eq_nil_or_concat' before with rfl | ⟨before, c, rfl⟩
    · exact words_between_append h after
    · have hc : c.isAlphanum = false := hgap c (by simp)
      simp only [List.append_assoc, List.cons_append, List.nil_append]
      rw [words_append_cons before hc, words_append_cons before hc, words_between_append h]
  · cases after with
    | nil =>
        rw [List.append_nil, List.append_nil]
        exact words_append_between before h
    | cons c after =>
        have hc : c.isAlphanum = false := hgap c rfl
        rw [words_append_cons _ hc, words_append_cons _ hc, words_append_between before h]

/-! ## Names of types -/

/-- A word that is capitalized stays as it is. -/
theorem joinedWords_of_isAlphanum {cs : List Char} (h : ∀ c ∈ cs, c.isAlphanum = true) :
    joinedWords false cs = cs := by
  induction cs with
  | nil => rfl
  | cons c cs ih =>
      rw [joinedWords, if_pos (h c List.mem_cons_self)]
      exact congrArg (c :: ·) (ih fun x hx => h x (List.mem_cons_of_mem c hx))

theorem not_isDigit_of_isUpper {c : Char} (h : c.isUpper = true) : ¬ c.isDigit = true := by
  simp [Char.isUpper, Char.isDigit, UInt32.le_iff_toNat_le] at h ⊢
  omega

/-- The name of a type is in Pascal case. -/
theorem pascalCase_of_capitalized {name : String} (h : Capitalized name) :
    pascalCase name = name := by
  obtain ⟨c, cs, hname, hc, hcs⟩ := id h
  have hjoined : joinedWords true name.toList = c :: cs := by
    rw [hname, joinedWords, if_pos (h.isAlphanum c (hname ▸ List.mem_cons_self)), if_pos rfl,
      Char.toUpper_eq_of_not_isLower (Char.not_isLower_of_isUpper hc),
      joinedWords_of_isAlphanum hcs]
  unfold pascalCase
  rw [hjoined]
  dsimp only
  rw [if_neg (not_isDigit_of_isUpper hc), ← hname, String.ofList_toList]

/--
A text whose words would make no name: it has no letters and digits at all, or a digit is the
first of them.
-/
def NeedsStart (s : String) : Prop :=
  ∀ c ∈ (s.toList.filter Char.isAlphanum).head?, c.isDigit = true

/-- Capitalizing keeps a digit in front, and puts none there. -/
theorem isDigit_toUpper (c : Char) : c.toUpper.isDigit = c.isDigit := by
  by_cases hl : c.isLower = true
  · have hupper : c.toUpper.isUpper = true := by
      rw [Char.isUpper_toUpper_eq_isAlpha]
      simp [Char.isAlpha, hl]
    have hdigit : ¬ c.isDigit = true := by
      simp [Char.isLower, Char.isDigit, UInt32.le_iff_toNat_le] at hl ⊢
      omega
    rw [Bool.eq_false_of_not_eq_true hdigit]
    exact Bool.eq_false_of_not_eq_true (not_isDigit_of_isUpper hupper)
  · rw [Char.toUpper_eq_of_not_isLower hl]

theorem needsStart_iff {s : String} :
    NeedsStart s ↔ ∀ c ∈ (joinedWords true s.toList).head?, c.isDigit = true := by
  unfold NeedsStart
  rw [head?_joinedWords]
  cases (s.toList.filter Char.isAlphanum).head? with
  | none => simp
  | some c => simp [isDigit_toUpper]

/-- A name is the words of the text in one, behind the fallback if they would make no name. -/
theorem toList_pascalCase (s : String) :
    (NeedsStart s →
      (pascalCase s).toList = fallback.toList ++ (words s.toList).flatMap capitalize) ∧
    (¬ NeedsStart s → (pascalCase s).toList = (words s.toList).flatMap capitalize) := by
  rw [needsStart_iff, ← joinedWords_eq_words]
  unfold pascalCase
  cases joinedWords true s.toList with
  | nil => simp
  | cons c cs =>
      by_cases hd : c.isDigit = true
      · simp [hd, String.toList_append]
      · simp [hd]

/-- Texts with the same words have the same name. -/
theorem pascalCase_congr {s t : String} (h : words s.toList = words t.toList) :
    pascalCase s = pascalCase t := by
  unfold pascalCase
  rw [joinedWords_eq_words, joinedWords_eq_words, h]

/--
**Pascal case makes the name of a type out of every text.** It starts with an upper-case letter
and goes on with letters and digits of ASCII, and Pascal case does not change it again. It has
all the letters and digits of the text in their order, changed in nothing but the case of the
first of each word, and behind the fallback only if they would make no name. What is neither
a letter nor a digit may be put in everywhere but inside a word: at the start, at the end, and
beside something that is neither, and the name stays the same.
-/
theorem pascalCase_keeps_words (s : String) :
    Capitalized (pascalCase s) ∧
    pascalCase (pascalCase s) = pascalCase s ∧
    (words s.toList).flatten = s.toList.filter Char.isAlphanum ∧
    (NeedsStart s →
      (pascalCase s).toList = fallback.toList ++ (words s.toList).flatMap capitalize) ∧
    (¬ NeedsStart s → (pascalCase s).toList = (words s.toList).flatMap capitalize) ∧
    ∀ before between after : String, s = before ++ after → Between between.toList →
      ((∀ c ∈ before.toList.getLast?, c.isAlphanum = false) ∨
        ∀ c ∈ after.toList.head?, c.isAlphanum = false) →
      pascalCase (before ++ between ++ after) = pascalCase s := by
  have hname := capitalized_pascalCase s
  refine ⟨hname, pascalCase_of_capitalized hname, flatten_words s.toList,
    (toList_pascalCase s).1, (toList_pascalCase s).2, ?_⟩
  rintro before between after rfl hbetween hgap
  apply pascalCase_congr
  simp only [String.toList_append]
  exact words_insert hbetween hgap

/-- Two more underscores between two words make no difference, and `Param` goes before a digit. -/
theorem pascalCase_keeps_words_underscored :
    pascalCase ("user_" ++ "__" ++ "info") = pascalCase "user_info" ∧
      (pascalCase "_1st").toList = fallback.toList ++ (words "_1st".toList).flatMap capitalize := by
  have hstart : NeedsStart "_1st" := by simp [NeedsStart]
  have hbetween : Between "__".toList := by simp [Between]
  have hgap : ∀ c ∈ "user_".toList.getLast?, c.isAlphanum = false := by simp
  have hsource : "user_info" = "user_" ++ "info" := by decide +kernel
  refine ⟨?_, (pascalCase_keeps_words "_1st").2.2.2.1 hstart⟩
  exact (pascalCase_keeps_words "user_info").2.2.2.2.2 "user_" "__" "info" hsource hbetween
    (.inl hgap)

end ScriptTypes.TypeName
