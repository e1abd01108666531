import Mathlib
import ScriptTypes.TypeName

/-!
# What names of interfaces look like, and that they are free

The search for a free name looks at one candidate more than there are names taken. The
candidates are distinct, because numerals of distinct numbers are, so there are no more that
are taken than there are names taken. One of them is free, and the search finds the first.

Every name starts with an upper-case letter and goes on with letters and digits, all of
them of ASCII: Pascal case keeps nothing else, and a numeral behind it changes nothing.
-/

namespace ScriptTypes.TypeName

/-! ## Free names -/

theorem toList_candidate_succ (base : String) (i : Nat) :
    (candidate base (i + 1)).toList = base.toList ++ Nat.toDigits 10 (i + 2) := by
  rw [candidate, String.toList_append]
  exact congrArg (base.toList ++ ·) Nat.toList_repr

/-- The candidates are distinct, since a numeral is not empty and tells its number. -/
theorem candidate_injective (base : String) : Function.Injective (candidate base) := by
  have hne : ∀ i, candidate base 0 ≠ candidate base (i + 1) := by
    intro i h
    have h := congrArg String.toList h
    rw [toList_candidate_succ] at h
    exact Nat.toDigits_ne_nil (List.self_eq_append_right.mp h)
  intro i j h
  cases i with
  | zero =>
      cases j with
      | zero => rfl
      | succ j => exact absurd h (hne j)
  | succ i =>
      cases j with
      | zero => exact absurd h.symm (hne i)
      | succ j =>
          have h := congrArg String.toList h
          rw [toList_candidate_succ, toList_candidate_succ, List.append_cancel_left_eq] at h
          -- reading the numerals back gives the numbers
          have h := congrArg (Nat.ofDigitChars 10 · 0) h
          simp only [Nat.ofDigitChars_ten_toDigits] at h
          omega

/-- Candidates that are all taken are no more than the names that are. -/
theorem le_card_of_passed {base : String} {taken : List String} {n : Nat}
    (h : ∀ i < n, candidate base i ∈ taken) : n ≤ taken.toFinset.card := by
  have hsub : (Finset.range n).image (candidate base) ⊆ taken.toFinset := by
    intro name hname
    obtain ⟨i, hi, rfl⟩ := Finset.mem_image.mp hname
    exact List.mem_toFinset.mpr (h i (Finset.mem_range.mp hi))
  calc n = ((Finset.range n).image (candidate base)).card := by
        rw [Finset.card_image_of_injective _ (candidate_injective base), Finset.card_range]
    _ ≤ taken.toFinset.card := Finset.card_le_card hsub

/-- So there is a first candidate that is free. -/
theorem exists_least_free (base : String) (taken : List String) :
    ∃ n, candidate base n ∉ taken ∧ ∀ i < n, candidate base i ∈ taken := by
  have hsome : ∃ n, candidate base n ∉ taken := by
    by_contra hnone
    have hall : ∀ n, candidate base n ∈ taken := by
      intro n
      by_contra hfree
      exact hnone ⟨n, hfree⟩
    have hle : taken.toFinset.card + 1 ≤ taken.toFinset.card := le_card_of_passed fun i _ => hall i
    omega
  refine ⟨Nat.find hsome, Nat.find_spec hsome, fun i hi => ?_⟩
  exact not_not.mp (Nat.find_min hsome hi)

/-- The free name is the first candidate that is free. -/
theorem free_eq_candidate {base : String} {taken : List String} {n : Nat}
    (hfree : candidate base n ∉ taken) (hpassed : ∀ i < n, candidate base i ∈ taken) :
    free base taken = candidate base n := by
  have hn : n ≤ taken.length := (le_card_of_passed hpassed).trans taken.toFinset_card_le
  have hfind : (List.range (taken.length + 1)).find? ((· ∉ taken) ∘ candidate base) = some n := by
    refine List.find?_range_eq_some.mpr ⟨?_, List.mem_range.mpr (by omega), ?_⟩
    · simpa using hfree
    · intro i hi
      simpa using hpassed i hi
  unfold free
  rw [List.find?_map, hfind]
  rfl

/-- A free name is a candidate, and it is free. -/
theorem free_spec (base : String) (taken : List String) :
    (∃ i, free base taken = candidate base i) ∧ free base taken ∉ taken := by
  obtain ⟨n, hfree, hpassed⟩ := exists_least_free base taken
  have hname := free_eq_candidate hfree hpassed
  exact ⟨⟨n, hname⟩, hname ▸ hfree⟩

/-- A name that is not taken is free itself. -/
theorem free_eq_base {base : String} {taken : List String} (h : base ∉ taken) :
    free base taken = base :=
  free_eq_candidate (show candidate base 0 ∉ taken from h) fun i hi => absurd hi (Nat.not_lt_zero i)

/-- **A free name is not taken.** -/
theorem free_not_mem (base : String) (taken : List String) : free base taken ∉ taken :=
  (free_spec base taken).2

/-! ## The form of names -/

/-- An ASCII identifier that starts with an upper-case letter and has only letters and digits. -/
def Capitalized (name : String) : Prop :=
  ∃ c cs, name.toList = c :: cs ∧ c.isUpper = true ∧ ∀ x ∈ cs, x.isAlphanum = true

theorem capitalized_iff {name : String} : Capitalized name ↔
    name.toList.head?.any Char.isUpper = true ∧ name.toList.tail.all Char.isAlphanum = true := by
  unfold Capitalized
  rw [List.all_eq_true]
  cases name.toList with
  | nil => simp
  | cons c cs => simp

instance (name : String) : Decidable (Capitalized name) := decidable_of_iff _ capitalized_iff.symm

theorem Capitalized.isAlphanum {name : String} (h : Capitalized name) :
    ∀ x ∈ name.toList, x.isAlphanum = true := by
  obtain ⟨c, cs, hname, hc, hcs⟩ := h
  intro x hx
  rw [hname] at hx
  rcases List.mem_cons.mp hx with rfl | hx
  · simp [Char.isAlphanum, Char.isAlpha, hc]
  · exact hcs x hx

theorem isAlphanum_toUpper {c : Char} (h : c.isAlphanum = true) : c.toUpper.isAlphanum = true := by
  unfold Char.isAlphanum at h ⊢
  rw [Char.isAlpha_toUpper_eq_isAlpha]
  by_cases hl : c.isLower = true
  · simp [Char.isAlpha, hl]
  · rwa [Char.toUpper_eq_of_not_isLower hl]

theorem isAlphanum_of_mem_joinedWords {cs : List Char} :
    ∀ {fresh : Bool}, ∀ x ∈ joinedWords fresh cs, x.isAlphanum = true := by
  induction cs with
  | nil => intro fresh x hx; cases hx
  | cons c cs ih =>
      intro fresh x hx
      rw [joinedWords] at hx
      split at hx
      · rename_i hc
        rcases List.mem_cons.mp hx with rfl | hx
        · split
          · exact isAlphanum_toUpper hc
          · exact hc
        · exact ih x hx
      · exact ih x hx

/-- The first of the letters and digits that are kept is in upper case. -/
theorem head?_joinedWords (cs : List Char) :
    (joinedWords true cs).head? = (cs.filter Char.isAlphanum).head?.map Char.toUpper := by
  induction cs with
  | nil => rfl
  | cons c cs ih =>
      rw [joinedWords]
      by_cases hc : c.isAlphanum = true
      · rw [if_pos hc, List.filter_cons_of_pos hc]
        rfl
      · rw [if_neg hc, List.filter_cons_of_neg hc]
        exact ih

/-- The first letter of a text that is cut into words is upper case, unless it is a digit. -/
theorem head_joinedWords {cs : List Char} {c : Char} {rest : List Char}
    (h : joinedWords true cs = c :: rest) : c.isUpper = true ∨ c.isDigit = true := by
  have hhead := head?_joinedWords cs
  rw [h, List.head?_cons] at hhead
  obtain ⟨first, hfirst, rfl⟩ := Option.map_eq_some_iff.mp hhead.symm
  have hkept : first.isAlphanum = true := (List.mem_filter.mp (List.mem_of_head? hfirst)).2
  rw [Char.isUpper_toUpper_eq_isAlpha]
  rcases Bool.or_eq_true_iff.mp hkept with ha | hd
  · exact .inl ha
  · by_cases hl : first.isLower = true
    · exact .inl (by simp [Char.isAlpha, hl])
    · exact .inr (by rwa [Char.toUpper_eq_of_not_isLower hl])

theorem toList_fallback : fallback.toList = ['P', 'a', 'r', 'a', 'm'] := by
  simp [fallback]

theorem capitalized_fallback_append {cs : List Char} (h : ∀ x ∈ cs, x.isAlphanum = true) :
    Capitalized (fallback ++ String.ofList cs) := by
  refine ⟨'P', ['a', 'r', 'a', 'm'] ++ cs, ?_, by decide, ?_⟩
  · rw [String.toList_append, String.toList_ofList, toList_fallback, List.cons_append]
  · intro x hx
    rcases List.mem_append.mp hx with hx | hx
    · simp only [List.mem_cons, List.not_mem_nil, or_false] at hx
      rcases hx with rfl | rfl | rfl | rfl <;> rfl
    · exact h x hx

/-- **Pascal case gives the name of a type, whatever the text.** -/
theorem capitalized_pascalCase (s : String) : Capitalized (pascalCase s) := by
  unfold pascalCase
  cases hw : joinedWords true s.toList with
  | nil =>
      have hnil : ∀ x ∈ ([] : List Char), x.isAlphanum = true := by simp
      simpa using capitalized_fallback_append hnil
  | cons c cs =>
      have hall : ∀ x ∈ c :: cs, x.isAlphanum = true := by
        rw [← hw]; exact isAlphanum_of_mem_joinedWords
      dsimp only
      split
      · exact capitalized_fallback_append hall
      · rename_i hd
        refine ⟨c, cs, String.toList_ofList, ?_, fun x hx => hall x (List.mem_cons_of_mem _ hx)⟩
        exact (head_joinedWords hw).resolve_right hd

/-- A number behind a name of a type leaves it one. -/
theorem Capitalized.candidate {base : String} (h : Capitalized base) (i : Nat) :
    Capitalized (candidate base i) := by
  cases i with
  | zero => exact h
  | succ i =>
      obtain ⟨c, cs, hbase, hc, hcs⟩ := h
      refine ⟨c, cs ++ Nat.toDigits 10 (i + 2), ?_, hc, ?_⟩
      · rw [toList_candidate_succ, hbase, List.cons_append]
      · intro x hx
        rcases List.mem_append.mp hx with hx | hx
        · exact hcs x hx
        · have hd := Nat.isDigit_of_mem_toDigits (by decide) (by decide) hx
          simp [Char.isAlphanum, hd]

theorem Capitalized.free {base : String} (h : Capitalized base) (taken : List String) :
    Capitalized (free base taken) := by
  obtain ⟨i, hi⟩ := (free_spec base taken).1
  rw [hi]
  exact h.candidate i

end ScriptTypes.TypeName
