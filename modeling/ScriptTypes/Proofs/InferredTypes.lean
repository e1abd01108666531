import ScriptTypes.InferredType
import ScriptTypes.Proofs.Tree

/-!
# The types that expressions tell

An expression that can be read can be asked for its type. What it answers is a plain type
with some pairs of brackets behind it, no more of them than arrays are nested in the
expression. An array answers with the type of its elements if they share one, and with
`any[]` if not; the order of the elements does not matter. A chain of assignments answers
with what its last right-hand side tells.

The elements are looked at one by one, and the search ends early where they turn out to
differ. `settled_of_elementType` says what that comes to: the elements that were looked at
and the ones that were not together share the type that is given, or together differ.
-/

namespace ScriptTypes

open Syntax

/-! ## Types as they are written -/

namespace InferredType

/-- How many arrays a type is wrapped in. -/
def rank : InferredType → Nat
  | arrayOf t => t.rank + 1
  | _ => 0

/-- Some pairs of brackets. -/
def brackets : Nat → String
  | 0 => ""
  | k + 1 => brackets k ++ "[]"

/-- The types that are no arrays, as they are written. -/
def plainTexts : List String :=
  ["any", "number", "string", "boolean", "RegExp", "BigInt", "Function"]

/-- A type is written as a plain type with brackets behind it. -/
theorem text_eq_brackets (t : InferredType) :
    ∃ base ∈ plainTexts, t.text = base ++ brackets t.rank := by
  induction t with
  | arrayOf t ih =>
      obtain ⟨base, hbase, ih⟩ := ih
      refine ⟨base, hbase, ?_⟩
      rw [text, ih, rank, brackets, String.append_assoc]
  | any | number | string | boolean | regExp | bigInt | function =>
      refine ⟨_, ?_, String.append_empty.symm⟩
      decide

/-- The text of an array ends in a bracket, and no other does. -/
theorem getLast?_text (t : InferredType) : t.text.toList.getLast? = some ']' ↔ 0 < t.rank := by
  cases t with
  | arrayOf t => simp [text, rank]
  | any | number | string | boolean | regExp | bigInt | function => decide

/-- **Types that are written alike are the same.** -/
theorem text_injective : Function.Injective text := by
  intro t u h
  have hlast : 0 < t.rank ↔ 0 < u.rank := by rw [← getLast?_text, h, getLast?_text]
  induction t generalizing u with
  | arrayOf t ih =>
      cases u with
      | arrayOf u =>
          have htext : t.text = u.text := (String.append_left_inj "[]").mp h
          rw [ih htext (by rw [← getLast?_text, htext, getLast?_text])]
      | any | number | string | boolean | regExp | bigInt | function => simp [rank] at hlast
  | any | number | string | boolean | regExp | bigInt | function =>
      cases u with
      | arrayOf u => simp [rank] at hlast
      | any | number | string | boolean | regExp | bigInt | function =>
          revert h
          decide

theorem rank_ofNumeral (numeral : String) : (ofNumeral numeral).rank = 0 := by
  unfold ofNumeral
  split <;> rfl

theorem rank_of_ofLiteral? {kind : String} {t : InferredType} (h : ofLiteral? kind = some t) :
    t.rank = 0 := by
  unfold ofLiteral? at h
  split at h <;> cases h <;> rfl

end InferredType

/-- The type that an expression tells, as it is written. -/
def writtenType? (n : Node) : Except Fault (Option String) :=
  return (← inferType? n).map InferredType.text

theorem writtenType?_eq_ok {n : Node} {told : Option String} :
    writtenType? n = .ok told ↔
      ∃ t, inferType? n = .ok t ∧ t.map InferredType.text = told := by
  unfold writtenType?
  rw [bind_eq_ok]
  exact exists_congr fun t => and_congr_right fun _ => pure_eq_ok

/-! ## Every expression can be asked -/

/-- The elements of an array tell its type if all of them can be asked for theirs. -/
theorem exists_elementType {cs : List Node} (h : ∀ c ∈ cs, ∃ t, inferType? c = .ok t)
    (shared : Option InferredType) : ∃ t, elementType shared cs = .ok t := by
  induction cs generalizing shared with
  | nil => exact ⟨_, rfl⟩
  | cons c cs ih =>
      have hrest := ih fun c hc => h c (List.mem_cons_of_mem _ hc)
      rw [elementType]
      split
      · split
        · exact ⟨_, rfl⟩
        · refine exists_bind_ok (h c List.mem_cons_self) fun t _ => ?_
          cases t with
          | none => exact ⟨_, rfl⟩
          | some t =>
              dsimp only
              split
              · exact hrest _
              · exact ⟨_, rfl⟩
      · exact hrest _

/-- An assignment tells what its right-hand side tells, if it has one. -/
theorem assignedType?_eq (cs : List Node) : assignedType? cs =
    match Node.firstIn "right" cs with
    | none => pure none
    | some c => inferType? c := by
  induction cs with
  | nil => rw [assignedType?]; rfl
  | cons c cs ih =>
      rw [assignedType?, Node.firstIn_cons]
      split
      · rfl
      · exact ih

theorem exists_isBigIntCall {call : Node} (h : call.Readable) :
    ∃ b, isBigIntCall call = .ok b := by
  unfold isBigIntCall
  cases hf : call.field? "function" with
  | none => exact ⟨_, rfl⟩
  | some callee =>
      dsimp only
      split
      · exact exists_bind_ok ((h.field? hf) callee .root) fun text _ => ⟨_, rfl⟩
      · exact ⟨_, rfl⟩

/-- **An expression that can be read can be asked for its type.** -/
theorem exists_inferType? (n : Node) (h : n.Readable) : ∃ t, inferType? n = .ok t := by
  induction n using Node.induction with
  | mk d cs ih =>
      have hchildren : ∀ c ∈ cs, ∃ t, inferType? c = .ok t := fun c hc => ih c hc (h.child hc)
      have htext : ∃ s, textOf d.bytes = .ok s := h _ .root
      rw [inferType?]
      split
      · exact exists_bind_ok htext fun text _ => ⟨_, rfl⟩
      · split
        · exact ⟨_, rfl⟩
        · split
          · exact exists_bind_ok htext fun text _ => ⟨_, rfl⟩
          · split
            · exact exists_bind_ok (exists_elementType hchildren none) fun t _ => ⟨_, rfl⟩
            · split
              · rw [assignedType?_eq]
                split
                · exact ⟨_, rfl⟩
                · rename_i right hright
                  exact hchildren right (List.mem_of_find?_eq_some hright)
              · split
                · exact exists_bind_ok (exists_isBigIntCall h) fun b _ => ⟨_, rfl⟩
                · exact ⟨_, rfl⟩

theorem exists_inferTypeOf? {e : Option Node} (h : ∀ n, e = some n → n.Readable) :
    ∃ t, inferTypeOf? e = .ok t := by
  cases e with
  | none => exact ⟨_, rfl⟩
  | some n => exact exists_inferType? n (h n rfl)

/-! ## The elements of an array -/

/-- The elements of an array tell one type, and there are some. -/
structure Shares (elements : List Node) (type : String) : Prop where
  /-- The array is not empty. -/
  nonempty : elements ≠ []
  /-- No element is a spread, and each tells the type. -/
  tell : ∀ e ∈ elements, e.kind ≠ "spread_element" ∧ writtenType? e = .ok (some type)

/-- The elements of an array tell no type together. -/
inductive Mixed (elements : List Node) : Prop where
  /-- There are none. -/
  | empty : elements = [] → Mixed elements
  /-- One of them stands for any number of elements. -/
  | spread {e : Node} : e ∈ elements → e.kind = "spread_element" → Mixed elements
  /-- One of them tells nothing. -/
  | silent {e : Node} : e ∈ elements → writtenType? e = .ok none → Mixed elements
  /-- Two of them tell different types. -/
  | different {e e' : Node} {type type' : String} : e ∈ elements → e' ∈ elements →
      writtenType? e = .ok (some type) → writtenType? e' = .ok (some type') → type ≠ type' →
      Mixed elements

theorem Shares.eq {elements : List Node} {type type' : String} (h : Shares elements type)
    (h' : Shares elements type') : type = type' := by
  obtain ⟨e, he⟩ := List.exists_mem_of_ne_nil _ h.nonempty
  have htold := (h.tell e he).2
  rw [(h'.tell e he).2] at htold
  exact (Option.some.inj (Except.ok.inj htold)).symm

/-- Elements that share a type are not mixed. -/
theorem Shares.not_mixed {elements : List Node} {type : String} (h : Shares elements type) :
    ¬ Mixed elements := by
  rintro (hempty | ⟨he, hspread⟩ | ⟨he, hsilent⟩ | ⟨he, he', htype, htype', hne⟩)
  · exact h.nonempty hempty
  · exact (h.tell _ he).1 hspread
  · rw [(h.tell _ he).2] at hsilent
    cases hsilent
  · rw [(h.tell _ he).2] at htype
    rw [(h.tell _ he').2] at htype'
    cases htype
    cases htype'
    exact hne rfl

/-- What elements share does not depend on their order. -/
theorem Shares.perm {elements others : List Node} {type : String} (h : Shares elements type)
    (hperm : others.Perm elements) : Shares others type where
  nonempty := fun hnil => h.nonempty ((List.nil_perm.mp (hnil ▸ hperm)))
  tell := fun e he => h.tell e (hperm.mem_iff.mp he)

theorem Mixed.perm {elements others : List Node} (h : Mixed elements)
    (hperm : others.Perm elements) : Mixed others := by
  have hmem : ∀ {e}, e ∈ elements → e ∈ others := fun he => hperm.mem_iff.mpr he
  cases h with
  | empty hempty => exact .empty (List.perm_nil.mp (hempty ▸ hperm))
  | spread he hspread => exact .spread (hmem he) hspread
  | silent he hsilent => exact .silent (hmem he) hsilent
  | different he he' htype htype' hne => exact .different (hmem he) (hmem he') htype htype' hne

/-- What the elements of an array come to: the type that they share, or `any`. -/
inductive Settled (elements : List Node) : InferredType → Prop where
  | shared {t : InferredType} : Shares elements t.text → Settled elements t
  | mixed : Mixed elements → Settled elements .any

/-- What comes to the type of the elements, after some that told the type `shared`. -/
theorem settled_of_elementType {seen cs : List Node} {shared : Option InferredType}
    {t : InferredType} (h : elementType shared cs = .ok t) (hnone : shared = none → seen = [])
    (hseen : ∀ s, shared = some s → Shares seen s.text) :
    Settled (seen ++ cs.filter Node.isContent) t := by
  induction cs generalizing seen shared with
  | nil =>
      rw [elementType] at h
      obtain rfl := pure_eq_ok.mp h
      rw [List.filter_nil, List.append_nil]
      cases shared with
      | none => exact .mixed (.empty (hnone rfl))
      | some s => exact .shared (hseen s rfl)
  | cons c cs ih =>
      rw [elementType] at h
      by_cases hc : c.isContent
      · rw [if_pos hc] at h
        rw [List.filter_cons_of_pos hc]
        have hmem : c ∈ seen ++ c :: cs.filter Node.isContent := by simp
        split at h
        · obtain rfl := pure_eq_ok.mp h
          exact .mixed (.spread hmem ‹_›)
        · rename_i hspread
          obtain ⟨told, htold, h⟩ := bind_eq_ok.mp h
          have hwritten := writtenType?_eq_ok.mpr ⟨told, htold, rfl⟩
          cases told with
          | none =>
              obtain rfl := pure_eq_ok.mp h
              exact .mixed (.silent hmem hwritten)
          | some u =>
              dsimp only at h
              split at h
              · -- the element tells what those before told: it is one more of them
                rename_i hall
                rw [← List.singleton_append, ← List.append_assoc]
                refine ih h nofun fun s hs => ?_
                obtain rfl := Option.some.inj hs
                refine ⟨by simp, fun e he => ?_⟩
                rcases List.mem_append.mp he with he | he
                · cases shared with
                  | none => rw [hnone rfl] at he; cases he
                  | some s =>
                      obtain rfl : s = u := by simpa using hall
                      exact (hseen s rfl).tell e he
                · obtain rfl := List.mem_singleton.mp he
                  exact ⟨hspread, hwritten⟩
              · rename_i hall
                obtain rfl := pure_eq_ok.mp h
                cases shared with
                | none => exact absurd rfl hall
                | some s =>
                    have hne : s ≠ u := by simpa using hall
                    obtain ⟨e, he⟩ := List.exists_mem_of_ne_nil _ (hseen s rfl).nonempty
                    exact .mixed (.different (List.mem_append_left _ he) hmem
                      ((hseen s rfl).tell e he).2 hwritten
                      fun htext => hne (InferredType.text_injective htext))
      · rw [if_neg hc] at h
        rw [List.filter_cons_of_neg hc]
        exact ih h hnone hseen

/-! ## What an expression can answer -/

/-- What an expression tells, by its kind. -/
inductive Tells (n : Node) : Option InferredType → Prop where
  /-- A type that is no array. -/
  | plain {t : InferredType} : n.kind ≠ "array" → n.kind ∉ assignmentKinds → t.rank = 0 →
      Tells n (some t)
  /-- The type of an array, by what its elements come to. -/
  | array {t : InferredType} : n.kind = "array" → Settled n.namedChildren t →
      Tells n (some (.arrayOf t))
  /-- What is assigned tells it. -/
  | assigned {right : Node} {told : Option InferredType} : n.kind ∈ assignmentKinds →
      n.field? "right" = some right → inferType? right = .ok told → Tells n told
  /-- Nothing is assigned. -/
  | unassigned : n.kind ∈ assignmentKinds → n.field? "right" = none → Tells n none
  /-- Nothing. -/
  | nothing : n.kind ≠ "array" → n.kind ∉ assignmentKinds → Tells n none

theorem plain_of_ofLiteral? {kind : String} {t : InferredType}
    (h : InferredType.ofLiteral? kind = some t) : kind ≠ "array" ∧ kind ∉ assignmentKinds := by
  refine ⟨?_, fun hkind => ?_⟩
  · rintro rfl
    simp [InferredType.ofLiteral?] at h
  · rcases List.mem_pair.mp hkind with rfl | rfl <;> simp [InferredType.ofLiteral?] at h

/-- **What is told is told by the kind of the expression.** -/
theorem tells_of_inferType? {n : Node} {told : Option InferredType}
    (h : inferType? n = .ok told) : Tells n told := by
  obtain ⟨d, cs⟩ := n
  rw [inferType?] at h
  split at h
  · rename_i hkind
    obtain ⟨numeral, _, h⟩ := bind_eq_ok.mp h
    obtain rfl := pure_eq_ok.mp h
    have hkind : (Node.mk d cs).kind = "number" := hkind
    exact .plain (by rw [hkind]; decide) (by rw [hkind]; decide)
      (InferredType.rank_ofNumeral numeral)
  · split at h
    · rename_i t hliteral
      obtain rfl := pure_eq_ok.mp h
      obtain ⟨harray, hassignment⟩ := plain_of_ofLiteral? hliteral
      exact .plain harray hassignment (InferredType.rank_of_ofLiteral? hliteral)
    · split at h
      · rename_i hkind
        obtain ⟨text, _, h⟩ := bind_eq_ok.mp h
        obtain rfl := pure_eq_ok.mp h
        have hkind : (Node.mk d cs).kind = "identifier" := hkind
        have harray : (Node.mk d cs).kind ≠ "array" := by rw [hkind]; decide
        have hassignment : (Node.mk d cs).kind ∉ assignmentKinds := by rw [hkind]; decide
        split
        · exact .plain harray hassignment rfl
        · exact .nothing harray hassignment
      · split at h
        · rename_i harray
          obtain ⟨t, ht, h⟩ := bind_eq_ok.mp h
          obtain rfl := pure_eq_ok.mp h
          have hnone : (none : Option InferredType) = none → ([] : List Node) = [] := fun _ => rfl
          exact .array harray (settled_of_elementType ht hnone nofun)
        · rename_i harray
          split at h
          · rename_i hassignment
            rw [assignedType?_eq] at h
            cases hright : Node.firstIn "right" cs with
            | none =>
                rw [hright] at h
                obtain rfl := pure_eq_ok.mp h
                exact .unassigned hassignment hright
            | some right =>
                rw [hright] at h
                exact .assigned hassignment hright h
          · rename_i hassignment
            split at h
            · obtain ⟨isBigInt, _, h⟩ := bind_eq_ok.mp h
              obtain rfl := pure_eq_ok.mp h
              refine .plain harray hassignment ?_
              cases isBigInt <;> rfl
            · obtain rfl := pure_eq_ok.mp h
              exact .nothing harray hassignment

/-! ## Nested arrays -/

mutual

/-- How deep arrays are nested in a tree, the root included. -/
def Syntax.Node.arrayDepth : Node → Nat
  | .mk d cs => (if d.kind = "array" then 1 else 0) + arrayDepthBelow cs

/-- How deep arrays are nested in some siblings. -/
def arrayDepthBelow : List Node → Nat
  | [] => 0
  | c :: cs => max c.arrayDepth (arrayDepthBelow cs)

end

theorem arrayDepth_le_below {c : Node} {cs : List Node} (hc : c ∈ cs) :
    c.arrayDepth ≤ arrayDepthBelow cs := by
  induction cs with
  | nil => cases hc
  | cons d cs ih =>
      rw [arrayDepthBelow]
      rcases List.mem_cons.mp hc with rfl | hc
      · exact Nat.le_max_left _ _
      · exact Nat.le_trans (ih hc) (Nat.le_max_right _ _)

theorem Syntax.Node.arrayDepth_le_of_mem {n c : Node} (hc : c ∈ n.children) :
    c.arrayDepth ≤ n.arrayDepth := by
  obtain ⟨d, cs⟩ := n
  rw [arrayDepth]
  exact Nat.le_trans (arrayDepth_le_below hc) (Nat.le_add_left _ _)

/-- An array is one level deeper than its elements. -/
theorem Syntax.Node.arrayDepth_lt_of_mem {n c : Node} (hn : n.kind = "array")
    (hc : c ∈ n.children) : c.arrayDepth < n.arrayDepth := by
  obtain ⟨d, cs⟩ := n
  have hn : d.kind = "array" := hn
  rw [arrayDepth, if_pos hn, Nat.add_comm]
  exact Nat.lt_succ_of_le (arrayDepth_le_below hc)

theorem Syntax.Node.arrayDepth_pos {n : Node} (hn : n.kind = "array") : 0 < n.arrayDepth := by
  obtain ⟨d, cs⟩ := n
  have hn : d.kind = "array" := hn
  rw [arrayDepth, if_pos hn]
  omega

/-- **A type has no more brackets than arrays are nested in the expression that tells it.** -/
theorem rank_le_arrayDepth {n : Node} {t : InferredType} (h : inferType? n = .ok (some t)) :
    t.rank ≤ n.arrayDepth := by
  induction n using Node.induction generalizing t with
  | mk d cs ih =>
      cases tells_of_inferType? h with
      | plain _ _ hrank => rw [hrank]; exact Nat.zero_le _
      | @array element harray hsettled =>
          cases hsettled with
          | mixed => exact Node.arrayDepth_pos harray
          | shared hshares =>
              -- any of the elements tells the type that they share
              obtain ⟨e, he⟩ := List.exists_mem_of_ne_nil _ hshares.nonempty
              obtain ⟨told, htold, htext⟩ := writtenType?_eq_ok.mp (hshares.tell e he).2
              obtain ⟨u, rfl, hu⟩ := Option.map_eq_some_iff.mp htext
              obtain rfl := InferredType.text_injective hu
              have hchild : e ∈ cs := List.mem_of_mem_filter he
              exact Nat.lt_of_le_of_lt (ih e hchild htold)
                (Node.arrayDepth_lt_of_mem harray hchild)
      | assigned _ hright htold =>
          have hchild := Node.mem_of_field? hright
          exact Nat.le_trans (ih _ hchild htold) (Node.arrayDepth_le_of_mem hchild)

/-! ## Chains of assignments -/

/-- A chain of assignments ends in what the last one assigns, if it assigns something. -/
inductive EndsIn : Node → Option Node → Prop where
  /-- What is no assignment stands at the end. -/
  | last {n : Node} : n.kind ∉ assignmentKinds → EndsIn n (some n)
  /-- The last assignment has no right-hand side. -/
  | missing {n : Node} : n.kind ∈ assignmentKinds → n.field? "right" = none → EndsIn n none
  /-- What is assigned is a chain itself. -/
  | onward {n right : Node} {last : Option Node} : n.kind ∈ assignmentKinds →
      n.field? "right" = some right → EndsIn right last → EndsIn n last

/-- Every chain of assignments ends. -/
theorem exists_endsIn (n : Node) : ∃ last, EndsIn n last := by
  induction n using Node.induction with
  | mk d cs ih =>
      by_cases hkind : (Node.mk d cs).kind ∈ assignmentKinds
      · cases hright : (Node.mk d cs).field? "right" with
        | none => exact ⟨none, .missing hkind hright⟩
        | some right =>
            obtain ⟨last, hlast⟩ := ih right (Node.mem_of_field? hright)
            exact ⟨last, .onward hkind hright hlast⟩
      · exact ⟨some _, .last hkind⟩

/-- An assignment tells what its right-hand side tells, and nothing without one. -/
theorem told_of_assignment {n : Node} {told : Option InferredType}
    (hn : n.kind ∈ assignmentKinds) (h : inferType? n = .ok told) :
    (n.field? "right" = none ∧ told = none) ∨
      ∃ right, n.field? "right" = some right ∧ inferType? right = .ok told := by
  cases tells_of_inferType? h with
  | plain _ hplain => exact absurd hn hplain
  | array harray => rw [harray] at hn; exact absurd hn (by decide)
  | assigned _ hright htold => exact .inr ⟨_, hright, htold⟩
  | unassigned _ hright => exact .inl ⟨hright, rfl⟩
  | nothing _ hnothing => exact absurd hn hnothing

/-- A chain tells what its end tells, and nothing if there is nothing at its end. -/
theorem EndsIn.told {n : Node} {last : Option Node} (hlast : EndsIn n last)
    {told : Option InferredType} (h : inferType? n = .ok told) :
    (last = none → told = none) ∧ ∀ e, last = some e → inferType? e = .ok told := by
  induction hlast with
  | last =>
      refine ⟨nofun, fun e he => ?_⟩
      obtain rfl := Option.some.inj he
      exact h
  | missing hkind hright =>
      refine ⟨fun _ => ?_, nofun⟩
      obtain ⟨_, rfl⟩ | ⟨right, hright', _⟩ := told_of_assignment hkind h
      · rfl
      · rw [hright] at hright'
        cases hright'
  | onward hkind hright _ ih =>
      obtain ⟨hright', _⟩ | ⟨right, hright', htold⟩ := told_of_assignment hkind h
      · rw [hright] at hright'
        cases hright'
      · rw [hright] at hright'
        obtain rfl := Option.some.inj hright'
        exact ih htold

/-! ## What an expression tells -/

/-- What an expression tells, as it is written. -/
structure Typed (n : Node) (told : Option String) : Prop where
  /-- An array of elements of one type is an array of that type. -/
  shared {type : String} : n.kind = "array" → Shares n.namedChildren type →
    told = some (type ++ "[]")
  /-- Any other array is one of anything. -/
  mixed : n.kind = "array" → Mixed n.namedChildren → told = some "any[]"
  /-- Every array is of the one sort or the other. -/
  either : n.kind = "array" → (∃ type, Shares n.namedChildren type) ∨ Mixed n.namedChildren
  /-- An array with the same elements in another order is told the same. -/
  order {other : Node} {told' : Option String} : n.kind = "array" → other.kind = "array" →
    other.namedChildren.Perm n.namedChildren → writtenType? other = .ok told' → told' = told
  /-- What is told is a plain type with brackets for arrays that are nested in the expression. -/
  form {type : String} : told = some type → ∃ base ∈ InferredType.plainTexts,
    ∃ k ≤ n.arrayDepth, type = base ++ InferredType.brackets k
  /-- A chain of assignments ends somewhere. -/
  ends : ∃ last, EndsIn n last
  /-- It tells what its last right-hand side tells. -/
  last {e : Node} : EndsIn n (some e) → writtenType? e = .ok told
  /-- It tells nothing where that is missing. -/
  missing : EndsIn n none → told = none

/-- What an array tells is told by what its elements come to. -/
theorem settled_of_array {n : Node} {told : Option InferredType} (hn : n.kind = "array")
    (h : inferType? n = .ok told) :
    ∃ t, told = some (.arrayOf t) ∧ Settled n.namedChildren t := by
  cases tells_of_inferType? h with
  | plain harray => exact absurd hn harray
  | array _ hsettled => exact ⟨_, rfl, hsettled⟩
  | assigned hkind => rw [hn] at hkind; exact absurd hkind (by decide)
  | unassigned hkind => rw [hn] at hkind; exact absurd hkind (by decide)
  | nothing harray => exact absurd hn harray

theorem Settled.text_of_shares {elements : List Node} {t : InferredType} {type : String}
    (h : Settled elements t) (hshares : Shares elements type) : t.text = type := by
  cases h with
  | shared h => exact h.eq hshares
  | mixed h => exact absurd h hshares.not_mixed

theorem Settled.eq_any_of_mixed {elements : List Node} {t : InferredType}
    (h : Settled elements t) (hmixed : Mixed elements) : t = .any := by
  cases h with
  | shared h => exact absurd hmixed h.not_mixed
  | mixed => rfl

/--
**What expressions tell.** Every expression that can be read answers. An array whose elements
share a type answers with an array of it and every other one with `any[]`, in whatever order
its elements stand; no answer has more brackets than arrays are nested; and a chain of
assignments answers with its last right-hand side.
-/
theorem gives_writtenType? (n : Node) : Gives n.Readable (Typed n) (writtenType? n) where
  total := by
    intro h
    obtain ⟨t, ht⟩ := exists_inferType? n h
    exact ⟨_, writtenType?_eq_ok.mpr ⟨t, ht, rfl⟩⟩
  sound := by
    intro told h
    obtain ⟨t, ht, rfl⟩ := writtenType?_eq_ok.mp h
    refine ⟨fun hn hshares => ?_, fun hn hmixed => ?_, fun hn => ?_, fun hn hother hperm h' => ?_,
      fun htype => ?_, exists_endsIn n, fun hlast => ?_, fun hmissing => ?_⟩
    · obtain ⟨element, rfl, hsettled⟩ := settled_of_array hn ht
      rw [← hsettled.text_of_shares hshares]
      rfl
    · obtain ⟨element, rfl, hsettled⟩ := settled_of_array hn ht
      rw [hsettled.eq_any_of_mixed hmixed]
      rfl
    · obtain ⟨element, rfl, hsettled⟩ := settled_of_array hn ht
      cases hsettled with
      | shared hshares => exact .inl ⟨_, hshares⟩
      | mixed hmixed => exact .inr hmixed
    · obtain ⟨t', ht', rfl⟩ := writtenType?_eq_ok.mp h'
      obtain ⟨element, rfl, hsettled⟩ := settled_of_array hn ht
      obtain ⟨element', rfl, hsettled'⟩ := settled_of_array hother ht'
      -- both come to what the elements share in the one order as in the other
      cases hsettled with
      | shared hshares =>
          rw [InferredType.text_injective (hsettled'.text_of_shares (hshares.perm hperm))]
      | mixed hmixed => rw [hsettled'.eq_any_of_mixed (hmixed.perm hperm)]
    · obtain ⟨u, rfl, rfl⟩ := Option.map_eq_some_iff.mp htype
      obtain ⟨base, hbase, htext⟩ := u.text_eq_brackets
      exact ⟨base, hbase, u.rank, rank_le_arrayDepth ht, htext⟩
    · exact writtenType?_eq_ok.mpr ⟨t, (hlast.told ht).2 _ rfl, rfl⟩
    · rw [(hmissing.told ht).1 rfl]
      rfl

end ScriptTypes
