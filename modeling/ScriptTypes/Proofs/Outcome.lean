import Mathlib.Data.List.Forall2
import ScriptTypes.Fault

/-!
# Results that may be failures

Nearly every operation of the library answers `Except Fault`, and those of a disk answer
`Except Cause`. A proof about one that went well takes it apart step by step; these are the
steps.
-/

namespace ScriptTypes

variable {ε α β γ : Type}

/-- A sequence of two steps went well if both did. -/
theorem bind_eq_ok {x : Except ε α} {f : α → Except ε β} {b : β} :
    (x >>= f) = .ok b ↔ ∃ a, x = .ok a ∧ f a = .ok b := by
  cases x <;> simp [bind, Except.bind]

/-- A result is changed if there is one. -/
theorem map_eq_ok {x : Except ε α} {f : α → β} {b : β} :
    f <$> x = .ok b ↔ ∃ a, x = .ok a ∧ f a = b := by
  cases x <;> simp [Functor.map, Except.map]

/-- What comes after a step that went well goes on with its result. -/
theorem bind_eq_of_ok {x : Except ε α} {f : α → Except ε β} {a : α} (h : x = .ok a) :
    (x >>= f) = f a := by
  rw [h]
  rfl

/-- A sequence of two steps goes well if the first does, and the second on what it gives. -/
theorem exists_bind_ok {x : Except ε α} {f : α → Except ε β} (hx : ∃ a, x = .ok a)
    (hf : ∀ a, x = .ok a → ∃ b, f a = .ok b) : ∃ b, (x >>= f) = .ok b := by
  obtain ⟨a, ha⟩ := hx
  obtain ⟨b, hb⟩ := hf a ha
  exact ⟨b, bind_eq_ok.mpr ⟨a, ha, hb⟩⟩

theorem pure_eq_ok {a b : α} : (pure a : Except ε α) = .ok b ↔ a = b := by
  simp [pure, Except.pure]

/-- Whether an operation went well can be told. -/
instance (x : Except Fault α) : Decidable (∃ a, x = .ok a) :=
  match x with
  | .ok a => isTrue ⟨a, rfl⟩
  | .error _ => isFalse fun ⟨_, h⟩ => nomatch h

/-- Going through a list went well if it did for every member. -/
theorem mapM_eq_ok {f : α → Except Fault β} {as : List α} {bs : List β} :
    as.mapM f = .ok bs ↔ List.Forall₂ (fun a b => f a = .ok b) as bs := by
  induction as generalizing bs with
  | nil =>
      rw [List.mapM_nil, pure_eq_ok]
      constructor
      · rintro rfl; exact .nil
      · intro h; cases h; rfl
  | cons a as ih =>
      rw [List.mapM_cons, bind_eq_ok]
      constructor
      · rintro ⟨b, hb, h⟩
        obtain ⟨bs', hbs, h⟩ := bind_eq_ok.mp h
        obtain rfl := pure_eq_ok.mp h
        exact .cons hb (ih.mp hbs)
      · intro h
        cases h with
        | cons hb hbs => exact ⟨_, hb, bind_eq_ok.mpr ⟨_, ih.mpr hbs, rfl⟩⟩

/-- Going through two lists gives the same if it does at members that go together. -/
theorem mapM_congr_forall₂ {f : α → Except ε γ} {g : β → Except ε γ} {as : List α} {bs : List β}
    (h : List.Forall₂ (fun a b => f a = g b) as bs) : as.mapM f = bs.mapM g := by
  induction h with
  | nil => rfl
  | cons hab _ ih => rw [List.mapM_cons, List.mapM_cons, hab, ih]

/-- A member of the one of two lists that go together goes with a member of the other. -/
theorem exists_of_mem_forall₂ {r : α → β → Prop} {as : List α} {bs : List β} {b : β}
    (h : List.Forall₂ r as bs) (hb : b ∈ bs) : ∃ a ∈ as, r a b := by
  induction h with
  | nil => cases hb
  | cons hr _ ih =>
      rcases List.mem_cons.mp hb with rfl | hb
      · exact ⟨_, List.mem_cons_self, hr⟩
      · obtain ⟨a, ha, hr⟩ := ih hb
        exact ⟨a, List.mem_cons_of_mem _ ha, hr⟩

/-- What a member of a list gives is among the results. -/
theorem exists_of_mem_mapM {f : α → Except Fault β} {as : List α} {bs : List β} {a : α}
    (h : as.mapM f = .ok bs) (ha : a ∈ as) : ∃ b ∈ bs, f a = .ok b := by
  -- the lemma on lists that go together looks from the other side
  have hflip : List.Forall₂ (fun b a => f a = .ok b) bs as := (mapM_eq_ok.mp h).flip
  exact exists_of_mem_forall₂ hflip ha

/-- Where every member gives the same, so often is it given. -/
theorem mapM_eq_replicate {f : α → Except Fault β} {as : List α} {b : β}
    (h : ∀ a ∈ as, f a = .ok b) : as.mapM f = .ok (List.replicate as.length b) := by
  induction as with
  | nil => rfl
  | cons a as ih =>
      rw [List.mapM_cons, h a List.mem_cons_self, ih fun a ha => h a (List.mem_cons_of_mem _ ha)]
      rfl

/-! ## What an operation gives -/

/--
What an operation gives: every result is as `post` says, and there is one if what the
operation needs is there.
-/
structure Gives (able : Prop) (post : α → Prop) (x : Except Fault α) : Prop where
  /-- A result is as it should be. -/
  sound : ∀ a, x = .ok a → post a
  /-- There is a result. -/
  total : able → ∃ a, x = .ok a

namespace Gives

variable {able able' : Prop} {post : α → Prop} {post' : β → Prop}

theorem pure {a : α} (h : post a) : Gives able post (Pure.pure a : Except Fault α) where
  sound := by intro b hb; obtain rfl := pure_eq_ok.mp hb; exact h
  total := fun _ => ⟨a, rfl⟩

theorem bind {x : Except Fault α} {f : α → Except Fault β} (hx : Gives able post x)
    (hf : ∀ a, post a → Gives able post' (f a)) : Gives able post' (x >>= f) where
  sound := by
    intro b hb
    obtain ⟨a, ha, hb⟩ := bind_eq_ok.mp hb
    exact (hf a (hx.sound a ha)).sound b hb
  total := by
    intro h
    obtain ⟨a, ha⟩ := hx.total h
    obtain ⟨b, hb⟩ := (hf a (hx.sound a ha)).total h
    exact ⟨b, bind_eq_ok.mpr ⟨a, ha, hb⟩⟩

theorem mono {post₂ : α → Prop} {x : Except Fault α} (h : Gives able post x)
    (hpost : ∀ a, post a → post₂ a) : Gives able post₂ x where
  sound := fun a ha => hpost a (h.sound a ha)
  total := h.total

/-- A result is what the operation gives. -/
theorem exact {x : Except Fault α} (h : Gives able post x) :
    Gives able (fun a => x = .ok a ∧ post a) x where
  sound := fun a ha => ⟨ha, h.sound a ha⟩
  total := h.total

theorem need {x : Except Fault α} (h : Gives able post x) (hable : able' → able) :
    Gives able' post x where
  sound := h.sound
  total := fun h' => h.total (hable h')

/-- Going through a list gives what it gives for every member. -/
theorem mapM {post : α → β → Prop} {f : α → Except Fault β} {as : List α}
    (h : ∀ a ∈ as, Gives able (post a) (f a)) :
    Gives able (List.Forall₂ post as) (as.mapM f) := by
  induction as with
  | nil => exact .pure .nil
  | cons a as ih =>
      rw [List.mapM_cons]
      refine (h a List.mem_cons_self).bind fun b hb => ?_
      refine (ih fun a ha => h a (List.mem_cons_of_mem _ ha)).bind fun bs hbs => ?_
      exact .pure (.cons hb hbs)

end Gives

/-! ## How an operation fails -/

/-- An operation fails in certain ways only, if it fails at all. -/
def FailsAs (P : ε → Prop) (x : Except ε α) : Prop := ∀ e, x = .error e → P e

namespace FailsAs

variable {P : ε → Prop}

theorem pure {a : α} : FailsAs P (Pure.pure a : Except ε α) := nofun

theorem bind {x : Except ε α} {f : α → Except ε β} (h : FailsAs P x) (hf : ∀ a, FailsAs P (f a)) :
    FailsAs P (x >>= f) := by
  intro e he
  cases x with
  | ok a => exact hf a e he
  | error e' =>
      cases he
      exact h e rfl

theorem mapM {f : α → Except ε β} {as : List α} (h : ∀ a ∈ as, FailsAs P (f a)) :
    FailsAs P (as.mapM f) := by
  induction as with
  | nil => exact .pure
  | cons a as ih =>
      rw [List.mapM_cons]
      refine (h a List.mem_cons_self).bind fun b => ?_
      exact (ih fun a ha => h a (List.mem_cons_of_mem _ ha)).bind fun bs => .pure

end FailsAs

/-! ## Two operations -/

/-- Two operations end alike: with the same failure, or with results that are related. -/
inductive SameOutcome (r : α → β → Prop) : Except ε α → Except ε β → Prop where
  | ok {a : α} {b : β} : r a b → SameOutcome r (.ok a) (.ok b)
  | error {e : ε} : SameOutcome r (.error e) (.error e)

namespace SameOutcome

variable {δ : Type} {r : α → β → Prop} {r' : γ → δ → Prop}

theorem pure {a : α} {b : β} (h : r a b) :
    SameOutcome r (Pure.pure a : Except ε α) (Pure.pure b) := .ok h

theorem bind {x : Except ε α} {y : Except ε β} {f : α → Except ε γ} {g : β → Except ε δ}
    (h : SameOutcome r x y) (hf : ∀ a b, r a b → SameOutcome r' (f a) (g b)) :
    SameOutcome r' (x >>= f) (y >>= g) := by
  cases h with
  | ok h => exact hf _ _ h
  | error => exact .error

theorem of_eq {x y : Except ε α} (h : x = y) : SameOutcome Eq x y := by
  subst h
  cases x with
  | ok a => exact .ok rfl
  | error e => exact .error

/-- Two operations that start with the same step end alike if they go on alike. -/
theorem bind_left {x : Except ε α} {f : α → Except ε γ} {g : α → Except ε δ}
    (h : ∀ a, SameOutcome r' (f a) (g a)) : SameOutcome r' (x >>= f) (x >>= g) :=
  (of_eq rfl).bind fun a _ hab => hab ▸ h a

end SameOutcome

end ScriptTypes
