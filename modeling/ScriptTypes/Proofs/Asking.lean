import ScriptTypes.Proofs.Search

/-!
# What cannot be told of a path

The way of a path is a row of steps: into a folder, out of one, or to where a link leads. Before
each of them the next name is looked for in the folder that was come to, and that is where a way
may stop. If there is no folder, or no such name in it, then it is known that nothing stands where
the path leads, and so it is if there are too many links. But if the folder cannot be searched, or
a name is too long to be looked for, or the whole path is, then it cannot be told.

A search asks what stands at its own path and at that of everything that is in the folders it
visits. So it comes to its end, whatever there are for links, unless it meets a path of which that
cannot be told.
-/

namespace ScriptTypes.Files

/-! ## Ways -/

/-- The way of a path comes by a place with some of the names left. -/
inductive Disk.ComesBy (d : Disk) (p : Path) : Location → List String → Prop where
  /-- It starts somewhere with all of them. -/
  | start : ComesBy d p (startOf d.working p.anchor) p.parts
  /-- Two dots lead out of a folder. -/
  | up {place : Location} {rest : List String} : ComesBy d p place (".." :: rest) →
      d.enter place = .ok () → ComesBy d p place.dropLast rest
  /-- Any other name leads into the folder of that name, if it is not that of a link. -/
  | down {place : Location} {name : String} {rest : List String} :
      ComesBy d p place (name :: rest) → d.enter place = .ok () → name ≠ ".." →
      (∀ target, d.standing (place ++ [name]) ≠ .link target) → ComesBy d p (place ++ [name]) rest
  /-- From a link the way goes on where the link leads. -/
  | jump {place : Location} {name : String} {rest : List String} {target : Path} :
      ComesBy d p place (name :: rest) → d.enter place = .ok () → name ≠ ".." →
      d.standing (place ++ [name]) = .link target →
      ComesBy d p (startOf place target.anchor) (target.parts ++ rest)

/-- It cannot be told what stands where a path leads to. -/
inductive Disk.Untold (d : Disk) (p : Path) : Cause → Prop where
  /-- The path is too long. -/
  | long : maxPathBytes < p.text.utf8ByteSize → Untold d p .nameTooLong
  /-- The way comes by a place with a name that is too long. -/
  | longName {place : Location} {rest : List String} {name : String} : d.ComesBy p place rest →
      name ∈ place → maxNameBytes < name.utf8ByteSize → Untold d p .nameTooLong
  /-- The way comes to a folder that cannot be searched for the next name. -/
  | denied {place : Location} {name : String} {rest : List String} {r : Denial} :
      d.ComesBy p place (name :: rest) → d.standing place = .folder →
      d.denies .search place = some r → Untold d p r.cause

variable {d : Disk} {e : Entry} {p q path : Path} {place start : Location} {cause : Cause}
  {name : String} {parts rest : List String}

/-- Nothing is found at an entry: there is nothing, or one of the names is too long. -/
theorem Entry.of_at?_error (h : e.at? place = .error cause) : cause.isAbsence = true ∨
    cause = .nameTooLong ∧ ∃ name ∈ place, maxNameBytes < name.utf8ByteSize := by
  induction place generalizing e with
  | nil => cases h
  | cons name rest ih =>
      cases e with
      | file content | link target =>
          obtain rfl := Except.error.inj h
          exact .inl rfl
      | folder es =>
          rw [at?] at h
          cases hl : es.lookup name with
          | some below =>
              rw [hl] at h
              refine (ih h).imp_right fun hlong => ⟨hlong.1, ?_⟩
              obtain ⟨name, hmem, hlong⟩ := hlong.2
              exact ⟨name, List.mem_cons_of_mem _ hmem, hlong⟩
          | none =>
              rw [hl] at h
              obtain rfl := Except.error.inj h
              split
              · exact .inl rfl
              · rename_i hlong
                exact .inr ⟨rfl, name, List.mem_cons_self, Nat.lt_of_not_le hlong⟩

namespace Disk

variable {jump : Location → Path → List String → Except Cause Location}

theorem ComesBy.of_at?_error (h : d.ComesBy p place rest) (hat : d.top.at? place = .error cause) :
    cause.isAbsence = true ∨ d.Untold p cause := by
  rcases Entry.of_at?_error hat with habsent | ⟨rfl, name, hmem, hlong⟩
  · exact .inl habsent
  · exact .inr (.longName h hmem hlong)

/-- A step cannot be made for want of a folder, or because the folder cannot be searched. -/
theorem ComesBy.of_enter_error (h : d.ComesBy p place (name :: rest))
    (henter : d.enter place = .error cause) : cause.isAbsence = true ∨ d.Untold p cause := by
  unfold enter at henter
  cases hat : d.top.at? place with
  | error c =>
      rw [hat] at henter
      obtain rfl : c = cause := Except.error.inj henter
      exact h.of_at?_error hat
  | ok e =>
      rw [hat, bind_eq_of_ok rfl] at henter
      cases e with
      | file content | link target =>
          obtain rfl := Except.error.inj henter
          exact .inl rfl
      | folder es =>
          dsimp only [permit] at henter
          cases hdenies : d.denies .search place with
          | none =>
              rw [hdenies] at henter
              cases henter
          | some r =>
              rw [hdenies] at henter
              obtain rfl := Except.error.inj henter
              exact .inr (.denied h (Entry.standing_eq_folder_iff.mpr ⟨es, hat⟩) hdenies)

/-- What a way comes to: a place with no names left, or a step that cannot be made. -/
def ComesTo (d : Disk) (p : Path) : Except Cause Location → Prop
  | .ok place => d.ComesBy p place []
  | .error cause => cause.isAbsence = true ∨ d.Untold p cause

/-- Names lead from wherever a way comes by to what it comes to. -/
theorem ComesBy.walk (h : d.ComesBy p start parts)
    (hjump : ∀ place target rest, d.ComesBy p (startOf place target.anchor) (target.parts ++ rest) →
      d.ComesTo p (jump place target rest)) : d.ComesTo p (d.walk true jump start parts) := by
  induction parts generalizing start with
  | nil => exact h
  | cons name rest ih =>
      rw [walk_cons]
      cases henter : d.enter start with
      | error cause => exact h.of_enter_error henter
      | ok _ =>
          rw [bind_eq_of_ok rfl]
          by_cases hup : name = ".."
          · subst hup
            rw [if_pos rfl]
            exact ih (h.up henter)
          · rw [if_neg hup]
            cases hs : d.standing (start ++ [name]) with
            | link target =>
                dsimp only
                rw [if_neg fun hend => nomatch hend.2]
                exact hjump start target rest (h.jump henter hup hs)
            | nothing | folder | file =>
                refine ih (h.down henter hup fun target hlink => ?_)
                cases hs.symm.trans hlink

/-- **A way ends where the path leads, or stops at a step that cannot be made.** -/
theorem ComesBy.follow {links : Nat} (h : d.ComesBy p start parts) :
    d.ComesTo p (d.follow true links start parts) := by
  induction links generalizing start parts with
  | zero => exact h.walk fun _ _ _ _ => .inl rfl
  | succ links ih => exact h.walk fun _ _ _ hby => ih hby

end Disk

/-- A disk with a script in a folder that can be listed and cannot be searched. -/
def Closed.disk : Disk where
  top := .folder [("sub", .folder [("b.js", .file [])])]
  denies access place := if access = .search ∧ place = ["sub"] then
    some ⟨13, "Permission denied", by decide⟩ else none

example : (search Closed.disk 3 ⟨.relative, ["sub"]⟩).failure =
    some ⟨.other 13 "Permission denied", "sub/b.js"⟩ := by decide +kernel

/-! ## Names in earnest -/

/-- No name at or below the entry holds the character that ends paths. -/
inductive Entry.Legible : Entry → Prop where
  | file {content : List UInt8} : Legible (.file content)
  | link {target : Path} : Legible (.link target)
  | folder {es : List (String × Entry)} : (∀ t ∈ es, '\x00' ∉ t.1.toList) →
      (∀ t ∈ es, Legible t.2) → Legible (.folder es)

theorem Entry.Legible.at? {below : Entry} (h : e.Legible) (hat : e.at? place = .ok below) :
    below.Legible := by
  induction place generalizing e with
  | nil =>
      obtain rfl := Except.ok.inj hat
      exact h
  | cons name rest ih =>
      cases h with
      | file | link => cases hat
      | @folder es _ hentries =>
          rw [Entry.at?] at hat
          cases hl : es.lookup name with
          | none =>
              rw [hl] at hat
              cases hat
          | some next =>
              rw [hl] at hat
              exact ih (hentries _ (Named.mem_of_lookup hl)) hat

namespace Disk

end Disk

end ScriptTypes.Files
