import ScriptTypes.Files.Disk
import ScriptTypes.Proofs.Outcome

/-!
# What stands where

A disk is known by what stands at each of its locations: nothing, a folder, a file with its
bytes, or a link. In these terms a file that is written or removed is a change at one location. All
others stay as they are, and no folder and no link appears or goes away.
-/

namespace ScriptTypes

namespace Named

variable {β : Type} {name other : String} {things : List (String × β)}

/-- Of the things that do not have a name, the first one of another name is the same. -/
theorem lookup_filter_ne : (things.filter (·.1 ≠ name)).lookup other =
    if other = name then none else things.lookup other := by
  induction things with
  | nil => simp
  | cons thing rest ih =>
      obtain ⟨n, b⟩ := thing
      by_cases hn : n = name
      · subst hn
        rw [List.filter_cons_of_neg (by simp), ih]
        split
        · rfl
        · rename_i hother
          rw [List.lookup_cons, beq_false_of_ne hother]
      · rw [List.filter_cons_of_pos (by simpa using hn), List.lookup_cons, List.lookup_cons, ih]
        by_cases hother : other = n
        · subst hother
          simp [hn]
        · simp [beq_false_of_ne hother]

/-- What is done to all things of a name is done to the first one of that name. -/
theorem lookup_map_named (f : β → β) :
    (things.map fun t => if t.1 = name then (t.1, f t.2) else t).lookup other =
      if other = name then (things.lookup name).map f else things.lookup other := by
  induction things with
  | nil => simp
  | cons thing rest ih =>
      obtain ⟨n, b⟩ := thing
      rw [List.map_cons]
      by_cases hn : n = name
      · subst hn
        by_cases hother : other = n
        · subst hother
          simp
        · rw [if_pos rfl, List.lookup_cons, beq_false_of_ne hother, ih, if_neg hother,
            if_neg hother, List.lookup_cons, beq_false_of_ne hother]
      · rw [if_neg hn, List.lookup_cons, ih]
        by_cases hother : other = n
        · subst hother
          simp [hn]
        · simp [List.lookup_cons, beq_false_of_ne hother, beq_false_of_ne (Ne.symm hn)]

end Named

namespace Files

/-- What stands at a location, whatever a folder there holds. -/
inductive Standing where
  /-- There is nothing. -/
  | nothing
  /-- There is a folder. -/
  | folder
  /-- There is a file with these bytes. -/
  | file (content : List UInt8)
  /-- There is a link to this path. -/
  | link (target : Path)
deriving DecidableEq, Repr

/-- What stands there tells paths where to go on: it is a folder or a link. -/
def Standing.Leads : Standing → Prop
  | .folder | .link _ => True
  | .nothing | .file _ => False

namespace Entry

/-- What stands at a location below an entry. -/
def standing (e : Entry) (place : Location) : Standing :=
  match e.at? place with
  | .ok (.file content) => .file content
  | .ok (.folder _) => .folder
  | .ok (.link target) => .link target
  | .error _ => .nothing

variable {e : Entry} {es : List (String × Entry)} {place other rest : Location} {name : String}
  {content : List UInt8}

theorem standing_eq_file_iff : e.standing place = .file content ↔
    e.at? place = .ok (.file content) := by
  unfold standing
  cases e.at? place with
  | error c => simp
  | ok e => cases e <;> simp

theorem standing_eq_folder_iff : e.standing place = .folder ↔
    ∃ es, e.at? place = .ok (.folder es) := by
  unfold standing
  cases e.at? place with
  | error c => simp
  | ok e => cases e <;> simp

theorem standing_eq_link_iff {target : Path} : e.standing place = .link target ↔
    e.at? place = .ok (.link target) := by
  unfold standing
  cases e.at? place with
  | error c => simp
  | ok e => cases e <;> simp

theorem standing_eq_nothing_iff : e.standing place = .nothing ↔
    ∃ cause, e.at? place = .error cause := by
  unfold standing
  cases e.at? place with
  | error c => simp
  | ok e => cases e <;> simp

@[simp] theorem standing_file_nil : (file content).standing [] = .file content := rfl

@[simp] theorem standing_folder_nil : (folder es).standing [] = .folder := rfl

/-- Nothing stands below a file. -/
@[simp] theorem standing_file_cons : (file content).standing (name :: rest) = .nothing := rfl

/-- What stands below a folder stands at or below its entry of the first name. -/
theorem standing_folder_cons : (folder es).standing (name :: rest) =
    ((es.lookup name).map (·.standing rest)).getD .nothing := by
  rw [standing, at?]
  cases es.lookup name <;> rfl

/-- What is below a location that is no folder is nothing. -/
theorem standing_folder_cons_of_ne {next : String} (h : (folder es).standing [name] ≠ .folder) :
    (folder es).standing (name :: next :: rest) = .nothing := by
  rw [standing_folder_cons] at h ⊢
  cases hl : es.lookup name with
  | none => rfl
  | some e =>
      rw [hl] at h
      cases e with
      | file content | link target => rfl
      | folder es => exact absurd rfl h

/-- Only a folder has something below it. -/
theorem exists_folder_of_standing (h : e.standing (name :: rest) ≠ .nothing) :
    ∃ es, e = .folder es := by
  cases e with
  | file content | link target => exact absurd rfl h
  | folder es => exact ⟨es, rfl⟩

/-- What stands somewhere stands in a folder. -/
theorem standing_dropLast (hroot : place ≠ []) (h : e.standing place ≠ .nothing) :
    e.standing place.dropLast = .folder := by
  induction place generalizing e with
  | nil => exact absurd rfl hroot
  | cons name rest ih =>
      obtain ⟨es, rfl⟩ := exists_folder_of_standing h
      cases rest with
      | nil => rfl
      | cons next rest =>
          rw [List.dropLast_cons_cons, standing_folder_cons]
          rw [standing_folder_cons] at h
          cases hl : es.lookup name with
          | none =>
              rw [hl] at h
              exact absurd rfl h
          | some e =>
              rw [hl] at h
              exact ih (List.cons_ne_nil _ _) h

/--
**A file that is put into a folder changes what stands at its location only**, as long as no
folder stood there.
-/
theorem standing_put (hroot : place ≠ []) (hparent : e.standing place.dropLast = .folder)
    (hfile : e.standing place ≠ .folder) :
    (e.put place (.file content)).standing other =
      if other = place then .file content else e.standing other := by
  induction place generalizing e other with
  | nil => exact absurd rfl hroot
  | cons name rest ih =>
      have hfolder : ∃ es, e = .folder es := by
        cases rest with
        | nil =>
            obtain ⟨es, hes⟩ := standing_eq_folder_iff.mp hparent
            exact ⟨es, Except.ok.inj hes⟩
        | cons next rest =>
            have hdir : e.standing (name :: (next :: rest).dropLast) ≠ .nothing := by
              rw [← List.dropLast_cons_cons, hparent]
              exact nofun
            exact exists_folder_of_standing hdir
      obtain ⟨es, rfl⟩ := hfolder
      cases other with
      | nil => simp [put]
      | cons n others =>
          rw [put, standing_folder_cons]
          by_cases hn : n = name
          · subst hn
            rw [Named.lookup_alter_self]
            simp only [Option.map_some, Option.getD_some, List.cons.injEq, true_and]
            cases rest with
            | nil =>
                -- below the new file there is nothing, and nothing was there before
                cases others with
                | nil => simp [put]
                | cons next others => simp [put, standing_folder_cons_of_ne hfile]
            | cons next rest =>
                -- the entry of this name is on the way to the file, so it is there
                rw [List.dropLast_cons_cons, standing_folder_cons] at hparent
                rw [standing_folder_cons] at hfile ⊢
                cases hl : es.lookup n with
                | none =>
                    rw [hl] at hparent
                    cases hparent
                | some e =>
                    rw [hl] at hparent hfile
                    exact ih (List.cons_ne_nil _ _) hparent hfile
          · rw [Named.lookup_alter_of_ne hn, if_neg fun h => hn (List.cons.inj h).1,
              standing_folder_cons]

/-- **A file that is erased changes what stands at its location only.** -/
theorem standing_erase (hroot : place ≠ []) (hfile : e.standing place = .file content) :
    (e.erase place).standing other = if other = place then .nothing else e.standing other := by
  induction place generalizing e other with
  | nil => exact absurd rfl hroot
  | cons name rest ih =>
      have hthere : e.standing (name :: rest) ≠ .nothing := by
        rw [hfile]
        exact nofun
      obtain ⟨es, rfl⟩ := exists_folder_of_standing hthere
      cases other with
      | nil => cases rest <;> simp [erase]
      | cons n others =>
          -- the last name is filtered out, a name on the way is changed in its place
          cases rest with
          | nil =>
              rw [erase, standing_folder_cons, Named.lookup_filter_ne]
              by_cases hn : n = name
              · subst hn
                cases others with
                | nil => simp
                | cons next others =>
                    rw [standing_folder_cons_of_ne (by rw [hfile]; exact nofun)]
                    simp
              · rw [if_neg hn, if_neg fun h => hn (List.cons.inj h).1, standing_folder_cons]
          | cons next rest =>
              rw [erase, standing_folder_cons, Named.lookup_map_named]
              by_cases hn : n = name
              · subst hn
                rw [if_pos rfl]
                rw [standing_folder_cons] at hfile ⊢
                cases hl : es.lookup n with
                | none =>
                    rw [hl] at hfile
                    cases hfile
                | some e =>
                    rw [hl] at hfile
                    simpa using ih (List.cons_ne_nil _ _) hfile
              · rw [if_neg hn, if_neg fun h => hn (List.cons.inj h).1, standing_folder_cons]

mutual

/-- No entry at or below this one is a link. -/
def noLinks : Entry → Bool
  | .file _ => true
  | .folder es => noLinksIn es
  | .link _ => false

/-- None at or below some entries of a folder is. -/
def noLinksIn : List (String × Entry) → Bool
  | [] => true
  | (_, e) :: rest => noLinks e && noLinksIn rest

end

theorem noLinks_of_mem {t : String × Entry} (h : noLinksIn es = true) (ht : t ∈ es) :
    t.2.noLinks = true := by
  induction es with
  | nil => cases ht
  | cons first rest ih =>
      rw [noLinksIn, Bool.and_eq_true] at h
      rcases List.mem_cons.mp ht with rfl | ht
      · exact h.1
      · exact ih h.2 ht

theorem standing_ne_link {target : Path} (h : e.noLinks = true) :
    e.standing place ≠ .link target := by
  induction place generalizing e with
  | nil =>
      cases e with
      | file content | folder es => exact nofun
      | link target => cases h
  | cons name rest ih =>
      cases e with
      | file content => exact nofun
      | link target => cases h
      | folder es =>
          rw [standing_folder_cons]
          cases hl : es.lookup name with
          | none => exact nofun
          | some e => exact ih (noLinks_of_mem h (Named.mem_of_lookup hl))

end Entry

namespace Disk

variable {d d' d'' : Disk} {p : Path} {place other : Location} {content : List UInt8}

/-- What stands at a location of a disk. -/
def standing (d : Disk) (place : Location) : Standing := d.top.standing place

/-- There are no links on the disk. -/
def LinkFree (d : Disk) : Prop := ∀ place target, d.standing place ≠ .link target

theorem linkFree_of_noLinks (h : d.top.noLinks = true) : d.LinkFree :=
  fun _ _ => Entry.standing_ne_link h

/--
One disk became another, and only at some locations: elsewhere there is what there was, the
folders and the links are the same, and so is what the system denies and where it fails.
-/
structure Changed (touched : Location → Prop) (d d' : Disk) : Prop where
  /-- The working folder is the same. -/
  working : d'.working = d.working
  /-- What is denied stays denied, and nothing else. -/
  denies : d'.denies = d.denies
  /-- Writes break off where they did. -/
  breaksOff : d'.breaksOff = d.breaksOff
  /-- No folder appears or goes away. -/
  folders : ∀ place, d'.standing place = .folder ↔ d.standing place = .folder
  /-- No link does. -/
  links : ∀ place target, d'.standing place = .link target ↔ d.standing place = .link target
  /-- Elsewhere nothing changes. -/
  elsewhere : ∀ place, ¬ touched place → d'.standing place = d.standing place

theorem Changed.refl {touched : Location → Prop} : Changed touched d d :=
  ⟨rfl, rfl, rfl, fun _ => .rfl, fun _ _ => .rfl, fun _ _ => rfl⟩

theorem Changed.mono {touched touched' : Location → Prop} (h : Changed touched d d')
    (hsub : ∀ place, touched place → touched' place) : Changed touched' d d' :=
  { h with elsewhere := fun place hp => h.elsewhere place fun ht => hp (hsub place ht) }

theorem Changed.trans {touched : Location → Prop} (h : Changed touched d d')
    (h' : Changed touched d' d'') : Changed touched d d'' where
  working := h'.working.trans h.working
  denies := h'.denies.trans h.denies
  breaksOff := h'.breaksOff.trans h.breaksOff
  folders place := (h'.folders place).trans (h.folders place)
  links place target := (h'.links place target).trans (h.links place target)
  elsewhere place hp := (h'.elsewhere place hp).trans (h.elsewhere place hp)

theorem Changed.linkFree {touched : Location → Prop} (h : Changed touched d d')
    (hfree : d.LinkFree) : d'.LinkFree :=
  fun place target hlink => hfree place target ((h.links place target).mp hlink)

/-- A disk that differs at one place only, where paths end on both. -/
theorem changed_of_standing {new : Standing} (hworking : d'.working = d.working)
    (hdenies : d'.denies = d.denies) (hbreaksOff : d'.breaksOff = d.breaksOff)
    (hold : ¬ (d.standing place).Leads) (hnew : ¬ new.Leads)
    (h : ∀ other, d'.standing other = if other = place then new else d.standing other) :
    Changed (· = place) d d' ∧ d'.standing place = new := by
  have hsame : ∀ other (s : Standing), s.Leads →
      (d'.standing other = s ↔ d.standing other = s) := by
    intro other s hs
    rw [h]
    split
    · rename_i heq
      exact iff_of_false (fun h => hnew (h ▸ hs)) (fun h => hold (heq ▸ h ▸ hs))
    · rfl
  refine ⟨⟨hworking, hdenies, hbreaksOff, fun other => hsame other _ trivial,
    fun other _ => hsame other _ trivial, fun other hne => ?_⟩, ?_⟩
  · rw [h, if_neg hne]
  · rw [h, if_pos rfl]

/-- A file at one place is all that is new. -/
theorem changed_holding (hroot : place ≠ []) (hparent : d.standing place.dropLast = .folder)
    (hfile : ¬ (d.standing place).Leads) :
    Changed (· = place) d (d.holding place content) ∧
      (d.holding place content).standing place = .file content :=
  changed_of_standing rfl rfl rfl hfile id fun _ =>
    Entry.standing_put hroot hparent fun hfolder => hfile (by rw [standing, hfolder]; trivial)

/-- A file at one place is all that is gone. -/
theorem changed_lacking (hroot : place ≠ []) (hfile : d.standing place = .file content) :
    Changed (· = place) d (d.lacking place) ∧ (d.lacking place).standing place = .nothing :=
  changed_of_standing rfl rfl rfl (hfile ▸ id) id fun _ => Entry.standing_erase hroot hfile

/-! ## Reading, writing and removing -/

theorem permit_eq_ok_iff {access : Access} :
    d.permit access place = .ok () ↔ d.denies access place = none := by
  unfold permit
  cases d.denies access place <;> simp

/-- What is read is a file at the place of the path. -/
theorem read_eq_ok_iff : d.read p = .ok content ↔
    ∃ place, d.locate p = .ok place ∧ d.standing place = .file content ∧
      d.denies .read place = none := by
  unfold read standing
  rw [bind_eq_ok]
  refine exists_congr fun place => and_congr_right fun _ => ?_
  rw [bind_eq_ok, Entry.standing_eq_file_iff]
  cases d.top.at? place with
  | error c => simp
  | ok e =>
      cases e with
      | folder es | link target => simp [throw, throwThe, MonadExceptOf.throw]
      | file bytes =>
          simp only [Except.ok.injEq, exists_eq_left', Entry.file.injEq]
          rw [bind_eq_ok]
          simp only [pure_eq_ok]
          constructor
          · rintro ⟨_, hp, rfl⟩
            exact ⟨rfl, permit_eq_ok_iff.mp hp⟩
          · rintro ⟨rfl, hp⟩
            exact ⟨(), permit_eq_ok_iff.mpr hp, rfl⟩

/-- Something stands at a place that a path leads to exactly if the path is occupied. -/
theorem occupied_of_standing (h : d.locate p = .ok place) (hs : d.standing place ≠ .nothing)
    {b : Bool} (hb : d.occupied p = .ok b) : b = true := by
  unfold occupied holds find at hb
  rw [bind_eq_of_ok h] at hb
  cases ha : d.top.at? place with
  | error c => exact absurd (Entry.standing_eq_nothing_iff.mpr ⟨c, ha⟩) hs
  | ok e =>
      rw [ha] at hb
      exact (Except.ok.inj hb).symm

/-- Where a file can be written paths end, and there is a folder to hold it. -/
theorem of_writable (h : d.writable p = .ok place) :
    d.locate p = .ok place ∧ ¬ (d.standing place).Leads ∧
      (place ≠ [] → d.standing place.dropLast = .folder) := by
  unfold writable at h
  obtain ⟨place', hl, h⟩ := bind_eq_ok.mp h
  cases ha : d.top.at? place' with
  | ok e =>
      rw [ha] at h
      cases e with
      | folder es | link target => cases h
      | file content =>
          obtain ⟨_, _, h⟩ := bind_eq_ok.mp h
          obtain rfl := pure_eq_ok.mp h
          have hfile : d.standing place' = .file content := Entry.standing_eq_file_iff.mpr ha
          refine ⟨hl, hfile ▸ id, fun hroot => Entry.standing_dropLast hroot ?_⟩
          exact fun hn => nomatch hfile.symm.trans hn
  | error c =>
      rw [ha] at h
      have hnothing : d.standing place' = .nothing := Entry.standing_eq_nothing_iff.mpr ⟨c, ha⟩
      cases c with
      | missing =>
          obtain ⟨e, he, h⟩ := bind_eq_ok.mp h
          cases e with
          | file content | link target => cases h
          | folder es =>
              obtain ⟨_, _, h⟩ := bind_eq_ok.mp h
              obtain rfl := pure_eq_ok.mp h
              have hparent : d.standing place'.dropLast = .folder :=
                Entry.standing_eq_folder_iff.mpr ⟨es, he⟩
              exact ⟨hl, hnothing ▸ id, fun _ => hparent⟩
      | notAFolder | isAFolder | nameTooLong | other => cases h

/-- A write that is done has put a file at the place of the path. -/
theorem of_write_done (h : d.write p content = .done d') :
    ∃ place, d.writable p = .ok place ∧ d' = d.holding place content := by
  unfold write at h
  split at h
  · cases h
  · rename_i place hw
    split at h
    · exact ⟨place, hw, (Write.done.inj h).symm⟩
    · cases h

/-- A write that breaks off has put a file there, too, with a part of the bytes. -/
theorem of_write_brokenOff {cause : Cause} (h : d.write p content = .brokenOff d' cause) :
    ∃ place count, d.writable p = .ok place ∧ d' = d.holding place (content.take count) := by
  unfold write at h
  split at h
  · cases h
  · rename_i place hw
    split at h
    · cases h
    · rename_i count cause _
      exact ⟨place, count, hw, (Write.brokenOff.inj h).1.symm⟩

/-- What is removed stands at the place that the path leads to but for a link at its end, and is no
folder. -/
theorem of_remove (h : d.remove p = .ok d') :
    ∃ place, d.lead false p = .ok place ∧ d.standing place ≠ .nothing ∧
      d.standing place ≠ .folder ∧ d' = d.lacking place := by
  unfold remove at h
  obtain ⟨place, hl, h⟩ := bind_eq_ok.mp h
  obtain ⟨e, he, h⟩ := bind_eq_ok.mp h
  cases e with
  | folder es => cases h
  | file content =>
      obtain ⟨_, _, h⟩ := bind_eq_ok.mp h
      have hs : d.standing place = .file content := Entry.standing_eq_file_iff.mpr he
      exact ⟨place, hl, hs ▸ nofun, hs ▸ nofun, (pure_eq_ok.mp h).symm⟩
  | link target =>
      obtain ⟨_, _, h⟩ := bind_eq_ok.mp h
      have hs : d.standing place = .link target := Entry.standing_eq_link_iff.mpr he
      exact ⟨place, hl, hs ▸ nofun, hs ▸ nofun, (pure_eq_ok.mp h).symm⟩

end Disk

end Files

end ScriptTypes
