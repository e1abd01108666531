import ScriptTypes.Proofs.FileRun
import ScriptTypes.Proofs.Search

/-!
# What becomes of a plan

Up to its plan the migration of a file depends on what is read, and on nothing else of the disk.
What then becomes of the plan depends on what stands at the place of the target, and on what the
system refuses there. Without links a target stands beside its file, so its place is in a folder,
and its path leads there unless it is too long.
-/

namespace ScriptTypes

open Files

namespace Files

/-! ## Places in a folder -/

section

variable {e : Entry} {d d' : Disk} {p : Path} {folder : Location} {name : String}
  {touched : Location → Prop}

/-- A name under which nothing stands in a folder is missing, or too long to be looked for. -/
theorem Entry.at?_of_nothing (hfolder : e.standing folder = .folder)
    (hnothing : e.standing (folder ++ [name]) = .nothing) : e.at? (folder ++ [name]) =
      .error (if name.utf8ByteSize ≤ maxNameBytes then .missing else .nameTooLong) := by
  obtain ⟨es, hes⟩ := Entry.standing_eq_folder_iff.mp hfolder
  obtain ⟨cause, hcause⟩ := Entry.standing_eq_nothing_iff.mp hnothing
  rw [Entry.at?_append, bind_eq_of_ok hes, Entry.at?] at hcause ⊢
  cases hl : es.lookup name with
  | none => rfl
  | some e =>
      rw [hl] at hcause
      cases hcause

namespace Disk

theorem occupied_of_long (h : maxPathBytes < p.text.utf8ByteSize) :
    d.occupied p = .error .nameTooLong := by
  have hl : d.locate p = .error .nameTooLong := lead_of_long h
  unfold occupied holds find
  rw [hl]
  rfl

/-- Two paths that lead to one place are both occupied or both not. -/
theorem occupied_congr {q : Path} (h : d.locate q = d.locate p) : d.occupied q = d.occupied p := by
  unfold occupied holds find
  rw [h]

/-- A path is occupied if something stands at its place. -/
theorem occupied_iff {place : Location} (hl : d.locate p = .ok place) :
    d.occupied p = .ok true ↔ d.standing place ≠ .nothing := by
  unfold occupied holds find
  rw [bind_eq_of_ok hl]
  cases hat : d.top.at? place with
  | error cause =>
      have hnothing : d.standing place = .nothing := Entry.standing_eq_nothing_iff.mpr ⟨cause, hat⟩
      refine iff_of_false ?_ (not_not_intro hnothing)
      dsimp only
      split <;> exact nofun
  | ok e =>
      refine iff_of_true rfl fun hnothing => ?_
      obtain ⟨cause, herror⟩ := Entry.standing_eq_nothing_iff.mp hnothing
      cases hat.symm.trans herror

/-- What is found at a path to a place in a folder. -/
theorem occupied_eq (hl : d.locate p = .ok (folder ++ [name]))
    (hfolder : d.standing folder = .folder) : d.occupied p =
      if d.standing (folder ++ [name]) ≠ .nothing then .ok true
      else if name.utf8ByteSize ≤ maxNameBytes then .ok false
      else .error .nameTooLong := by
  unfold occupied holds find
  rw [bind_eq_of_ok hl]
  by_cases hnothing : d.standing (folder ++ [name]) = .nothing
  · rw [if_neg (not_not_intro hnothing), Entry.at?_of_nothing hfolder hnothing]
    split_ifs <;> rfl
  · rw [if_pos hnothing]
    cases hat : d.top.at? (folder ++ [name]) with
    | error cause => exact absurd (Entry.standing_eq_nothing_iff.mpr ⟨cause, hat⟩) hnothing
    | ok e => rfl

/-- What can be written at a path to a place in a folder. -/
theorem writable_eq (hl : d.locate p = .ok (folder ++ [name]))
    (hfolder : d.standing folder = .folder) : d.writable p =
      match d.standing (folder ++ [name]) with
      | .folder => .error .isAFolder
      | .link _ => .error .tooManyLinks
      | .file _ => d.permit .write (folder ++ [name]) >>= fun _ => .ok (folder ++ [name])
      | .nothing =>
        if name.utf8ByteSize ≤ maxNameBytes then
          d.permit .write (folder ++ [name]) >>= fun _ => .ok (folder ++ [name])
        else .error .nameTooLong := by
  unfold writable
  rw [bind_eq_of_ok hl]
  cases hs : d.standing (folder ++ [name]) with
  | folder =>
      obtain ⟨es, hat⟩ := Entry.standing_eq_folder_iff.mp hs
      rw [hat]
      rfl
  | file content =>
      rw [Entry.standing_eq_file_iff.mp hs]
      rfl
  | link target =>
      rw [Entry.standing_eq_link_iff.mp hs]
      rfl
  | nothing =>
      obtain ⟨es, hes⟩ := Entry.standing_eq_folder_iff.mp hfolder
      rw [Entry.at?_of_nothing hfolder hs, List.dropLast_concat, hes]
      split_ifs <;> rfl

/-- A path to a place in a folder is as occupied as it was if the same stands there. -/
theorem Changed.occupied_eq (h : Changed touched d d') (hl : d.locate p = .ok (folder ++ [name]))
    (hfolder : d.standing folder = .folder)
    (hsame : d'.standing (folder ++ [name]) = d.standing (folder ++ [name])) :
    d'.occupied p = d.occupied p := by
  rw [Disk.occupied_eq hl hfolder,
    Disk.occupied_eq (h.locate_iff.mpr hl) ((h.folders folder).mpr hfolder), hsame]

/-- And what could be written there can be written. -/
theorem Changed.writable_eq (h : Changed touched d d') (hl : d.locate p = .ok (folder ++ [name]))
    (hfolder : d.standing folder = .folder)
    (hsame : d'.standing (folder ++ [name]) = d.standing (folder ++ [name])) :
    d'.writable p = d.writable p := by
  have hpermit : d'.permit .write (folder ++ [name]) = d.permit .write (folder ++ [name]) := by
    unfold permit
    rw [h.denies]
  rw [Disk.writable_eq hl hfolder,
    Disk.writable_eq (h.locate_iff.mpr hl) ((h.folders folder).mpr hfolder), hsame, hpermit]

end Disk

end

end Files

variable {parse : Parser} {options options' : MigrationOptions} {disk disk' : Disk}
  {path : Path} {place : Location}

/-! ## Places of sources -/

/-- Whether the name of a place is that of a source. -/
def IsSourcePlace (place : Location) : Prop := Dialect.isSource ⟨.relative, place⟩ = true

theorem isSourcePlace_concat {folder : Location} {p : Path} :
    IsSourcePlace (folder ++ [p.name]) ↔ Dialect.isSource p = true := by
  have hname : Path.name ⟨.relative, folder ++ [p.name]⟩ = p.name := by simp [Path.name]
  unfold IsSourcePlace
  rw [Dialect.isSource_congr hname]

/-- A source leads to the place of a source. -/
theorem isSourcePlace_of_locate (hfree : disk.LinkFree) (hsource : Dialect.isSource path = true)
    (hl : disk.locate path = .ok place) : IsSourcePlace place := by
  obtain ⟨folder, _, _, rfl⟩ :=
    Disk.exists_folder_of_locate hfree (Dialect.name_ne_of_isSource hsource) hl
  exact isSourcePlace_concat.mpr hsource

/-- A target does not. -/
theorem Plan.For.not_isSourcePlace {plan : Plan} (hfree : disk'.LinkFree)
    (h : plan.For parse options disk path) (hl : disk'.locate plan.target = .ok place) :
    ¬ IsSourcePlace place := by
  obtain ⟨folder, _, _, rfl⟩ :=
    Disk.exists_folder_of_locate hfree (Dialect.name_ne_of_target h.target) hl
  rw [isSourcePlace_concat, Dialect.not_isSource_target h.isSource h.target]
  exact Bool.false_ne_true

/-- Of the places of sources only that of the file itself may change. -/
theorem Touched.source (hfree : disk.LinkFree) (h : Touched parse options disk path place)
    (hplace : IsSourcePlace place) : disk.locate path = .ok place := by
  obtain ⟨_, plan, hplan, htarget | ⟨_, hpath⟩⟩ := h
  · exact absurd hplace (hplan.not_isSourcePlace hfree htarget)
  · exact hpath

/-- Of the other places only that of its target may change. -/
theorem Touched.target (hfree : disk.LinkFree) (h : Touched parse options disk path place)
    (hplace : ¬ IsSourcePlace place) :
    ∃ plan : Plan, plan.Clear parse options disk path ∧ disk.locate plan.target = .ok place := by
  obtain ⟨_, plan, hplan, htarget | ⟨_, hpath⟩⟩ := h
  · exact ⟨plan, hplan, htarget⟩
  · exact absurd (isSourcePlace_of_locate hfree hplan.isSource hpath) hplace

/-! ## Plans -/

namespace Plan

variable {plan : Plan}

/-- The target of a plan is beside the file: its path leads into that folder, or is too long. -/
theorem For.locate_target (hfree : disk.LinkFree) (h : plan.For parse options disk path) :
    maxPathBytes < plan.target.text.utf8ByteSize ∨
      ∃ folder, disk.standing folder = .folder ∧
        disk.locate plan.target = .ok (folder ++ [plan.target.name]) := by
  obtain ⟨_, place, content, _, hl, hs, _⟩ := readSource_eq_ok_iff.mp h.read
  have hname := Dialect.name_ne_of_isSource h.isSource
  obtain ⟨folder, hway, henter, rfl⟩ := Disk.exists_folder_of_locate hfree hname hl
  have htarget := Dialect.name_ne_of_target h.target
  obtain ⟨d, _, _, heq⟩ := Dialect.target_eq_ok_iff.mp h.target
  have hanchor : plan.target.anchor = path.anchor := by rw [heq]
  have hparts : plan.target.parts = path.parts.dropLast ++ [plan.target.name] := by
    rw [heq, Path.name]
    simp
  by_cases hlong : maxPathBytes < plan.target.text.utf8ByteSize
  · exact .inl hlong
  · -- the file stands in that folder
    refine .inr ⟨folder, (Disk.enter_eq_ok_iff.mp henter).1, (Disk.locate_eq_ok_iff hfree).mpr ?_⟩
    refine ⟨Nat.le_of_not_lt hlong, ?_⟩
    rw [hanchor, hparts]
    exact (Disk.way_concat htarget.2).mpr ⟨folder, hway, henter, rfl⟩

/-- A file has the same plan wherever the same is read of it. -/
theorem For.congr (h : plan.For parse options disk path)
    (hread : readSource disk' path = readSource disk path)
    (hskip : options'.skipInvalid = options.skipInvalid) :
    plan.For parse options' disk' path where
  read := hread.trans h.read
  annotated := by
    rw [hskip]
    exact h.annotated
  target := h.target

/-- What is left to do for a file that has a plan. -/
def finish (plan : Plan) (options : MigrationOptions) (disk : Disk) (path : Path) :
    Work FileReport :=
  let work := finishFile options disk path plan.target plan.source plan.annotated plan.language
  { work with log := plan.log ++ work.log }

/-- A file that has a plan is migrated by what is left to do. -/
theorem For.migrateFile_eq (h : plan.For parse options disk path) :
    migrateFile parse options disk path = plan.finish options disk path := by
  obtain ⟨dialect, hd, ha⟩ := h.annotated
  unfold migrateFile Work.andThen
  rw [h.read]
  dsimp only
  rw [hd]
  dsimp only
  unfold migrateSource Work.andThen
  rw [ha]
  dsimp only
  rw [h.target]
  rfl

/-- Where nothing stands against a plan the target is written. -/
theorem Clear.finish_eq (h : plan.Clear parse options disk path) (hdry : options.dryRun = false) :
    plan.finish options disk path =
      let work := writeTarget options disk path plan.target plan.annotated.source
        (plan.report path)
      { work with log := plan.log ++ work.log } := by
  obtain ⟨occupied, hocc, hover⟩ := h.occupied
  have hfree : ¬ (occupied && !options.overwrite) = true := by simpa using hover
  unfold finish finishFile
  rw [hocc]
  dsimp only
  rw [if_neg hfree, hdry, if_neg Bool.false_ne_true]
  rfl

/-- A target that can be written stands there in the end, in whole or in part. -/
theorem Clear.stands (hfree : disk.LinkFree) (h : plan.Clear parse options disk path)
    (hdry : options.dryRun = false) (hw : disk.writable plan.target = .ok place) :
    ∃ content, (migrateFile parse options disk path).disk.standing place = .file content := by
  have hput : ∀ content, disk.locate plan.target = .ok place ∧
      Disk.Changed (· = place) disk (disk.holding place content) ∧
      (disk.holding place content).standing place = .file content := fun _ => h.holding hw
  rw [h.migrateFile_eq, h.finish_eq hdry]
  unfold writeTarget Disk.write
  rw [hw]
  dsimp only
  cases disk.breaksOff place (Utf8.encode plan.annotated.source) with
  | some broken => exact ⟨_, (hput _).2.2⟩
  | none =>
      obtain ⟨hl, hchanged, hs⟩ := hput (Utf8.encode plan.annotated.source)
      dsimp only
      split_ifs
      · cases hr : (disk.holding place (Utf8.encode plan.annotated.source)).remove path with
        | error cause => exact ⟨_, hs⟩
        | ok final =>
            -- the file itself stands elsewhere
            obtain ⟨place', hl', hremoved, _⟩ := h.of_remove hfree hchanged hr
            exact ⟨_, (hremoved.elsewhere place (h.source_ne hfree hl hl').symm).trans hs⟩
      · exact ⟨_, hs⟩

end Plan

/--
**Up to its plan the migration of a file depends on what is read only.** It comes to the same
plan wherever the same is read, or else it ends in the same way and leaves the disk as it is.
-/
theorem migrateFile_congr (hread : readSource disk' path = readSource disk path)
    (hskip : options'.skipInvalid = options.skipInvalid) :
    (∃ plan : Plan, plan.For parse options disk path ∧ plan.For parse options' disk' path) ∨
    ∃ outcome log, migrateFile parse options disk path = ⟨disk, outcome, log⟩ ∧
      migrateFile parse options' disk' path = ⟨disk', outcome, log⟩ := by
  unfold migrateFile
  cases hsource : readSource disk path with
  | error f =>
      rw [hread, hsource]
      right
      split
      · exact ⟨_, _, rfl, rfl⟩
      · exact ⟨_, _, rfl, rfl⟩
      · rename_i h
        cases h
  | ok source =>
      rw [hread, hsource]
      dsimp only
      cases hd : Dialect.ofFile path source with
      | error f => exact .inr ⟨_, _, rfl, rfl⟩
      | ok dialect =>
          unfold Work.andThen migrateSource
          rw [hskip]
          dsimp only
          cases ha : annotateWithFallback parse source dialect.name (!options.skipInvalid) with
          | mk log result =>
              dsimp only
              split
              · exact .inr ⟨_, _, rfl, rfl⟩
              · exact .inr ⟨_, _, rfl, rfl⟩
              · rename_i annotated language
                cases ht : Dialect.target path language with
                | error f => exact .inr ⟨_, _, rfl, rfl⟩
                | ok target =>
                    have hplan : Plan.For parse options disk path
                        ⟨source, annotated, language, target, log⟩ :=
                      ⟨hsource, ⟨dialect, hd, ha⟩, ht⟩
                    exact .inl ⟨_, hplan, hplan.congr hread hskip⟩

end ScriptTypes
