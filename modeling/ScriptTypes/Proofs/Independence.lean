import ScriptTypes.Proofs.Batch
import ScriptTypes.Proofs.Planned

/-!
# The order of the files

The migration of a file has to do with two places, that of the file and that of its target. What
happens elsewhere makes no difference to it, if there are no links by which it might get there. So
files whose places differ can be migrated in any order: each is reported as if it were the only
one, and in the end the same stands everywhere.
-/

namespace ScriptTypes

open Files

/-! ## Disks that differ elsewhere -/

namespace Files.Disk

variable {d d' e e' : Disk} {p : Path} {place : Location} {content : List UInt8}
  {touched : Location → Prop}

/-- The same stands everywhere on two disks, and the system denies the same. -/
def Same (d d' : Disk) : Prop := Changed (fun _ => False) d d'

/-- Two disks that come to have the same at one place differ where they did. -/
theorem Changed.both (h : Changed touched d d') (he : Changed (· = place) d e)
    (he' : Changed (· = place) d' e') (hsame : e'.standing place = e.standing place) :
    Changed touched e e' where
  working := he'.working.trans (h.working.trans he.working.symm)
  denies := he'.denies.trans (h.denies.trans he.denies.symm)
  breaksOff := he'.breaksOff.trans (h.breaksOff.trans he.breaksOff.symm)
  folders other := (he'.folders other).trans ((h.folders other).trans (he.folders other).symm)
  links other target :=
    (he'.links other target).trans ((h.links other target).trans (he.links other target).symm)
  elsewhere other hother := by
    by_cases heq : other = place
    · rw [heq]
      exact hsame
    · rw [he'.elsewhere other heq, he.elsewhere other heq]
      exact h.elsewhere other hother

/-- What is read at a path that leads to a file. -/
theorem read_eq (hl : d.locate p = .ok place) (hs : d.standing place = .file content) :
    d.read p = d.permit .read place >>= fun _ => .ok content := by
  unfold read
  rw [bind_eq_of_ok hl, bind_eq_of_ok (Entry.standing_eq_file_iff.mp hs)]
  rfl

/-- What is left when the file at a path is removed. -/
theorem remove_eq (hfree : d.LinkFree) (hl : d.locate p = .ok place)
    (hs : d.standing place = .file content) :
    d.remove p = d.permit .remove place >>= fun _ => .ok (d.lacking place) := by
  unfold remove
  rw [lead_eq_locate hfree, bind_eq_of_ok hl, bind_eq_of_ok (Entry.standing_eq_file_iff.mp hs)]
  rfl

theorem Changed.permit_eq (h : Changed touched d d') {access : Access} :
    d'.permit access place = d.permit access place := by
  unfold permit
  rw [h.denies]

/-- A write at a place that is the same on two disks does the same on both. -/
theorem Changed.write {folder : Location} {name : String} (h : Changed touched d d')
    (content : List UInt8) (hl : d.locate p = .ok (folder ++ [name]))
    (hfolder : d.standing folder = .folder) (hfree : ¬ touched (folder ++ [name])) :
    (∃ cause, d.write p content = .refused cause ∧ d'.write p content = .refused cause) ∨
    (∃ left left' cause, d.write p content = .brokenOff left cause ∧
      d'.write p content = .brokenOff left' cause ∧ Changed touched left left') ∨
    ∃ left left', d.write p content = .done left ∧ d'.write p content = .done left' ∧
      Changed touched left left' := by
  have hwritable := h.writable_eq hl hfolder (h.elsewhere _ hfree)
  unfold Disk.write
  rw [hwritable]
  cases hw : d.writable p with
  | error cause => exact .inl ⟨cause, rfl, rfl⟩
  | ok place =>
      have hput : ∀ content,
          Changed touched (d.holding place content) (d'.holding place content) := by
        intro content
        obtain ⟨hto, hfile, hparent⟩ := of_writable hw
        obtain ⟨_, hfile', hparent'⟩ := of_writable (hwritable.trans hw)
        obtain rfl := Except.ok.inj (hl.symm.trans hto)
        have hroot : folder ++ [name] ≠ [] := List.concat_ne_nil _ _
        obtain ⟨hchanged, hs⟩ := changed_holding hroot (hparent hroot) hfile
        obtain ⟨hchanged', hs'⟩ := changed_holding hroot (hparent' hroot) hfile'
        exact h.both hchanged hchanged' (hs'.trans hs.symm)
      dsimp only
      rw [h.breaksOff]
      cases d.breaksOff place content with
      | some broken => exact .inr (.inl ⟨_, _, _, rfl, rfl, hput _⟩)
      | none => exact .inr (.inr ⟨_, _, rfl, rfl, hput _⟩)

/-- So does the removal of a file. -/
theorem Changed.remove (hlinks : d.LinkFree) (h : Changed touched d d')
    (hl : d.locate p = .ok place) (hs : d.standing place = .file content) (hroot : place ≠ [])
    (hfree : ¬ touched place) :
    (∃ cause, d.remove p = .error cause ∧ d'.remove p = .error cause) ∨
    ∃ left left', d.remove p = .ok left ∧ d'.remove p = .ok left' ∧
      Changed touched left left' := by
  have hs' : d'.standing place = .file content := (h.elsewhere place hfree).trans hs
  rw [remove_eq hlinks hl hs, remove_eq (h.linkFree hlinks) (h.locate_iff.mpr hl) hs', h.permit_eq]
  cases d.permit .remove place with
  | error cause => exact .inl ⟨cause, rfl, rfl⟩
  | ok _ =>
      obtain ⟨hgone, hnothing⟩ := changed_lacking hroot hs
      obtain ⟨hgone', hnothing'⟩ := changed_lacking hroot hs'
      exact .inr ⟨_, _, rfl, rfl, h.both hgone hgone' (hnothing'.trans hnothing.symm)⟩

end Files.Disk

section

variable {parse : Parser} {options : MigrationOptions} {start disk disk' : Disk}
  {path : Path} {paths order finished : List Path} {touched : Location → Prop}

/-- What is settled is read as before, as long as it is left alone. -/
theorem readSource_of_changed (hsettles : disk.Settles path)
    (h : Disk.Changed touched disk disk')
    (hfree : ∀ place, disk.locate path = .ok place → ¬ touched place) :
    readSource disk' path = readSource disk path := by
  have hread : disk'.read path = disk.read path := by
    rcases hsettles with hlong | ⟨place, content, hl, hs⟩
    · have hl : ∀ d : Disk, d.locate path = .error .nameTooLong := fun _ => Disk.lead_of_long hlong
      unfold Disk.read
      rw [hl, hl]
      rfl
    · have hl' : disk'.locate path = .ok place := h.locate_iff.mpr hl
      have hs' : disk'.standing place = .file content :=
        (h.elsewhere place (hfree place hl)).trans hs
      rw [Disk.read_eq hl hs, Disk.read_eq hl' hs', h.permit_eq]
  unfold readSource
  rw [hread]

/-! ## The places of a file -/

/-- The places that the migration of a file has to do with: that of the file and, if it has a
plan, that of its target. -/
def Own (parse : Parser) (options : MigrationOptions) (disk : Disk) (path : Path)
    (place : Location) : Prop :=
  disk.locate path = .ok place ∨
    ∃ plan : Plan, plan.For parse options disk path ∧ disk.locate plan.target = .ok place

/-- What the migration of a file changes is at its own places. -/
theorem Touched.own {place : Location} (h : Touched parse options disk path place) :
    Own parse options disk path place := by
  obtain ⟨_, plan, hplan, htarget | ⟨_, hpath⟩⟩ := h
  · exact .inr ⟨plan, hplan.toFor, htarget⟩
  · exact .inl hpath

/-- A file has the same places as before, as long as it is left alone. -/
theorem Own.of_changed {place : Location} (hsettles : disk.Settles path)
    (h : Disk.Changed touched disk disk')
    (hfree : ∀ place, Own parse options disk path place → ¬ touched place)
    (hown : Own parse options disk' path place) : Own parse options disk path place := by
  have hread := readSource_of_changed hsettles h fun place hl => hfree place (.inl hl)
  rcases hown with hpath | ⟨plan, hplan, htarget⟩
  · exact .inl (h.locate_iff.mp hpath)
  · exact .inr ⟨plan, hplan.congr hread.symm rfl, h.locate_iff.mp htarget⟩

/-- What is told of work: what it gives or the failure in its place, and what was logged. -/
def Work.told {α : Type} (work : Work α) : Logged α := ⟨work.log, work.outcome⟩

/-- What is written for a plan is the same if something happened elsewhere. -/
theorem writeTarget_of_changed {plan : Plan} {folder : Location} {text : String}
    {report : FileReport} (hlinks : disk.LinkFree) (hplan : plan.For parse options disk path)
    (h : Disk.Changed touched disk disk')
    (hfree : ∀ place, Own parse options disk path place → ¬ touched place)
    (hfolder : disk.standing folder = .folder)
    (hl : disk.locate plan.target = .ok (folder ++ [plan.target.name])) :
    (writeTarget options disk' path plan.target text report).told =
        (writeTarget options disk path plan.target text report).told ∧
      Disk.Changed touched (writeTarget options disk path plan.target text report).disk
        (writeTarget options disk' path plan.target text report).disk := by
  have hwrite := h.write (Utf8.encode text) hl hfolder (hfree _ (.inr ⟨plan, hplan, hl⟩))
  unfold writeTarget
  rcases hwrite with ⟨cause, hw, hw'⟩ | ⟨left, left', cause, hw, hw', hleft⟩ |
    ⟨left, left', hw, hw', hleft⟩
  · rw [hw, hw']
    exact ⟨rfl, h⟩
  · rw [hw, hw']
    exact ⟨rfl, hleft⟩
  · rw [hw, hw']
    dsimp only
    split_ifs
    · -- the file itself still stands there, and goes from both disks or from neither
      obtain ⟨_, source, content, _, hlocate, hs, _⟩ := readSource_eq_ok_iff.mp hplan.read
      obtain ⟨place, htarget, hchanged, _⟩ := hplan.of_write_done hw
      have hname := (Dialect.name_ne_of_isSource hplan.isSource).1
      have hroot := Disk.ne_nil_of_lead hname hlocate (hs ▸ nofun)
      have hs' : left.standing source = .file content :=
        (hchanged.elsewhere source (hplan.source_ne hlinks htarget hlocate)).trans hs
      rcases hleft.remove (hchanged.linkFree hlinks) (hchanged.locate_iff.mpr hlocate) hs' hroot
          (hfree source (.inl hlocate)) with ⟨cause, hr, hr'⟩ | ⟨final, final', hr, hr', hfinal⟩
      · rw [hr, hr']
        exact ⟨rfl, hleft⟩
      · rw [hr, hr']
        exact ⟨rfl, hfinal⟩
    · exact ⟨rfl, hleft⟩

/-- What is left to do for a plan is the same if something happened elsewhere. -/
theorem Plan.finish_of_changed {plan : Plan} (hlinks : disk.LinkFree)
    (hplan : plan.For parse options disk path) (h : Disk.Changed touched disk disk')
    (hfree : ∀ place, Own parse options disk path place → ¬ touched place) :
    (plan.finish options disk' path).told = (plan.finish options disk path).told ∧
      Disk.Changed touched (plan.finish options disk path).disk
        (plan.finish options disk' path).disk := by
  unfold finish finishFile
  rcases hplan.locate_target hlinks with hlong | ⟨folder, hfolder, hl⟩
  · rw [Disk.occupied_of_long hlong, Disk.occupied_of_long hlong]
    exact ⟨rfl, h⟩
  · have hsame := h.elsewhere _ (hfree _ (.inr ⟨plan, hplan, hl⟩))
    rw [h.occupied_eq hl hfolder hsame]
    cases disk.occupied plan.target with
    | error cause => exact ⟨rfl, h⟩
    | ok occupied =>
        dsimp only
        split_ifs
        · exact ⟨rfl, h⟩
        · exact ⟨rfl, h⟩
        · obtain ⟨htold, hdisk⟩ := writeTarget_of_changed hlinks hplan h hfree hfolder hl
          obtain ⟨hlog, houtcome⟩ := Logged.mk.inj htold
          exact ⟨by unfold Work.told; dsimp only; rw [hlog, houtcome], hdisk⟩

/--
**What happens elsewhere makes no difference to the migration of a file** if there are no links,
neither to what is told of it nor to what it does: the disks differ afterwards where they did
before.
-/
theorem migrateFile_of_changed (hlinks : disk.LinkFree) (hsettles : disk.Settles path)
    (h : Disk.Changed touched disk disk')
    (hfree : ∀ place, Own parse options disk path place → ¬ touched place) :
    (migrateFile parse options disk' path).told = (migrateFile parse options disk path).told ∧
      Disk.Changed touched (migrateFile parse options disk path).disk
        (migrateFile parse options disk' path).disk := by
  have hread := readSource_of_changed hsettles h fun place hl => hfree place (.inl hl)
  rcases migrateFile_congr hread rfl with ⟨plan, hplan, hplan'⟩ | ⟨outcome, log, heq, heq'⟩
  · rw [hplan.migrateFile_eq, hplan'.migrateFile_eq]
    exact Plan.finish_of_changed hlinks hplan h hfree
  · rw [heq, heq']
    exact ⟨rfl, h⟩

/-! ## Files that have nothing to do with each other -/

/-- Two files have no place in common. -/
def Unrelated (parse : Parser) (options : MigrationOptions) (disk : Disk) (path path' : Path) :
    Prop :=
  ∀ place, Own parse options disk path place → ¬ Own parse options disk path' place

theorem Unrelated.symm {path' : Path} (h : Unrelated parse options disk path path') :
    Unrelated parse options disk path' path :=
  fun place hown' hown => h place hown hown'

/-- The targets that two files are about to have are not at one place. -/
def TargetsApart (parse : Parser) (options : MigrationOptions) (disk : Disk)
    (path path' : Path) : Prop :=
  ∀ plan plan' : Plan, plan.For parse options disk path → plan'.For parse options disk path' →
    disk.Apart plan.target plan'.target

/-- Sources that are files, no two of them one file, and no two targets at one place. -/
structure Independent (parse : Parser) (options : MigrationOptions) (disk : Disk)
    (paths : List Path) : Prop where
  /-- Each path is that of a source. -/
  isSource : ∀ path ∈ paths, Dialect.isSource path = true
  /-- Each path leads to a file, or nowhere because it is too long. -/
  settles : ∀ path ∈ paths, disk.Settles path
  /-- Two paths lead to two files. -/
  apart : paths.Pairwise disk.Apart
  /-- Two files have two targets. -/
  targets : paths.Pairwise (TargetsApart parse options disk)

/-- What a search finds is independent if no two targets are at one place. -/
theorem Independent.of_sources {root : Path} (hproper : disk.Proper) (hlinks : disk.LinkFree)
    (hfound : (sources disk root).result = .ok paths)
    (htargets : paths.Pairwise (TargetsApart parse options disk)) :
    Independent parse options disk paths where
  isSource _ hpath := Disk.isSource_of_mem_sources hfound hpath
  settles _ hpath := Disk.settles_of_mem_sources hproper hlinks hfound hpath
  apart := Disk.pairwise_apart_of_sources hproper hlinks hfound
  targets := htargets

/-! ## Steps in any order -/

/-- Files that are migrated in some order, none of which stops the others. -/
structure Pool where
  /-- The disk afterwards. -/
  disk : Disk
  /-- What is told of each file, in the order in which they are migrated. -/
  told : List (Path × Logged FileReport)

/-- Migrates files one after the other, whatever becomes of each. -/
def migrateEach (parse : Parser) (options : MigrationOptions) (disk : Disk) : List Path → Pool
  | [] => ⟨disk, []⟩
  | path :: paths =>
    let first := migrateFile parse options disk path
    let others := migrateEach parse options first.disk paths
    ⟨others.disk, (path, first.told) :: others.told⟩

/-- The reports of a pool in an order of the files, which need not be that of the pool; the first
failure in that order stands for them all. -/
def Pool.reports (pool : Pool) (paths : List Path) : Except Fault (List FileReport) :=
  (paths.filterMap fun path => pool.told.lookup path).mapM (·.result)

/--
A disk without links on which some files have been migrated, whatever the order was: at their places
there is what each of them alone would have left there, and elsewhere what there was.
-/
structure Reached (parse : Parser) (options : MigrationOptions) (start : Disk)
    (finished : List Path) (disk : Disk) : Prop where
  /-- There were no links. -/
  free : start.LinkFree
  /-- Elsewhere nothing changed. -/
  changed : Disk.Changed
    (fun place => ∃ path ∈ finished, Own parse options start path place) start disk
  /-- At the places of a file there is what it leaves there. -/
  own : ∀ path ∈ finished, ∀ place, Own parse options start path place →
    disk.standing place = (migrateFile parse options start path).disk.standing place

namespace Reached

theorem refl (hlinks : start.LinkFree) : Reached parse options start [] start :=
  ⟨hlinks, .refl, fun _ hpath => nomatch hpath⟩

/-- **One more file is told as if it were the only one**, and its places are then as it alone
would have left them. -/
theorem step (h : Reached parse options start finished disk) (hsettles : start.Settles path)
    (hfree : ∀ other ∈ finished, Unrelated parse options start other path) :
    (migrateFile parse options disk path).told = (migrateFile parse options start path).told ∧
      Reached parse options start (finished ++ [path])
        (migrateFile parse options disk path).disk := by
  have haway : ∀ place, Own parse options start path place →
      ¬ ∃ other ∈ finished, Own parse options start other place := by
    intro place hown hother
    obtain ⟨other, hmem, hother⟩ := hother
    exact hfree other hmem place hother hown
  obtain ⟨htold, hdisk⟩ := migrateFile_of_changed h.free hsettles h.changed haway
  refine ⟨htold, h.free, ?_, ?_⟩
  · have hrun : FileRun parse options start path (migrateFile parse options start path) :=
      fileRun_migrateFile
    have hchanged := hrun.changed fun _ => h.free
    refine Disk.Changed.trans (hchanged.mono fun place htouched => ?_)
      (hdisk.mono fun place hplace => ?_)
    · exact ⟨path, List.mem_append_right _ (List.mem_singleton_self _), htouched.own⟩
    · obtain ⟨other, hmem, hother⟩ := hplace
      exact ⟨other, List.mem_append_left _ hmem, hother⟩
  · intro other hmem place hown
    rcases List.mem_append.mp hmem with hfinished | hlast
    · -- the places of the files before it are none of its own
      have hrun : FileRun parse options disk path (migrateFile parse options disk path) :=
        fileRun_migrateFile
      rw [← h.own other hfinished place hown]
      have hchanged := hrun.changed fun _ => h.changed.linkFree h.free
      refine hchanged.elsewhere place fun htouched => ?_
      have hback := htouched.own.of_changed hsettles h.changed haway
      exact hfree other hfinished place hown hback
    · obtain rfl := List.mem_singleton.mp hlast
      exact hdisk.elsewhere place (haway place hown)

/-- Two disks on which the same files have been migrated are the same. -/
theorem same {finished' : List Path} (h : Reached parse options start finished disk)
    (h' : Reached parse options start finished' disk')
    (hsame : ∀ path, path ∈ finished' ↔ path ∈ finished) : disk.Same disk' where
  working := h'.changed.working.trans h.changed.working.symm
  denies := h'.changed.denies.trans h.changed.denies.symm
  breaksOff := h'.changed.breaksOff.trans h.changed.breaksOff.symm
  folders place := (h'.changed.folders place).trans (h.changed.folders place).symm
  links place target := (h'.changed.links place target).trans (h.changed.links place target).symm
  elsewhere place _ := by
    by_cases hplace : ∃ path ∈ finished, Own parse options start path place
    · obtain ⟨path, hmem, hown⟩ := hplace
      rw [h.own path hmem place hown, h'.own path ((hsame path).mpr hmem) place hown]
    · have hplace' : ¬ ∃ path ∈ finished', Own parse options start path place := by
        intro hother
        obtain ⟨path, hmem, hown⟩ := hother
        exact hplace ⟨path, (hsame path).mp hmem, hown⟩
      rw [h.changed.elsewhere place hplace, h'.changed.elsewhere place hplace']

/-- **Files that have nothing to do with each other are told as if each were the only one.** -/
theorem run (h : Reached parse options start finished disk)
    (hsettles : ∀ path ∈ order, start.Settles path)
    (hfree : ∀ other ∈ finished, ∀ path ∈ order, Unrelated parse options start other path)
    (hpairs : order.Pairwise (Unrelated parse options start)) :
    (migrateEach parse options disk order).told =
        order.map (fun path => (path, (migrateFile parse options start path).told)) ∧
      Reached parse options start (finished ++ order)
        (migrateEach parse options disk order).disk := by
  induction order generalizing disk finished with
  | nil =>
      rw [List.append_nil]
      exact ⟨rfl, h⟩
  | cons path order ih =>
      obtain ⟨hfirst, hpairs⟩ := List.pairwise_cons.mp hpairs
      obtain ⟨htold, hstep⟩ := h.step (hsettles path List.mem_cons_self) fun other hother =>
        hfree other hother path List.mem_cons_self
      obtain ⟨hothers, hreached⟩ := ih hstep
        (fun other hother => hsettles other (List.mem_cons_of_mem _ hother))
        (by
          intro other hother next hnext
          rcases List.mem_append.mp hother with hfinished | hlast
          · exact hfree other hfinished next (List.mem_cons_of_mem _ hnext)
          · obtain rfl := List.mem_singleton.mp hlast
            exact hfirst next hnext)
        hpairs
      rw [List.append_assoc, List.singleton_append] at hreached
      refine ⟨?_, hreached⟩
      rw [migrateEach, List.map_cons, ← htold, ← hothers]

end Reached

/-! ## Batches -/

end

namespace TwoFiles

/-- What stands in the working folder. -/
def entries : List (String × Entry) :=
  [("a.js", .file (Utf8.encode "1")), ("b.jsx", .file (Utf8.encode "2"))]

/-- A disk with two files. -/
def disk : Disk := { top := .folder entries }

/-- The two files. -/
def paths : List Path := [⟨.relative, ["a.js"]⟩, ⟨.relative, ["b.jsx"]⟩]

theorem proper : disk.Proper := by
  refine .folder (by decide) fun e he => ?_
  rcases List.mem_pair.mp he with rfl | rfl <;> exact .file

theorem linkFree : disk.LinkFree := Disk.linkFree_of_noLinks rfl

theorem occupied_eq : disk.occupied ⟨.relative, []⟩ = .ok true := by decide +kernel

theorem locate_eq : disk.locate ⟨.relative, []⟩ = .ok [] := by decide +kernel

theorem sorted : (sourcesIn disk [] ⟨.relative, []⟩ entries).Pairwise
    fun a b => decide (a.1 ≤ b.1) = true := by decide +kernel

theorem sources_eq : (sources disk ⟨.relative, []⟩).result = .ok paths := by
  rw [sources_of_sorted proper linkFree rfl locate_eq rfl rfl sorted]
  decide +kernel

theorem sources_log : (sources disk ⟨.relative, []⟩).log = [] := by
  rw [sources_of_sorted proper linkFree rfl locate_eq rfl rfl sorted]
  decide +kernel

theorem targets : paths.Pairwise (TargetsApart .bare {} disk) := by
  refine List.pairwise_pair.mpr fun plan plan' hplan hplan' place hl hl' => ?_
  obtain ⟨_, _, _, heq⟩ :=
    Disk.exists_folder_of_locate linkFree (Dialect.name_ne_of_target hplan.target) hl
  obtain ⟨_, _, _, heq'⟩ :=
    Disk.exists_folder_of_locate linkFree (Dialect.name_ne_of_target hplan'.target) hl'
  obtain ⟨_, hname⟩ := List.append_inj' (heq.symm.trans heq') rfl
  obtain ⟨d, hd⟩ := Dialect.name_of_target hplan.target
  obtain ⟨d', hd'⟩ := Dialect.name_of_target hplan'.target
  rw [List.singleton_inj, hd, hd'] at hname
  revert hname
  cases d <;> cases d' <;> decide +kernel

end TwoFiles

end ScriptTypes
