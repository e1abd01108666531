import ScriptTypes.Proofs.FileRun
import ScriptTypes.Proofs.Search

/-!
# What a batch leaves

The files of a batch are migrated one after the other on one disk. On a disk without links no file
of a batch is the target of another one, so each is read as it was before the batch. But two files
of a folder can have one target. Then it is the last of them whose text stands there in the end, if
files may be written over, and otherwise the first, with the others skipped.
-/

namespace ScriptTypes

open Files

section

variable {parse : Parser} {options : MigrationOptions} {start disk : Disk} {path : Path}
  {paths : List Path}

/-- A disk without links while a batch is under way: sources are as they were or gone, folders as
they were. -/
structure Underway (start disk : Disk) : Prop where
  /-- There were no links. -/
  free : start.LinkFree
  /-- Paths lead where they led, and the system refuses what it refused. -/
  changed : Disk.Changed (fun _ => True) start disk
  /-- A source is as it was, or gone. -/
  sources : ∀ path place, Dialect.isSource path = true → start.locate path = .ok place →
    disk.standing place = start.standing place ∨ disk.standing place = .nothing

namespace Underway

theorem refl (hfree : start.LinkFree) : Underway start start :=
  ⟨hfree, .refl, fun _ _ _ _ => .inl rfl⟩

/-- There still are none. -/
theorem linkFree (h : Underway start disk) : disk.LinkFree := h.changed.linkFree h.free

/-- A file of the batch changes the disk where it may. -/
theorem changedBy {work : Work FileReport} (h : Underway start disk)
    (hrun : FileRun parse options disk path work) :
    Disk.Changed (Touched parse options disk path) disk work.disk :=
  hrun.changed fun _ => h.linkFree

/-- A batch goes on with any file. -/
theorem step {work : Work FileReport} (h : Underway start disk)
    (hrun : FileRun parse options disk path work) : Underway start work.disk where
  free := h.free
  changed := h.changed.trans ((h.changedBy hrun).mono fun _ _ => trivial)
  sources := by
    intro other place hother hl
    have hl' : disk.locate other = .ok place := h.changed.locate_iff.mpr hl
    have hstep : work.disk.standing place = disk.standing place ∨
        work.disk.standing place = .nothing := by
      by_cases htouched : Touched parse options disk path place
      · obtain ⟨_, plan, hplan, htarget | ⟨_, hpath⟩⟩ := htouched
        · -- a target is written, and no source stands there
          have hne := Disk.locate_target_ne h.linkFree hplan.isSource hother hplan.target htarget
            hl'
          exact absurd rfl hne
        · exact (hrun.source h.linkFree hpath).imp_right fun hgone => hgone.1
      · exact .inl ((h.changedBy hrun).elsewhere place htouched)
    rcases hstep with hsame | hgone
    · rw [hsame]
      exact h.sources other place hother hl
    · exact .inr hgone

/-- A source that can be read has the text that it had. -/
theorem readSource_eq {source : String} (h : Underway start disk)
    (hsource : Dialect.isSource path = true) (hread : readSource disk path = .ok source) :
    readSource start path = .ok source := by
  obtain ⟨hnul, place, content, text, hl, hs, hdenies, htext, heq⟩ :=
    readSource_eq_ok_iff.mp hread
  have hl' : start.locate path = .ok place := h.changed.locate_iff.mp hl
  have hs' : start.standing place = .file content := by
    rcases h.sources path place hsource hl' with hsame | hgone
    · exact hsame.symm.trans hs
    · cases hs.symm.trans hgone
  rw [h.changed.denies] at hdenies
  exact readSource_eq_ok_iff.mpr ⟨hnul, place, content, text, hl', hs', hdenies, htext, heq⟩

/-- So it has the plan that it had. -/
theorem plan {plan : Plan} (h : Underway start disk) (hplan : plan.For parse options disk path) :
    plan.For parse options start path where
  read := h.readSource_eq hplan.isSource hplan.read
  annotated := hplan.annotated
  target := hplan.target

end Underway

/-! ## Runs -/

/-- What a batch gives: what the first file gives and then what the others give. -/
theorem outcome_migrateFiles_cons :
    (migrateFiles parse options disk (path :: paths)).outcome = do
      let first ← (migrateFile parse options disk path).outcome
      let others ← (migrateFiles parse options (migrateFile parse options disk path).disk
        paths).outcome
      return first :: others := by
  rw [migrateFiles]
  unfold Work.andThen
  cases (migrateFile parse options disk path).outcome with
  | error f => rfl
  | ok first =>
      dsimp only
      cases (migrateFiles parse options (migrateFile parse options disk path).disk
        paths).outcome with
      | error f => rfl
      | ok others => rfl

/-- A batch that fails with its first file leaves the disk as that file does. -/
theorem migrateFiles_of_error {f : Fault}
    (h : (migrateFile parse options disk path).outcome = .error f) :
    (migrateFiles parse options disk (path :: paths)).disk =
        (migrateFile parse options disk path).disk ∧
      (migrateFiles parse options disk (path :: paths)).log =
        (migrateFile parse options disk path).log := by
  rw [migrateFiles]
  unfold Work.andThen
  rw [h]
  exact ⟨rfl, rfl⟩

/-- Otherwise it goes on with the others from there. -/
theorem migrateFiles_of_ok {first : FileReport}
    (h : (migrateFile parse options disk path).outcome = .ok first) :
    (migrateFiles parse options disk (path :: paths)).disk =
        (migrateFiles parse options (migrateFile parse options disk path).disk paths).disk ∧
      (migrateFiles parse options disk (path :: paths)).log =
        (migrateFile parse options disk path).log ++
          (migrateFiles parse options (migrateFile parse options disk path).disk paths).log := by
  rw [migrateFiles]
  unfold Work.andThen
  rw [h]
  dsimp only
  cases (migrateFiles parse options (migrateFile parse options disk path).disk paths).outcome with
  | error f => exact ⟨rfl, rfl⟩
  | ok others =>
      dsimp only
      rw [List.append_nil]
      exact ⟨rfl, rfl⟩

/-- A batch that comes to its end has migrated the first file and then the others. -/
theorem of_migrateFiles_cons {reports : List FileReport}
    (h : (migrateFiles parse options disk (path :: paths)).outcome = .ok reports) :
    ∃ first others, (migrateFile parse options disk path).outcome = .ok first ∧
      (migrateFiles parse options (migrateFile parse options disk path).disk paths).outcome =
        .ok others ∧ reports = first :: others ∧
      (migrateFiles parse options disk (path :: paths)).disk =
        (migrateFiles parse options (migrateFile parse options disk path).disk paths).disk := by
  rw [outcome_migrateFiles_cons] at h
  obtain ⟨first, hfirst, h⟩ := bind_eq_ok.mp h
  obtain ⟨others, hothers, h⟩ := bind_eq_ok.mp h
  exact ⟨first, others, hfirst, hothers, (pure_eq_ok.mp h).symm, (migrateFiles_of_ok hfirst).1⟩

/-- Some of the files may write over what stands at a place: the place is their target, too. -/
def Rewritten (parse : Parser) (options : MigrationOptions) (start : Disk) (paths : List Path)
    (place : Location) : Prop :=
  options.overwrite = true ∧ ∃ path ∈ paths, ∃ plan : Plan, plan.For parse options start path ∧
    start.locate plan.target = .ok place

/-- What stands where no source does is there until a file writes over it. -/
theorem standing_migrateFiles {reports : List FileReport} {place : Location}
    (hunder : Underway start disk) (hplace : disk.standing place ≠ .nothing)
    (hsource : ∀ path, Dialect.isSource path = true → start.locate path ≠ .ok place)
    (h : (migrateFiles parse options disk paths).outcome = .ok reports) :
    (migrateFiles parse options disk paths).disk.standing place = disk.standing place ∨
      Rewritten parse options start paths place := by
  induction paths generalizing disk reports with
  | nil => exact .inl rfl
  | cons path paths ih =>
      obtain ⟨_, others, _, hothers, _, hdisk⟩ := of_migrateFiles_cons h
      have hrun : FileRun parse options disk path (migrateFile parse options disk path) :=
        fileRun_migrateFile
      rw [hdisk]
      by_cases htouched : Touched parse options disk path place
      · obtain ⟨_, plan, hplan, htarget | ⟨_, hpath⟩⟩ := htouched
        · refine .inr ⟨hplan.overwrite htarget hplace, path, List.mem_cons_self, plan, ?_, ?_⟩
          · exact hunder.plan hplan.toFor
          · exact hunder.changed.locate_iff.mp htarget
        · exact absurd (hunder.changed.locate_iff.mp hpath) (hsource path hplan.isSource)
      · have hsame := (hunder.changedBy hrun).elsewhere place htouched
        rcases ih (hunder.step hrun) (hsame.symm ▸ hplace) hothers with hkept | hover
        · exact .inl (hkept.trans hsame)
        · obtain ⟨hover, other, hmem, hplan⟩ := hover
          exact .inr ⟨hover, other, List.mem_cons_of_mem _ hmem, hplan⟩

/-- What is reported as migrated stands at its target until a later file writes over it. -/
theorem migrateFiles_keeps {reports : List FileReport} {report : FileReport} {i : Nat}
    (hunder : Underway start disk) (hdry : options.dryRun = false)
    (h : (migrateFiles parse options disk paths).outcome = .ok reports)
    (hreport : reports[i]? = some report)
    (hstatus : report.status = .migrated ∨ report.status = .unchanged) :
    ∃ path plan place, paths[i]? = some path ∧ Plan.For parse options start path plan ∧
      report = plan.report path ∧ start.locate plan.target = .ok place ∧
      ((migrateFiles parse options disk paths).disk.standing place = .file plan.bytes ∨
        Rewritten parse options start (paths.drop (i + 1)) place) := by
  induction paths generalizing disk reports i with
  | nil =>
      obtain rfl : [] = reports := Except.ok.inj h
      cases hreport
  | cons path paths ih =>
      obtain ⟨first, others, hfirst, hothers, rfl, hdisk⟩ := of_migrateFiles_cons h
      have hrun : FileRun parse options disk path (migrateFile parse options disk path) :=
        fileRun_migrateFile
      have hnext := hunder.step hrun
      rw [hdisk]
      cases i with
      | succ i => exact ih hnext hothers hreport
      | zero =>
          obtain rfl : first = report := Option.some.inj hreport
          obtain ⟨plan, hplan, hreport, hdone⟩ := hrun.of_done hfirst hstatus
          obtain ⟨place, hl, hs⟩ := hdone hdry fun _ => hunder.linkFree
          have hl' : start.locate plan.target = .ok place := hunder.changed.locate_iff.mp hl
          refine ⟨path, plan, place, rfl, hunder.plan hplan.toFor, hreport, hl', ?_⟩
          -- it stands there behind the first file, so only the others can write over it
          rw [← hs]
          refine standing_migrateFiles hnext (hs ▸ nofun) (fun other hother hl => ?_) hothers
          exact Disk.locate_target_ne hunder.free hplan.isSource hother hplan.target hl' hl rfl

/-- A batch is a search and then the migration of the files that are found. -/
theorem migratePath_run {given : String} (hnul : path.holdsNul = false)
    (hocc : disk.occupied path = .ok true) (hfound : (sources disk path).result = .ok paths) :
    migratePath parse options disk path given =
      { migrateFiles parse options disk paths with
        log := (sources disk path).log ++ (migrateFiles parse options disk paths).log } := by
  unfold migratePath
  rw [hnul, if_neg Bool.false_ne_true, hocc]
  unfold Work.andThen Work.ofLogged
  dsimp only
  rw [hfound]

theorem migratePath_eq {given : String} (hnul : path.holdsNul = false)
    (hocc : disk.occupied path = .ok true) (hfound : (sources disk path).result = .ok paths) :
    (migratePath parse options disk path given).outcome =
        (migrateFiles parse options disk paths).outcome ∧
      (migratePath parse options disk path given).disk =
        (migrateFiles parse options disk paths).disk := by
  rw [migratePath_run hnul hocc hfound]
  exact ⟨rfl, rfl⟩

/-- A batch fails before any file is migrated, and so with whatever options, or it is a search and
then the migration of the files that are found. -/
theorem migratePath_cases (parse : Parser) (disk : Disk) (path : Path) (given : String) :
    (∃ f log, ∀ options, migratePath parse options disk path given = ⟨disk, .error f, log⟩) ∨
    ∃ paths, path.holdsNul = false ∧ disk.occupied path = .ok true ∧
      (sources disk path).result = .ok paths ∧
      ∀ options, migratePath parse options disk path given =
        { migrateFiles parse options disk paths with
          log := (sources disk path).log ++ (migrateFiles parse options disk paths).log } := by
  cases hnul : path.holdsNul with
  | true => exact .inl ⟨_, _, fun _ => if_pos hnul⟩
  | false =>
      cases hocc : disk.occupied path with
      | error cause =>
          refine .inl ⟨.refused ⟨cause, path.text⟩, [], fun options => ?_⟩
          rw [migratePath, hnul, if_neg Bool.false_ne_true, hocc]
      | ok occupied =>
          cases occupied with
          | false =>
              refine .inl ⟨.nothingAt given, [], fun options => ?_⟩
              rw [migratePath, hnul, if_neg Bool.false_ne_true, hocc]
          | true =>
              cases hfound : (sources disk path).result with
              | ok paths =>
                  exact .inr ⟨paths, rfl, rfl, rfl, fun _ => migratePath_run hnul hocc hfound⟩
              | error f =>
                  refine .inl ⟨f, (sources disk path).log, fun options => ?_⟩
                  rw [migratePath, hnul, if_neg Bool.false_ne_true, hocc]
                  unfold Work.andThen Work.ofLogged
                  dsimp only
                  rw [hfound]

/-- A batch that comes to its end has found its files and migrated them. -/
theorem of_migratePath {given : String} {reports : List FileReport}
    (h : (migratePath parse options disk path given).outcome = .ok reports) :
    ∃ paths, (sources disk path).result = .ok paths ∧
      (migrateFiles parse options disk paths).outcome = .ok reports ∧
      (migratePath parse options disk path given).disk =
        (migrateFiles parse options disk paths).disk := by
  rcases migratePath_cases parse disk path given with ⟨f, log, heq⟩ | ⟨paths, _, _, hfound, heq⟩
  · rw [heq] at h
    cases h
  · rw [heq] at h ⊢
    exact ⟨paths, hfound, h, rfl⟩

/--
**An output of a batch stays unless a later file has the same target.** If there are no links and a
batch is no dry run, then each file that is reported as migrated, with annotations or without, has
at its target just its own annotated text, that of its source as it was before the batch; or else
targets may be written over, and a later file of the batch has its target at the same place.
-/
theorem migratePath_keeps_outputs {given : String} {reports : List FileReport}
    (hfree : start.LinkFree) (hdry : options.dryRun = false)
    (h : (migratePath parse options start path given).outcome = .ok reports) :
    ∃ paths, (sources start path).result = .ok paths ∧
      ∀ (i : Nat) (report : FileReport), reports[i]? = some report →
        (report.status = .migrated ∨ report.status = .unchanged) →
        ∃ source plan place, paths[i]? = some source ∧
          Plan.For parse options start source plan ∧ report = plan.report source ∧
          start.locate plan.target = .ok place ∧
          ((migratePath parse options start path given).disk.standing place =
              .file (Utf8.encode plan.annotated.source) ∨
            options.overwrite = true ∧
              ∃ later ∈ paths.drop (i + 1), ∃ plan' : Plan, plan'.For parse options start later ∧
                start.locate plan'.target = .ok place) := by
  obtain ⟨paths, hfound, hrun, hdisk⟩ := of_migratePath h
  refine ⟨paths, hfound, fun i report hreport hstatus => ?_⟩
  rw [hdisk]
  exact migrateFiles_keeps (.refl hfree) hdry hrun hreport hstatus

/-! ## Two sources with one target -/

/-- The files of a folder whose entries are in the order of their names. -/
theorem sources_of_sorted {place : Location} {es : List (String × Entry)} (hproper : disk.Proper)
    (hfree : disk.LinkFree) (hnul : path.holdsNul = false) (hl : disk.locate path = .ok place)
    (hat : disk.top.at? place = .ok (.folder es)) (hlist : disk.denies .list place = none)
    (hsorted : (sourcesIn disk place path es).Pairwise fun a b => decide (a.1 ≤ b.1) = true) :
    sources disk path = (Found.join ((sourcesIn disk place path es).map (·.2))).outcome := by
  unfold sources
  rw [hnul, if_neg Bool.false_ne_true, Disk.search_eq hproper hfree hl hat,
    sourcesAt_of_sorted hlist hsorted]

end

namespace Collision

/-- Sources are to be removed, and maybe targets to be written over. -/
def options (overwrite : Bool) : MigrationOptions := { removeSource := true, overwrite }

/-- A script that imports React. -/
def script : Path := ⟨.relative, ["a.js"]⟩

/-- A file with markup, of the same name but for the suffix. -/
def markup : Path := ⟨.relative, ["a.jsx"]⟩

/-- What stands in the working folder. -/
def entries : List (String × Entry) :=
  [("a.js", .file (Utf8.encode "import 'react'")), ("a.jsx", .file (Utf8.encode "1"))]

/-- The disk with the two files. -/
def disk : Disk := { top := .folder entries }

/-- The migration of the working folder. -/
def run (overwrite : Bool) : Work (List FileReport) :=
  migratePath .bare (options overwrite) disk ⟨.relative, []⟩ "."

/-- What is told of each file: its target, and what became of it. -/
def outline (reports : List FileReport) : List (Option String × Status) :=
  reports.map fun r => (r.target, r.status)

theorem linkFree : disk.LinkFree := Disk.linkFree_of_noLinks rfl

theorem proper : disk.Proper := by
  refine .folder (by decide) fun t ht => ?_
  simp only [entries, List.mem_cons, List.not_mem_nil, or_false] at ht
  rcases ht with rfl | rfl <;> exact .file

theorem occupied_eq : disk.occupied ⟨.relative, []⟩ = .ok true := by decide +kernel

theorem sorted : (sourcesIn disk [] ⟨.relative, []⟩ entries).Pairwise
    fun a b => decide (a.1 ≤ b.1) = true := by decide +kernel

theorem locate_eq : disk.locate ⟨.relative, []⟩ = .ok [] := by decide +kernel

theorem sources_eq : (sources disk ⟨.relative, []⟩).result = .ok [script, markup] := by
  rw [sources_of_sorted proper linkFree rfl locate_eq rfl rfl sorted]
  decide +kernel

theorem sources_log : (sources disk ⟨.relative, []⟩).log = [] := by
  rw [sources_of_sorted proper linkFree rfl locate_eq rfl rfl sorted]
  decide +kernel

theorem run_eq (overwrite : Bool) :
    (run overwrite).outcome =
      (migrateFiles .bare (options overwrite) disk [script, markup]).outcome ∧
    (run overwrite).disk =
      (migrateFiles .bare (options overwrite) disk [script, markup]).disk := by
  have hnul : Path.holdsNul ⟨.relative, []⟩ = false := by decide +kernel
  exact migratePath_eq hnul occupied_eq sources_eq

theorem outline_eq : (run true).outcome.map outline =
      .ok [(some "a.tsx", .unchanged), (some "a.tsx", .unchanged)] ∧
    (run false).outcome.map outline =
      .ok [(some "a.tsx", .unchanged), (some "a.tsx", .skipped)] := by
  rw [(run_eq true).1, (run_eq false).1]
  constructor <;> decide +kernel

end Collision

/-- If targets may be written over, the text of the first file is nowhere. -/
theorem migratePath_loses_output :
    (Collision.run true).outcome.map Collision.outline =
      .ok [(some "a.tsx", .unchanged), (some "a.tsx", .unchanged)] ∧
    (Collision.run true).disk.files = [(["a.tsx"], Utf8.encode "1")] := by
  refine ⟨Collision.outline_eq.1, ?_⟩
  rw [(Collision.run_eq true).2]
  decide +kernel

/-- If they may not, it stands at the target. -/
theorem migratePath_keeps_outputs_collision :
    ∃ plan place, Plan.For .bare (Collision.options false) Collision.disk
        Collision.script plan ∧
      Collision.disk.locate plan.target = .ok place ∧
      (Collision.run false).disk.standing place = .file (Utf8.encode plan.annotated.source) := by
  cases hreports : (Collision.run false).outcome with
  | error f =>
      have houtline := Collision.outline_eq.2
      rw [hreports] at houtline
      cases houtline
  | ok reports =>
      have houtline := Collision.outline_eq.2
      rw [hreports] at houtline
      have houtline : Collision.outline reports = _ := Except.ok.inj houtline
      obtain ⟨paths, hfound, hkeeps⟩ := migratePath_keeps_outputs Collision.linkFree rfl
        hreports
      obtain rfl := Except.ok.inj (Collision.sources_eq.symm.trans hfound)
      cases reports with
      | nil => cases houtline
      | cons first others =>
          have hfirst : (first.target, first.status) = (some "a.tsx", .unchanged) :=
            (List.cons.inj houtline).1
          obtain ⟨source, plan, place, hsource, hplan, _, hl, hs⟩ :=
            hkeeps 0 first rfl (.inr (Prod.mk.inj hfirst).2)
          obtain rfl : Collision.script = source := Option.some.inj hsource
          rcases hs with hs | ⟨hover, _⟩
          · exact ⟨plan, place, hplan, hl, hs⟩
          · cases hover

end ScriptTypes
