import ScriptTypes.Proofs.Independence

/-!
# What a dry run foretells

A dry run leaves the disk as it is, so it looks at every file of a batch as it was in the
beginning. The real run looks at a file when the files before it have been migrated. What it finds
of the file itself is the same. But where a target was free in the beginning, that of a file before
it may stand meanwhile, and unless targets may be written over the file is then skipped.

So a dry run foretells the reports of the real run, if nothing fails that it does not attempt,
exactly if no two files have one target that is free. All of this is said of disks without links.
-/

namespace ScriptTypes

open Files

/-- The options, but nothing is to be written or removed. -/
def MigrationOptions.dry (options : MigrationOptions) : MigrationOptions :=
  { options with dryRun := true }

/-- The options, and what is to be written or removed is. -/
def MigrationOptions.real (options : MigrationOptions) : MigrationOptions :=
  { options with dryRun := false }

/-- Whether the event tells of a write or a removal that failed. -/
def Event.isFailure : Event → Bool
  | unwrittenTarget .. => true
  | _ => false

/-- No write and no removal failed. -/
def Quiet (log : List Event) : Prop := ∀ event ∈ log, event.isFailure = false

instance : DecidablePred Quiet := fun log =>
  inferInstanceAs (Decidable (∀ event ∈ log, event.isFailure = false))

section

variable {parse : Parser} {options : MigrationOptions} {start disk : Disk} {path : Path}
  {paths : List Path}

theorem Quiet.of_append {log log' : List Event} (h : Quiet (log ++ log')) :
    Quiet log ∧ Quiet log' :=
  ⟨fun event hmem => h event (List.mem_append_left _ hmem),
    fun event hmem => h event (List.mem_append_right _ hmem)⟩

theorem Quiet.not_unwritten {log : List Event} {target error : String}
    (h : Quiet (log ++ [.unwrittenTarget target error])) : False := by
  have hfailure := h.of_append.2 _ (List.mem_singleton_self _)
  cases hfailure

/-! ## One file -/

/-- Whether what stands at a target keeps a file from being migrated. -/
def keeps (options : MigrationOptions) (disk : Disk) (target : Path) : Except Cause Bool :=
  (disk.occupied target).map (· && !options.overwrite)

/-- Nothing is kept by what is to be written over. -/
theorem keeps_of_overwrite {target : Path} {occupied : Bool} (hover : options.overwrite = true)
    (hocc : disk.occupied target = .ok occupied) : keeps options disk target = .ok false := by
  unfold keeps
  rw [hocc, hover, Except.map, Bool.not_true, Bool.and_false]

/-- Otherwise a file is not kept only if nothing stands at the place of its target. -/
theorem standing_of_not_keeps {target : Path} {place : Location}
    (hover : options.overwrite = false) (hl : disk.locate target = .ok place)
    (h : keeps options disk target = .ok false) : disk.standing place = .nothing := by
  by_contra hthere
  unfold keeps at h
  cases hocc : disk.occupied target with
  | error cause =>
      rw [hocc] at h
      cases h
  | ok occupied =>
      obtain rfl := Disk.occupied_of_standing hl hthere hocc
      rw [hocc, hover] at h
      cases h

namespace Plan

variable {plan : Plan}

/-- A plan against which nothing stands is not kept, nor is any other with the same target. -/
theorem Clear.not_keeps {target : Path} (h : plan.Clear parse options disk path)
    (hsame : disk.locate target = disk.locate plan.target) :
    keeps options disk target = .ok false := by
  obtain ⟨occupied, hocc, hover⟩ := h.occupied
  have hfree : (occupied && !options.overwrite) = false := by simpa using hover
  unfold keeps
  rw [Disk.occupied_congr hsame, hocc, Except.map, hfree]

/-- What is reported on a plan, if nothing fails, by whether something keeps it from being done. -/
def verdict (plan : Plan) (path : Path) : Except Cause Bool → Except Fault FileReport
  | .error cause => .error (.refused ⟨cause, plan.target.text⟩)
  | .ok true => .ok { plan.report path with
      status := .skipped, error := some (plan.target.name ++ " already exists") }
  | .ok false => .ok (plan.report path)

/-- A plan comes to its verdict in a dry run, and in any run in which nothing fails. -/
theorem finish_outcome (h : options.dryRun = true ∨ Quiet (plan.finish options disk path).log) :
    (plan.finish options disk path).outcome =
      plan.verdict path (keeps options disk plan.target) := by
  unfold finish finishFile at h ⊢
  unfold keeps
  cases hocc : disk.occupied plan.target with
  | error cause => rfl
  | ok occupied =>
      rw [hocc] at h
      dsimp only [Except.map] at h ⊢
      by_cases hkept : (occupied && !options.overwrite) = true
      · rw [if_pos hkept, hkept]
        rfl
      · rw [if_neg hkept] at h ⊢
        rw [Bool.eq_false_iff.mpr hkept]
        by_cases hdry : options.dryRun = true
        · rw [if_pos hdry]
          rfl
        · rw [if_neg hdry] at h ⊢
          have hquiet := (h.resolve_left hdry).of_append.2
          -- a failure would have been told of
          unfold writeTarget at hquiet ⊢
          split at hquiet
          · exact hquiet.not_unwritten.elim
          · exact hquiet.not_unwritten.elim
          · dsimp only at hquiet ⊢
            split_ifs at hquiet ⊢
            · split at hquiet
              · exact hquiet.not_unwritten.elim
              · rfl
            · rfl

/-- If nothing fails a target against which nothing stands can be written. -/
theorem Clear.writable_of_quiet (h : plan.Clear parse options disk path)
    (hdry : options.dryRun = false)
    (hquiet : Quiet (migrateFile parse options disk path).log) :
    ∃ place, disk.writable plan.target = .ok place := by
  rw [h.migrateFile_eq, h.finish_eq hdry] at hquiet
  unfold writeTarget Disk.write at hquiet
  cases hw : disk.writable plan.target with
  | ok place => exact ⟨place, rfl⟩
  | error cause =>
      rw [hw] at hquiet
      exact hquiet.of_append.2.not_unwritten.elim

end Plan

/-! ## What a file can foresee -/

/-- Two files do not have one target that is free. -/
def FreeTargetsApart (parse : Parser) (options : MigrationOptions) (disk : Disk)
    (path path' : Path) : Prop :=
  ∀ (plan plan' : Plan) (place : Location), plan.For parse options disk path →
    plan'.For parse options disk path' → disk.locate plan.target = .ok place →
    disk.locate plan'.target = .ok place → disk.standing place ≠ .nothing

/--
A disk without links on which files can be migrated as if it was still the beginning: the files are
as they were there, and their targets keep them from being migrated if they did so there.
-/
structure Foreseen (parse : Parser) (options : MigrationOptions) (start disk : Disk)
    (paths : List Path) : Prop where
  /-- There were no links. -/
  free : start.LinkFree
  /-- Nothing changed where the files are. -/
  changed : Disk.Changed
    (fun place => ∀ path ∈ paths, start.locate path ≠ .ok place) start disk
  /-- Whatever is kept now was so in the beginning. -/
  kept : ∀ path ∈ paths, ∀ plan : Plan, plan.For parse options start path →
    keeps options disk plan.target = keeps options start plan.target

namespace Foreseen

theorem refl (hlinks : start.LinkFree) : Foreseen parse options start start paths :=
  ⟨hlinks, .refl, fun _ _ _ _ => rfl⟩

theorem linkFree (h : Foreseen parse options start disk paths) : disk.LinkFree :=
  h.changed.linkFree h.free

theorem readSource_eq (h : Foreseen parse options start disk paths) (hmem : path ∈ paths)
    (hsettles : start.Settles path) : readSource disk path = readSource start path :=
  readSource_of_changed hsettles h.changed fun _ hl hother => hother path hmem hl

/-- A file is reported on as in a dry run of the beginning. -/
theorem outcome_eq (h : Foreseen parse options.real start disk paths) (hmem : path ∈ paths)
    (hsettles : start.Settles path)
    (hquiet : Quiet (migrateFile parse options.real disk path).log) :
    (migrateFile parse options.real disk path).outcome =
      (migrateFile parse options.dry start path).outcome := by
  have hread := h.readSource_eq hmem hsettles
  have hskip : options.real.skipInvalid = options.dry.skipInvalid := rfl
  rcases migrateFile_congr hread hskip with ⟨plan, hplan, hplan'⟩ | ⟨outcome, log, heq, heq'⟩
  · have hkeeps := h.kept path hmem plan (hplan.congr rfl rfl)
    rw [hplan'.migrateFile_eq] at hquiet
    rw [hplan.migrateFile_eq, hplan'.migrateFile_eq, Plan.finish_outcome (.inr hquiet),
      Plan.finish_outcome (.inl rfl), hkeeps]
    rfl
  · rw [heq, heq']

/-- **What the files behind one can foresee is not changed by it**, unless it has a free target
that is also that of one of them. -/
theorem step (h : Foreseen parse options.real start disk (path :: paths))
    (hsource : ∀ other ∈ path :: paths, Dialect.isSource other = true)
    (hsettles : start.Settles path)
    (hapart : ∀ other ∈ paths, start.Apart path other)
    (hfree : options.overwrite = true ∨
      ∀ other ∈ paths, FreeTargetsApart parse options.real start path other)
    (hquiet : Quiet (migrateFile parse options.real disk path).log) :
    Foreseen parse options.real start (migrateFile parse options.real disk path).disk paths := by
  have hrun : FileRun parse options.real disk path (migrateFile parse options.real disk path) :=
    fileRun_migrateFile
  have hback : ∀ {p : Path} {place : Location}, disk.locate p = .ok place →
      start.locate p = .ok place := fun hl => h.changed.locate_iff.mp hl
  have hread := h.readSource_eq List.mem_cons_self hsettles
  have hchanged := hrun.changed fun _ => h.linkFree
  refine ⟨h.free, ?_, ?_⟩
  · refine (h.changed.mono fun place hplace other hother =>
      hplace other (List.mem_cons_of_mem _ hother)).trans (hchanged.mono ?_)
    intro place htouched other hother hl
    have hother' := hsource other (List.mem_cons_of_mem _ hother)
    have hplace := isSourcePlace_of_locate h.free hother' hl
    exact hapart other hother place (hback (htouched.source h.linkFree hplace)) hl
  · intro other hother plan hplan
    have hkeeps := h.kept other (List.mem_cons_of_mem _ hother) plan hplan
    rcases hplan.locate_target h.free with hlong | ⟨folder, hfolder, hl⟩
    · unfold keeps
      rw [Disk.occupied_of_long hlong, Disk.occupied_of_long hlong]
    · have hl' : disk.locate plan.target = .ok (folder ++ [plan.target.name]) :=
        h.changed.locate_iff.mpr hl
      by_cases htouched : Touched parse options.real disk path (folder ++ [plan.target.name])
      · -- the file before has its target there, and nothing keeps it from being written
        obtain ⟨plan', hplan', htarget⟩ := htouched.target h.linkFree
          (hplan.not_isSourcePlace h.free hl)
        have hnot := hplan'.not_keeps (hl'.trans htarget.symm)
        rw [← hkeeps, hnot]
        by_cases hover : options.overwrite = true
        · obtain ⟨place, hw⟩ := hplan'.writable_of_quiet rfl hquiet
          obtain ⟨content, hs⟩ := hplan'.stands h.linkFree rfl hw
          obtain rfl := Except.ok.inj (htarget.symm.trans (Disk.of_writable hw).1)
          have hthere := (Disk.occupied_iff (hchanged.locate_iff.mpr hl')).mpr (hs ▸ nofun)
          exact keeps_of_overwrite hover hthere
        · -- it was free in the beginning, so the two files have one free target
          have hthere := hfree.resolve_left hover other hother plan' plan _
            (hplan'.congr hread.symm rfl) hplan (hback htarget) hl
          have hnothing := standing_of_not_keeps (Bool.eq_false_iff.mpr hover) hl
            (hkeeps.symm.trans hnot)
          exact absurd hnothing hthere
      · have hsame := hchanged.elsewhere _ htouched
        rw [← hkeeps]
        unfold keeps
        rw [hchanged.occupied_eq hl' ((h.changed.folders folder).mpr hfolder) hsame]

end Foreseen

/-! ## Batches -/

/-- A dry run leaves the disk as it is. -/
theorem migrateFile_dry :
    (migrateFile parse options.dry disk path).disk = disk := by
  have hrun : FileRun parse options.dry disk path (migrateFile parse options.dry disk path) :=
    fileRun_migrateFile
  exact hrun.idle (.inl rfl)

theorem migrateFiles_dry : (migrateFiles parse options.dry disk paths).disk = disk := by
  induction paths with
  | nil => rfl
  | cons path paths ih =>
      cases hfirst : (migrateFile parse options.dry disk path).outcome with
      | error f =>
          rw [(migrateFiles_of_error hfirst).1]
          exact migrateFile_dry
      | ok first =>
          rw [(migrateFiles_of_ok hfirst).1, migrateFile_dry]
          exact ih

/-- **What the files of a batch can foresee is reported.** -/
theorem Foreseen.outcomes_eq (h : Foreseen parse options.real start disk paths)
    (hsource : ∀ path ∈ paths, Dialect.isSource path = true)
    (hsettles : ∀ path ∈ paths, start.Settles path)
    (hapart : paths.Pairwise start.Apart)
    (hfree : options.overwrite = true ∨
      paths.Pairwise (FreeTargetsApart parse options.real start))
    (hquiet : Quiet (migrateFiles parse options.real disk paths).log) :
    (migrateFiles parse options.real disk paths).outcome =
      (migrateFiles parse options.dry start paths).outcome := by
  induction paths generalizing disk with
  | nil => rfl
  | cons path paths ih =>
      obtain ⟨hfirst, hapart⟩ := List.pairwise_cons.mp hapart
      have hsettled := hsettles path List.mem_cons_self
      rw [outcome_migrateFiles_cons, outcome_migrateFiles_cons, migrateFile_dry]
      cases hreal : (migrateFile parse options.real disk path).outcome with
      | error f =>
          rw [(migrateFiles_of_error hreal).2] at hquiet
          rw [← h.outcome_eq List.mem_cons_self hsettled hquiet, hreal]
          rfl
      | ok first =>
          rw [(migrateFiles_of_ok hreal).2] at hquiet
          obtain ⟨hquiet, hothers⟩ := hquiet.of_append
          have hnext := h.step hsource hsettled hfirst
            (hfree.imp_right fun hfree => (List.pairwise_cons.mp hfree).1) hquiet
          rw [← h.outcome_eq List.mem_cons_self hsettled hquiet, hreal,
            ih hnext (fun other hother => hsource other (List.mem_cons_of_mem _ hother))
              (fun other hother => hsettles other (List.mem_cons_of_mem _ hother)) hapart
              (hfree.imp_right fun hfree => (List.pairwise_cons.mp hfree).2) hothers]

/-- In a dry run a file whose target is free is reported on as planned. -/
theorem Plan.For.dry_report {plan : Plan} {place : Location} {report : FileReport}
    (h : plan.For parse options.real disk path) (hl : disk.locate plan.target = .ok place)
    (hnothing : disk.standing place = .nothing)
    (hreport : (migrateFile parse options.dry disk path).outcome = .ok report) :
    report = plan.report path := by
  have hplan : plan.For parse options.dry disk path := h.congr rfl rfl
  rw [hplan.migrateFile_eq, Plan.finish_outcome (.inl rfl)] at hreport
  unfold keeps at hreport
  cases hocc : disk.occupied plan.target with
  | error cause =>
      rw [hocc] at hreport
      cases hreport
  | ok occupied =>
      cases occupied with
      | true => exact absurd hnothing ((Disk.occupied_iff hl).mp hocc)
      | false =>
          rw [hocc] at hreport
          exact (Except.ok.inj hreport).symm

/-- Where something stands that did not in the beginning no file has its target that is reported
on as in a dry run, unless targets may be written over. -/
theorem target_ne_of_outcomes {place : Location} {reports : List FileReport}
    (hover : options.overwrite = false) (hunder : Underway start disk)
    (hplace : ¬ IsSourcePlace place) (hnothing : start.standing place = .nothing)
    (hthere : disk.standing place ≠ .nothing)
    (hdry : (migrateFiles parse options.dry start paths).outcome = .ok reports)
    (hreal : (migrateFiles parse options.real disk paths).outcome = .ok reports) :
    ∀ path ∈ paths, ∀ plan : Plan, plan.For parse options.real start path →
      start.locate plan.target ≠ .ok place := by
  induction paths generalizing disk reports with
  | nil =>
      intro path hmem
      cases hmem
  | cons path paths ih =>
      obtain ⟨first, others, hfirst, hothers, rfl, _⟩ := of_migrateFiles_cons hdry
      obtain ⟨first', others', hfirst', hothers', heq, _⟩ := of_migrateFiles_cons hreal
      obtain ⟨rfl, rfl⟩ := List.cons.inj heq
      rw [migrateFile_dry] at hothers
      have hrun : FileRun parse options.real disk path (migrateFile parse options.real disk path) :=
        fileRun_migrateFile
      have hkept : ∀ plan : Plan, plan.Clear parse options.real disk path →
          disk.locate plan.target ≠ .ok place := by
        intro plan hplan htarget
        exact nomatch hover.symm.trans (hplan.overwrite htarget hthere)
      intro other hmem plan hplan hl
      rcases List.mem_cons.mp hmem with rfl | hmem
      · -- it is reported as planned, but its plan is not clear
        have hreport := hplan.dry_report hl hnothing hfirst
        have hdone : first.status = .migrated ∨ first.status = .unchanged := by
          rw [hreport]
          exact plan.report_status
        obtain ⟨plan', hplan', _, _⟩ := hrun.of_done hfirst' hdone
        obtain rfl := (hunder.plan hplan'.toFor).unique hplan
        exact hkept plan' hplan' (hunder.changed.locate_iff.mpr hl)
      · refine ih (hunder.step hrun) ?_ hothers hothers' other hmem plan hplan hl
        rw [(hunder.changedBy hrun).elsewhere place]
        · exact hthere
        · intro htouched
          obtain ⟨plan', hplan', htarget⟩ := htouched.target hunder.linkFree hplace
          exact hkept plan' hplan' htarget

/-- **What is reported as in a dry run has no free targets in common**, unless targets may be
written over. -/
theorem freeTargetsApart_of_outcomes {reports : List FileReport}
    (hover : options.overwrite = false) (hunder : Underway start disk)
    (hdry : (migrateFiles parse options.dry start paths).outcome = .ok reports)
    (hreal : (migrateFiles parse options.real disk paths).outcome = .ok reports) :
    paths.Pairwise (FreeTargetsApart parse options.real start) := by
  induction paths generalizing disk reports with
  | nil => exact .nil
  | cons path paths ih =>
      obtain ⟨first, others, hfirst, hothers, rfl, _⟩ := of_migrateFiles_cons hdry
      obtain ⟨first', others', hfirst', hothers', heq, _⟩ := of_migrateFiles_cons hreal
      obtain ⟨rfl, rfl⟩ := List.cons.inj heq
      rw [migrateFile_dry] at hothers
      have hrun : FileRun parse options.real disk path (migrateFile parse options.real disk path) :=
        fileRun_migrateFile
      have hnext := hunder.step hrun
      refine .cons ?_ (ih hnext hothers hothers')
      intro other hmem plan plan' place hplan hplan' hl hl' hnothing
      -- the first file is migrated, so its target stands when it is the turn of the other
      have hdone : first.status = .migrated ∨ first.status = .unchanged := by
        rw [hplan.dry_report hl hnothing hfirst]
        exact plan.report_status
      obtain ⟨done, hclear, _, hstands⟩ := hrun.of_done hfirst' hdone
      obtain rfl := (hunder.plan hclear.toFor).unique hplan
      obtain ⟨place', htarget, hs⟩ := hstands rfl fun _ => hunder.linkFree
      obtain rfl := Except.ok.inj (hl.symm.trans (hunder.changed.locate_iff.mp htarget))
      exact target_ne_of_outcomes hover hnext (hplan.not_isSourcePlace hunder.free hl) hnothing
        (hs ▸ nofun) hothers hothers' other hmem plan' hplan' hl'

/-- What a search finds has no free targets in common, unless targets may be written over. -/
def Foretold (parse : Parser) (options : MigrationOptions) (start : Disk) (path : Path) : Prop :=
  options.overwrite = true ∨ ∀ paths, (sources start path).result = .ok paths →
    paths.Pairwise (FreeTargetsApart parse options start)

/--
**A dry run foretells the reports of the real run exactly if no two files have one target that
is free**, or targets may be written over, provided that there are no links, and no write and no
removal fails. It leaves the disk as it is in any case.
-/
theorem dryRun_foretells {given : String} (hproper : start.Proper) (hlinks : start.LinkFree)
    (hquiet : Quiet (migratePath parse options.real start path given).log) :
    (migratePath parse options.dry start path given).disk = start ∧
    (Foretold parse options.real start path →
      (migratePath parse options.dry start path given).outcome =
        (migratePath parse options.real start path given).outcome) ∧
    ∀ reports, (migratePath parse options.dry start path given).outcome = .ok reports →
      (migratePath parse options.real start path given).outcome = .ok reports →
      Foretold parse options.real start path := by
  rcases migratePath_cases parse start path given with ⟨f, log, heq⟩ | ⟨paths, _, _, hfound, heq⟩
  · rw [heq, heq]
    exact ⟨rfl, fun _ => rfl, fun _ h => nomatch h⟩
  · rw [heq] at hquiet
    rw [heq, heq]
    refine ⟨migrateFiles_dry, fun hforetold => ?_, fun reports hdry hreal => ?_⟩
    · exact ((Foreseen.refl hlinks).outcomes_eq
        (fun _ hmem => Disk.isSource_of_mem_sources hfound hmem)
        (fun _ hmem => Disk.settles_of_mem_sources hproper hlinks hfound hmem)
        (Disk.pairwise_apart_of_sources hproper hlinks hfound)
        (hforetold.imp_right fun hfree => hfree paths hfound) hquiet.of_append.2).symm
    · by_cases hover : options.overwrite = true
      · exact .inl hover
      · refine .inr fun found hsame => ?_
        obtain rfl := Except.ok.inj (hfound.symm.trans hsame)
        exact freeTargetsApart_of_outcomes (Bool.eq_false_iff.mpr hover) (.refl hlinks) hdry
          hreal

end

/-- In a dry run two files with one target are both to be migrated; in the real run, in which
nothing fails, the second of them is skipped. -/
theorem dryRun_misses_collision :
    Quiet (migratePath .bare (Collision.options false).real Collision.disk
      ⟨.relative, []⟩ ".").log ∧
    (migratePath .bare (Collision.options false).dry Collision.disk
        ⟨.relative, []⟩ ".").outcome.map Collision.outline =
      .ok [(some "a.tsx", .unchanged), (some "a.tsx", .unchanged)] ∧
    (migratePath .bare (Collision.options false).real Collision.disk
        ⟨.relative, []⟩ ".").outcome.map Collision.outline =
      .ok [(some "a.tsx", .unchanged), (some "a.tsx", .skipped)] := by
  have hnul : Path.holdsNul ⟨.relative, []⟩ = false := by decide +kernel
  rw [migratePath_run hnul Collision.occupied_eq Collision.sources_eq,
    migratePath_run hnul Collision.occupied_eq Collision.sources_eq, Collision.sources_log]
  refine ⟨?_, ?_, ?_⟩ <;> decide +kernel

/-- Two files with two targets are reported in a dry run as in the real one. -/
theorem dryRun_foretells_two_files :
    TwoFiles.disk.Proper ∧
    Quiet (migratePath .bare (MigrationOptions.real {}) TwoFiles.disk ⟨.relative, []⟩ ".").log ∧
    Foretold .bare (MigrationOptions.real {}) TwoFiles.disk ⟨.relative, []⟩ ∧
    (migratePath .bare (MigrationOptions.dry {}) TwoFiles.disk ⟨.relative, []⟩ ".").outcome =
      (migratePath .bare (MigrationOptions.real {}) TwoFiles.disk ⟨.relative, []⟩ ".").outcome := by
  have hnul : Path.holdsNul ⟨.relative, []⟩ = false := by decide +kernel
  have hquiet : Quiet (migratePath .bare (MigrationOptions.real {}) TwoFiles.disk
      ⟨.relative, []⟩ ".").log := by
    rw [migratePath_run hnul TwoFiles.occupied_eq TwoFiles.sources_eq, TwoFiles.sources_log]
    decide +kernel
  have hforetold : Foretold .bare (MigrationOptions.real {}) TwoFiles.disk ⟨.relative, []⟩ := by
    refine .inr fun paths hpaths => ?_
    obtain rfl := Except.ok.inj (TwoFiles.sources_eq.symm.trans hpaths)
    refine TwoFiles.targets.imp fun htargets => ?_
    intro plan plan' place hplan hplan' hl hl'
    exact absurd hl' (htargets plan plan' hplan hplan' place hl)
  exact ⟨TwoFiles.proper, hquiet, hforetold,
    (dryRun_foretells TwoFiles.proper TwoFiles.linkFree hquiet).2.1 hforetold⟩

end ScriptTypes
