import ScriptTypes.Migration
import ScriptTypes.Proofs.Target

/-!
# What migrating a file does

There are fourteen ways in which the migration of a file ends, and on four of them the disk
changes. They are told once, by the inductive `FileRun`; everything else that is known of a
migration is read off it by cases.

On the ways that get that far a file has a *plan*: the text that was read, what it was
annotated to, and where that is to stand.
-/

namespace ScriptTypes

open Files
open Annotation (Annotated)

/-- A parser that finds nothing in any source. -/
def Parser.bare : Parser := fun _ _ => ⟨.mk ⟨0, "program", 0, 0, true, none, []⟩ [], false⟩

/-- What a file is about to become. -/
structure Plan where
  /-- The text of the file, with a line feed for each line break. -/
  source : String
  /-- The annotated text. -/
  annotated : Annotated
  /-- The dialect that it was annotated in. -/
  language : String
  /-- Where it is to stand. -/
  target : Path
  /-- What was logged meanwhile. -/
  log : List Event

section

variable {parse : Parser} {options : MigrationOptions} {disk : Disk} {path : Path}

namespace Plan

/-- The bytes that are to be written. -/
def bytes (plan : Plan) : List UInt8 := Utf8.encode plan.annotated.source

/-- What is reported if nothing stands against the plan. -/
def report (plan : Plan) (path : Path) : FileReport :=
  .ofAnnotated path plan.target plan.source plan.annotated plan.language

/-- What is reported is that the file was migrated, with annotations or without. -/
theorem report_status (plan : Plan) : (plan.report path).status = .migrated ∨
    (plan.report path).status = .unchanged := by
  unfold report FileReport.ofAnnotated
  dsimp only
  split
  · exact .inl rfl
  · exact .inr rfl

/-- The plan for a file: its text is read and annotated, and there is room for a target. -/
structure For (parse : Parser) (options : MigrationOptions) (disk : Disk) (path : Path)
    (plan : Plan) : Prop where
  /-- The file is read. -/
  read : readSource disk path = .ok plan.source
  /-- Its text is annotated in the dialect of the file, or in the other one. -/
  annotated : ∃ dialect, Dialect.ofFile path plan.source = .ok dialect ∧
    annotateWithFallback parse plan.source dialect.name (!options.skipInvalid) =
      ⟨plan.log, .ok (plan.annotated, plan.language)⟩
  /-- The target stands beside the file. -/
  target : Dialect.target path plan.language = .ok plan.target

/-- The plan for a file against which nothing stands: a target may only be there if it is to
be written over. -/
structure Clear (parse : Parser) (options : MigrationOptions) (disk : Disk) (path : Path)
    (plan : Plan) : Prop extends plan.For parse options disk path where
  /-- Whether there is a target is known. -/
  occupied : ∃ occupied, disk.occupied plan.target = .ok occupied ∧
    (occupied = true → options.overwrite = true)

end Plan

/-- The ways in which the migration of a file ends. -/
inductive FileRun (parse : Parser) (options : MigrationOptions) (disk : Disk) (path : Path) :
    Work FileReport → Prop where
  /-- The path is none. -/
  | noPath : readSource disk path = .error .nulInPath →
      FileRun parse options disk path ⟨disk, .error .nulInPath, []⟩
  /-- The file cannot be read, or is no text. -/
  | unread {f : Fault} : readSource disk path = .error f → f ≠ .nulInPath →
      FileRun parse options disk path
        ⟨disk, .ok { path := path.text, status := .failed, error := some f.message },
          [.unreadFile path.text f.message]⟩
  /-- The file is no source. -/
  | noSource {source : String} {f : Fault} : readSource disk path = .ok source →
      Dialect.ofFile path source = .error f →
      FileRun parse options disk path ⟨disk, .error f, []⟩
  /-- The source has errors. -/
  | rejected {source language : String} {dialect : Dialect} {log : List Event} :
      readSource disk path = .ok source → Dialect.ofFile path source = .ok dialect →
      annotateWithFallback parse source dialect.name (!options.skipInvalid) =
        ⟨log, .error (.syntaxErrors language)⟩ →
      FileRun parse options disk path
        ⟨disk, .ok
          { path := path.text
            language := some dialect.name
            status := .skipped
            error := some (Fault.syntaxErrors language).message },
          log ++ [.rejectedFile path.text]⟩
  /-- The source cannot be annotated. -/
  | unannotated {source : String} {dialect : Dialect} {f : Fault} {log : List Event} :
      readSource disk path = .ok source → Dialect.ofFile path source = .ok dialect →
      annotateWithFallback parse source dialect.name (!options.skipInvalid) = ⟨log, .error f⟩ →
      (∀ language, f ≠ .syntaxErrors language) →
      FileRun parse options disk path
        ⟨disk, .ok
          { path := path.text
            language := some dialect.name
            status := .failed
            error := some f.message },
          log ++ [.failedFile path.text]⟩
  /-- There is no room for a target. -/
  | noTarget {source language : String} {dialect : Dialect} {annotated : Annotated} {f : Fault}
      {log : List Event} :
      readSource disk path = .ok source → Dialect.ofFile path source = .ok dialect →
      annotateWithFallback parse source dialect.name (!options.skipInvalid) =
        ⟨log, .ok (annotated, language)⟩ →
      Dialect.target path language = .error f →
      FileRun parse options disk path ⟨disk, .error f, log⟩
  /-- It cannot be told whether there is a target. -/
  | unsearched {plan : Plan} {cause : Cause} : plan.For parse options disk path →
      disk.occupied plan.target = .error cause →
      FileRun parse options disk path
        ⟨disk, .error (.refused ⟨cause, plan.target.text⟩), plan.log⟩
  /-- There is a target, and it is not to be written over. -/
  | kept {plan : Plan} : plan.For parse options disk path →
      disk.occupied plan.target = .ok true → options.overwrite = false →
      FileRun parse options disk path
        ⟨disk, .ok { plan.report path with
          status := .skipped, error := some (plan.target.name ++ " already exists") },
          plan.log ++ [.keptTarget plan.target.text path.text]⟩
  /-- Nothing is to be written. -/
  | dry {plan : Plan} : plan.Clear parse options disk path → options.dryRun = true →
      FileRun parse options disk path ⟨disk, .ok (plan.report path), plan.log⟩
  /-- The target cannot be written. -/
  | refused {plan : Plan} {cause : Cause} : plan.Clear parse options disk path →
      options.dryRun = false → disk.write plan.target plan.bytes = .refused cause →
      FileRun parse options disk path
        ⟨disk, .ok { plan.report path with
          status := .failed, error := some (Refusal.message ⟨cause, plan.target.text⟩) },
          plan.log ++ [.unwrittenTarget plan.target.text
            (Refusal.message ⟨cause, plan.target.text⟩)]⟩
  /-- Writing the target breaks off. -/
  | brokenOff {plan : Plan} {left : Disk} {cause : Cause} :
      plan.Clear parse options disk path →
      options.dryRun = false → disk.write plan.target plan.bytes = .brokenOff left cause →
      FileRun parse options disk path
        ⟨left, .ok { plan.report path with status := .failed, error := some cause.message },
          plan.log ++ [.unwrittenTarget plan.target.text cause.message]⟩
  /-- The target is written, and the source stays. -/
  | written {plan : Plan} {left : Disk} : plan.Clear parse options disk path →
      options.dryRun = false → disk.write plan.target plan.bytes = .done left →
      options.removeSource = false →
      FileRun parse options disk path
        ⟨left, .ok (plan.report path), plan.log ++ [.wroteTarget plan.target.text]⟩
  /-- The target is written, and the source cannot be removed. -/
  | unremoved {plan : Plan} {left : Disk} {cause : Cause} :
      plan.Clear parse options disk path →
      options.dryRun = false → disk.write plan.target plan.bytes = .done left →
      options.removeSource = true → left.remove path = .error cause →
      FileRun parse options disk path
        ⟨left, .ok { plan.report path with
          status := .failed, error := some (Refusal.message ⟨cause, path.text⟩) },
          plan.log ++ [.wroteTarget plan.target.text,
            .unwrittenTarget plan.target.text (Refusal.message ⟨cause, path.text⟩)]⟩
  /-- The target is written, and the source removed. -/
  | removed {plan : Plan} {left final : Disk} :
      plan.Clear parse options disk path →
      options.dryRun = false → disk.write plan.target plan.bytes = .done left →
      options.removeSource = true → left.remove path = .ok final →
      FileRun parse options disk path
        ⟨final, .ok (plan.report path), plan.log ++ [.wroteTarget plan.target.text]⟩

/-- What is left to do for a plan against which nothing stands. -/
theorem fileRun_writeTarget {plan : Plan} {work : Work FileReport}
    (hplan : plan.Clear parse options disk path) (hdry : options.dryRun = false)
    (hwork : writeTarget options disk path plan.target plan.annotated.source (plan.report path) =
      work) :
    FileRun parse options disk path { work with log := plan.log ++ work.log } := by
  subst hwork
  unfold writeTarget
  dsimp only
  cases hw : disk.write plan.target (Utf8.encode plan.annotated.source) with
  | refused cause => exact .refused hplan hdry hw
  | brokenOff left cause => exact .brokenOff hplan hdry hw
  | done left =>
      cases hremove : options.removeSource with
      | false => exact .written hplan hdry hw hremove
      | true =>
          simp only [if_true]
          cases hr : left.remove path with
          | error cause => exact .unremoved hplan hdry hw hremove hr
          | ok final => exact .removed hplan hdry hw hremove hr

/-- What is left to do for a plan. -/
theorem fileRun_finishFile {plan : Plan} {work : Work FileReport}
    (hplan : plan.For parse options disk path)
    (hwork : finishFile options disk path plan.target plan.source plan.annotated plan.language =
      work) :
    FileRun parse options disk path { work with log := plan.log ++ work.log } := by
  unfold finishFile at hwork
  dsimp only at hwork
  cases hocc : disk.occupied plan.target with
  | error cause =>
      rw [hocc] at hwork
      subst hwork
      simpa only [List.append_nil] using FileRun.unsearched hplan hocc
  | ok occupied =>
      rw [hocc] at hwork
      dsimp only at hwork
      by_cases hkept : (occupied && !options.overwrite) = true
      · rw [if_pos hkept] at hwork
        obtain ⟨rfl, hover⟩ : occupied = true ∧ options.overwrite = false := by simpa using hkept
        subst hwork
        exact .kept hplan hocc hover
      · rw [if_neg hkept] at hwork
        have hclear : plan.Clear parse options disk path :=
          ⟨hplan, occupied, hocc, by simpa using hkept⟩
        cases hdry : options.dryRun with
        | true =>
            rw [if_pos hdry] at hwork
            subst hwork
            rw [List.append_nil]
            exact .dry hclear hdry
        | false =>
            rw [if_neg (by simp [hdry])] at hwork
            exact fileRun_writeTarget hclear hdry hwork

/-- What is left to do for a source. -/
theorem fileRun_migrateSource {source : String} {dialect : Dialect} {work : Work FileReport}
    (hread : readSource disk path = .ok source) (hd : Dialect.ofFile path source = .ok dialect)
    (hwork : migrateSource parse options disk path source dialect = work) :
    FileRun parse options disk path { work with log := [] ++ work.log } := by
  subst hwork
  rw [List.nil_append]
  unfold migrateSource
  cases ha : annotateWithFallback parse source dialect.name (!options.skipInvalid) with
  | mk log result =>
      dsimp only
      split
      · rename_i language
        exact .rejected hread hd ha
      · rename_i f hf
        exact .unannotated hread hd ha hf
      · rename_i annotated language
        cases ht : Dialect.target path language with
        | error f => exact .noTarget hread hd ha ht
        | ok target =>
            have hplan : Plan.For parse options disk path
                ⟨source, annotated, language, target, log⟩ := ⟨hread, ⟨dialect, hd, ha⟩, ht⟩
            exact fileRun_finishFile hplan rfl

/-- **Every migration of a file ends in one of the ways.** -/
theorem fileRun_migrateFile :
    FileRun parse options disk path (migrateFile parse options disk path) := by
  unfold migrateFile
  split
  · rename_i hread
    exact .noPath hread
  · rename_i f hf hread
    exact .unread hread hf
  · rename_i source hread
    cases hd : Dialect.ofFile path source with
    | error f => exact .noSource hread hd
    | ok dialect => exact fileRun_migrateSource hread hd rfl

/-! ## Sources -/

/-- What is read from a file is the text of its bytes. -/
theorem readSource_eq_ok_iff {source : String} : readSource disk path = .ok source ↔
    path.holdsNul = false ∧ ∃ place content text, disk.locate path = .ok place ∧
      disk.standing place = .file content ∧ disk.denies .read place = none ∧
      textOf content = .ok text ∧ source = String.ofList (unifiedBreaks text.toList) := by
  unfold readSource
  cases hnul : path.holdsNul with
  | true => exact iff_of_false nofun nofun
  | false =>
      simp only [Bool.false_eq_true, if_false, true_and]
      cases hread : disk.read path with
      | error cause =>
          refine iff_of_false nofun ?_
          rintro ⟨place, content, _, hl, hs, hd, _⟩
          cases hread.symm.trans (Disk.read_eq_ok_iff.mpr ⟨place, hl, hs, hd⟩)
      | ok bytes =>
          dsimp only
          rw [bind_eq_ok]
          constructor
          · rintro ⟨text, ht, h⟩
            obtain ⟨place, hl, hs, hd⟩ := Disk.read_eq_ok_iff.mp hread
            exact ⟨place, bytes, text, hl, hs, hd, ht, (pure_eq_ok.mp h).symm⟩
          · rintro ⟨place, content, text, hl, hs, hd, ht, rfl⟩
            obtain rfl : bytes = content :=
              Except.ok.inj (hread.symm.trans (Disk.read_eq_ok_iff.mpr ⟨place, hl, hs, hd⟩))
            exact ⟨text, ht, rfl⟩

namespace Plan

variable {plan : Plan} {left final : Disk}

theorem For.isSource (h : plan.For parse options disk path) : Dialect.isSource path = true := by
  obtain ⟨dialect, hd, _⟩ := h.annotated
  exact Dialect.isSource_of_ofFile hd

/-- A file has one plan. -/
theorem For.unique {plan' : Plan} (h : plan.For parse options disk path)
    (h' : plan'.For parse options disk path) : plan = plan' := by
  obtain ⟨source, annotated, language, target, log⟩ := plan
  obtain ⟨source', annotated', language', target', log'⟩ := plan'
  obtain rfl : source = source' := Except.ok.inj (h.read.symm.trans h'.read)
  obtain ⟨dialect, hd, ha⟩ := h.annotated
  obtain ⟨dialect', hd', ha'⟩ := h'.annotated
  obtain rfl : dialect = dialect' := Except.ok.inj (hd.symm.trans hd')
  obtain ⟨rfl, hresult⟩ := Logged.mk.inj (ha.symm.trans ha')
  obtain ⟨rfl, rfl⟩ := Prod.mk.inj (Except.ok.inj hresult)
  obtain rfl : target = target' := Except.ok.inj (h.target.symm.trans h'.target)
  rfl

/-- The source of a plan stands somewhere else than its target, if there are no links. -/
theorem For.source_ne {place place' : Location} (hfree : disk.LinkFree)
    (h : plan.For parse options disk path) (htarget : disk.locate plan.target = .ok place)
    (hsource : disk.locate path = .ok place') : place' ≠ place :=
  Disk.locate_target_ne hfree h.isSource h.isSource h.target htarget hsource

/-- Where something stands already it is only written if that was asked for. -/
theorem Clear.overwrite {place : Location} (h : plan.Clear parse options disk path)
    (htarget : disk.locate plan.target = .ok place) (hs : disk.standing place ≠ .nothing) :
    options.overwrite = true := by
  obtain ⟨occupied, hocc, hover⟩ := h.occupied
  exact hover (Disk.occupied_of_standing htarget hs hocc)

/-- What a write that got anywhere changes. -/
theorem For.holding {place : Location} {content : List UInt8}
    (h : plan.For parse options disk path) (hw : disk.writable plan.target = .ok place) :
    disk.locate plan.target = .ok place ∧
      Disk.Changed (· = place) disk (disk.holding place content) ∧
      (disk.holding place content).standing place = .file content := by
  obtain ⟨hl, hfile, hparent⟩ := Disk.of_writable hw
  have hroot : place ≠ [] := by
    refine Disk.ne_nil_of_lead (Dialect.name_ne_of_target h.target).1 hl fun hfolder => hfile ?_
    rw [hfolder]
    trivial
  exact ⟨hl, Disk.changed_holding hroot (hparent hroot) hfile⟩

theorem For.of_write_done {content : List UInt8} (h : plan.For parse options disk path)
    (hw : disk.write plan.target content = .done left) :
    ∃ place, disk.locate plan.target = .ok place ∧ Disk.Changed (· = place) disk left ∧
      left.standing place = .file content := by
  obtain ⟨place, hwritable, rfl⟩ := Disk.of_write_done hw
  exact ⟨place, h.holding hwritable⟩

theorem For.of_write_brokenOff {content : List UInt8} {cause : Cause}
    (h : plan.For parse options disk path)
    (hw : disk.write plan.target content = .brokenOff left cause) :
    ∃ place, disk.locate plan.target = .ok place ∧ Disk.Changed (· = place) disk left := by
  obtain ⟨place, count, hwritable, rfl⟩ := Disk.of_write_brokenOff hw
  obtain ⟨hl, hchanged, _⟩ := h.holding hwritable
  exact ⟨place, hl, hchanged⟩

/-- The source that is removed is the one that was read, if there are no links. -/
theorem For.of_remove {touched : Location → Prop} (hfree : disk.LinkFree)
    (h : plan.For parse options disk path) (hleft : Disk.Changed touched disk left)
    (hr : left.remove path = .ok final) :
    ∃ place, disk.locate path = .ok place ∧ Disk.Changed (· = place) left final ∧
      final.standing place = .nothing := by
  obtain ⟨place, hl, hthere, hfolder, rfl⟩ := Disk.of_remove hr
  have hroot := Disk.ne_nil_of_lead (Dialect.name_ne_of_isSource h.isSource).1 hl hfolder
  refine ⟨place, ?_, ?_⟩
  · rw [← Disk.lead_eq_locate hfree]
    exact hleft.lead_iff.mp hl
  · cases hs : left.standing place with
    | nothing => exact absurd hs hthere
    | folder => exact absurd hs hfolder
    | link target => exact absurd hs (hleft.linkFree hfree _ _)
    | file content => exact Disk.changed_lacking hroot hs

end Plan

/-! ## What stands afterwards -/

/--
Where a migration of a file may change something, if it is no dry run: at the target, if
nothing stands against that, and at the source if it is to be removed.
-/
def Touched (parse : Parser) (options : MigrationOptions) (disk : Disk) (path : Path)
    (place : Location) : Prop :=
  options.dryRun = false ∧ ∃ plan : Plan, plan.Clear parse options disk path ∧
    (disk.locate plan.target = .ok place ∨
      options.removeSource = true ∧ disk.locate path = .ok place)

namespace FileRun

variable {work : Work FileReport} {report : FileReport}

/-- **A migration changes the disk where it may, and nowhere else.** If sources are to be removed
that takes a disk without links, since it is a link that would be removed. -/
theorem changed (hfree : options.removeSource = true → disk.LinkFree)
    (h : FileRun parse options disk path work) :
    Disk.Changed (Touched parse options disk path) disk work.disk := by
  cases h with
  | noPath | unread | noSource | rejected | unannotated | noTarget | unsearched | kept | dry
  | refused => exact .refl
  | brokenOff hplan hdry hw =>
      obtain ⟨place, hl, hchanged⟩ := hplan.of_write_brokenOff hw
      exact hchanged.mono fun p hp => ⟨hdry, _, hplan, .inl (hp ▸ hl)⟩
  | written hplan hdry hw | unremoved hplan hdry hw =>
      obtain ⟨place, hl, hchanged, _⟩ := hplan.of_write_done hw
      exact hchanged.mono fun p hp => ⟨hdry, _, hplan, .inl (hp ▸ hl)⟩
  | removed hplan hdry hw hremove hr =>
      obtain ⟨place, hl, hchanged, _⟩ := hplan.of_write_done hw
      obtain ⟨place', hl', hchanged', _⟩ := hplan.of_remove (hfree hremove) hchanged hr
      refine .trans (hchanged.mono fun p hp => ⟨hdry, _, hplan, .inl (hp ▸ hl)⟩) ?_
      exact hchanged'.mono fun p hp => ⟨hdry, _, hplan, .inr ⟨hremove, hp ▸ hl'⟩⟩

/-- A file that is migrated has a plan, and is reported on as planned. Unless the run is a dry one
its target then holds what was planned, if no link can lead from it to what is removed. -/
theorem of_done (h : FileRun parse options disk path work) (hreport : work.outcome = .ok report)
    (hstatus : report.status = .migrated ∨ report.status = .unchanged) :
    ∃ plan : Plan, plan.Clear parse options disk path ∧ report = plan.report path ∧
      (options.dryRun = false → (options.removeSource = true → disk.LinkFree) →
        ∃ place, disk.locate plan.target = .ok place ∧
          work.disk.standing place = .file plan.bytes) := by
  cases h with
  | noPath | noSource | noTarget | unsearched => cases hreport
  | unread | rejected | unannotated | kept | refused | brokenOff | unremoved =>
      cases Except.ok.inj hreport
      simp at hstatus
  | @dry plan hplan hdry =>
      exact ⟨plan, hplan, (Except.ok.inj hreport).symm, fun h => nomatch h.symm.trans hdry⟩
  | @written plan _ hplan hdry hw =>
      obtain ⟨place, hl, _, hs⟩ := hplan.of_write_done hw
      exact ⟨plan, hplan, (Except.ok.inj hreport).symm, fun _ _ => ⟨place, hl, hs⟩⟩
  | @removed plan _ _ hplan hdry hw hremove hr =>
      obtain ⟨place, hl, hchanged, hs⟩ := hplan.of_write_done hw
      refine ⟨plan, hplan, (Except.ok.inj hreport).symm, fun _ hfree => ⟨place, hl, ?_⟩⟩
      have hfree := hfree hremove
      obtain ⟨place', hl', hchanged', _⟩ := hplan.of_remove hfree hchanged hr
      -- what is removed stands elsewhere than what was written
      exact (hchanged'.elsewhere place (hplan.source_ne hfree hl hl').symm).trans hs

/-- A source stays as it is, or goes away behind a report that its file was migrated. -/
theorem source (hfree : disk.LinkFree) (h : FileRun parse options disk path work)
    {place : Location} (hsource : disk.locate path = .ok place) :
    work.disk.standing place = disk.standing place ∨
      work.disk.standing place = .nothing ∧ options.removeSource = true ∧ options.dryRun = false ∧
        ∃ report, work.outcome = .ok report ∧
          (report.status = .migrated ∨ report.status = .unchanged) := by
  cases h with
  | noPath | unread | noSource | rejected | unannotated | noTarget | unsearched | kept | dry
  | refused => exact .inl rfl
  | brokenOff hplan hdry hw =>
      obtain ⟨place', hl, hchanged⟩ := hplan.of_write_brokenOff hw
      exact .inl (hchanged.elsewhere place (hplan.source_ne hfree hl hsource))
  | written hplan hdry hw | unremoved hplan hdry hw =>
      obtain ⟨place', hl, hchanged, _⟩ := hplan.of_write_done hw
      exact .inl (hchanged.elsewhere place (hplan.source_ne hfree hl hsource))
  | @removed plan _ _ hplan hdry hw hremove hr =>
      obtain ⟨place', _, hchanged, _⟩ := hplan.of_write_done hw
      obtain ⟨place'', hl, _, hgone⟩ := hplan.of_remove hfree hchanged hr
      obtain rfl := Except.ok.inj (hsource.symm.trans hl)
      exact .inr ⟨hgone, hremove, hdry, _, rfl, plan.report_status⟩

/-- A dry run changes nothing, and neither does a file that is skipped. -/
theorem idle (h : FileRun parse options disk path work)
    (hidle : options.dryRun = true ∨
      ∃ report, work.outcome = .ok report ∧ report.status = .skipped) : work.disk = disk := by
  cases h with
  | noPath | unread | noSource | rejected | unannotated | noTarget | unsearched | kept | dry
  | refused => rfl
  | brokenOff _ hdry | unremoved _ hdry =>
      rcases hidle with hdry' | ⟨report, hreport, hstatus⟩
      · cases hdry.symm.trans hdry'
      · cases Except.ok.inj hreport
        cases hstatus
  | @written plan _ _ hdry | @removed plan _ _ _ hdry =>
      rcases hidle with hdry' | ⟨report, hreport, hstatus⟩
      · cases hdry.symm.trans hdry'
      · cases Except.ok.inj hreport
        have hdone : (plan.report path).status = _ ∨ (plan.report path).status = _ :=
          plan.report_status
        rcases hdone with h | h <;> cases h.symm.trans hstatus

end FileRun

/-! ## Nothing is lost -/

/-- What the migration of a file leaves of a disk. -/
structure Preserved (parse : Parser) (options : MigrationOptions) (disk : Disk) (path : Path)
    (work : Work FileReport) : Prop where
  /-- What changes is at the path of the file or at that of its target. -/
  elsewhere : ∀ place, work.disk.standing place ≠ disk.standing place →
    disk.locate path = .ok place ∨
      ∃ plan : Plan, plan.For parse options disk path ∧ disk.locate plan.target = .ok place
  /-- A source is still there with its bytes, or else it was to be removed, the run is no dry
  one, the file is reported as migrated, and the target holds the annotated text. -/
  source : ∀ place content, disk.locate path = .ok place →
    disk.standing place = .file content →
    work.disk.standing place = .file content ∨
      options.removeSource = true ∧ options.dryRun = false ∧
        ∃ (plan : Plan) (report : FileReport), plan.For parse options disk path ∧
          work.outcome = .ok report ∧
          (report.status = .migrated ∨ report.status = .unchanged) ∧
          report.target = some plan.target.text ∧
          ∃ place', work.disk.locate plan.target = .ok place' ∧
            work.disk.standing place' = .file (Utf8.encode plan.annotated.source)
  /-- A dry run and a file that is skipped change nothing. -/
  idle : options.dryRun = true ∨
    (∃ report, work.outcome = .ok report ∧ report.status = .skipped) → work.disk = disk
  /-- What stands at a target, in whichever dialect, is left alone unless it is to be written
  over. -/
  target : options.overwrite = false → ∀ language target place,
    Dialect.target path language = .ok target → disk.locate target = .ok place →
    disk.standing place ≠ .nothing → work.disk.standing place = disk.standing place

/--
**The migration of a file loses nothing** on a disk without links, whatever the file system refuses
on the way, and wherever a write breaks off.
-/
theorem migrateFile_preserves (parse : Parser) (options : MigrationOptions) (disk : Disk)
    (path : Path) (hfree : disk.LinkFree) :
    Preserved parse options disk path (migrateFile parse options disk path) := by
  have hrun : FileRun parse options disk path (migrateFile parse options disk path) :=
    fileRun_migrateFile
  have hchanged := hrun.changed fun _ => hfree
  refine ⟨fun place hne => ?_, fun place content hsource hfile => ?_, hrun.idle,
    fun hover language target place htarget hl hs => ?_⟩
  · by_contra hnot
    refine hne (hchanged.elsewhere place fun ⟨_, plan, hplan, hplace⟩ => hnot ?_)
    rcases hplace with hplace | ⟨_, hplace⟩
    · exact .inr ⟨plan, hplan.toFor, hplace⟩
    · exact .inl hplace
  · rcases hrun.source hfree hsource with hsame | ⟨_, hremove, hdry, report, hreport, hstatus⟩
    · exact .inl (hsame.trans hfile)
    · obtain ⟨plan, hplan, rfl, hdone⟩ := hrun.of_done hreport hstatus
      obtain ⟨place', hl, hs⟩ := hdone hdry fun _ => hfree
      exact .inr ⟨hremove, hdry, plan, _, hplan.toFor, hreport, hstatus, rfl, place',
        hchanged.locate_iff.mpr hl, hs⟩
  · refine hchanged.elsewhere place ?_
    rintro ⟨_, plan, hplan, hplace | ⟨_, hplace⟩⟩
    · exact nomatch hover.symm.trans (hplan.overwrite hplace hs)
    · exact Disk.locate_target_ne hfree hplan.isSource hplan.isSource htarget hl hplace rfl

end

/-! ## Paths that lead to one place -/

namespace Linked

/-- A disk with a script, and with a link in the place of its target. -/
def disk (target : String) : Disk where
  top := .folder [("a.js", .file (Utf8.encode "1")), ("a.ts", .link (Path.ofText target))]

/-- The script. -/
def script : Path := ⟨.relative, ["a.js"]⟩

/-- Sources are to be removed and targets written over. -/
def options : MigrationOptions := { removeSource := true, overwrite := true }

end Linked

namespace Detour

/-- A disk with a script beside a folder. -/
def disk : Disk where
  top := .folder [("a.js", .file (Utf8.encode "1")), ("d", .folder [])]

/-- The path of the script by way of the folder. -/
def script : Path := ⟨.relative, ["d", "..", "a.js"]⟩

/-- The path of its target without the way. -/
def straight : Path := ⟨.relative, ["a.ts"]⟩

end Detour

/-- If the target is a link to the script the text of the script is lost with it, and if it is a
link to somewhere else the text goes there, though nothing may be written over. And what changes at
a target changes at every other path that leads to its place. -/
theorem migrateFile_reaches_elsewhere :
    ((migrateFile .bare Linked.options (Linked.disk "a.js") Linked.script).outcome.map (·.status) =
        .ok .unchanged ∧
      (Linked.disk "a.js").files = [(["a.js"], Utf8.encode "1")] ∧
      (migrateFile .bare Linked.options (Linked.disk "a.js") Linked.script).disk.files = []) ∧
    ((Linked.disk "b").standing ["b"] = .nothing ∧
      (migrateFile .bare {} (Linked.disk "b") Linked.script).disk.standing ["b"] =
        .file (Utf8.encode "1")) ∧
    ((migrateFile .bare {} Detour.disk Detour.script).outcome.map (·.target) =
        .ok (some "d/../a.ts") ∧
      Detour.disk.occupied Detour.straight = .ok false ∧
      (migrateFile .bare {} Detour.disk Detour.script).disk.occupied Detour.straight =
        .ok true) := by
  refine ⟨⟨?_, ?_, ?_⟩, ⟨?_, ?_⟩, ?_, ?_, ?_⟩ <;> decide +kernel

namespace Unlinked

/-- A disk with a script alone. -/
def disk : Disk where
  top := .folder [("a.js", .file (Utf8.encode "1"))]

end Unlinked

/-- Without a link the text of the script is in the target. -/
theorem migrateFile_preserves_script :
    Unlinked.disk.LinkFree ∧
      ∃ (plan : Plan) (place : Location),
        plan.For .bare Linked.options Unlinked.disk Linked.script ∧
        (migrateFile .bare Linked.options Unlinked.disk Linked.script).disk.standing ["a.js"] =
          .nothing ∧
        (migrateFile .bare Linked.options Unlinked.disk Linked.script).disk.standing place =
          .file (Utf8.encode plan.annotated.source) := by
  have hfree : Unlinked.disk.LinkFree := Disk.linkFree_of_noLinks rfl
  have hl : Unlinked.disk.locate Linked.script = .ok ["a.js"] := by decide +kernel
  have hgone : (migrateFile .bare Linked.options Unlinked.disk Linked.script).disk.standing
      ["a.js"] = .nothing := by decide +kernel
  have hsource := (migrateFile_preserves .bare Linked.options Unlinked.disk Linked.script
    hfree).source _ _ hl rfl
  rcases hsource with hsame | ⟨_, _, plan, report, hplan, _, _, _, place, _, hs⟩
  · cases hgone.symm.trans hsame
  · exact ⟨hfree, plan, place, hplan, hgone, hs⟩

end ScriptTypes
