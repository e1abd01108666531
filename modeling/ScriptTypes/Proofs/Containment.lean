import Mathlib.Data.String.Basic
import ScriptTypes.Proofs.Asking
import ScriptTypes.Proofs.Rerun
import ScriptTypes.Proofs.Written

/-!
# One file does not end a batch

Whatever goes wrong with a file is told in the report on that file, and the batch goes on with
the next one: a file that cannot be read, one that both grammars refuse, one that cannot be
annotated, a target that cannot be written, a source that cannot be removed. What can end a
batch is a question that comes before all that, what stands at a path: the system refuses to
answer it if the path, or a name on the way, is too long, and if a folder on the way cannot be
searched. It is asked of the path where the search starts, of every path that the search meets, and
of every target. This is so with links and without.
-/

namespace ScriptTypes

open Files

/-! ## What is told of a file -/

section

variable {parse : Parser} {options : MigrationOptions} {disk : Disk} {path : Path}
  {paths : List Path}

/-- A file is to be left alone. -/
inductive Skipped (parse : Parser) (options : MigrationOptions) (disk : Disk) (path : Path) :
    Prop where
  /-- Both grammars find errors in its text, and such files are not annotated. -/
  | rejected {source : String} {dialect : Dialect} : readSource disk path = .ok source →
      Dialect.ofFile path source = .ok dialect → (parse dialect source).hasErrors = true →
      (parse .tsx source).hasErrors = true → options.skipInvalid = true →
      Skipped parse options disk path
  /-- Its target is there and is not to be written over. -/
  | kept {plan : Plan} : plan.For parse options disk path →
      disk.occupied plan.target = .ok true → options.overwrite = false →
      Skipped parse options disk path

/-- Something goes wrong with a file. -/
inductive Failed (parse : Parser) (options : MigrationOptions) (disk : Disk) (path : Path) :
    Prop where
  /-- It cannot be read, or is no text. -/
  | unread {f : Fault} : readSource disk path = .error f → Failed parse options disk path
  /-- Annotating its text fails, and not because the grammars refuse it. -/
  | unannotated {source : String} {dialect : Dialect} {f : Fault} :
      readSource disk path = .ok source → Dialect.ofFile path source = .ok dialect →
      (annotateWithFallback parse source dialect.name (!options.skipInvalid)).result = .error f →
      (∀ language, f ≠ .syntaxErrors language) → Failed parse options disk path
  /-- The target cannot be written. -/
  | refused {plan : Plan} {cause : Cause} : plan.Clear parse options disk path →
      options.dryRun = false → disk.write plan.target plan.bytes = .refused cause →
      Failed parse options disk path
  /-- Writing the target breaks off. -/
  | brokenOff {plan : Plan} {left : Disk} {cause : Cause} : plan.Clear parse options disk path →
      options.dryRun = false → disk.write plan.target plan.bytes = .brokenOff left cause →
      Failed parse options disk path
  /-- The target is written, and the source cannot be removed. -/
  | unremoved {plan : Plan} {left : Disk} {cause : Cause} :
      plan.Clear parse options disk path → options.dryRun = false →
      disk.write plan.target plan.bytes = .done left → options.removeSource = true →
      left.remove path = .error cause → Failed parse options disk path

/-- What a report on a file tells of it. -/
structure Told (parse : Parser) (options : MigrationOptions) (disk : Disk) (path : Path)
    (report : FileReport) : Prop where
  /-- It is about the file. -/
  about : report.path = path.text
  /-- It says that the file was skipped exactly if it is to be left alone. -/
  skipped : report.status = .skipped ↔ Skipped parse options disk path
  /-- It says that something went wrong exactly if it did. -/
  failed : report.status = .failed ↔ Failed parse options disk path

end

/-! ## A target without room for its name -/

namespace Overlong

/-- As many letters as leave room for the suffix of a script, but not for one more letter. -/
def letters : List Char := List.replicate 252 'r'

/-- The letters as a text. -/
def stem : String := String.ofList letters

/-- A script that imports React, under a name that is as long as a name can be. -/
def script : Path := ⟨.relative, [stem ++ ".js"]⟩

/-- The text of the script. -/
def source : String := "import 'react'"

/-- Another script. -/
def other : Path := ⟨.relative, ["z.js"]⟩

/-- Where the first script would have to be written. -/
def target : Path := ⟨.relative, [stem ++ ".tsx"]⟩

/-- What stands in the working folder. -/
def entries : List (String × Entry) :=
  [(stem ++ ".js", .file (Utf8.encode source)), ("z.js", .file (Utf8.encode "1"))]

/-- The disk with the two scripts. -/
def disk : Disk := { top := .folder entries }

/-- The migration of the working folder. -/
def run : Work (List FileReport) := migratePath .bare {} disk ⟨.relative, []⟩ "."

theorem linkFree : disk.LinkFree := Disk.linkFree_of_noLinks rfl

/-- The characters of the name, so that nothing below has to read them off its bytes. -/
theorem toList_name (suffix : String) : (stem ++ suffix).toList = letters ++ suffix.toList :=
  String.toList_append.trans (congrArg (· ++ suffix.toList) String.toList_ofList)

theorem proper : disk.Proper := by
  refine .folder (List.nodup_cons.mpr ⟨?_, List.pairwise_singleton _ _⟩) fun t ht => ?_
  · intro hmem
    have hsame := congrArg String.toList (List.mem_singleton.mp hmem)
    rw [toList_name] at hsame
    exact absurd (congrArg List.length hsame) (by decide +kernel)
  · rcases List.mem_pair.mp ht with rfl | rfl <;> exact .file

theorem splitName_eq : Path.splitName script.name.toList = (letters, ['.', 'j', 's']) := by
  have hname : script.name.toList = letters ++ ".js".toList := toList_name ".js"
  have hletters : letters ≠ [] := by
    rw [letters, Ne, List.replicate_eq_nil_iff]
    decide
  exact hname ▸ Path.splitName_dot hletters (by decide) (by decide)

theorem suffix_eq : script.suffix = ".js" := by
  unfold Path.suffix
  rw [splitName_eq]

theorem isSource_script : Dialect.isSource script = true := by
  unfold Dialect.isSource
  rw [suffix_eq]
  decide +kernel

theorem isSource_other : Dialect.isSource other = true := by decide +kernel

/-- What a search finds at a script in a folder is the script. -/
theorem sourcesOf_eq {path : Path} {name : String} {content : List UInt8}
    (hfits : (path.child name).text.utf8ByteSize ≤ maxPathBytes)
    (hsource : Dialect.isSource (path.child name) = true) :
    sourcesOf disk [] path (name, .file content) = { paths := [path.child name] } := by
  have hfile : (Entry.file content).isFolder = false := rfl
  have hsearched : disk.denies .search [] = none := rfl
  unfold sourcesOf
  rw [if_neg (Nat.not_lt.mpr hfits), hsearched]
  dsimp only
  rw [hfile, Bool.false_and, if_neg Bool.false_ne_true, sourcesAt, Found.here, if_pos hsource]

theorem sources_eq : (sources disk ⟨.relative, []⟩).result = .ok [script, other] := by
  have hl : disk.locate ⟨.relative, []⟩ = .ok [] := by decide +kernel
  have hsorted : (sourcesIn disk [] ⟨.relative, []⟩ entries).Pairwise
      fun a b => decide (a.1 ≤ b.1) = true := by
    have hle : stem ++ ".js" ≤ "z.js" := by
      rw [String.le_iff_toList_le, toList_name]
      decide +kernel
    exact List.pairwise_pair.mpr (decide_eq_true hle)
  have hscript : sourcesOf disk [] ⟨.relative, []⟩ (stem ++ ".js", .file (Utf8.encode source)) =
      { paths := [script] } := sourcesOf_eq (by decide +kernel) isSource_script
  have hother : sourcesOf disk [] ⟨.relative, []⟩ ("z.js", .file (Utf8.encode "1")) =
      { paths := [other] } := sourcesOf_eq (by decide +kernel) isSource_other
  have hfound : sourcesIn disk [] ⟨.relative, []⟩ entries =
      [(stem ++ ".js", { paths := [script] }), ("z.js", { paths := [other] })] := by
    rw [sourcesIn_eq_map, entries, List.map_cons, List.map_cons, List.map_nil, hscript, hother]
  rw [sources_of_sorted proper linkFree rfl hl rfl rfl hsorted, hfound]
  rfl

end Overlong

end ScriptTypes
