import ScriptTypes.Annotation
import ScriptTypes.Files.SourceFiles

/-!
# Migrating files

A source file is read, annotated, and written beside itself under the suffix of its
dialect. Nothing is written over an existing target unless that is asked for, and a
source is removed, if that is asked for, only after its target has been written.

Whatever goes wrong with one file ends up in the report on that file. A folder is
migrated file by file, in the order in which its sources are found.
-/

namespace ScriptTypes

open Annotation (Annotated Diagnostic)
open Files

/-- How files are migrated. -/
structure MigrationOptions where
  /-- Whether nothing is to be written or removed. -/
  dryRun : Bool := false
  /-- Whether sources are removed once their targets are written. -/
  removeSource : Bool := false
  /-- Whether existing targets are written over. -/
  overwrite : Bool := false
  /-- Whether sources with syntax errors are skipped. -/
  skipInvalid : Bool := true

/-- What became of a file. -/
inductive Status where
  /-- The target has annotations that the source lacks. -/
  | migrated
  /-- There was nothing to annotate. -/
  | unchanged
  /-- The file was left alone. -/
  | skipped
  /-- Something went wrong. -/
  | failed
deriving DecidableEq, Repr

/-- The name of a status. -/
def Status.name : Status → String
  | .migrated => "migrated"
  | .unchanged => "unchanged"
  | .skipped => "skipped"
  | .failed => "failed"

/-- The report on a file. -/
structure FileReport where
  /-- The path of the source. -/
  path : String
  /-- The path of the target, once it is known. -/
  target : Option String := none
  /-- The dialect, once it is known. -/
  language : Option String := none
  /-- What became of the file. -/
  status : Status
  /-- The interfaces that were added. -/
  interfaces : List String := []
  /-- The bindings that were left alone. -/
  diagnostics : List Diagnostic := []
  /-- What went wrong, or why the file was skipped. -/
  error : Option String := none
deriving DecidableEq, Repr

/--
Work on a disk: what it gives or the failure in its place, what the disk is afterwards, and
what was logged. A failure undoes nothing.
-/
structure Work (α : Type) where
  /-- The disk afterwards. -/
  disk : Disk
  /-- What the work gives. -/
  outcome : Except Fault α
  /-- What was logged. -/
  log : List Event

/-- Work and then what is made of its result, unless there is a failure in its place. -/
def Work.andThen {α β : Type} (w : Work α) (f : Disk → α → Work β) : Work β :=
  match w.outcome with
  | .ok a =>
    let next := f w.disk a
    { next with log := w.log ++ next.log }
  | .error e => ⟨w.disk, .error e, w.log⟩

/-- A result that leaves the disk as it is. -/
def Work.ofLogged {α : Type} (disk : Disk) (l : Logged α) : Work α := ⟨disk, l.result, l.log⟩

/-! ## Reading -/

/-- The characters of a text with a line feed for each line break, of whichever form. -/
def unifiedBreaks : List Char → List Char
  | '\r' :: '\n' :: cs => '\n' :: unifiedBreaks cs
  | '\r' :: cs => '\n' :: unifiedBreaks cs
  | c :: cs => c :: unifiedBreaks cs
  | [] => []

/-- The text of the file at a path, with a line feed for each line break. -/
def readSource (disk : Disk) (path : Path) : Except Fault String := do
  if path.holdsNul then throw .nulInPath
  else
    match disk.read path with
    | .error cause => throw (.refused ⟨cause, path.text⟩)
    | .ok bytes => return String.ofList (unifiedBreaks (← textOf bytes).toList)

/-! ## One file -/

/-- The report on a file whose target is written, or would be. -/
def FileReport.ofAnnotated (path target : Path) (source : String) (annotated : Annotated)
    (language : String) : FileReport where
  path := path.text
  target := some target.text
  language := some language
  status := if annotated.source ≠ source then .migrated else .unchanged
  interfaces := annotated.interfaces
  diagnostics := annotated.diagnostics

/-- Writes the target and then removes the source, if that is asked for. -/
def writeTarget (options : MigrationOptions) (disk : Disk) (path target : Path) (text : String)
    (report : FileReport) : Work FileReport :=
  let failed (disk : Disk) (error : String) (log : List Event) : Work FileReport :=
    ⟨disk, .ok { report with status := .failed, error := some error },
      log ++ [.unwrittenTarget target.text error]⟩
  match disk.write target (Utf8.encode text) with
  | .refused cause => failed disk (Refusal.message ⟨cause, target.text⟩) []
  | .brokenOff left cause => failed left cause.message []
  | .done written =>
    let log := [.wroteTarget target.text]
    if options.removeSource then
      match written.remove path with
      | .error cause => failed written (Refusal.message ⟨cause, path.text⟩) log
      | .ok removed => ⟨removed, .ok report, log⟩
    else ⟨written, .ok report, log⟩

/-- Reports on an annotated source and writes its target, unless something stands against it. -/
def finishFile (options : MigrationOptions) (disk : Disk) (path target : Path) (source : String)
    (annotated : Annotated) (language : String) : Work FileReport :=
  let report := FileReport.ofAnnotated path target source annotated language
  match disk.occupied target with
  | .error cause => ⟨disk, .error (.refused ⟨cause, target.text⟩), []⟩
  | .ok occupied =>
    if occupied && !options.overwrite then
      let reason := target.name ++ " already exists"
      ⟨disk, .ok { report with status := .skipped, error := some reason },
        [.keptTarget target.text path.text]⟩
    else if options.dryRun then ⟨disk, .ok report, []⟩
    else writeTarget options disk path target annotated.source report

/-- Annotates the text of a file and finishes the work on it. -/
def migrateSource (parse : Parser) (options : MigrationOptions) (disk : Disk) (path : Path)
    (source : String) (dialect : Dialect) : Work FileReport :=
  let annotation := annotateWithFallback parse source dialect.name !options.skipInvalid
  let unfinished (status : Status) (f : Fault) (event : Event) : Work FileReport :=
    let language := some dialect.name
    ⟨disk, .ok { path := path.text, language, status, error := some f.message },
      annotation.log ++ [event]⟩
  match annotation.result with
  | .error (.syntaxErrors language) =>
    unfinished .skipped (.syntaxErrors language) (.rejectedFile path.text)
  | .error f => unfinished .failed f (.failedFile path.text)
  | .ok (annotated, language) =>
    Work.andThen ⟨disk, Dialect.target path language, annotation.log⟩ fun disk target =>
      finishFile options disk path target source annotated language

/--
Migrates a file. What the file system refuses to read is reported; a failure of the whole is
only a path that is none, that is not that of a source, or that leaves no room for a target.
-/
def migrateFile (parse : Parser) (options : MigrationOptions) (disk : Disk) (path : Path) :
    Work FileReport :=
  match readSource disk path with
  | .error .nulInPath => ⟨disk, .error .nulInPath, []⟩
  | .error f =>
    ⟨disk, .ok { path := path.text, status := .failed, error := some f.message },
      [.unreadFile path.text f.message]⟩
  | .ok source =>
    Work.andThen ⟨disk, Dialect.ofFile path source, []⟩ fun disk dialect =>
      migrateSource parse options disk path source dialect

/-! ## Many files -/

/-- Migrates files one after the other; a failure of the whole leaves the others alone. -/
def migrateFiles (parse : Parser) (options : MigrationOptions) (disk : Disk) :
    List Path → Work (List FileReport)
  | [] => ⟨disk, .ok [], []⟩
  | path :: paths =>
    (migrateFile parse options disk path).andThen fun disk first =>
      (migrateFiles parse options disk paths).andThen fun disk others =>
        ⟨disk, .ok (first :: others), []⟩

/-- Migrates the sources at and below a path, which is called as given if nothing is there. -/
def migratePath (parse : Parser) (options : MigrationOptions) (disk : Disk) (path : Path)
    (given : String) : Work (List FileReport) :=
  if path.holdsNul then ⟨disk, .error (.nothingAt given), []⟩
  else
    match disk.occupied path with
    | .error cause => ⟨disk, .error (.refused ⟨cause, path.text⟩), []⟩
    | .ok false => ⟨disk, .error (.nothingAt given), []⟩
    | .ok true =>
      (Work.ofLogged disk (sources disk path)).andThen fun disk paths =>
        migrateFiles parse options disk paths

end ScriptTypes
