import ScriptTypes.CommandLine.Command
import ScriptTypes.Console.Line
import ScriptTypes.Console.Table
import ScriptTypes.Migration
import ScriptTypes.Settings

/-!
# Running a command line

A run is a function of the words on the command line, the environment and the disk.
It gives what is printed, the code that the program ends with, the disk afterwards,
and the log from the configured level on.
-/

namespace ScriptTypes.CommandLine

open Files
open Annotation (Diagnostic)

/-- How a run ends. -/
structure Outcome where
  /-- The disk afterwards. -/
  disk : Disk
  /-- The code that the program ends with. -/
  exitCode : Nat := 0
  /-- What is printed as the result. -/
  stdout : String := ""
  /-- What is printed beside it. -/
  stderr : String := ""
  /-- The number of the level from which events are logged. -/
  level : Nat := Level.warning.number
  /-- What was logged. -/
  log : List Event := []
  /-- The failure that ended the program, if it was not reported in a sentence. -/
  failure : Option Fault := none
  /-- What was wrong with the command line. -/
  usage : Option UsageFault := none
  /-- How the server of tools was started. -/
  transport : Option String := none

namespace Outcome

/-- The end of a run with a wrong command line. -/
def ofUsage (disk : Disk) (u : UsageFault) : Outcome := { disk, exitCode := 2, usage := some u }

/-- The outcome ended by a failure that is not reported in a sentence. -/
def failing (o : Outcome) (f : Fault) : Outcome := { o with exitCode := 1, failure := some f }

/-- The outcome with marked-up lines printed as the result. -/
def printing (o : Outcome) (lines : List String) : Outcome :=
  match lines.mapM Console.line with
  | .ok texts => { o with stdout := o.stdout ++ String.join texts }
  | .error f => o.failing f

/-- The outcome with marked-up lines printed beside the result. -/
def telling (o : Outcome) (lines : List String) : Outcome :=
  match lines.mapM Console.line with
  | .ok texts => { o with stderr := o.stderr ++ String.join texts }
  | .error f => o.failing f

end Outcome

/-! ## Annotating -/

/-- The line that tells of a pattern that was left alone. -/
def diagnosticLine (d : Diagnostic) : String :=
  Console.styled "yellow" s!"{d.position.row + 1}:{d.position.column + 1}" ++ " " ++
    Console.escape d.message

/--
Prints a source annotated in the dialect that is named, or else in that of the file. What becomes
of the text where it is printed is said by `echo`.
-/
def printAnnotated (echo : String → String) (parse : Parser) (disk : Disk)
    (request : AnnotateRequest) (source : String) (path : Option Path) : Outcome :=
  let ended (log : List Event) (f : Fault) : Outcome :=
    if f.liesInRequest then
      { disk, exitCode := 1, log : Outcome }.telling
        [Console.styled "red" (Console.escape f.message)]
    else { disk, log : Outcome }.failing f
  let named := request.language.filter (· ≠ "")
  let dialect :=
    if named.isSome || path.isSome then Dialect.choose named path source else .ok .typescript
  match dialect with
  | .error f => ended [] f
  | .ok dialect =>
    let annotated := annotate parse source dialect.name !request.strict
    match annotated.result with
    | .error f => ended annotated.log f
    | .ok a =>
      { disk, stdout := echo a.source, log := annotated.log : Outcome }.telling
        (a.diagnostics.map diagnosticLine)

/-- Runs a request for annotation. -/
def runAnnotate (echo : String → String) (parse : Parser) (disk : Disk)
    (request : AnnotateRequest) : Outcome :=
  match request.code, request.path.map Path.ofText with
  | some source, _ => printAnnotated echo parse disk request source none
  | none, some path =>
    match readSource disk path with
    | .ok source => printAnnotated echo parse disk request source path
    | .error f =>
      { disk, exitCode := 1 : Outcome }.telling
        [Console.styled "red" s!"Unable to read {path.text}: {f.message}"]
  | none, none =>
    { disk, exitCode := 1 : Outcome }.telling
      [Console.styled "red" "Provide a file path or --code."]

/-! ## Migrating -/

/-- The style in which a status is shown. -/
def statusStyle : Status → String
  | .migrated => "green"
  | .unchanged => "cyan"
  | .skipped => "yellow"
  | .failed => "red"

/-- The cells that show a report, marked up. -/
def reportCells (r : FileReport) : List String :=
  let status := match r.error with
    | none => r.status.name
    | some e => r.status.name ++ ": " ++ e
  [Console.escape r.path,
   Console.escape (r.target.getD "-"),
   Console.styled (statusStyle r.status) (Console.escape status),
   if r.interfaces = [] then "-" else ", ".intercalate r.interfaces,
   toString r.diagnostics.length]

/-- The headings of the table of reports. -/
def reportHead : List String := ["file", "target", "status", "interfaces", "diagnostics"]

/-- The table of some reports. -/
def reportTable (reports : List FileReport) : Except Fault String := do
  let rows ← reports.mapM fun r => (reportCells r).mapM fun markup => do
    let shown ← Console.shown markup
    return (⟨shown.chars, shown.descriptions ≠ []⟩ : Console.Cell)
  return Console.Table.text ⟨reportHead.map fun h => ⟨h.toList, false⟩, rows⟩ Console.lineWidth

/-- How many reports have a status. -/
def countOf (status : Status) (reports : List FileReport) : Nat :=
  reports.countP fun r => r.status == status

/-- The line that sums up some reports. -/
def summaryLine (dryRun : Bool) (reports : List FileReport) : String :=
  Console.styled "green" (if dryRun then "Would migrate" else "Migrated") ++
    s!" {countOf .migrated reports} file(s), unchanged {countOf .unchanged reports}" ++
    s!", skipped {countOf .skipped reports}, failed {countOf .failed reports}"

/-- The outcome with what became of the files that were found shown. -/
def showReports (dryRun : Bool) (o : Outcome) (reports : List FileReport) : Outcome :=
  if reports = [] then o.printing ["No JavaScript files found."]
  else
    match reportTable reports with
    | .error f => o.failing f
    | .ok table =>
      { o with stdout := table, exitCode := if countOf .failed reports > 0 then 1 else 0 }.printing
        [summaryLine dryRun reports]

/-- Runs a request for migration. -/
def runMigrate (parse : Parser) (env : Environment) (disk : Disk) (request : MigrateRequest) :
    Outcome :=
  match Settings.ofEnvironment env with
  | .error f => { disk : Outcome }.failing f
  | .ok settings =>
    let path := Path.ofText request.path
    let options : MigrationOptions :=
      { dryRun := request.dryRun
        removeSource := request.removeSources.getD settings.removeSources
        overwrite := request.overwrite
        skipInvalid := settings.skipInvalid && !request.keepInvalid }
    let work := migratePath parse options disk path path.text
    let o : Outcome := { disk := work.disk, log := work.log }
    match work.outcome with
    | .ok reports => showReports request.dryRun o reports
    | .error (.nothingAt given) =>
      { o with exitCode := 1 }.printing
        [Console.styled "red" (Console.escape (Fault.nothingAt given).message)]
    | .error f => o.failing f

/-! ## Running -/

/-- Starts the server of tools. -/
def runServe (disk : Disk) (transport : String) : Outcome :=
  let o := { disk : Outcome }.telling
    [Console.styled "green" s!"Starting MCP server (transport: {transport})"]
  if o.failure.isSome then o else { o with transport }

/-- What is printed for those who ask for help. -/
def helpText : String :=
  "Usage: tsmigrate [-v]... annotate [PATH] [--code TEXT] [--language NAME] [--strict]\n" ++
  "       tsmigrate [-v]... migrate PATH [--dry-run] [--remove-original | --keep-original]\n" ++
  "                         [--overwrite] [--keep-invalid] [--jobs N]\n" ++
  "       tsmigrate [-v]... serve mcp [--transport NAME]\n"

/-- Runs a command. -/
def Command.run (parse : Parser) (env : Environment) (disk : Disk) : Command → Outcome
  | .annotate request => runAnnotate Console.plain parse disk request
  | .migrate request => runMigrate parse env disk request
  | .serve transport => runServe disk transport
  | .help => { disk, stdout := helpText }

/-- The number of the level from which events are logged. -/
def levelOf (env : Environment) (verbosity : Nat) : Except Fault Nat :=
  match verbosity with
  | 0 => do Settings.levelNumber (← Settings.ofEnvironment env).logLevel
  | 1 => .ok 20
  | _ => .ok 10

/-- Runs a command line. -/
def run (parse : Parser) (env : Environment) (disk : Disk) (words : List String) : Outcome :=
  match Opening.ofWords? words with
  | .error u => .ofUsage disk u
  | .ok none => { disk, stdout := helpText }
  | .ok (some opening) =>
    match levelOf env opening.verbosity with
    | .error f => { disk : Outcome }.failing f
    | .ok level =>
      match Command.ofOpening opening with
      | .error u => .ofUsage disk u
      | .ok command =>
        let o := command.run parse env disk
        { o with level, log := o.log.filter fun e => level ≤ e.level.number }

end ScriptTypes.CommandLine
