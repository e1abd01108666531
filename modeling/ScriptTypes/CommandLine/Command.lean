import ScriptTypes.CommandLine.Arguments
import ScriptTypes.Text.WholeNumber

/-!
# Commands

There are three commands: one prints an annotated source, one migrates files, and one
starts the server of tools. What stands in front of the command says how much is
logged; what follows it is the command's own business and is only read once the log
has been set up.
-/

namespace ScriptTypes.CommandLine

/-- The option that asks for help, known everywhere. -/
def helpOption : OptionSpec := { spellings := ["--help", "-h"] }

/-- What stands in front of a command, and the words that follow. -/
structure Opening where
  /-- How often more log was asked for. -/
  verbosity : Nat
  /-- The name of the command. -/
  command : String
  /-- The words after it. -/
  words : List String

/-- A request for annotation. -/
structure AnnotateRequest where
  /-- The path of the source. -/
  path : Option String
  /-- The source itself, in place of a path. -/
  code : Option String
  /-- The dialect. -/
  language : Option String
  /-- Whether syntax errors are refused. -/
  strict : Bool
deriving DecidableEq, Repr

/-- A request for migration. -/
structure MigrateRequest where
  /-- The path of the file or folder. -/
  path : String
  /-- Whether nothing is to be written or removed. -/
  dryRun : Bool
  /-- Whether sources are removed, if it is said. -/
  removeSources : Option Bool
  /-- Whether existing targets are written over. -/
  overwrite : Bool
  /-- Whether sources with syntax errors are annotated all the same. -/
  keepInvalid : Bool
  /-- How many files are worked on at a time, if it is said. -/
  jobs : Option Nat
deriving DecidableEq, Repr

/-- A command with what it needs. -/
inductive Command where
  | annotate (request : AnnotateRequest)
  | migrate (request : MigrateRequest)
  | serve (transport : String)
  | help
deriving DecidableEq, Repr

/-- The names of the commands. -/
def commandNames : List String := ["annotate", "migrate", "serve"]

/-- Reads what stands in front of a command; nothing if help was asked for instead. -/
def Opening.ofWords? (words : List String) : Except UsageFault (Option Opening) := do
  let verbose : OptionSpec := { spellings := ["--verbose", "-v"] }
  let s ← scan [verbose, helpOption] false words
  if s.has helpOption.name then return none
  else
    match s.others with
    | [] => throw .commandMissing
    | command :: rest =>
      if commandNames.contains command then return some ⟨s.count verbose.name, command, rest⟩
      else throw (.unknownCommand command)

/-- At most one word, which need not be there. -/
def optionalArgument : List String → Except UsageFault (Option String)
  | [] => .ok none
  | [word] => .ok (some word)
  | _ :: word :: _ => .error (.argumentSurplus word)

/-- Exactly one word. -/
def requiredArgument (name : String) (words : List String) : Except UsageFault String := do
  match ← optionalArgument words with
  | some word => return word
  | none => throw (.argumentMissing name)

/-- A word that is a path, which holds no character that ends paths. -/
def pathOf (name word : String) : Except UsageFault String :=
  if word.contains '\x00' then .error (.valueInvalid name word) else .ok word

/-- A number of jobs, which is at least one. -/
def jobsOf (value : String) : Except UsageFault Nat :=
  match Text.positive? value with
  | some n => .ok n
  | none => .error (.valueInvalid "--jobs" value)

/-- Reads a request for annotation. -/
def annotateOf (words : List String) : Except UsageFault Command := do
  let s ← scan
    [{ spellings := ["--code"], takesValue := true },
     { spellings := ["--language"], takesValue := true },
     { spellings := ["--strict"] }, helpOption] true words
  if s.has helpOption.name then return .help
  else
    return .annotate {
      path := ← (← optionalArgument s.others).mapM (pathOf "PATH")
      code := s.value? "--code"
      language := s.value? "--language"
      strict := s.has "--strict" }

/-- Whether sources are removed, as far as the last of the two options says. -/
def removalOf (s : Scan) : Option Bool :=
  (s.given.reverse.find? fun g => g.name = "--remove-original" ∨ g.name = "--keep-original").map
    fun g => g.name == "--remove-original"

/-- Reads a request for migration. -/
def migrateOf (words : List String) : Except UsageFault Command := do
  let s ← scan
    [{ spellings := ["--dry-run"] }, { spellings := ["--remove-original"] },
     { spellings := ["--keep-original"] }, { spellings := ["--overwrite"] },
     { spellings := ["--keep-invalid"] }, { spellings := ["--jobs", "-j"], takesValue := true },
     helpOption] true words
  if s.has helpOption.name then return .help
  else
    return .migrate {
      path := ← pathOf "PATH" (← requiredArgument "PATH" s.others)
      dryRun := s.has "--dry-run"
      removeSources := removalOf s
      overwrite := s.has "--overwrite"
      keepInvalid := s.has "--keep-invalid"
      jobs := ← (s.value? "--jobs").mapM jobsOf }

/-- Reads a request for the server of tools. -/
def serveOf (words : List String) : Except UsageFault Command := do
  let outer ← scan [helpOption] false words
  if outer.has helpOption.name then return .help
  else
    match outer.others with
    | [] => throw .commandMissing
    | "mcp" :: rest =>
      let s ← scan [{ spellings := ["--transport"], takesValue := true }, helpOption] true rest
      if s.has helpOption.name then return .help
      else
        match s.others with
        | [] => return .serve ((s.value? "--transport").getD "stdio")
        | word :: _ => throw (.argumentSurplus word)
    | word :: _ => throw (.unknownCommand word)

/-- Reads the command that an opening names. -/
def Command.ofOpening (o : Opening) : Except UsageFault Command :=
  match o.command with
  | "annotate" => annotateOf o.words
  | "migrate" => migrateOf o.words
  | "serve" => serveOf o.words
  | other => .error (.unknownCommand other)

end ScriptTypes.CommandLine
