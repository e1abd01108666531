import ScriptTypes.Fault
import ScriptTypes.Text.LetterCase

/-!
# Settings

What users do not say on the command line, the environment says, and what it does not
say has a default. Names of log levels are not checked here; whoever sets the level
does.
-/

namespace ScriptTypes

/-- The values of variables, by their names. -/
abbrev Environment := String → Option String

/-- The settings of a run. -/
structure Settings where
  /-- The name of the level from which events are logged. -/
  logLevel : String
  /-- How many files are worked on at a time. -/
  jobs : Int
  /-- Whether sources are removed once their targets are written. -/
  removeSources : Bool
  /-- Whether sources with syntax errors are skipped. -/
  skipInvalid : Bool
deriving DecidableEq, Repr

namespace Settings

/-- The words that switch a setting on; any other word switches it off. -/
def truthyWords : List String := ["1", "true", "yes", "on"]

/-- A switch by the value of its variable. -/
def switch (value : Option String) (unset : Bool) : Bool :=
  match value with
  | none => unset
  | some v => truthyWords.contains (Text.lower (Text.strip v))

/-- The settings that an environment gives. -/
def ofEnvironment (env : Environment) : Except Fault Settings := do
  return {
    logLevel := Text.upper ((env "TSMIGRATE_LOG_LEVEL").getD "WARNING")
    jobs := ← integerOf ((env "TSMIGRATE_JOBS").getD "1")
    removeSources := switch (env "TSMIGRATE_REMOVE_ORIGINAL") false
    skipInvalid := switch (env "TSMIGRATE_SKIP_INVALID") true }

/-- The number of the level of a name; events of a smaller number are not logged. -/
def levelNumber (name : String) : Except Fault Nat :=
  match name with
  | "CRITICAL" => .ok 50
  | "FATAL" => .ok 50
  | "ERROR" => .ok 40
  | "WARNING" => .ok 30
  | "WARN" => .ok 30
  | "INFO" => .ok 20
  | "DEBUG" => .ok 10
  | "NOTSET" => .ok 0
  | _ => .error (.unknownLevel name)

end Settings

end ScriptTypes
