import ScriptTypes.Annotation.Diagnostic

/-!
# What is logged

Everything worth telling an operator while the work goes on is an event. Its level,
the part of the program that tells it, and its wording follow from what happened. What is
logged below the level `info`, for whoever looks for a defect, is no event.
-/

namespace ScriptTypes

open Annotation (Diagnostic)

/-- How serious an event is. -/
inductive Level where
  | info
  | warning
  | error
deriving DecidableEq, Repr

/-- The name of a level. -/
def Level.name : Level → String
  | .info => "INFO"
  | .warning => "WARNING"
  | .error => "ERROR"

/-- The number of a level; a log that starts at a level has the events of no smaller number. -/
def Level.number : Level → Nat
  | .info => 20
  | .warning => 30
  | .error => 40

/-- Something that happened. -/
inductive Event where
  /-- A source with syntax errors is annotated as far as its tree goes. -/
  | recoveredTree (dialect : String)
  /-- A pattern was left alone. -/
  | skippedPattern (diagnostic : Diagnostic)
  /-- A folder could not be listed. -/
  | unlistedFolder (path error : String)
  /-- A file could not be read. -/
  | unreadFile (path error : String)
  /-- A file was rejected for syntax errors. -/
  | rejectedFile (path : String)
  /-- A file could not be annotated. -/
  | failedFile (path : String)
  /-- A file was skipped because its target was there. -/
  | keptTarget (target path : String)
  /-- A target was written. -/
  | wroteTarget (target : String)
  /-- A target could not be written, or its source not be removed afterwards. -/
  | unwrittenTarget (target error : String)
deriving DecidableEq, Repr

namespace Event

/-- How serious the event is. -/
def level : Event → Level
  | recoveredTree .. | skippedPattern .. | unlistedFolder .. | keptTarget .. => .warning
  | unreadFile .. | rejectedFile .. | failedFile .. | unwrittenTarget .. => .error
  | wroteTarget .. => .info

/-- The part of the program that tells of the event. -/
def logger : Event → String
  | recoveredTree .. => "tsmigrate.core.ast"
  | skippedPattern .. => "tsmigrate.inference.patterns"
  | _ => "tsmigrate.core.migrate"

/-- The wording of the event. -/
def message : Event → String
  | recoveredTree dialect =>
    s!"Source contains syntax errors ({dialect}); annotating the recovered tree"
  | skippedPattern d =>
    s!"Skipping unsupported {d.patternKind} at {d.position.row + 1}:{d.position.column + 1}: " ++
      d.text
  | unlistedFolder path error => s!"Unable to read directory {path}: {error}"
  | unreadFile path error => s!"Unable to load file {path}: {error}"
  | rejectedFile path => s!"Unable to parse file: {path}"
  | failedFile path => s!"Unexpected failure while annotating {path}"
  | keptTarget target path => s!"Target {target} already exists; skipping {path}"
  | wroteTarget target => s!"Writing new file at {target}"
  | unwrittenTarget target error => s!"Unable to write {target}: {error}"

end Event

/-- A result, or the failure in its place, and what was logged on the way to it. -/
structure Logged (α : Type) where
  /-- What was logged, in the order of events. -/
  log : List Event
  /-- The result. -/
  result : Except Fault α

/-- A result and then what is made of it, unless there is a failure in its place. -/
def Logged.andThen {α β : Type} (l : Logged α) (f : α → Logged β) : Logged β :=
  match l.result with
  | .ok a =>
    let next := f a
    ⟨l.log ++ next.log, next.result⟩
  | .error e => ⟨l.log, .error e⟩

end ScriptTypes
