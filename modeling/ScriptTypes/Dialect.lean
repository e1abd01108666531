import ScriptTypes.Fault
import ScriptTypes.Files.Path
import ScriptTypes.ReactImport
import ScriptTypes.Text.LetterCase

/-!
# Dialects

There are two target languages, with and without markup, and each has its grammar and
its file suffix. Users name them in several ways. Where nothing is named, the suffix
of the file decides, and for a plain script whether it imports React.
-/

namespace ScriptTypes

open Files (Path)

/-- A language to annotate in. -/
inductive Dialect where
  /-- The language without markup. -/
  | typescript
  /-- The language with markup. -/
  | tsx
deriving DecidableEq, Repr

namespace Dialect

/-- The name of the dialect. -/
def name : Dialect → String
  | typescript => "typescript"
  | tsx => "tsx"

/-- The suffix of files in the dialect. -/
def suffix : Dialect → String
  | typescript => ".ts"
  | tsx => ".tsx"

/-- The dialect that a name or an alias means. -/
def ofAlias? (name : String) : Option Dialect :=
  match name with
  | "javascript" => some typescript
  | "js" => some typescript
  | "jsx" => some tsx
  | "ts" => some typescript
  | "tsx" => some tsx
  | "typescript" => some typescript
  | _ => none

/-- The dialect that a user means, with blanks around the name and in either case. -/
def ofName (given : String) : Except Fault Dialect :=
  match ofAlias? (Text.lower (Text.strip given)) with
  | some d => .ok d
  | none => .error (.unsupportedDialect given)

/-- The dialect of a source file by its suffix in lower case; other files are no sources. -/
def ofSuffix? (suffix : String) : Option Dialect :=
  match suffix with
  | ".js" => some typescript
  | ".jsx" => some tsx
  | _ => none

/-- Whether the path is that of a source file. -/
def isSource (path : Path) : Bool := (ofSuffix? (Text.lower path.suffix)).isSome

/-- The dialect of a source file: with markup by its suffix, or because it imports React. -/
def ofFile (path : Path) (source : Option String) : Except Fault Dialect :=
  match ofSuffix? (Text.lower path.suffix) with
  | none => .error (.unsupportedExtension (Text.lower path.suffix))
  | some tsx => .ok tsx
  | some typescript => .ok (if source.any ReactImport.occursIn then tsx else typescript)

/-- The dialect that is named, or else that of the file; an empty name names nothing. -/
def choose (named : Option String) (path : Option Path) (source : Option String) :
    Except Fault Dialect :=
  match named.filter (· ≠ ""), path with
  | some given, _ => ofName given
  | none, some p => ofFile p source
  | none, none => .error .noDialect

/-- The path of the annotated file: beside the source, with the suffix of the dialect. -/
def target (path : Path) (given : String) : Except Fault Path := do
  let d ← ofName given
  match path.withSuffix? d.suffix with
  | some p => return p
  | none => throw (.namelessPath path.text)

end Dialect

end ScriptTypes
