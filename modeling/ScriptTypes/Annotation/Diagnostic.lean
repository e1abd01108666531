import ScriptTypes.Syntax.Node

/-!
# Bindings that cannot be annotated

Rest patterns, array patterns and `this` take no annotation that the library could
find. They are left alone and reported, with the place and the text of the pattern.
-/

namespace ScriptTypes.Annotation

open Syntax (Node)

/-- A place in a source: how many lines are in front, and how many bytes of its own line. -/
structure Position where
  /-- The number of lines in front. -/
  row : Nat
  /-- The number of bytes in front on the same line. -/
  column : Nat
deriving DecidableEq, Repr

/-- The place of an offset; one beyond the end is at the end. -/
def Position.ofOffset (source : List UInt8) (offset : Nat) : Position :=
  let before := source.take offset
  ⟨before.count 10, (before.reverse.takeWhile (· ≠ 10)).length⟩

/-- A pattern that was left alone. -/
structure Diagnostic where
  /-- The kind of the pattern. -/
  patternKind : String
  /-- The text of the pattern. -/
  text : String
  /-- The offset where the pattern starts. -/
  start : Nat
  /-- The offset where it ends. -/
  stop : Nat
  /-- The place where it starts. -/
  position : Position
deriving DecidableEq, Repr

/-- The kinds of patterns that are reported. -/
def unsupportedKinds : List String := ["rest_pattern", "array_pattern", "this"]

/-- The report on a pattern. -/
def Diagnostic.ofPattern (source : List UInt8) (pattern : Node) : Except Fault Diagnostic :=
  return ⟨pattern.kind, ← pattern.text, pattern.start, pattern.stop, .ofOffset source pattern.start⟩

/-- The name that readers of reports tell this one by. -/
def Diagnostic.label : String := "unsupported-pattern"

/-- The kind of a pattern in words. -/
def Diagnostic.kindInWords (d : Diagnostic) : String :=
  d.patternKind.map fun c => if c = '_' then ' ' else c

/-- The wording of the report. -/
def Diagnostic.message (d : Diagnostic) : String :=
  "Cannot annotate " ++ d.kindInWords ++ " `" ++ d.text ++ "`"

end ScriptTypes.Annotation
