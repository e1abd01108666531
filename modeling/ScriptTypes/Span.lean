import ScriptTypes.Fault

/-!
# Ranges of a source

A range is half open and counts bytes. It does not end before it starts; whether it
lies inside a source is the business of those who use it.
-/

namespace ScriptTypes

/-- A half-open range of byte offsets. -/
structure Span where
  /-- The offset where the range starts. -/
  start : Int
  /-- The offset where it ends. -/
  stop : Int
  /-- A range does not end before it starts. -/
  ordered : start ≤ stop
deriving DecidableEq

/-- The range between two offsets. -/
def Span.between (start stop : Int) : Except Fault Span :=
  if h : start ≤ stop then .ok ⟨start, stop, h⟩ else .error (.reversedSpan start stop)

end ScriptTypes
