/-!
# Sets of characters, as ranges

The classes of characters that the library tells apart are data of the Unicode
standard. Each is kept as its maximal runs of code points, in increasing order.
-/

namespace ScriptTypes.Text

/-- Runs of code points, both ends included. -/
abbrev RangeTable := List (Nat × Nat)

/-- Whether one of the runs holds the character. -/
def RangeTable.holds (t : RangeTable) (c : Char) : Bool :=
  t.any fun r => r.1 ≤ c.toNat && c.toNat ≤ r.2

theorem RangeTable.holds_iff {t : RangeTable} {c : Char} :
    t.holds c = true ↔ ∃ r ∈ t, r.1 ≤ c.toNat ∧ c.toNat ≤ r.2 := by
  simp [RangeTable.holds]

end ScriptTypes.Text
