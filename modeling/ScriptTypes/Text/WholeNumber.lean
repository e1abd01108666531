import ScriptTypes.Text.Integer

/-!
# Whole numbers on a command line

A positive number on the command line is written in ASCII digits: blanks around it, a plus
sign, leading zeros with or without underscores between them, single underscores between
other digits, and a point with nothing but zeros behind it do not change it.
-/

namespace ScriptTypes.Text

/-- Whether underscores stand only between two other characters. -/
def underscoresInside : List Char → Bool
  | [] => true
  | ['_'] => false
  | '_' :: '_' :: _ => false
  | _ :: cs => underscoresInside cs

/-- The characters in front of a point with nothing but zeros behind it, if there is a point. -/
def withoutZeroFraction (cs : List Char) : List Char :=
  match cs.dropWhile (· ≠ '.') with
  | _ :: fraction => if fraction.all (· = '0') then cs.takeWhile (· ≠ '.') else cs
  | [] => cs

/-- The characters without one plus sign in front. -/
def withoutPlus : List Char → List Char
  | '+' :: cs => cs
  | cs => cs

/-- The characters without zeros in front, and underscores among these. -/
def withoutLeadingZeros : List Char → List Char
  | '0' :: cs => cs.dropWhile fun c => c = '0' || c = '_'
  | cs => cs

/-- The positive number that a text spells. -/
def positive? (s : String) : Option Nat :=
  let trimmed := ((s.toList.dropWhile isNumberBlank).reverse.dropWhile isNumberBlank).reverse
  let numeral := withoutZeroFraction (withoutLeadingZeros (withoutPlus trimmed))
  let digits := numeral.filter (· ≠ '_')
  let n := valueOf (digits.map fun c => c.toNat - '0'.toNat)
  if numeral.head? ≠ some '_' ∧ underscoresInside numeral ∧ digits.all (·.isDigit) ∧
      digits.length ≤ maxIntegerDigits ∧ 1 ≤ n then some n
  else none

end ScriptTypes.Text
