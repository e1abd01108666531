import ScriptTypes.Text.Blank
import ScriptTypes.Text.DecimalDigit

/-!
# Integers as users write them

Blanks around the number, one sign in front of it, digits of any script, leading
zeros, and single underscores between digits. The four separators U+001C to U+001F,
blank elsewhere, are not blank here.
-/

namespace ScriptTypes.Text

/-- The number of digits above which a number is refused. -/
def maxIntegerDigits : Nat := 4300

/-- What a text is as an integer. -/
inductive IntegerText where
  /-- The text spells the integer. -/
  | value (n : Int)
  /-- The text spells no integer. -/
  | malformed
  /-- The text spells an integer of too many digits. -/
  | tooLong (digits : Nat)
deriving DecidableEq, Repr

/-- Whether the character may stand around a number. -/
def isNumberBlank (c : Char) : Bool := isBlank c && !(0x1c ≤ c.toNat && c.toNat ≤ 0x1f)

/--
The digits at the start of a text, and what follows them. A single underscore may stand
between two digits; one that stands elsewhere spoils the numeral.
-/
def numeral? : List Char → Option (List Nat × List Char)
  | [] => none
  | c :: cs => do
    let d ← decimalDigit? c
    match cs with
    | '_' :: rest =>
      let (ds, after) ← numeral? rest
      return (d :: ds, after)
    | e :: rest =>
      if (decimalDigit? e).isSome then
        let (ds, after) ← numeral? (e :: rest)
        return (d :: ds, after)
      else return ([d], e :: rest)
    | [] => return ([d], [])

/-- The number that digits spell. -/
def valueOf (digits : List Nat) : Nat := digits.foldl (fun n d => 10 * n + d) 0

/-- The text read as an integer. Its digits are counted before what follows them is looked at. -/
def IntegerText.of (s : String) : IntegerText :=
  let (negative, unsigned) :=
    match s.toList.dropWhile isNumberBlank with
    | '-' :: r => (true, r)
    | '+' :: r => (false, r)
    | r => (false, r)
  match numeral? unsigned with
  | none => .malformed
  | some (digits, after) =>
    if digits.length > maxIntegerDigits then .tooLong digits.length
    else if !after.all isNumberBlank then .malformed
    else .value (if negative then -valueOf digits else valueOf digits)

end ScriptTypes.Text
