/-!
# Numerals

A number among the arguments of a handler is whole, in base ten, sixteen, eight or two, or it has
a point, an exponent or the letter j behind it. A single underscore may stand between two digits,
and a number must not run into a word. What is wrong with a numeral is said before anything else
is looked at, so reading one gives either what follows it or the reason why it is none.
-/

namespace ScriptTypes.Console

/-- What the digits of a numeral count in. -/
inductive Radix where
  /-- Tens. -/
  | decimal
  /-- Sixteens, after `0x`. -/
  | hexadecimal
  /-- Eights, after `0o`. -/
  | octal
  /-- Twos, after `0b`. -/
  | binary
deriving DecidableEq, Repr

namespace Radix

/-- The radix that the letter after a zero announces. -/
def ofLetter? (c : Char) : Option Radix :=
  match c.toLower with
  | 'x' => some .hexadecimal
  | 'o' => some .octal
  | 'b' => some .binary
  | _ => none

/-- The radix in the words of a message. -/
def name : Radix → String
  | decimal => "decimal"
  | hexadecimal => "hexadecimal"
  | octal => "octal"
  | binary => "binary"

/-- The digits, small letters for the capital ones too. -/
def digits : Radix → List Char
  | decimal => "0123456789".toList
  | hexadecimal => "0123456789abcdef".toList
  | octal => "01234567".toList
  | binary => "01".toList

/-- Whether the character is a digit. -/
def holds (r : Radix) (c : Char) : Bool := r.digits.contains c.toLower

/-- What is wrong with a numeral that breaks off or runs into a word. -/
def fault (r : Radix) : String := "invalid " ++ r.name ++ " literal"

/-- What follows digits; the next character has to be one of them if a digit is due. -/
def afterDigits (r : Radix) (due : Bool) : List Char → Except String (List Char)
  | [] => if due then .error r.fault else .ok []
  | c :: cs =>
    if r.holds c then r.afterDigits false cs
    else if c.isDigit then
      .error ("invalid digit '" ++ c.toString ++ "' in " ++ r.name ++ " literal")
    else if due then .error r.fault
    else if c = '_' then r.afterDigits true cs
    else .ok (c :: cs)

end Radix

/-- The words that may stand right behind a numeral. -/
def linkingWords : List (List Char) :=
  ["and", "else", "for", "if", "in", "is", "not", "or"].map String.toList

/-- The rest of a text after a numeral, which must not go on as a word. -/
def endOfNumeral (kind : String) (cs : List Char) : Except String (List Char) :=
  if cs.head?.any (fun c => c.isAlphanum || c = '_') && !linkingWords.any (·.isPrefixOf cs) then
    .error ("invalid " ++ kind ++ " literal")
  else .ok cs

/-- What follows the fraction, if one stands at the start. -/
def afterFraction : List Char → Except String (List Char)
  | '.' :: c :: cs =>
    if c.isDigit then Radix.decimal.afterDigits true (c :: cs) else .ok (c :: cs)
  | '.' :: [] => .ok []
  | cs => .ok cs

/-- What follows the exponent, if one stands at the start. -/
def afterExponent : List Char → Except String (List Char)
  | [] => .ok []
  | e :: cs =>
    if e.toLower ≠ 'e' ∨ linkingWords.any (·.isPrefixOf (e :: cs)) then .ok (e :: cs)
    else
      match cs with
      | '+' :: cs | '-' :: cs | cs => Radix.decimal.afterDigits true cs

/-- Whether a numeral is a whole number with a zero in front of other digits. -/
def hasLeadingZero (cs : List Char) : Bool :=
  let whole := cs.takeWhile fun c => c.isDigit || c = '_'
  cs.head? = some '0' && whole.any (fun c => c.isDigit && c ≠ '0') &&
    !(cs.drop whole.length).head?.any fun c => ['.', 'e', 'j'].contains c.toLower

/-- What follows the decimal number at the start of a text. -/
def afterDecimal (cs : List Char) : Except String (List Char) := do
  let rest ← if cs.head? = some '.' then pure cs else Radix.decimal.afterDigits true cs
  if hasLeadingZero cs then
    .error ("leading zeros in decimal integer literals are not permitted; " ++
      "use an 0o prefix for octal integers")
  else
    match ← afterExponent (← afterFraction rest) with
    | c :: rest =>
      if c.toLower = 'j' then endOfNumeral "imaginary" rest else endOfNumeral "decimal" (c :: rest)
    | [] => .ok []

/-- What follows the number at the start of a text. -/
def afterNumber : List Char → Except String (List Char)
  | '0' :: c :: cs =>
    match Radix.ofLetter? c with
    | some r => do
      let digits := if cs.head? = some '_' then cs.tail else cs
      endOfNumeral r.name (← r.afterDigits true digits)
    | none => afterDecimal ('0' :: c :: cs)
  | cs => afterDecimal cs

end ScriptTypes.Console
