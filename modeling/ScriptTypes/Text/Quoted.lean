import ScriptTypes.Text.Printable

/-!
# Quoted text

Messages quote a text so that it can be told from the sentence around it: in single
quotes, unless it holds a single quote and no double one. The quote in use and the
backslash are escaped, and so is every character that cannot be printed.
-/

namespace ScriptTypes.Text

/-- The last `digits` hexadecimal digits of a number. -/
def hexDigits : (digits n : Nat) → List Char
  | 0, _ => []
  | digits + 1, n => hexDigits digits (n / 16) ++ [Nat.digitChar (n % 16)]

/-- One character inside a text quoted by `quote`. -/
def escaped (quote c : Char) : List Char :=
  if c = quote || c = '\\' then ['\\', c]
  else if c = '\n' then ['\\', 'n']
  else if c = '\r' then ['\\', 'r']
  else if c = '\t' then ['\\', 't']
  else if isPrintable c then [c]
  else if c.toNat < 0x100 then '\\' :: 'x' :: hexDigits 2 c.toNat
  else if c.toNat < 0x10000 then '\\' :: 'u' :: hexDigits 4 c.toNat
  else '\\' :: 'U' :: hexDigits 8 c.toNat

/-- The text in quotes. -/
def quoted (s : String) : String :=
  let quote := if s.contains '\'' && !s.contains '"' then '"' else '\''
  String.ofList (quote :: s.toList.flatMap (escaped quote) ++ [quote])

end ScriptTypes.Text
