import ScriptTypes.Console.Numeral
import ScriptTypes.Text.Identifier
import ScriptTypes.Text.Printable
import ScriptTypes.Text.Quoted

/-!
# Tokens

The arguments of a handler are read as words, numbers, strings, brackets and signs, up to a number
sign, behind which everything is a remark. Each token is found at its first character, together
with the number of characters that it goes on for.
-/

namespace ScriptTypes.Console

/-- What arguments consist of. -/
inductive Token where
  /-- A name. -/
  | name
  /-- A number, three points, or a word that stands for a value. -/
  | value
  /-- A word that no argument has. -/
  | reserved
  /-- A string. -/
  | string
  /-- A bracket that opens. -/
  | opening (bracket : Char)
  /-- A bracket that closes. -/
  | closing (bracket : Char)
  /-- A comma. -/
  | comma
  /-- A colon. -/
  | colon
  /-- A point between two names. -/
  | point
  /-- A plus or minus sign. -/
  | sign
  /-- A sign or a word between two arguments. -/
  | link
  /-- An equals sign, which no argument has. -/
  | equals
  /-- Any other character that belongs to no argument. -/
  | stray
  /-- A backslash, behind which nothing is read. -/
  | backslash
  /-- Something that cannot be read at all. -/
  | broken (reason : String)
deriving DecidableEq, Repr

/-- The brackets that open, each with the one that closes it. -/
def brackets : List (Char × Char) := [('(', ')'), ('\x7b', '\x7d')]

/-- The words that stand for a value. -/
def valueWords : List String := ["False", "None", "True"]

/-- The words that stand between two arguments. -/
def linkWords : List String := ["and", "in", "is", "or"]

/-- The signs that stand between two arguments. -/
def linkSigns : List Char := ['%', '&', '*', '/', '<', '>', '@', '^', '|']

/-- The words that no argument has. -/
def reservedWords : List String :=
  ["as", "assert", "async", "await", "break", "class", "continue", "def", "del", "elif",
   "else", "except", "finally", "for", "from", "global", "if", "import", "lambda",
   "nonlocal", "not", "pass", "raise", "return", "try", "while", "with", "yield"]

/-- The words that can stand in front of a string, in small letters. -/
def stringKinds : List String := ["b", "r", "u", "br", "rb"]

/-- Whether the character can be part of a word, or would have to be if it could be read. -/
def isWordLike (c : Char) : Bool := c.isAlphanum || c = '_' || c.toNat ≥ 128

/-- The characters between two tokens. -/
def isGap (c : Char) : Bool := [' ', '\t', '\n', '\r', '\x0c'].contains c

/-- What is wrong with a character that is no part of a word. -/
def invalidCharacter (c : Char) : String :=
  let number :=
    "U+" ++ String.ofList
      ((Text.hexDigits (max 4 (Nat.toDigits 16 c.toNat).length) c.toNat).map Char.toUpper)
  if Text.isPrintable c then "invalid character '" ++ c.toString ++ "' (" ++ number ++ ")"
  else "invalid non-printable character " ++ number

/-- The first character that does not belong in a word. -/
def foreignCharacter? : List Char → Option Char
  | [] => none
  | c :: cs =>
    if Text.identifierStarts.holds c then cs.find? fun d => !Text.identifierParts.holds d
    else some c

/-- The token that a word is. -/
def Token.ofWord (word : List Char) : Token :=
  match foreignCharacter? word with
  | some c => .broken (invalidCharacter c)
  | none =>
    let word := String.ofList word
    if valueWords.contains word then .value
    else if linkWords.contains word then .link
    else if reservedWords.contains word then .reserved
    else .name

/-- The token that a character is which belongs to no word, no number and no string. -/
def Token.ofChar (c : Char) : Token :=
  if brackets.any (·.1 = c) then .opening c
  else if brackets.any (·.2 = c) then .closing c
  else if c = ',' then .comma
  else if c = ':' then .colon
  else if c = '.' then .point
  else if c = '+' ∨ c = '-' then .sign
  else if linkSigns.contains c then .link
  else if c = '=' then .equals
  else if c = '\\' then .backslash
  else if Text.isPrintable c then .stray
  else .broken (invalidCharacter c)

/-- The number of characters of a string up to its ending, which is counted too. -/
def stringLength? (ending : List Char) : List Char → Option Nat
  | [] => none
  | '\\' :: _ :: cs => (stringLength? ending cs).map (· + 2)
  | c :: cs =>
    if ending.isPrefixOf (c :: cs) then some ending.length
    else (stringLength? ending cs).map (· + 1)

/-- The string behind a quote, three of which start a string that three end. -/
def stringToken (ofBytes : Bool) (quote : Char) (cs : List Char) : Token × Nat :=
  let tripled := [quote, quote].isPrefixOf cs
  let length? :=
    if tripled then (stringLength? [quote, quote, quote] (cs.drop 2)).map (· + 2)
    else stringLength? [quote] cs
  match length? with
  | none =>
    (.broken ("unterminated " ++ (if tripled then "triple-quoted " else "") ++
      "string literal (detected at line 1)"), cs.length)
  | some n =>
    if ofBytes && (cs.take n).any (·.toNat ≥ 128) then
      (.broken "bytes can only contain ASCII literal characters", n)
    else (.string, n)

/-- The token at a character that `cs` follows, and how many characters of `cs` belong to it. -/
def tokenAt (c : Char) (cs : List Char) : Token × Nat :=
  if c.isDigit || (c = '.' && cs.head?.any Char.isDigit) then
    match afterNumber (c :: cs) with
    | .error reason => (.broken reason, cs.length)
    | .ok rest => (.value, cs.length - rest.length)
  else if ['.', '.', '.'].isPrefixOf (c :: cs) then (.value, 2)
  else if c = '\'' ∨ c = '"' then stringToken false c cs
  else if isWordLike c then
    let word := c :: cs.takeWhile isWordLike
    let kind := String.ofList (word.map Char.toLower)
    match cs.dropWhile isWordLike with
    | q :: rest =>
      if (q = '\'' ∨ q = '"') ∧ stringKinds.contains kind then
        let (t, n) := stringToken (kind.contains 'b') q rest
        (t, word.length + n)
      else (.ofWord word, word.length - 1)
    | [] => (.ofWord word, word.length - 1)
  else (.ofChar c, 0)

/-- The tokens of a text, `skip` characters of which belong to the token before it. -/
def tokensFrom (skip : Nat) : List Char → List Token
  | [] => []
  | c :: cs =>
    if skip > 0 then tokensFrom (skip - 1) cs
    else if isGap c then tokensFrom 0 cs
    else if c = '#' then []
    else (tokenAt c cs).1 :: tokensFrom (tokenAt c cs).2 cs

end ScriptTypes.Console
