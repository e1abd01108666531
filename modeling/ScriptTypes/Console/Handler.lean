import ScriptTypes.Console.Token
import ScriptTypes.Fault
import ScriptTypes.Text.Blank
import ScriptTypes.Text.WordChar

/-!
# Handlers

A tag whose name starts with `@` says what a click on the text does. Behind the equals sign
stands the name of a handler, with its arguments in parentheses if it has any, or only
arguments. No click is ever handled, so nothing is done with them; but they have to be well
formed: words, numbers and strings with commas between them, in brackets that match.
-/

namespace ScriptTypes.Console

/-- Whether the character can be part of the name of a handler. -/
def isHandlerChar (c : Char) : Bool := Text.isWordChar c || c = '.'

/-- The first token that cannot be read where it stands, `opened` being the open brackets. -/
def brokenToken? (opened : List Char) : List Token → Option String
  | [] => none
  | .broken reason :: _ => some reason
  | .backslash :: _ => none
  | .opening o :: rest => brokenToken? (o :: opened) rest
  | .closing c :: rest =>
    match opened with
    | [] => some ("unmatched '" ++ c.toString ++ "'")
    | o :: outer =>
      if brackets.contains (o, c) then brokenToken? outer rest
      else
        some ("closing parenthesis '" ++ c.toString ++ "' does not match opening parenthesis '" ++
          o.toString ++ "'")
  | _ :: rest => brokenToken? opened rest

/-- The brackets that are open after some tokens, the last one first. -/
def openAfter (opened : List Char) : List Token → List Char
  | [] => opened
  | .opening o :: rest => openAfter (o :: opened) rest
  | .closing _ :: rest => openAfter opened.tail rest
  | _ :: rest => openAfter opened rest

/-- What is wrong with the innermost bracket that is open, if one is. -/
def unclosedBracket? (opened : List Char) : Option String :=
  opened.head?.map fun o => "'" ++ o.toString ++ "' was never closed"

/-- Whether an argument can end with the token. -/
def Token.endsArgument : Token → Bool
  | .name | .value | .string | .closing _ => true
  | _ => false

/-- Whether an argument can start with the token. -/
def Token.startsArgument : Token → Bool
  | .name | .value | .string | .opening _ => true
  | _ => false

/-- Whether a token follows another one as the start of a further argument. -/
def startsFurther (before : Option Token) (t : Token) : Bool :=
  t.startsArgument && before.any (·.endsArgument) && t ≠ .opening '(' &&
    !(t = .string && before = some .string)

/-- Whether a token can follow another one, or start the text, in the innermost open bracket. -/
def mayFollow (bracket : Option Char) (before : Option Token) (t : Token) : Bool :=
  match t with
  | .reserved | .equals | .stray | .backslash | .broken _ => false
  | .name => !startsFurther before t
  | .value | .string | .opening _ => before ≠ some .point && !startsFurther before t
  | .sign => before ≠ some .point
  | .comma | .point | .link => before.any (·.endsArgument)
  | .colon => before.any (·.endsArgument) && bracket = some '\x7b'
  | .closing _ =>
    match before with
    | some (.opening _) | some .comma => true
    | before => before.any (·.endsArgument)

/-- What is said about a token that cannot follow another one, with `rest` behind it. -/
def misplaced (opened : List Char) (before : Option Token) (t : Token) (rest : List Token) :
    String :=
  let assigned := t = .equals ∧ before = some .name
  if t = .backslash then "unexpected character after line continuation character"
  else if startsFurther before t ∨ opened ≠ [] ∧ assigned then
    (unclosedBracket? (openAfter opened (t :: rest))).getD <|
      if assigned then "invalid syntax. Maybe you meant '==' or ':=' instead of '='?"
      else if opened ≠ [] ∧ ¬(before = some .name ∧ t = .string) then
        "invalid syntax. Perhaps you forgot a comma?"
      else "invalid syntax"
  else if before = some .colon ∧ (t = .comma ∨ t = .closing '\x7d') then
    "expression expected after dictionary key and ':'"
  else "invalid syntax"

/-- What is wrong with the order of tokens, after one and in open brackets. -/
def orderFault? (opened : List Char) (before : Option Token) : List Token → Option String
  | [] =>
    (unclosedBracket? opened).or
      (if before.any (·.endsArgument) ∨ before = some .comma then none else some "invalid syntax")
  | t :: rest =>
    if mayFollow opened.head? before t then orderFault? (openAfter opened [t]) (some t) rest
    else some (misplaced opened before t rest)

/-- What is wrong with a text as arguments. -/
def argumentFault? (cs : List Char) : Option String :=
  let tokens := tokensFrom 0 cs
  (brokenToken? [] tokens).or (orderFault? [] none tokens)

/-- The arguments in the parameters of a tag: none, if there is only the name of a handler. -/
def argumentsIn (parameters : List Char) : List Char :=
  let text := (Text.strip (String.ofList parameters)).toList
  match text.dropWhile isHandlerChar with
  | [] => ['(', ')']
  | '(' :: rest => if rest.getLast? = some ')' ∧ '\n' ∉ rest then '(' :: rest else text
  | _ => text

/-- Accepts the parameters of a handler's tag, if their arguments are well formed. -/
def checkHandler (parameters : List Char) : Except Fault Unit :=
  let arguments := argumentsIn parameters
  match argumentFault? arguments with
  | some reason =>
    .error (.unreadableArguments (String.ofList arguments) (String.ofList parameters) reason)
  | none => .ok ()

end ScriptTypes.Console
