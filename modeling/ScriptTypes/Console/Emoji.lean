import ScriptTypes.Console.EmojiNames
import ScriptTypes.Text.Blank
import ScriptTypes.Text.LetterCase

/-!
# Emoji codes

A name of an emoji between two colons, such as `:smile:`, is printed as the emoji. The
name can be followed by `-emoji` or `-text`, which selects the picture or the letter form.
A code holds no blank; one whose name is unknown stays as it is, and its second colon does
not open another code.
-/

namespace ScriptTypes.Console

/-- The word after the first of the given name, in a list of names and what they name. -/
def named? (name : String) : List String → Option String
  | key :: value :: rest => if key = name then some value else named? name rest
  | _ => none

/-- The emoji of a name. -/
def emoji? (name : String) : Option String := named? name (Text.wordsOf emojiNames)

/-- The endings of codes that select a form, with the character that does so. -/
def emojiForms : List (String × Char) := [("-emoji", '\ufe0f'), ("-text", '\ufe0e')]

/-- What stands in front of an ending. -/
def before? (ending : String) (cs : List Char) : Option (List Char) :=
  if cs.drop (cs.length - ending.length) = ending.toList then
    some (cs.take (cs.length - ending.length))
  else none

/-- What a code shows, given what stands between its colons. -/
def codeShown? (code : List Char) : Option (List Char) :=
  let form := emojiForms.findSome? fun (ending, selector) =>
    (before? ending code).map fun name => (name, [selector])
  let (name, selector) := form.getD (code, [])
  (emoji? (Text.lower (String.ofList name))).map fun e => e.toList ++ selector

/-- The code that follows a colon. -/
def codeAfter? (cs : List Char) : Option (List Char) :=
  let code := cs.takeWhile fun c => c ≠ ':' && !Text.isBlank c
  if (cs.drop code.length).head? = some ':' then some code else none

/-- The text with emoji for codes, `skip` characters of which belong to a code. -/
def withEmojiFrom (skip : Nat) : List Char → List Char
  | [] => []
  | c :: cs =>
    if skip > 0 then withEmojiFrom (skip - 1) cs
    else
      match if c = ':' then codeAfter? cs else none with
      | some code =>
        (codeShown? code).getD (':' :: code ++ [':']) ++ withEmojiFrom (code.length + 1) cs
      | none => c :: withEmojiFrom 0 cs

/-- The text with emoji for codes. -/
def withEmoji (cs : List Char) : List Char := withEmojiFrom 0 cs

end ScriptTypes.Console
