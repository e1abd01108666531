import ScriptTypes.Text.Blank
import ScriptTypes.Text.WordChar

/-!
# Imports of React

A script that uses React is written in the dialect with markup, whatever its file is
called. It gives itself away by an import: `from` or `import` followed by the quoted
name, or `require` of it in parentheses. Blanks may stand between the parts, either
quote may open and close the name, and the word in front must not be the end of a
longer one. Whether the place is code, a comment or a string is not asked.
-/

namespace ScriptTypes.ReactImport

open Text

/-- What follows a given text, after blanks. -/
def afterToken (token : String) (cs : List Char) : Option (List Char) :=
  token.toList.isPrefixOf? (cs.dropWhile isBlank)

/-- What follows a quote of either kind. -/
def afterQuote : List Char → Option (List Char)
  | '"' :: cs => some cs
  | '\'' :: cs => some cs
  | _ => none

/-- What follows the quoted name, after blanks. -/
def afterName (cs : List Char) : Option (List Char) := do
  let rest ← afterQuote (cs.dropWhile isBlank)
  afterQuote (← "react".toList.isPrefixOf? rest)

/-- Whether an import starts at the first character, the word in front being left out of account. -/
def startsHere (cs : List Char) : Bool :=
  (("from".toList.isPrefixOf? cs).bind afterName).isSome ||
  (("import".toList.isPrefixOf? cs).bind afterName).isSome ||
  ((("require".toList.isPrefixOf? cs).bind (afterToken "(")).bind afterName |>.bind
    (afterToken ")")).isSome

/-- Whether an import starts somewhere; `fresh` says that a word could start here. -/
def occursFrom (fresh : Bool) : List Char → Bool
  | [] => false
  | c :: cs => fresh && startsHere (c :: cs) || occursFrom (!isWordChar c) cs

/-- Whether the source imports React. -/
def occursIn (source : String) : Bool := occursFrom true source.toList

end ScriptTypes.ReactImport
