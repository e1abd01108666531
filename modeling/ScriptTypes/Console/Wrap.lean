import ScriptTypes.Text.Blank
import ScriptTypes.Text.Cluster

/-!
# Breaking lines

A line that is too broad is broken between words. Blanks stay with the word in front of
them, and those that reach over the edge are dropped. A word that is broader than a whole
line is folded over several lines or, in a table, broken off with an ellipsis.
-/

namespace ScriptTypes.Console

/-- What becomes of a word that is broader than a line. -/
inductive Overflow where
  /-- It is folded over several lines. -/
  | fold
  /-- It is broken off. -/
  | ellipsis
deriving DecidableEq, Repr

/-- The character that stands for what was broken off. -/
def ellipsisMark : Char := '…'

/-! ## Lines and tabs -/

/-- The parts of a text between the characters that separate; there is always at least one. -/
def partsBetween (separates : Char → Bool) : List Char → List (List Char)
  | [] => [[]]
  | c :: cs =>
    if separates c then [] :: partsBetween separates cs
    else
      match partsBetween separates cs with
      | p :: ps => (c :: p) :: ps
      | [] => [[c]]

/-- The distance between the columns that tabs lead to. -/
def tabWidth : Nat := 8

/-- The parts of a line with blanks between them up to the next column that a tab leads to. -/
def joinAtTabs (column : Nat) : List (List Char) → List Char
  | [] => []
  | [part] => part
  | part :: next :: rest =>
    let reached := column + Text.cellCount (part ++ [' '])
    let gap := (tabWidth - reached % tabWidth) % tabWidth
    part ++ ' ' :: List.replicate gap ' ' ++ joinAtTabs (reached + gap) (next :: rest)

/-- The line with blanks for tabs. -/
def withoutTabs (line : List Char) : List Char := joinAtTabs 0 (partsBetween (· = '\t') line)

/-! ## Words -/

/-- The line without the blanks at its end. -/
def withoutTrailingBlanks (line : List Char) : List Char :=
  (line.reverse.dropWhile Text.isBlank).reverse

/--
The words of a line, each with the blanks behind it, the first also with those in front.
A run of characters is extended to the front, so that a word ends where a blank is followed
by something else.
-/
def words (line : List Char) : List (List Char) :=
  match line.splitBy fun a b => !Text.isBlank a || Text.isBlank b with
  | blanks :: first :: rest =>
    if blanks.all Text.isBlank then (blanks ++ first) :: rest else blanks :: first :: rest
  | runs => runs

/--
Lines of so many cells at most, as far as words are not broader. The line under way takes
`used` cells.
-/
def filledFrom (overflow : Overflow) (width : Nat) (line : List Char) (used : Nat) :
    List (List Char) → List (List Char)
  | [] => [line]
  | word :: rest =>
    let breadth := Text.cellCount (withoutTrailingBlanks word)
    let done := if line = [] then [] else [line]
    if used + breadth ≤ width then
      filledFrom overflow width (line ++ word) (used + Text.cellCount word) rest
    else if breadth ≤ width ∨ overflow = .ellipsis then
      done ++ filledFrom overflow width word (Text.cellCount word) rest
    else
      let parts := Text.chopped width word
      let last := parts.getLast?.getD []
      done ++ parts.dropLast ++ filledFrom overflow width last (Text.cellCount last) rest

/-- The line without the blanks at its end that make it longer than so many characters. -/
def withoutExcessBlanks (width : Nat) (line : List Char) : List Char :=
  let blanks := line.length - (withoutTrailingBlanks line).length
  line.take (line.length - min blanks (line.length - width))

/-- The line cut to so many cells, if it takes more. -/
def truncated (overflow : Overflow) (width : Nat) (line : List Char) : List Char :=
  if Text.cellCount line ≤ width then line
  else
    match overflow with
    | .fold => Text.fitted width line
    | .ellipsis => Text.fitted (width - 1) line ++ [ellipsisMark]

/-- The lines of a text, broken so that each takes so many cells at most. -/
def wrapped (overflow : Overflow) (width : Nat) (text : List Char) : List (List Char) :=
  (partsBetween (· = '\n') text).flatMap fun line =>
    (filledFrom overflow width [] 0 (words (withoutTabs line))).map fun filled =>
      truncated overflow width (withoutExcessBlanks width filled)

end ScriptTypes.Console
