import ScriptTypes.Console.Markup
import ScriptTypes.Console.Wrap

/-!
# Printing

A line is printed with its style tags taken away, without the characters that ring,
move back or feed the paper, and broken where it is too broad. Text that is passed on
as it is only loses the sequences that control a terminal.
-/

namespace ScriptTypes.Console

/-- The characters that are not printed: bell, backspace, vertical tab, form feed, return. -/
def isUnprinted (c : Char) : Bool := [7, 8, 11, 12, 13].contains c.toNat

/-- The number of cells in a line. -/
def lineWidth : Nat := 500

/-- What a marked-up text shows. -/
def shown (markup : String) : Except Fault Rendered := do
  let r ← render markup
  return { r with chars := r.chars.filter (!isUnprinted ·) }

/-- The lines that a marked-up text prints. -/
def line (markup : String) : Except Fault String := do
  let lines := wrapped .fold lineWidth (← shown markup).chars
  return String.join (lines.map fun cs => String.ofList cs ++ "\n")

/-- What follows a sequence that controls a terminal: digits and signs, then a letter. -/
def afterControl? (cs : List Char) : Option (List Char) :=
  match cs.dropWhile fun c => c.isDigit || c = ';' || c = '?' with
  | c :: rest => if c.isAlpha then some rest else none
  | [] => none

/-- The text without terminal control, `skip` characters of which belong to a sequence. -/
def plainFrom (skip : Nat) : List Char → List Char
  | [] => []
  | c :: cs =>
    if skip > 0 then plainFrom (skip - 1) cs
    else if c = '\x1b' ∧ cs.head? = some '[' then
      match afterControl? (cs.drop 1) with
      | some rest => plainFrom (cs.length - rest.length) cs
      | none => c :: plainFrom 0 cs
    else c :: plainFrom 0 cs

/-- The text without the sequences that control a terminal. -/
def plain (s : String) : String := String.ofList (plainFrom 0 s.toList)

end ScriptTypes.Console
