import ScriptTypes.Console.ColorNames
import ScriptTypes.Fault
import ScriptTypes.Text.Blank
import ScriptTypes.Text.LetterCase

/-!
# Styles

A style is described by words: attributes, a color, `on` and a color for the ground,
`link` and an address. Different words can describe the same style; its normal form says
whether they do. No style is shown, but a closing tag has to name the style that it ends.
-/

namespace ScriptTypes.Console

/-- What a style switches on or off. -/
inductive Attribute where
  | bold
  | dim
  | italic
  | underline
  | blink
  | blink2
  | reverse
  | conceal
  | strike
  | underline2
  | frame
  | encircle
  | overline
deriving DecidableEq, Repr

namespace Attribute

/-- All attributes, in the order in which the normal form of a style has them. -/
def all : List Attribute :=
  [bold, dim, italic, underline, blink, blink2, reverse, conceal, strike, underline2, frame,
   encircle, overline]

/-- The words for an attribute; the first is the one in normal forms. -/
def words : Attribute → List String
  | bold => ["bold", "b"]
  | dim => ["dim", "d"]
  | italic => ["italic", "i"]
  | underline => ["underline", "u"]
  | blink => ["blink"]
  | blink2 => ["blink2"]
  | reverse => ["reverse", "r"]
  | conceal => ["conceal", "c"]
  | strike => ["strike", "s"]
  | underline2 => ["underline2", "uu"]
  | frame => ["frame"]
  | encircle => ["encircle"]
  | overline => ["overline", "o"]

/-- The name of an attribute. -/
def name (a : Attribute) : String := a.words.headD ""

/-- The attribute of a word. -/
def ofWord? (word : String) : Option Attribute := all.find? fun a => a.words.contains word

end Attribute

/-! ## Colors -/

/-- The largest part of a color, and the largest number of one. -/
def largestColorPart : Int := 255

/-- What stands between two parentheses at the end of a word that starts with the given one. -/
def argument? (function : String) (word : List Char) : Option (List Char) :=
  let rest := word.drop (function.length + 1)
  if word.take (function.length + 1) = function.toList ++ ['('] ∧ rest.getLast? = some ')' then
    some rest.dropLast
  else none

/-- Whether the word is the number of a color: one to three digits. -/
def isColorNumber (digits : List Char) : Bool :=
  1 ≤ digits.length && digits.length ≤ 3 && digits.all (·.isDigit) &&
    Text.valueOf (digits.map fun c => c.toNat - '0'.toNat) ≤ largestColorPart

/-- Whether the character can stand between the parentheses of a color given by its parts. -/
def isPartChar (c : Char) : Bool := (Text.decimalDigit? c).isSome || c = ',' || Text.isBlank c

/-- Whether the text gives a color by three parts; each part has to be an integer. -/
def isColorTriple (parts : List Char) : Except Fault Bool := do
  match (String.ofList parts).splitOn "," with
  | [red, green, blue] =>
    let parts ← [red, green, blue].mapM integerOf
    return parts.all (· ≤ largestColorPart)
  | _ => return false

/-- Whether a word in small letters is a color. -/
def isColor (word : String) : Except Fault Bool := do
  let cs := word.toList
  if colorNames.contains word then return true
  else
    match cs, argument? "color" cs, argument? "rgb" cs with
    | '#' :: digits, _, _ =>
      return digits.length = 6 && digits.all fun c => c.isDigit || ('a' ≤ c && c ≤ 'f')
    | _, some digits, _ => return isColorNumber digits
    | _, _, some parts =>
      if parts ≠ [] ∧ parts.all isPartChar then isColorTriple parts else return false
    | _, _, _ => return false

/-! ## Descriptions -/

/-- A style. -/
structure Style where
  /-- The attributes that are switched, the last one first. -/
  switches : List (Attribute × Bool) := []
  /-- The color of the letters. -/
  color : Option String := none
  /-- The color behind the letters. -/
  ground : Option String := none
  /-- The address that the text refers to. -/
  link : Option String := none

namespace Style

/-- The style with what further words add to it; nothing if they describe none. -/
def extended? (s : Style) : List String → Except Fault (Option Style)
  | [] => return some s
  | [word] => do
    let word := Text.lower word
    if word = "on" ∨ word = "not" ∨ word = "link" then return none
    else
      match Attribute.ofWord? word with
      | some a => return some { s with switches := (a, true) :: s.switches }
      | none => return if ← isColor word then some { s with color := word } else none
  | word :: next :: rest => do
    let word := Text.lower word
    if word = "on" then
      let color := Text.lower next
      if ← isColor color then extended? { s with ground := color } rest else return none
    else if word = "not" then
      match Attribute.ofWord? next with
      | some a => extended? { s with switches := (a, false) :: s.switches } rest
      | none => return none
    else if word = "link" then extended? { s with link := next } rest
    else
      match Attribute.ofWord? word with
      | some a => extended? { s with switches := (a, true) :: s.switches } (next :: rest)
      | none =>
        if ← isColor word then extended? { s with color := word } (next :: rest) else return none

/-- The style that a text describes. -/
def ofText? (text : String) : Except Fault (Option Style) :=
  if Text.strip text = "none" then return some {} else extended? {} (Text.wordsOf text)

/-- The words for what is switched. -/
def switchWords (s : Style) : List String :=
  Attribute.all.filterMap fun a =>
    (s.switches.lookup a).map fun on => if on then a.name else "not " ++ a.name

/-- The normal form of a style. -/
def text (s : Style) : String :=
  let words := s.switchWords ++ s.color.toList ++ (s.ground.map ("on " ++ ·)).toList ++
    (s.link.map ("link " ++ ·)).toList
  if words = [] then "none" else " ".intercalate words

/-- What a style is called; what describes no style is a name, in which case does not matter. -/
def nameOf (text : String) : Except Fault String := do
  match ← ofText? text with
  | some s => return s.text
  | none => return Text.lower (Text.strip text)

end Style

end ScriptTypes.Console
