import ScriptTypes.Console.Emoji
import ScriptTypes.Console.Handler
import ScriptTypes.Console.Style

/-!
# Style tags

What the command line prints is marked up with style tags such as `[red]` and
`[/red]`. No colors are written, so a tag prints nothing; but a closing tag must
close an open one. Text that should appear as it is has to be escaped first: a
backslash in front of a bracket takes away its meaning. Escaped or not, the text
between two tags is printed with emoji for their codes.

Something in brackets is a tag if it starts with a small letter, `#`, `/` or `@` and
holds no further bracket. Of the backslashes in front of a tag two stand for one, and
one that is left over takes away the meaning of the tag.
-/

namespace ScriptTypes.Console

/-- Whether a tag can start with the character. -/
def isTagStart (c : Char) : Bool := c.isLower || c = '#' || c = '/' || c = '@'

/-- A tag with the backslashes in front of it. -/
structure Tag where
  /-- The number of backslashes. -/
  slashes : Nat
  /-- What stands in the brackets. -/
  body : List Char

/-- The number of characters that a tag takes up. -/
def Tag.length (t : Tag) : Nat := t.slashes + t.body.length + 2

/-- The tag that a text starts with, if it starts with one. -/
def tagAt? (cs : List Char) : Option Tag :=
  let slashes := (cs.takeWhile (· = '\\')).length
  match cs.drop slashes with
  | '[' :: c :: rest =>
    let inner (c : Char) : Bool := c ≠ '[' && c ≠ ']'
    match rest.dropWhile inner with
    | ']' :: _ => if isTagStart c then some ⟨slashes, c :: rest.takeWhile inner⟩ else none
    | _ => none
  | _ => none

/-! ## Escaping -/

/-- The text with a backslash more in front of each tag, `skip` being inside of one. -/
def escapeFrom (skip : Nat) : List Char → List Char
  | [] => []
  | c :: cs =>
    if skip > 0 then c :: escapeFrom (skip - 1) cs
    else
      match tagAt? (c :: cs) with
      | some t => List.replicate (t.slashes + 1) '\\' ++ c :: escapeFrom (t.length - 1) cs
      | none => c :: escapeFrom 0 cs

/-- The text escaped; a single backslash at its end is doubled, since a tag may follow. -/
def escape (s : String) : String :=
  let cs := escapeFrom 0 s.toList
  match cs.reverse with
  | '\\' :: '\\' :: _ => String.ofList cs
  | '\\' :: _ => String.ofList (cs ++ ['\\'])
  | _ => String.ofList cs

/-! ## Rendering -/

/-- What a marked-up text consists of. -/
inductive Piece where
  /-- A text to be printed. -/
  | text (chars : List Char)
  /-- A tag, and where it stands. -/
  | tag (body : List Char) (position : Nat)

/-- What a tag with backslashes in front of it consists of. -/
def Tag.pieces (t : Tag) (position : Nat) : List Piece :=
  .text (List.replicate (t.slashes / 2) '\\') ::
    (if t.slashes % 2 = 1 then [.text ('[' :: t.body ++ [']'])]
    else [.tag t.body (position + t.slashes)])

/--
What a text consists of from a position on, `skip` characters of which belong to a tag.
The text since the last tag is in `before`, its last character first.
-/
def piecesFrom (before : List Char) (skip position : Nat) : List Char → List Piece
  | [] => [.text before.reverse]
  | c :: cs =>
    if skip > 0 then piecesFrom before (skip - 1) (position + 1) cs
    else
      match tagAt? (c :: cs) with
      | some t =>
        .text before.reverse :: t.pieces position ++
          piecesFrom [] (t.length - 1) (position + 1) cs
      | none =>
        if c = '\\' ∧ cs.head? = some '[' then piecesFrom before 0 (position + 1) cs
        else piecesFrom (c :: before) 0 (position + 1) cs

/-- What a marked-up text consists of. -/
def piecesOf (markup : String) : List Piece := piecesFrom [] 0 0 markup.toList

/-- A tag that opens a style. -/
structure OpenTag where
  /-- The name of the style, in normal form. -/
  style : String
  /-- What stands behind an equals sign. -/
  parameters : Option (List Char)

/-- What describes the style of a tag. -/
def OpenTag.description (t : OpenTag) : String :=
  match t.parameters with
  | some parameters => t.style ++ " " ++ String.ofList parameters
  | none => t.style

/-- Closes a tag; if it is that of a handler, its arguments are read. -/
def OpenTag.close (t : OpenTag) : Except Fault Unit :=
  match t.parameters with
  | some (c :: parameters) =>
    if t.style.startsWith "@" then checkHandler (c :: parameters) else .ok ()
  | _ => .ok ()

/-- The name in a tag and, behind an equals sign, its parameters. -/
def nameAndParameters (body : List Char) : String × Option (List Char) :=
  (String.ofList (body.takeWhile (· ≠ '=')), (body.dropWhile (· ≠ '=')).tail?)

/-- A text without its tags, and what describes the styles that they opened. -/
structure Rendered where
  /-- The characters. -/
  chars : List Char := []
  /-- The descriptions of styles. -/
  descriptions : List String := []

/-- Renders pieces, `opened` being the tags that are open, the last one first. -/
def renderPieces (opened : List OpenTag) : List Piece → Except Fault Rendered
  | [] => return {}
  | .text cs :: rest => do
    let r ← renderPieces opened rest
    return { r with chars := withEmoji cs ++ r.chars }
  | .tag body position :: rest => do
    let (name, parameters) := nameAndParameters body
    if name.startsWith "/" then
      let name := Text.strip (String.ofList name.toList.tail)
      let style ← if name = "" then pure none else some <$> Style.nameOf name
      match opened.find? fun t => style.all (· = t.style) with
      | none =>
        throw (.strayClosingTag (if name = "" then "[/]" else String.ofList ('[' :: body ++ [']']))
          position)
      | some t =>
        t.close
        renderPieces (opened.eraseP fun t => style.all (· = t.style)) rest
    else
      let t : OpenTag := ⟨← Style.nameOf name, parameters⟩
      let r ← renderPieces (t :: opened) rest
      return { r with descriptions := t.description :: r.descriptions }

/-- A marked-up text rendered; a color in the description of a style can be a fault. -/
def render (markup : String) : Except Fault Rendered := do
  let r ← renderPieces [] (piecesOf markup)
  let _ ← r.descriptions.mapM Style.ofText?
  return r

/-- The text in a style, marked up. -/
def styled (style markup : String) : String := "[" ++ style ++ "]" ++ markup ++ "[/" ++ style ++ "]"

end ScriptTypes.Console
