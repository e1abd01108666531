/-!
# Paths

A path is kept as its components. Doubled slashes, components that are a single dot,
and a slash at the end say nothing and vanish; two dots stay, because only the file
system knows where they lead. Exactly two slashes in front are told apart from one.

The suffix of a name is what follows its last dot, with the dot, unless the dot is
the first or the last character of the name.
-/

namespace ScriptTypes.Files

/-- Where a path starts. -/
inductive Anchor where
  /-- In the working folder. -/
  | relative
  /-- At the root. -/
  | root
  /-- At the place that two slashes in front name. -/
  | doubleRoot
deriving DecidableEq, Repr

/-- The text in front of the components. -/
def Anchor.text : Anchor → String
  | .relative => ""
  | .root => "/"
  | .doubleRoot => "//"

/-- A path by its components. -/
structure Path where
  /-- Where the path starts. -/
  anchor : Anchor
  /-- The components. -/
  parts : List String
deriving DecidableEq, Repr

/-- The pieces of a text between slashes; there is always at least one. -/
def pieces : List Char → List (List Char)
  | [] => [[]]
  | c :: cs =>
    if c = '/' then [] :: pieces cs
    else
      match pieces cs with
      | p :: ps => (c :: p) :: ps
      | [] => [[c]]

/-- The start that the slashes in front of a text mean. -/
def Anchor.ofText : List Char → Anchor
  | '/' :: '/' :: '/' :: _ => .root
  | '/' :: '/' :: _ => .doubleRoot
  | '/' :: _ => .root
  | _ => .relative

namespace Path

/-- The path that a text spells. -/
def ofText (s : String) : Path where
  anchor := .ofText s.toList
  parts := ((pieces s.toList).map String.ofList).filter fun p => p != "" && p != "."

/-- The path as text; the working folder itself is a dot. -/
def text (p : Path) : String :=
  let s := p.anchor.text ++ "/".intercalate p.parts
  if s = "" then "." else s

/-- Whether the path holds the character that ends paths, so that none can lead there. -/
def holdsNul (p : Path) : Bool := p.parts.any (·.toList.contains '\x00')

/-- The last component, empty if there is none. -/
def name (p : Path) : String := p.parts.getLast?.getD ""

/-- The path of an entry of the folder at this path. -/
def child (p : Path) (entry : String) : Path := { p with parts := p.parts ++ [entry] }

/-- The characters of a name in front of its suffix, and those of the suffix. -/
def splitName (name : List Char) : List Char × List Char :=
  let ending := name.reverse.takeWhile (· ≠ '.')
  match name.reverse.dropWhile (· ≠ '.') with
  | '.' :: stem =>
    if ending = [] ∨ stem = [] then (name, []) else (stem.reverse, '.' :: ending.reverse)
  | _ => (name, [])

/-- The name without its suffix. -/
def stem (p : Path) : String := String.ofList (splitName p.name.toList).1

/-- The suffix of the name, empty if it has none. -/
def suffix (p : Path) : String := String.ofList (splitName p.name.toList).2

/-- The path with its suffix replaced; a path without a name has none to replace. -/
def withSuffix? (p : Path) (suffix : String) : Option Path :=
  if p.name = "" then none
  else some { p with parts := p.parts.dropLast ++ [p.stem ++ suffix] }

end Path

end ScriptTypes.Files
