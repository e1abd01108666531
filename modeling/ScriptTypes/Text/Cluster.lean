import ScriptTypes.Text.CellWidth

/-!
# What is not to be cut

A text is cut only between clusters. A cluster is a character that takes cells, with the
marks behind it and what is drawn into it. Cutting at a number of cells can hit the middle
of a wide character; a blank then stands for the half that would remain.
-/

namespace ScriptTypes.Text

/-- A character with those behind it that belong to it, or some at the start that take no cell. -/
structure Cluster where
  /-- The characters. -/
  chars : List Char
  /-- The cells that they take. -/
  cells : Nat

/-- The clusters of a text, `now` being under way and `base` what a selector would act on. -/
def clustersFrom (now : Cluster) (base : Option Char) : List Char → List Cluster
  | [] => [now]
  | [c] =>
    if c = joiner then [⟨now.chars ++ [c], now.cells⟩]
    else if c = pictureSelector then [⟨now.chars ++ [c], now.cells + pictureGain base⟩]
    else if cellWidth c = 0 then [⟨now.chars ++ [c], now.cells⟩]
    else [now, ⟨[c], cellWidth c⟩]
  | c :: d :: cs =>
    if c = joiner then clustersFrom ⟨now.chars ++ [c, d], now.cells⟩ base cs
    else if c = pictureSelector then
      clustersFrom ⟨now.chars ++ [c], now.cells + pictureGain base⟩ none (d :: cs)
    else if cellWidth c = 0 then clustersFrom ⟨now.chars ++ [c], now.cells⟩ base (d :: cs)
    else now :: clustersFrom ⟨[c], cellWidth c⟩ (some c) (d :: cs)

/-- The clusters of a text. -/
def clusters : List Char → List Cluster
  | [] => []
  | c :: cs => clustersFrom ⟨[c], cellWidth c⟩ (if cellWidth c = 0 then none else some c) cs

/-- As many clusters as fit into so many cells; a blank stands for one that is cut through. -/
def charsWithin (width : Nat) : List Cluster → List Char
  | [] => []
  | k :: ks =>
    if width = 0 then []
    else if k.cells ≤ width then k.chars ++ charsWithin (width - k.cells) ks
    else [' ']

/-- The text filled with blanks or cut so that it takes so many cells. -/
def fitted (width : Nat) (cs : List Char) : List Char :=
  if cellCount cs ≤ width then cs ++ List.replicate (width - cellCount cs) ' '
  else charsWithin width (clusters cs)

/-- Pieces of so many cells at most, `line` being the one under way, which takes `used` cells. -/
def choppedFrom (width : Nat) (line : List Char) (used : Nat) : List Cluster → List (List Char)
  | [] => if used = 0 then [] else [line]
  | k :: ks =>
    if used + k.cells ≤ width then choppedFrom width (line ++ k.chars) (used + k.cells) ks
    else line :: choppedFrom width k.chars k.cells ks

/-- The text chopped into pieces of so many cells at most. -/
def chopped (width : Nat) (cs : List Char) : List (List Char) :=
  choppedFrom width [] 0 (clusters cs)

end ScriptTypes.Text
