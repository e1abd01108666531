import ScriptTypes.Console.Wrap

/-!
# Tables

A table has a heavy head and light rows, without lines between them. A column is as
broad as its broadest cell or its heading, and a blank stands on either side of each
cell. Where that is more than fits on a line, the broadest columns give way until it
fits. A cell of several lines makes its row as tall.
-/

namespace ScriptTypes.Console

/-- A cell of a table. -/
structure Cell where
  /-- The characters. -/
  chars : List Char := []
  /-- Whether the text has a style of its own, which the blanks behind it do not have. -/
  inStyle : Bool := false

/-- A table. -/
structure Table where
  /-- The headings of the columns. -/
  head : List Cell
  /-- The cells of each row. -/
  rows : List (List Cell)

/-! ## Widths of columns -/

/-- The blanks on both sides of a cell. -/
def padding : Nat := 2

/-- Whether a line ends at the character when a cell is measured. -/
def endsLine (c : Char) : Bool :=
  [0x0a, 0x0b, 0x0c, 0x0d, 0x1c, 0x1d, 0x1e, 0x85, 0x2028, 0x2029].contains c.toNat

/-- The width that a column wants for its cells, with the blanks beside them. -/
def wantedWidth (cells : List Cell) : Nat :=
  ((cells.flatMap fun c => partsBetween endsLine c.chars).map Text.cellCount).foldl max 0 + padding

/-- The width of several columns together. -/
def totalWidth (widths : List Nat) : Nat := widths.foldl (· + ·) 0

/-- The part of an amount that falls to the first of several; a half goes to the even number. -/
def share (amount several : Nat) : Nat :=
  let q := amount / several
  let rest := amount % several
  if 2 * rest > several ∨ (2 * rest = several ∧ q % 2 = 1) then q + 1 else q

/-- The widths with an amount taken from those of one size, at most so much from each. -/
def takenFrom (size most : Nat) (amount : Nat) : List Nat → List Nat
  | [] => []
  | w :: ws =>
    if w = size then
      let taken := min most (share amount ((w :: ws).count size))
      (w - taken) :: takenFrom size most (amount - taken) ws
    else w :: takenFrom size most amount ws

/-- The widths with the largest ones lowered by what is too much, but not below the next ones. -/
def lowered (limit : Nat) (widths : List Nat) : List Nat :=
  let excess := totalWidth widths - limit
  let largest := widths.foldl max 0
  let next := (widths.filter (· ≠ largest)).foldl max 0
  takenFrom largest (min excess (largest - next)) excess widths

/-- The widths lowered until they fit; every step takes off one cell at least. -/
def fittingWidths (limit : Nat) (widths : List Nat) : List Nat :=
  Nat.repeat (lowered limit) (totalWidth widths - limit) widths

/-- The widths of the columns on a line of the given width, with the blanks beside the cells. -/
def Table.widths (t : Table) (lineWidth : Nat) : List Nat :=
  let limit := lineWidth - (t.head.length + 1)
  fittingWidths limit <| (List.range t.head.length).map fun i =>
    min limit (wantedWidth ((t.head :: t.rows).map (·.getD i {})))

/-! ## Drawing -/

/-- The characters that frame a line of a table. -/
structure Frame where
  /-- At the left end. -/
  left : String
  /-- Between two columns. -/
  between : String
  /-- At the right end. -/
  right : String

/-- A line of a table. -/
def Frame.line (f : Frame) (cells : List String) : String :=
  f.left ++ f.between.intercalate cells ++ f.right ++ "\n"

/-- A line that separates, drawn with one character. -/
def Frame.rule (f : Frame) (stroke : Char) (widths : List Nat) : String :=
  f.line (widths.map fun w => String.ofList (List.replicate w stroke))

/-- The line with the blanks that it lacks. -/
def filledUp (width : Nat) (line : List Char) : List Char :=
  line ++ List.replicate (width - Text.cellCount line) ' '

/--
A line of a cell between its two blanks. Where text and blanks are of one style, what is missing
is counted again once it has been filled up, because a joiner at the end swallows a blank. A line
that joiners at its start make broader than it was cut to takes the place of the blank behind it.
-/
def padded (width : Nat) (inStyle : Bool) (line : List Char) : String :=
  let once := filledUp width line
  let filled := if inStyle then once else filledUp width once
  " " ++ String.ofList filled ++ (if Text.cellCount filled ≤ width then " " else "")

/-- The lines of a cell in a column of the given width. -/
def Cell.lines (width : Nat) (c : Cell) : List String :=
  (wrapped .ellipsis (width - padding) c.chars).map (padded (width - padding) c.inStyle)

/-- The lines of a row. -/
def rowLines (f : Frame) (widths : List Nat) (cells : List Cell) : String :=
  let columns := (cells.zip widths).map fun (cell, width) =>
    (cell.lines width, String.ofList (List.replicate width ' '))
  let height := (columns.map (·.1.length)).foldl max 1
  String.join <| (List.range height).map fun i =>
    f.line (columns.map fun (lines, empty) => lines.getD i empty)

/-- The table as text on lines of the given width. -/
def Table.text (t : Table) (lineWidth : Nat) : String :=
  let w := t.widths lineWidth
  Frame.rule ⟨"┏", "┳", "┓"⟩ '━' w ++ rowLines ⟨"┃", "┃", "┃"⟩ w t.head ++
    Frame.rule ⟨"┡", "╇", "┩"⟩ '━' w ++
    String.join (t.rows.map (rowLines ⟨"│", "│", "│"⟩ w)) ++
    Frame.rule ⟨"└", "┴", "┘"⟩ '─' w

end ScriptTypes.Console
