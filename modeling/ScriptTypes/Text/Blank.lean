import ScriptTypes.Text.RangeTable

/-!
# Blank characters

White space in the sense of Unicode, together with the four separators U+001C to
U+001F. Neither the zero-width space nor the byte order mark is blank.
-/

namespace ScriptTypes.Text

/-- The blank characters. -/
def blanks : RangeTable :=
  [(0x09, 0x0d), (0x1c, 0x20), (0x85, 0x85), (0xa0, 0xa0), (0x1680, 0x1680), (0x2000, 0x200a),
   (0x2028, 0x2029), (0x202f, 0x202f), (0x205f, 0x205f), (0x3000, 0x3000)]

/-- Whether the character is blank. -/
def isBlank (c : Char) : Bool := blanks.holds c

/-- The text without the blanks at its two ends. -/
def strip (s : String) : String :=
  String.ofList ((s.toList.dropWhile isBlank).reverse.dropWhile isBlank).reverse

/-- The runs of characters of a text that are not blank. -/
def wordsOf (s : String) : List String :=
  ((s.toList.splitBy fun a b => isBlank a == isBlank b).filter fun run => !run.any isBlank).map
    String.ofList

end ScriptTypes.Text
