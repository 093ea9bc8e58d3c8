import EventAlgebra.Text.CodeRanges

/-!
# Blank characters and trimming

`isBlank` is the Unicode property White_Space. `trim` removes blanks at both ends of a text and
`trimEnd` at its end.
-/

set_option autoImplicit false

namespace EventAlgebra.Text

/-- The blank characters: the ASCII ones, the next-line control, and the spaces and separators
beyond ASCII. The zero-width space and the byte order mark are not blank. -/
def blanks : CodeRanges :=
  [(0x9, 0xD), (0x20, 0x20), (0x85, 0x85), (0xA0, 0xA0), (0x1680, 0x1680), (0x2000, 0x200A),
   (0x2028, 0x2029), (0x202F, 0x202F), (0x205F, 0x205F), (0x3000, 0x3000)]

/-- Blank characters. -/
def isBlank (c : Char) : Bool :=
  blanks.covers c

/-- Remove the blanks at the front. -/
def trimStartChars (cs : List Char) : List Char :=
  cs.dropWhile isBlank

/-- Remove the blanks at the end. -/
def trimEndChars (cs : List Char) : List Char :=
  (cs.reverse.dropWhile isBlank).reverse

/-- Remove the blanks at both ends of a text. -/
def trim (text : String) : String :=
  String.ofList (trimEndChars (trimStartChars text.toList))

/-- Remove the blanks at the end of a text. -/
def trimEnd (text : String) : String :=
  String.ofList (trimEndChars text.toList)

end EventAlgebra.Text
