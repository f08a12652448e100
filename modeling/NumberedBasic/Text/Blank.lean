import NumberedBasic.Text.Ranges

/-! # Blank characters

Blanks stand between the words of a line and are trimmed from its ends. Besides
the space and the layout controls they are the separators of every script.
-/

namespace NumberedBasic.Text

def blankRanges : Ranges :=
  [(0x9, 0xd), (0x1c, 0x20), (0x85, 0x85), (0xa0, 0xa0), (0x1680, 0x1680), (0x2000, 0x200a),
    (0x2028, 0x2029), (0x202f, 0x202f), (0x205f, 0x205f), (0x3000, 0x3000)]

def isBlank (c : Char) : Bool :=
  blankRanges.contains c

end NumberedBasic.Text
