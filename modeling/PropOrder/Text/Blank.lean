import PropOrder.Text.Basic
import PropOrder.Text.Ranges

/-!
# Blank code points

White space in the wide sense: the ASCII blanks, the four information separators, the next-line
control and the space, line and paragraph separators.
-/

namespace PropOrder.Text

/-- The blank code points. -/
def blankRanges : List (Nat × Nat) := [
  (0x9, 0xD), (0x1C, 0x20), (0x85, 0x85), (0xA0, 0xA0), (0x1680, 0x1680), (0x2000, 0x200A),
  (0x2028, 0x2029), (0x202F, 0x202F), (0x205F, 0x205F), (0x3000, 0x3000)]

/-- Whether a code point is white space. -/
def isBlank (c : Nat) : Bool := inRanges blankRanges c

/-- A text without the white space at its two ends. -/
def strip (t : Text) : Text :=
  ((t.dropWhile isBlank).reverse.dropWhile isBlank).reverse

/-- Whether a text holds nothing but white space. -/
def allBlank (t : Text) : Bool := t.all isBlank

end PropOrder.Text
