import PropOrder.Text.Basic

/-!
# Surrogate halves

A high half and the low half right after it stand for one code point of the upper planes.
`merge` joins every such pair; `units16` spells a text in 16-bit units, where a half that stands
alone is one unit, so that joining changes no unit.
-/

namespace PropOrder.Text

/-- Whether a code point is a high surrogate half. -/
def isHighHalf (c : Nat) : Bool := 0xD800 ≤ c && c ≤ 0xDBFF

/-- Whether a code point is a low surrogate half. -/
def isLowHalf (c : Nat) : Bool := 0xDC00 ≤ c && c ≤ 0xDFFF

/-- The code point that a high and a low half stand for. -/
def joinHalves (high low : Nat) : Nat := 0x10000 + (high - 0xD800) * 0x400 + (low - 0xDC00)

/-- Join every high half with the low half right after it. -/
def merge : Text → Text
  | [] => []
  | [c] => [c]
  | high :: low :: rest =>
    if isHighHalf high && isLowHalf low then joinHalves high low :: merge rest
    else high :: merge (low :: rest)

/-- The 16-bit units of a code point. -/
def unitsOf (c : Nat) : List Nat :=
  if c < 0x10000 then [c]
  else [0xD800 + (c - 0x10000) / 0x400, 0xDC00 + (c - 0x10000) % 0x400]

/-- The 16-bit units of a text. -/
def units16 (t : Text) : List Nat := t.flatMap unitsOf

end PropOrder.Text
