/-!
# Text

A text is the list of its code points. Lone surrogate halves are code points like any other: a
quoted literal can spell them, so texts are not restricted to the scalar values.
Texts compare code point by code point, an initial part before the whole.
-/

namespace PropOrder

/-- A text, as the list of its code points. -/
abbrev Text := List Nat

namespace Text

/-- The code points of a string. -/
def ofString (s : String) : Text := s.toList.map Char.toNat

/-- The code point of a character. -/
abbrev code (c : Char) : Nat := c.toNat

/-- Whether a code point is a surrogate half. -/
def isSurrogate (c : Nat) : Bool := 0xD800 ≤ c && c ≤ 0xDFFF

/-- Whether a text comes before another: at the first code point that differs the lesser one
decides, and an initial part comes before the whole. -/
def less : Text → Text → Bool
  | _, [] => false
  | [], _ :: _ => true
  | a :: t, b :: u => if a < b then true else if b < a then false else less t u

/-- The string of a text, unless the text holds a surrogate half. -/
def toString? (t : Text) : Option String :=
  if t.any isSurrogate then none else some (String.ofList (t.map Char.ofNat))

/-- Whether a code point is an upper-case ASCII letter. -/
def isUpperAscii (c : Nat) : Bool := code 'A' ≤ c && c ≤ code 'Z'

/-- Whether a code point is an ASCII decimal digit. -/
def isDigitAscii (c : Nat) : Bool := code '0' ≤ c && c ≤ code '9'

/-- The value of an ASCII digit or letter as a digit of a base up to thirty-six. -/
def asciiDigit? (c : Nat) : Option Nat :=
  if isDigitAscii c then some (c - code '0')
  else if code 'a' ≤ c && c ≤ code 'z' then some (c - code 'a' + 10)
  else if isUpperAscii c then some (c - code 'A' + 10)
  else none

/-- Whether a code point is an ASCII hexadecimal digit. -/
def isHexDigit (c : Nat) : Bool := (asciiDigit? c).any (· < 16)

/-- The value of a sequence of digits in a base, the most significant first. -/
def digitsValue (base : Nat) (digits : List Nat) : Nat :=
  digits.foldl (fun value digit => value * base + digit) 0

/-- The value of a text of hexadecimal digits. -/
def hexValue (t : Text) : Nat := digitsValue 16 (t.filterMap asciiDigit?)

/-- The parts of a text between the occurrences of a separator; there is always at least one. -/
def splitAt (separator : Nat) : Text → List Text
  | [] => [[]]
  | c :: rest =>
    let parts := splitAt separator rest
    if c = separator then [] :: parts
    else match parts with
      | [] => [[c]]
      | part :: more => (c :: part) :: more

/-- The decimal text of a natural number. -/
def ofNat (n : Nat) : Text := ofString (toString n)

/-- The decimal text of an integer. -/
def ofInt (n : Int) : Text := ofString (toString n)

end Text

end PropOrder
