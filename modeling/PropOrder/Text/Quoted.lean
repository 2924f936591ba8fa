import PropOrder.Text.Basic
import PropOrder.Text.Printable

/-!
# Quoted texts

A text between quotes, for display. Single quotes are used unless the text holds a single quote
and no double quote; printable code points stand as they are, the others as escapes.
-/

namespace PropOrder.Text

/-- The given number of lower-case hexadecimal digits of a number, the least significant ones. -/
def hexDigits : Nat → Nat → Text
  | 0, _ => []
  | width + 1, n => hexDigits width (n / 16) ++ [code (Nat.digitChar (n % 16))]

/-- A code point as it stands between the given quotes. -/
def quoteOne (quote c : Nat) : Text :=
  if c = quote ∨ c = code '\\' then [code '\\', c]
  else if c = code '\n' then ofString "\\n"
  else if c = code '\r' then ofString "\\r"
  else if c = code '\t' then ofString "\\t"
  else if isPrintable c then [c]
  else if c < 0x100 then ofString "\\x" ++ hexDigits 2 c
  else if c < 0x10000 then ofString "\\u" ++ hexDigits 4 c
  else ofString "\\U" ++ hexDigits 8 c

/-- The quote that a text is shown between. -/
def quoteFor (t : Text) : Nat :=
  if t.contains (code '\'') && !t.contains (code '"') then code '"' else code '\''

/-- A text between quotes. -/
def quoted (t : Text) : Text :=
  let quote := quoteFor t
  quote :: t.flatMap (quoteOne quote) ++ [quote]

end PropOrder.Text
