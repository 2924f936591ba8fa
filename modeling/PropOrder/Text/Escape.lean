import PropOrder.Fault
import PropOrder.Text.Surrogate

/-!
# Quoted literals

The value of a quoted literal: the text between its first and last code point, escapes resolved
and surrogate halves joined. The body is first scanned from left to right into pieces, where every
backslash but a last one opens an escape; only a numeric escape can fail to have a value, and it
does so exactly when its number is above the last code point.
-/

namespace PropOrder.Text

/-- A piece of the body of a quoted literal. -/
inductive Piece where
  /-- A code point, as it stands or by an escape of one character. -/
  | single (code : Nat)
  /-- An escape that gives the number of a code point. -/
  | numeric (value : Nat)
  /-- An escaped line break, which stands for nothing. -/
  | continuation
  deriving DecidableEq, Repr

/-- The code point that an escape of one character stands for: itself but for seven letters. -/
def shortEscape (c : Nat) : Nat :=
  if c = code 'n' then 0x0A
  else if c = code 't' then 0x09
  else if c = code 'r' then 0x0D
  else if c = code 'b' then 0x08
  else if c = code 'f' then 0x0C
  else if c = code 'v' then 0x0B
  else if c = code '0' then 0
  else c

/-- Whether a code point ends a line. -/
def isLineEnd (c : Nat) : Bool := c == 0x0A || c == 0x0D || c == 0x2028 || c == 0x2029

/-- The escape of one character. -/
def singleEscape (c : Nat) : Piece :=
  if isLineEnd c then .continuation else .single (shortEscape c)

/-- The number in braces at the front of a text, and the length of the text that spells it. -/
def braced? : Text → Option (Nat × Nat)
  | 0x7B :: rest =>
    let digits := rest.takeWhile isHexDigit
    if !digits.isEmpty && rest[digits.length]? == some 0x7D then
      some (hexValue digits, digits.length + 2)
    else none
  | _ => none

/-- The number spelled by exactly so many hexadecimal digits at the front of a text. -/
def hexPair? (width : Nat) (t : Text) : Option Nat :=
  let digits := t.take width
  if digits.length == width && digits.all isHexDigit then some (hexValue digits) else none

/-- The escape whose code points after the backslash begin with `c` and go on with the text, and
how many code points of that text it takes. -/
def escapeAt (c : Nat) (rest : Text) : Piece × Nat :=
  if c = code 'u' then
    match braced? rest, hexPair? 4 rest with
    | some (value, length), _ => (.numeric value, length)
    | none, some value => (.numeric value, 4)
    | none, none => (.single c, 0)
  else if c = code 'x' then
    match hexPair? 2 rest with
    | some value => (.numeric value, 2)
    | none => (.single c, 0)
  else if c = 0x0D ∧ rest.head? = some 0x0A then (.continuation, 1)
  else (singleEscape c, 0)

/-- Scan a body into pieces, after passing over so many code points. -/
def scanFrom : Nat → Text → List Piece
  | _, [] => []
  | skip + 1, _ :: rest => scanFrom skip rest
  | 0, c :: rest =>
    if c = code '\\' then
      match rest with
      | [] => [.single c]
      | d :: more =>
        let (piece, length) := escapeAt d more
        piece :: scanFrom (length + 1) (d :: more)
    else .single c :: scanFrom 0 rest

/-- The pieces of the body of a quoted literal. -/
def scan (body : Text) : List Piece := scanFrom 0 body

/-- What a piece stands for. -/
def Piece.value : Piece → Except Fault Text
  | .single c => .ok [c]
  | .numeric value => if value < 0x110000 then .ok [value] else .error (.codePointTooLarge value)
  | .continuation => .ok []

/-- A text without its first and its last code point. -/
def withoutEnds (t : Text) : Text := t.tail.dropLast

/-- The body of a quoted literal with each escape replaced by its value. -/
def unescape (body : Text) : Except Fault Text :=
  return ((← (scan body).mapM Piece.value)).flatten

/-- The value of a quoted literal. -/
def literalValue (raw : Text) : Except Fault Text :=
  return merge (← unescape (withoutEnds raw))

end PropOrder.Text
