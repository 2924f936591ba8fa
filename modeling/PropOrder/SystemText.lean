import PropOrder.Text.SurrogateRun
import PropOrder.Text.Utf8

/-!
# Texts for the system

Paths and the values of variables are handed to the system as bytes that end with a null. In them
the halves from U+DC80 to U+DCFF stand for the single bytes from 0x80 to 0xFF; other surrogates
cannot be written, and there is no null before the end. What is handed back is read as UTF-8 again,
with halves for the bytes that are none.
-/

namespace PropOrder

/-- Why a text cannot be handed to the system. -/
inductive SystemTextError where
  /-- It holds surrogates that stand for no bytes. -/
  | unwritable (run : SurrogateRun)
  /-- It holds a null. -/
  | nullByte
  deriving DecidableEq, Repr

/-- What is reported of a text that cannot be handed to the system. -/
def SystemTextError.message : SystemTextError → Text
  | unwritable run => run.message
  | nullByte => Text.ofString "embedded null byte"

namespace Text

/-- Whether a code point is a half that stands for a byte. -/
def isByteHalf (c : Nat) : Bool := 0xDC80 ≤ c && c ≤ 0xDCFF

/-- The bytes that a text is handed over in. -/
def systemBytes (t : Text) : List UInt8 :=
  t.flatMap fun c => if isByteHalf c then [(c - Utf8.half 0).toUInt8] else Utf8.encodeOne c

/-- Why a text cannot be handed to the system, if it cannot. -/
def systemError? (t : Text) : Option SystemTextError :=
  match SurrogateRun.findExcept? isByteHalf t with
  | some run => some (.unwritable run)
  | none => if t.contains 0 then some .nullByte else none

/-- A text as the system hands it back: halves whose bytes together spell a code point are that code
point. -/
def throughSystem (t : Text) : Except SystemTextError Text :=
  match t.systemError? with
  | some e => .error e
  | none => .ok (Utf8.decodeKeeping t.systemBytes)

end Text

end PropOrder
