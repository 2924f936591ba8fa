import PropOrder.Text.SurrogateRun
import PropOrder.Text.Utf8

/-!
# Source text

A source is its bytes. Spans are byte offsets; positions are rows and byte columns, both counted
from zero, where a row ends with each line feed. Spans that reach past the end are cut there.
-/

namespace PropOrder

/-- A stretch of a source, from a byte offset up to but without another. -/
structure Span where
  /-- The first offset. -/
  start : Nat
  /-- The offset after the last byte. -/
  stop : Nat
  deriving DecidableEq, Repr, Inhabited

/-- Whether one span lies inside another. -/
def Span.Within (inner outer : Span) : Prop :=
  outer.start ≤ inner.start ∧ inner.stop ≤ outer.stop

instance (inner outer : Span) : Decidable (inner.Within outer) := by
  unfold Span.Within; infer_instance

/-- A row and a column. Positions of a source are never negative, those given by hand may be. -/
structure Position where
  /-- The row, counted from zero. -/
  row : Int
  /-- The column in bytes, counted from zero. -/
  column : Int
  deriving DecidableEq, Repr, Inhabited

/-- The positions of the two ends of a span. -/
structure Location where
  /-- Where the span starts. -/
  start : Position
  /-- Where the span stops. -/
  stop : Position
  deriving DecidableEq, Repr, Inhabited

/-- A source text, as bytes. -/
structure SourceText where
  /-- The bytes of the text. -/
  bytes : Array UInt8
  deriving DecidableEq, Inhabited

namespace SourceText

/-- The source that spells a string in UTF-8. -/
def ofString (s : String) : SourceText := ⟨s.toUTF8.data⟩

/-- The source that spells a text in UTF-8, or the surrogates that cannot be written. -/
def ofText (t : Text) : Except SurrogateRun SourceText :=
  match SurrogateRun.find? t with
  | some run => .error run
  | none => .ok (ofString (String.ofList (t.map Char.ofNat)))

/-- The text of a span. -/
def text (s : SourceText) (span : Span) : Text :=
  Text.Utf8.decode (s.bytes.extract span.start span.stop).toList

/-- The text of the whole source. -/
def fullText (s : SourceText) : Text := Text.Utf8.decode s.bytes.toList

/-- The bytes before an offset. -/
def before (s : SourceText) (offset : Nat) : List UInt8 := (s.bytes.extract 0 offset).toList

/-- The offset at which the row of an offset starts. -/
def rowStart (s : SourceText) (offset : Nat) : Nat :=
  let bytes := s.before offset
  bytes.length - (bytes.reverse.takeWhile (· != 0x0A)).length

/-- The position of an offset. -/
def position (s : SourceText) (offset : Nat) : Position where
  row := (s.before offset).count 0x0A
  column := (offset : Int) - s.rowStart offset

/-- The location of a span. -/
def location (s : SourceText) (span : Span) : Location :=
  ⟨s.position span.start, s.position span.stop⟩

end SourceText

end PropOrder
