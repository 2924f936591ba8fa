import PropOrder.Datum
import PropOrder.Datum.Issue

/-!
# Reading configurations

A reader takes a value apart and gives what it stands for, or all issues with it. The readers of
the keys of an object are run one after the other whatever their answers, so that every issue is
found, and the issues stand in the order of the readers.
-/

namespace PropOrder

/-- What a value stands for, or the issues with it. -/
abbrev Checked (α : Type) := Except (List Issue) α

namespace Checked
variable {α β γ : Type}

/-- The single issue with a value, at the place of the value itself. -/
def issue (kind : IssueKind) : Checked α := .error [⟨kind, []⟩]

/-- An answer with a step in front of the paths of its issues. -/
def under (step : PathStep) : Checked α → Checked α
  | .ok a => .ok a
  | .error issues => .error (issues.map (·.under step))

/-- Two answers together: both values, or the issues of both. -/
def both (f : α → β → γ) : Checked α → Checked β → Checked γ
  | .ok a, .ok b => .ok (f a b)
  | .ok _, .error issues => .error issues
  | .error issues, .ok _ => .error issues
  | .error issues, .error more => .error (issues ++ more)

/-- All answers of a list together. -/
def all : List (Checked α) → Checked (List α)
  | [] => .ok []
  | a :: rest => both List.cons a (all rest)

/-- An answer with the issues of an empty answer after it. -/
def followedBy (a : Checked α) (b : Checked Unit) : Checked α := both (fun x _ => x) a b

end Checked

namespace Datum

/-- The word of a text in lower case, if the text is ASCII. -/
def lowerWord (t : Text) : Text := t.map fun c => if Text.isUpperAscii c then c + 32 else c

/-- The words that stand for true. -/
def trueWords : List String := ["1", "on", "t", "true", "y", "yes"]

/-- The words that stand for false. -/
def falseWords : List String := ["0", "off", "f", "false", "n", "no"]

/-- Whether an integer fits a signed word of 64 bits. -/
def fitsWord (i : Int) : Bool := -0x8000000000000000 ≤ i && i ≤ 0x7FFFFFFFFFFFFFFF

/-- The truth value of an integer: of those that fit a word only zero and one have one, and others
are not considered. -/
def boolOfInt (i : Int) : Checked Bool :=
  if !fitsWord i then Checked.issue .boolType
  else if i = 0 then .ok false
  else if i = 1 then .ok true
  else Checked.issue .boolParsing

/-- The integer that a number is, if it lies strictly between the bounds of a word. -/
def wordOfReal? (x : Double) : Option Int :=
  x.toInt?.filter fun i => fitsWord i && i != -0x8000000000000000

/-- Read a truth value. Zero and one and some words stand for truth values. -/
def toBool : Datum → Checked Bool
  | scalar (.bool b) => .ok b
  | scalar (.int i) => boolOfInt i
  | scalar (.real x) =>
    match wordOfReal? x with
    | some i => boolOfInt i
    | none => Checked.issue .boolType
  | text t =>
    let word := lowerWord t
    if t.any Text.isSurrogate then Checked.issue .stringUnicode
    else if trueWords.any (Text.ofString · == word) then .ok true
    else if falseWords.any (Text.ofString · == word) then .ok false
    else Checked.issue .boolParsing
  | _ => Checked.issue .boolType

/-- Read a text. -/
def toText : Datum → Checked Text
  | text t => .ok t
  | _ => Checked.issue .stringType

/-- Read a text or nothing. -/
def toText? : Datum → Checked (Option Text)
  | null => .ok none
  | d => d.toText.map some

/-! ### Integers -/

/-- Whether a code point is white space that may surround an integer. -/
def isMargin (c : Nat) : Bool :=
  (0x09 ≤ c && c ≤ 0x0D) || c == 0x20 || c == 0x85 || c == 0xA0 || c == 0x1680 ||
    (0x2000 ≤ c && c ≤ 0x200A) || c == 0x2028 || c == 0x2029 || c == 0x202F || c == 0x205F ||
    c == 0x3000

/-- A text without the white space around it. -/
def trimMargin (t : Text) : Text := ((t.dropWhile isMargin).reverse.dropWhile isMargin).reverse

/-- A text without a fraction of zeros, of one at least. -/
def dropZeroFraction (t : Text) : Text :=
  let point := Text.code '.'
  match t.dropWhile (· != point) with
  | _ :: z :: zeros =>
    if (z :: zeros).all (· == Text.code '0') then t.takeWhile (· != point) else t
  | _ => t

/-- A text without its underscores, if each stands between two other characters. -/
def dropUnderscores (t : Text) : Text :=
  let underscore := Text.code '_'
  let parts := Text.splitAt underscore t
  if parts.all (!·.isEmpty) then parts.flatten else t

/-- The text of an integer after its leading zeros, among which underscores may stand; nothing if a
character there cannot begin an integer. A minus sign ends the zeros. -/
def dropZeros (t : Text) : Option Text :=
  match t with
  | [] => none
  | c :: _ =>
    if c = Text.code '0' then
      let zeros := t.takeWhile fun d => d == Text.code '0' || d == Text.code '_'
      match t.drop zeros.length with
      | [] => some (t.drop (t.length - 1))
      | d :: rest =>
        if Text.isDigitAscii d || d == Text.code '-' then some (d :: rest)
        else if d = Text.code '.' then some (t.drop (zeros.length - 1))
        else none
    else if Text.isDigitAscii c || c == Text.code '-' then some t
    else none

/-- A text without a plus sign, after which no minus sign may stand. -/
def dropPlus : Text → Option Text
  | c :: rest =>
    if c = Text.code '+' then
      if rest.head? = some (Text.code '-') then none else some rest
    else some (c :: rest)
  | [] => some []

/-- The text of an integer without what may be left out of it: margins, a plus sign, leading zeros,
a fraction of zeros and underscores. -/
def bareInteger (t : Text) : Option Text := do
  let t ← dropPlus (trimMargin t)
  let t ← match t with
    | c :: rest =>
      if c = Text.code '-' then (dropZeros rest).map (c :: ·) else dropZeros (c :: rest)
    | [] => none
  return dropUnderscores (dropZeroFraction t)

/-- The integer that a text of digits spells, after a minus sign or not. A leading zero stands
alone, and no more digits are read than an integer may have, whatever follows them. -/
def plainInteger (t : Text) : Except IssueKind Int :=
  let negative := t.head? = some (Text.code '-')
  let body := if negative then t.drop 1 else t
  let digits := body.takeWhile Text.isDigitAscii
  if digits.head? = some (Text.code '0') then
    if body.length = 1 then .ok 0 else .error .intParsing
  else if Numeral.maxDigits < digits.length then .error .intParsingSize
  else if digits.isEmpty || digits.length < body.length then .error .intParsing
  else
    let value : Int := Text.digitsValue 10 (digits.map (· - Text.code '0'))
    .ok (if negative then -value else value)

/-- Read an integer from a text, as it stands or else without what may be left out. Only a text that
stands with too many digits has an issue of that kind. -/
def intOfText (t : Text) : Checked Int :=
  if t.any Text.isSurrogate then Checked.issue .stringUnicode
  else match plainInteger t with
  | .ok i => .ok i
  | .error .intParsingSize => Checked.issue .intParsingSize
  | .error _ =>
    match (bareInteger t).map plainInteger with
    | some (.ok i) => .ok i
    | _ => Checked.issue .intParsing

/-- Read an integer. Truth values count as zero and one, and a number or a text may stand for an
integer; a number must fit a word for it. -/
def toInt : Datum → Checked Int
  | scalar (.int i) => .ok i
  | scalar (.bool b) => .ok (Scalar.boolInt b)
  | scalar (.real x) =>
    match x, x.toInt? with
    | .finite .., some _ =>
      match wordOfReal? x with
      | some i => .ok i
      | none => Checked.issue .intParsingSize
    | .finite .., none => Checked.issue .intFromFloat
    | _, _ => Checked.issue .finiteNumber
  | text t => intOfText t
  | _ => Checked.issue .intType

/-! ### Members -/

/-- The value under a key. -/
def under? (members : List Member) (key : String) : Option Datum :=
  (members.find? fun m => sameKey m.1 (text (Text.ofString key))).map (·.2)

/-- The key by which a value is given, of two spellings; the first counts if both are there. -/
def spelling (members : List Member) (first second : String) : String :=
  if (under? members first).isNone && (under? members second).isSome then second else first

/-- Read the value under a key, if it is there. -/
def field {α : Type} (members : List Member) (key : String) (missing : Checked α)
    (read : Datum → Checked α) : Checked α :=
  Checked.under (.named key) (((under? members key).map read).getD missing)

/-- The step to the value under a key: a number that fits a word is itself, and what is neither a
text nor such a number is written out. -/
def keyStep : Datum → PathStep
  | text t => .key t
  | scalar (.int i) => if fitsWord i then .index i else written (scalar (.int i))
  | scalar (.bool b) => .index (Scalar.boolInt b)
  | d => written d
where
  written (d : Datum) : PathStep :=
    match d.shown with
    | .ok t => .key t
    | .error _ => .named "<unprintable int object>"

/-- The issue with a key that is not among the given ones. -/
def keyIssue? (known : List String) (key : Datum) : Option Issue :=
  match key with
  | text t =>
    if known.any (Text.ofString · == t) then none else some ⟨.extraForbidden, [.key t]⟩
  | _ => some ⟨.invalidKey, [keyStep key]⟩

/-- Refuse the keys that are not among the given ones. -/
def refuseOthers (members : List Member) (known : List String) : Checked Unit :=
  match members.filterMap fun m => keyIssue? known m.1 with
  | [] => .ok ()
  | issues => .error issues

/-- Whether a key is a text that cannot be written. -/
def unwritable : Datum → Bool
  | text t => t.any Text.isSurrogate
  | _ => false

/-- An answer about an object that may have no keys but the given ones. A key that cannot be written
ends the reading, and is its only issue. -/
def closed {α : Type} (members : List Member) (known : List String) (a : Checked α) :
    Checked α :=
  if members.any fun m => unwritable m.1 then Checked.issue .stringUnicode
  else a.followedBy (refuseOthers members known)

end Datum

end PropOrder
