import PropOrder.Text.Basic
import PropOrder.Text.Ranges
import PropOrder.Text.Lower.Table

/-!
# Lower case

Full lower-casing. Two code points need more than the one-to-one table: a dotted capital I gives
two code points, and a capital sigma gives the final form at the end of a word, that is after a
cased code point and not before one, case-ignorable code points being passed over on both sides.
-/

namespace PropOrder.Text

/-- The member of a list of runs that a code point belongs to. -/
def CaseRun.find? : List CaseRun → Nat → Option CaseRun
  | [], _ => none
  | run :: more, c =>
    if c < run.first then none
    else if c ≤ run.last && (c - run.first) % run.stride == 0 then some run
    else find? more c

/-- The lower-case form of a code point by itself. -/
def lowerOne (c : Nat) : Text :=
  if c = 0x130 then [0x69, 0x307]
  else match CaseRun.find? lowerRuns c with
    | some run => [(c + run.shift).toNat]
    | none => [c]

/-- Whether a code point is passed over when the surroundings of a sigma are read. -/
def isIgnorable (c : Nat) : Bool := inRanges ignorableRanges c

/-- Whether a code point that is not passed over is cased. -/
def isCased (c : Nat) : Bool := inRanges casedRanges c

/-- Whether the first code point that is not passed over is cased. -/
def startsCased : Text → Bool
  | [] => false
  | c :: rest => if isIgnorable c then startsCased rest else isCased c

/-- Lower-case a text that stands after a cased code point or does not. -/
def lowerAfter (cased : Bool) : Text → Text
  | [] => []
  | c :: rest =>
    let here :=
      if c = 0x3A3 then (if cased && !startsCased rest then [0x3C2] else [0x3C3]) else lowerOne c
    here ++ lowerAfter (if isIgnorable c then cased else isCased c) rest

/-- The lower-case form of a text. -/
def lower (t : Text) : Text := lowerAfter false t

end PropOrder.Text
