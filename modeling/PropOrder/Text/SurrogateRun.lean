import PropOrder.Text.Quoted

/-!
# Runs of surrogates

Surrogates have no UTF-8 form, so a text that holds one cannot be written. What is reported of such
a text is the place of the first run of surrogates in it.
-/

namespace PropOrder

/-- A run of surrogates in a text. -/
structure SurrogateRun where
  /-- The number of code points before the run. -/
  start : Nat
  /-- The surrogates of the run. -/
  codes : Text
  deriving DecidableEq, Repr

namespace SurrogateRun

/-- The run that begins with the first surrogate of a text that is not excepted. -/
def findExcept? (excepted : Nat → Bool) (t : Text) : Option SurrogateRun :=
  let before := t.takeWhile fun c => !Text.isSurrogate c || excepted c
  match (t.drop before.length).takeWhile Text.isSurrogate with
  | [] => none
  | codes => some ⟨before.length, codes⟩

/-- The first run of surrogates of a text. -/
def find? (t : Text) : Option SurrogateRun := findExcept? (fun _ => false) t

/-- Where a run stands: at one position, or from one to another. -/
def place (run : SurrogateRun) : Text :=
  match run.codes with
  | [c] =>
    Text.ofString "character '\\u" ++ Text.hexDigits 4 c ++ Text.ofString "' in position " ++
      Text.ofNat run.start
  | codes =>
    Text.ofString "characters in position " ++ Text.ofNat run.start ++ Text.ofString "-" ++
      Text.ofNat (run.start + codes.length - 1)

/-- What is reported of a run that was to be written. -/
def message (run : SurrogateRun) : Text :=
  Text.ofString "'utf-8' codec can't encode " ++ run.place ++
    Text.ofString ": surrogates not allowed"

end SurrogateRun

end PropOrder
