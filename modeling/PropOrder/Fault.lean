/-!
# Faults

The ways in which reading a program can fail. Most need a tree of an unexpected shape, where a
field holds something else than what is looked for in it. The last two are limits on literals.
-/

namespace PropOrder

/-- Why a program could not be read. -/
inductive Fault where
  /-- A field is asked of something that is not a node. -/
  | notANode
  /-- A field is asked for whose name is reserved. -/
  | reservedName
  /-- The items are asked of something that is not a list. -/
  | notAList
  /-- A text is asked of something that is not one. -/
  | notAText
  /-- An item is asked for that a list does not have. -/
  | noSuchItem
  /-- An escape names a number above the last code point. -/
  | codePointTooLarge (value : Nat)
  /-- An integer has too many digits to be written in decimal. -/
  | integerTooLong
  deriving DecidableEq, Repr

namespace Fault

/-- Whether a fault is about a number that does not even fit the machine word that code points are
kept in. -/
def exceedsWord : Fault → Bool
  | .codePointTooLarge value => 0x7FFFFFFF < value
  | _ => false

/-- What a fault is reported as. -/
def message : Fault → String
  | .notANode => "not a node"
  | .reservedName => "reserved name"
  | .notAList => "not a list"
  | .notAText => "not a text"
  | .noSuchItem => "no such item"
  | .codePointTooLarge value =>
    -- whether a number fits the word is found out before it is compared with the last code point
    if (codePointTooLarge value).exceedsWord then "number too large"
    else "chr() arg not in range(0x110000)"
  | .integerTooLong =>
    "Exceeds the limit (4300 digits) for integer string conversion; " ++
      "use sys.set_int_max_str_digits() to increase the limit"

end Fault

end PropOrder
