import PropOrder.Text.Blank

/-!
# Wrapper functions

Functions that take a declaration list and give it back. Two are known by name; the settings and
an environment variable name others.
-/

namespace PropOrder

/-- A wrapper function: a name, or a property of an object. -/
inductive Wrapper where
  /-- A function of a given name. -/
  | function (name : Text)
  /-- A property, of an object of a given name if there is one. -/
  | member (property : Text) (object : Option Text)
  deriving DecidableEq, Repr

namespace Wrapper

/-- The wrapper functions that are always known. -/
def standard : List Wrapper :=
  [.function (.ofString "forbidExtraProps"), .function (.ofString "exact")]

/-- The names in an environment variable, parted by commas; blank ones do not count. -/
def namesIn (setting : Text) : List Text :=
  ((Text.splitAt (Text.code ',') setting).map Text.strip).filter (!·.isEmpty)

/-- All wrapper functions: those always known, those of the settings, and those named in an
environment variable. -/
def all (settings : List Wrapper) (setting : Text) : List Wrapper :=
  standard ++ settings ++ (namesIn setting).map .function

/-- Whether a wrapper function goes by a name, which may have an object in front of a point. -/
def matches? (name : Text) : Wrapper → Bool
  | .function n => n == name
  | .member property object =>
    (match Text.splitAt (Text.code '.') name with
      | [a, b] => object == some a && property == b
      | _ => false) || property == name

/-- Whether a name is that of one of the wrapper functions. -/
def recognizes (wrappers : List Wrapper) (name : Text) : Bool := wrappers.any (matches? name)

end Wrapper

end PropOrder
