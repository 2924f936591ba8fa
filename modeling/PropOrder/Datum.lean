import PropOrder.Scalar

/-!
# Configuration data

What options and settings are given as, before they are read. A configuration has members, values
under keys: it is an object, or a list of pairs of a key and a value, where a later value of a key
takes the place of an earlier one.
-/

namespace PropOrder

/-- A value of a configuration. -/
inductive Datum where
  /-- Nothing. -/
  | null
  /-- A scalar. -/
  | scalar (value : Scalar)
  /-- A list. -/
  | list (items : List Datum)
  /-- Values under keys, in order. -/
  | object (members : List (Text × Datum))

instance : Inhabited Datum := ⟨.null⟩

namespace Datum

/-- The datum that a text is. -/
@[match_pattern] abbrev text (t : Text) : Datum := .scalar (.text t)

/-- Whether a value is left out: nothing, a scalar that counts as false, and what is empty. -/
def isBlank : Datum → Bool
  | null => true
  | scalar v => !v.truthy
  | list items => items.isEmpty
  | object members => members.isEmpty

mutual

/-- The text of a value as it is shown. -/
def shown : Datum → Except Fault Text
  | null => .ok (Text.ofString "None")
  | scalar v => v.shown
  | list items => do
    return Text.ofString "[" ++ (Text.ofString ", ").intercalate (← shownItems items) ++
      Text.ofString "]"
  | object members => do
    return Text.ofString "\x7b" ++ (Text.ofString ", ").intercalate (← shownMembers members) ++
      Text.ofString "\x7d"

/-- The texts of the items of a list. -/
def shownItems : List Datum → Except Fault (List Text)
  | [] => return []
  | d :: rest => do return (← d.shown) :: (← shownItems rest)

/-- The texts of the members of an object. -/
def shownMembers : List (Text × Datum) → Except Fault (List Text)
  | [] => return []
  | (key, d) :: rest => do
    return (key.quoted ++ Text.ofString ": " ++ (← d.shown)) :: (← shownMembers rest)

end

/-! ### Members -/

/-- A key with its value. -/
abbrev Member := Datum × Datum

/-- Why a value has no members. -/
inductive MembersError where
  /-- Something is not made of items, or a key is neither a scalar nor nothing. -/
  | notKeyed
  /-- An item that should be a pair has another length. -/
  | notAPair (item length : Nat)
  deriving DecidableEq, Repr

/-- What is said of an item that is not a pair. -/
def MembersError.message : MembersError → String
  | notKeyed => "no keys"
  | notAPair item length =>
    "dictionary update sequence element #" ++ toString item ++ " has length " ++
      toString length ++ "; 2 is required"

/-- The items that a value is made of: those of a list, the code points of a text, and the keys of
an object. -/
def parts? : Datum → Option (List Datum)
  | list items => some items
  | text t => some (t.map fun c => text [c])
  | object members => some (members.map fun m => text m.1)
  | _ => none

/-- Whether a value can be a key. -/
def isKey : Datum → Bool
  | null | scalar _ => true
  | list _ | object _ => false

/-- Whether two keys are the same: equal, or both not a number. -/
def sameKey : Datum → Datum → Bool
  | null, null => true
  | scalar a, scalar b => a == b || a.eqv b
  | _, _ => false

/-- The pair that an item of a list is. -/
def pair (item : Nat) (d : Datum) : Except MembersError Member :=
  match d.parts? with
  | none => .error .notKeyed
  | some [key, value] => if key.isKey then .ok (key, value) else .error .notKeyed
  | some parts => .error (.notAPair item parts.length)

/-- Members with the value of a key set: in its place if the key is there, else at the end. -/
def setMember (members : List Member) (m : Member) : List Member :=
  match members with
  | [] => [m]
  | (key, value) :: rest =>
    if sameKey key m.1 then (key, m.2) :: rest else (key, value) :: setMember rest m

/-- The members of an object. -/
def textKeyed (members : List (Text × Datum)) : List Member := members.map fun m => (text m.1, m.2)

/-- The members of a value; one that is left out has none. -/
def members (d : Datum) : Except MembersError (List Member) :=
  if d.isBlank then .ok []
  else match d with
    | object members => .ok (textKeyed members)
    | d =>
      match d.parts? with
      | none => .error .notKeyed
      | some items => do
        let pairs ← items.zipIdx.mapM fun (item, i) => pair i item
        return pairs.foldl setMember []

end Datum

namespace Double

/-- The integer that a number is, if it is one. -/
def toInt? : Double → Option Int
  | finite negative m q =>
    let n? : Option Nat :=
      if 0 ≤ q then some (m * Nat.pow 2 q.toNat)
      else if m % Nat.pow 2 (-q).toNat = 0 then some (m / Nat.pow 2 (-q).toNat)
      else none
    n?.map fun n => if negative then -(n : Int) else n
  | _ => none

end Double

end PropOrder
