import PropOrder.Datum.Checked
import PropOrder.Policy
import PropOrder.SourceText
import PropOrder.Wrapper

/-!
# Options, settings and locations

How a policy, the wrapper functions and a location are given. Keys of options and settings have two
spellings; the first one counts where both are there. Options know no other keys, and nor do wrapper
functions, while settings and locations may have any.
-/

namespace PropOrder

/-- Why a configuration could not be read. -/
inductive OptionsError where
  /-- It has no members. -/
  | members (error : Datum.MembersError)
  /-- There are issues with its values. -/
  | invalid (issues : List Issue)
  deriving DecidableEq, Repr

namespace Options

/-- The members of a configuration. -/
def members (d : Datum) : Except OptionsError (List Datum.Member) := d.members.mapError .members

/-- An answer with its issues as the error. -/
def orInvalid {α : Type} : Checked α → Except OptionsError α
  | .ok a => .ok a
  | .error issues => .error (.invalid issues)

/-! ### Policies -/

/-- Read the members of options. -/
def policyOfMembers (ms : List Datum.Member) : Checked Policy :=
  let required := Datum.spelling ms "requiredFirst" "required_first"
  let callbacks := Datum.spelling ms "callbacksLast" "callbacks_last"
  let ignore := Datum.spelling ms "ignoreCase" "ignore_case"
  let noSort := Datum.spelling ms "noSortAlphabetically" "no_sort_alphabetically"
  let shape := Datum.spelling ms "sortShapeProp" "sort_shape_prop"
  let flag (key : String) : Checked Bool := Datum.field ms key (.ok false) Datum.toBool
  let policy := Checked.both (fun make b => make b)
    (Checked.both (fun make b => make b)
      (Checked.both (fun make b => make b)
        (Checked.both Policy.mk (flag required) (flag callbacks)) (flag ignore)) (flag noSort))
    (flag shape)
  Datum.closed ms [required, callbacks, ignore, noSort, shape] policy

/-- Read a policy. -/
def policy (d : Datum) : Except OptionsError Policy := do
  orInvalid (policyOfMembers (← members d))

/-! ### Wrapper functions -/

/-- Read a wrapper function that is given by its members. -/
def memberWrapper : Datum → Checked Wrapper
  | .object members =>
    let ms := Datum.textKeyed members
    let property := Datum.field ms "property" (Checked.issue .missing) Datum.toText
    let object := Datum.field ms "object" (.ok none) Datum.toText?
    Datum.closed ms ["property", "object"] (Checked.both Wrapper.member property object)
  | _ => Checked.issue (.modelType "PropWrapper")

/-- Read a wrapper function: a name, or else the members of one. What is neither has the issues of
both readings. -/
def wrapper (d : Datum) : Checked Wrapper :=
  match d.toText with
  | .ok name => .ok (.function name)
  | .error issues =>
    match memberWrapper d with
    | .ok w => .ok w
    | .error more =>
      .error (issues.map (·.under (.named "str")) ++ more.map (·.under (.named "PropWrapper")))

/-- Read a list of wrapper functions. -/
def wrapperList : Datum → Checked (List Wrapper)
  | .list items => Checked.all (items.mapIdx fun i d => Checked.under (.index i) (wrapper d))
  | _ => Checked.issue .listType

/-- Read the wrapper functions of settings. -/
def wrappers (d : Datum) : Except OptionsError (List Wrapper) := do
  let ms ← members d
  let key := Datum.spelling ms "propWrapperFunctions" "prop_wrapper_functions"
  orInvalid (Datum.field ms key (.ok []) wrapperList)

/-! ### Locations -/

/-- Read the members of an object of a given name, which may have other keys. -/
def model {α : Type} (name : String) (read : List Datum.Member → Checked α) : Datum → Checked α
  | .object members => read (Datum.textKeyed members)
  | _ => Checked.issue (.modelType name)

/-- Read a position. -/
def position : Datum → Checked Position :=
  model "Position" fun ms =>
    let coordinate (key : String) := Datum.field ms key (Checked.issue .missing) Datum.toInt
    Checked.both Position.mk (coordinate "row") (coordinate "column")

/-- Read a location. -/
def location : Datum → Checked Location :=
  model "SourceLocation" fun ms =>
    let stop (key : String) := Datum.field ms key (Checked.issue .missing) position
    Checked.both Location.mk (stop "start") (stop "end")

end Options

end PropOrder
