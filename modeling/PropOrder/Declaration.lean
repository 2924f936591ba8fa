import PropOrder.Keys

/-!
# Declarations

A member of a declaration list is a spread or a declaration. Of a declaration only its name and
whether it is required matter for the order.
-/

namespace PropOrder

/-- A declaration with what its place in the order depends on. -/
structure Declaration where
  /-- The node of the declaration. -/
  site : Site
  /-- The name that it is sorted by. -/
  name : Text
  /-- Whether it is required. -/
  required : Bool

/-- A member of a declaration list. -/
inductive Member where
  /-- All members of something else. -/
  | spread
  /-- One declaration. -/
  | declaration (d : Declaration)

/-- Whether a name is that of a callback: `on` and an upper-case ASCII letter. -/
def isCallbackName : Text → Bool
  | a :: b :: c :: _ => a == Text.code 'o' && b == Text.code 'n' && Text.isUpperAscii c
  | _ => false

/-- Whether a declaration is a callback. -/
def Declaration.isCallback (d : Declaration) : Bool := isCallbackName d.name

namespace Site

/-- Whether a node stands for all members of something else. -/
def isSpread (s : Site) : Bool :=
  s.kind == "SpreadElement" || s.kind == "ExperimentalSpreadProperty"

/-- The name of a node, where one that counts as false is an empty text. -/
def nameOrEmpty (s : Site) : Value :=
  let name := s.get "name"
  if name.truthy then name else .text []

/-- The text of the value of a node, where a missing one is empty. -/
def valueText (s : Site) : Except Fault Text :=
  let value := s.get "value"
  if value.isNull then .ok [] else value.display

/-- What a key or an argument gives to sort by: its text in the source if that is given, else the
name of an identifier or the text of the value of anything else. -/
def targetKey (target : Site) (source : Option SourceText) : Except Fault Value :=
  match source with
  | some source => return .text (source.text target.span)
  | none =>
    if target.isIdentifier then return target.nameOrEmpty else return .text (← target.valueText)

/-- What a declaration is sorted by: the text of the value of its key if that value counts as true,
else what the key or the argument gives; an empty text if it has neither. Of a converted program
it is always a text. -/
def declarationKey (s : Site) (source : Option SourceText) : Except Fault Value := do
  let key := s.get "key"
  let value : Value ← match ← key.site? with
    | some k => pure (k.get "value")
    | none => pure .null
  if value.truthy then return .text (← value.display)
  else
    match ← (orElse key (s.get "argument")).site? with
    | some target => target.targetKey source
    | none => return .text []

/-- Whether a declaration is required: its value is a member called so. -/
def isRequired (s : Site) : Except Fault Bool := do
  if s.kind != "Property" then return false
  else
    match ← (s.get "value").site? with
    | none => return false
    | some value =>
      match ← (value.get "property").site? with
      | none => return false
      | some accessed => return (accessed.get "name").isText "isRequired"

end Site

/-- The text that a declaration is compared by, which is looked at last. -/
def nameOfKey (key : Value) : Except Fault Text :=
  match key.text? with
  | some name => .ok name
  | none => .error .notAText

/-- A member of a declaration list, as it is compared with others. -/
def Member.ofEntry (source : Option SourceText) (e : Entry Site) : Except Fault Member := do
  let s ← e.site
  if s.isSpread then return .spread
  else
    let key ← s.declarationKey source
    let required ← s.isRequired
    return .declaration ⟨s, ← nameOfKey key, required⟩

end PropOrder
