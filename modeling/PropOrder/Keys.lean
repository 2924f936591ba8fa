import PropOrder.Kinds
import PropOrder.Token
import PropOrder.Value

/-!
# Keys and names

What properties, members and callees are called.
-/

namespace PropOrder

namespace Text

/-- A text without a single quote at its front. -/
def dropLeadingQuote : Text → Text
  | c :: rest => if c = code '\'' then rest else c :: rest
  | [] => []

/-- A text without a single quote at its end, where a final line feed does not count. -/
def dropTrailingQuote (t : Text) : Text :=
  match t.reverse with
  | c :: d :: rest =>
    if c = code '\'' then (d :: rest).reverse
    else if c = code '\n' ∧ d = code '\'' then (c :: rest).reverse
    else t
  | [c] => if c = code '\'' then [] else t
  | [] => []

/-- A text without one single quote at either end. -/
def stripQuotes (t : Text) : Text := dropTrailingQuote (dropLeadingQuote t)

end Text

namespace Site

/-- The node that names a property or a member. -/
def nameNode (s : Site) : Value :=
  let key := s.get "key"
  if !key.isNull || s.kind == "MethodDefinition" || s.kind == "Property" then key
  else if s.kind == "MemberExpression" then s.get "property"
  else .null

/-- The name of a property or a member; empty if it has none. -/
def propertyName (s : Site) : Except Fault Text := do
  match ← s.nameNode.site? with
  | some n => return (n.get "name").text?.getD []
  | none => return []

/-- What is inside the type claim of a node, or else the node itself. -/
def unwrapClaim (s : Site) : Value :=
  if s.kind == "TSAsExpression" then s.get "expression" else .node s

/-- What is inside the type claim of a value, or else the value itself. -/
def unwrapClaim? (v : Value) : Except Fault Value := do
  match ← v.site? with
  | some s => return s.unwrapClaim
  | none => return .null

/-- The members of a class or of an object; other nodes have none. -/
def componentProperties (s : Site) : Except Fault (List (Entry Site)) := do
  if s.isClass then
    match ← (s.get "body").site? with
    | some body => (body.get "body").items
    | none => return []
  else if s.kind == "ObjectExpression" then (s.get "properties").items
  else return []

/-- The key of an object type property, read off its first two tokens: a sign of variance in front
of it is passed over, and quotes around it are taken off. -/
def objectTypeKey (s : Site) (tokens : TokenStream) : Value :=
  match tokens.firstTokens s.span 2 with
  | [] => .null
  | first :: more =>
    if first.value == Text.ofString "+" || first.value == Text.ofString "-" then
      match more with
      | second :: _ => .text second.value
      | [] => .null
    else .text first.value.stripQuotes

/-- The first of two values that counts as true, or else the second. -/
def orElse (a b : Value) : Value := if a.truthy then a else b

/-- Whether the key of a node is read off tokens. -/
def readsTokens (s : Site) : Bool := s.kind == "ObjectTypeProperty"

/-- The name or the value of the key of a node; nothing if it has no key. The key of an object type
property takes a stream of tokens. -/
def keyValue (s : Site) (tokens : Option TokenStream) : Except Fault Value := do
  if s.readsTokens then
    return match tokens with
      | some ts => s.objectTypeKey ts
      | none => .null
  else if s.kind == "GenericTypeAnnotation" then
    match ← (s.get "id").site? with
    | some id => return id.get "name"
    | none => return .null
  else if s.kind == "ObjectTypeAnnotation" then return .null
  else
    match ← (orElse (s.get "key") (s.get "argument")).site? with
    | some key => return if key.isIdentifier then key.get "name" else key.get "value"
    | none => return .null

/-- The name of a callee: its own, or two names joined by a point for a member of a name. -/
def calleeName (callee : Site) : Except Fault Value := do
  if callee.isIdentifier then return callee.get "name"
  else if callee.kind == "MemberExpression" && !(callee.get "computed").truthy then
    match ← (callee.get "object").site? with
    | none => return .null
    | some object =>
      if !object.isIdentifier then return .null
      else
        match ← (callee.get "property").site? with
        | none => return .null
        | some property =>
          let name := property.get "name"
          if name.truthy then
            return .text ((← (object.get "name").display) ++ Text.code '.' :: (← name.display))
          else return .null
  else return .null

/-- The name of a callee, if there is one. -/
def calleeName? (callee : Value) : Except Fault Value := do
  match ← callee.site? with
  | some s => s.calleeName
  | none => return .null

end Site

end PropOrder
