import PropOrder.Site

/-!
# Reading values

What a field holds is read in four ways: as a node that may be missing, as a list, as true or
false, and as a text. Programs that were converted from a concrete tree hold in every field what
is looked for in it; on a tree made by hand reading can fail, and the fault says how.
-/

namespace PropOrder

namespace Entry

/-- Whether two entries are equal; sites are equal when they are the same. -/
def eqv : Entry Site → Entry Site → Bool
  | null, null => true
  | scalar a, scalar b => a.eqv b
  | node a, node b => a.same b
  | _, _ => false

/-- The site that an entry must be. -/
def site : Entry Site → Except Fault Site
  | node s => .ok s
  | _ => .error .notANode

end Entry

namespace Value

/-- Whether two values are equal. -/
def eqv : Value → Value → Bool
  | .one a, .one b => a.eqv b
  | .many as, .many bs => as.length == bs.length && (as.zip bs).all fun (a, b) => a.eqv b
  | _, _ => false

/-- Whether a value counts as true: nothing, an empty list and a false scalar do not. -/
def truthy : Value → Bool
  | .one .null => false
  | .one (.scalar v) => v.truthy
  | .one (.node _) => true
  | .many es => !es.isEmpty

/-- The site that a value holds, if any; anything else but nothing is refused. -/
def site? : Value → Except Fault (Option Site)
  | .one .null => .ok none
  | .one (.node s) => .ok (some s)
  | _ => .error .notANode

/-- The entries of a list. What counts as false is an empty list, and a text is the list of its
code points. -/
def items : Value → Except Fault (List (Entry Site))
  | .many es => .ok es
  | .one .null => .ok []
  | .one (.scalar (.text t)) => .ok (t.map fun c => .scalar (.text [c]))
  | .one (.scalar v) => if v.truthy then .error .notAList else .ok []
  | .one (.node _) => .error .notAList

/-- The site that a value must be. -/
def site : Value → Except Fault Site
  | .one e => e.site
  | .many _ => .error .notANode

end Value

/-! ### Texts of values -/

/-- A site in angle brackets: its kind, its name if that is a text, and its span. -/
def Site.shown (s : Site) : Text :=
  let name := match (s.get "name").text? with
    | some t => Text.code ' ' :: t.quoted
    | none => []
  Text.ofString ("<" ++ s.kind) ++ name ++ Text.code ' ' :: Text.ofNat s.span.start ++
    Text.code ':' :: Text.ofNat s.span.stop ++ Text.ofString ">"

/-- The text of an entry as it stands among others. -/
def Entry.shown : Entry Site → Except Fault Text
  | null => .ok (Text.ofString "None")
  | scalar v => v.shown
  | node s => .ok s.shown

/-- The text of a value: a text is itself, a list stands in brackets. -/
def Value.display : Value → Except Fault Text
  | .one (.scalar (.text t)) => .ok t
  | .one e => e.shown
  | .many es => do
    let shown ← es.mapM Entry.shown
    return Text.ofString "[" ++ (Text.ofString ", ").intercalate shown ++ Text.ofString "]"

/-! ### Attributes -/

/-- A location as a list of its rows and columns. -/
def Location.value (l : Location) : Value :=
  .many ([l.start.row, l.start.column, l.stop.row, l.stop.column].map fun i => .scalar (.int i))

/-- What a site answers under a name: its kind, the ends of its span, its location and its parent
are read like fields, and come before fields of the same name. Names that begin with two
underscores are reserved. -/
def Site.attribute (s : Site) (name : String) : Except Fault Value :=
  if name == "type" then .ok (.string s.kind)
  else if name == "start" then .ok (.one (.scalar (.int s.span.start)))
  else if name == "end" then .ok (.one (.scalar (.int s.span.stop)))
  else if name == "loc" then .ok (s.location.elim .null Location.value)
  else if name == "parent" then .ok (.ofOption s.parent?)
  else if (name.toList.take 2) == ['_', '_'] then .error .reservedName
  else .ok (s.get name)

end PropOrder
