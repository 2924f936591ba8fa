import PropOrder.SystemText

/-!
# Paths of files

A path is a text of components between slashes. The components `.` and those without a character do
not count, so a path has a plain form without them. Files are looked for in a directory that is
empty but for the file in question.
-/

namespace PropOrder

/-- Why a file could not be read. -/
inductive FileError where
  /-- Its path cannot be handed to the system. -/
  | badPath (error : SystemTextError)
  /-- Its path or a component of it is too long. -/
  | nameTooLong
  /-- There is a directory and no file. -/
  | directory
  /-- There is no such file. -/
  | missing (path : Text)
  deriving DecidableEq, Repr

/-- What is reported of a file that could not be read. -/
def FileError.message : FileError → Text
  | badPath error => error.message
  | nameTooLong => Text.ofString "File name too long"
  | directory => Text.ofString "Is a directory"
  | missing path => Text.ofString "File not found: " ++ path

namespace FilePath

/-- The components of a path. -/
def components (path : Text) : List Text :=
  (Text.splitAt (Text.code '/') path).filter fun part => !part.isEmpty && part != Text.ofString "."

/-- The last component of a path. -/
def name (path : Text) : Text := (components path).getLast?.getD []

/-- The extension of a name: its last point and what follows it. A point at the front or at the end
of the name begins no extension. -/
def extensionOf (name : Text) : Text :=
  let point := Text.code '.'
  let after := name.reverse.takeWhile (· != point)
  let before := name.reverse.drop (after.length + 1)
  if after.length < name.length && !after.isEmpty && !before.isEmpty then point :: after.reverse
  else []

/-- The root that a path begins with. Two slashes at the front are a root of their own, more than
two count as one. -/
def root (path : Text) : Text :=
  let slashes := path.takeWhile (· == Text.code '/')
  if slashes.length ≤ 2 then slashes else slashes.take 1

/-- The plain form of a path; that of a path of nothing is the point. -/
def plain (path : Text) : Text :=
  match root path ++ (Text.ofString "/").intercalate (components path) with
  | [] => Text.ofString "."
  | written => written

/-- The number of bytes, with the null at the end, that a path has at most. -/
def maxSize : Nat := 4096

/-- The number of bytes that a component has at most. -/
def maxComponentSize : Nat := 255

/-- Why a file that is not there could not be read. The first component that does not lead upwards
is looked for and not found; without one the path leads to a directory. -/
def error (path : Text) : FileError :=
  match (plain path).systemError? with
  | some e => .badPath e
  | none =>
    if maxSize ≤ (plain path).systemBytes.length then .nameTooLong
    else match (components path).find? (· != Text.ofString "..") with
      | none => .directory
      | some part =>
        if maxComponentSize < part.systemBytes.length then .nameTooLong else .missing path

end FilePath

end PropOrder
