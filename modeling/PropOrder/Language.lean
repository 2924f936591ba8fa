import PropOrder.FilePath
import PropOrder.Text.Blank
import PropOrder.Text.Lower

/-!
# Languages

The languages of sources, known by their names and by the extensions of files.
-/

namespace PropOrder

/-- A language that sources are written in. -/
inductive Language where
  /-- JavaScript, with or without markup. -/
  | javascript
  /-- TypeScript. -/
  | typescript
  /-- TypeScript with markup. -/
  | tsx
  deriving DecidableEq, Repr

/-- Why no language is known. -/
inductive LanguageError where
  /-- No language has the name. -/
  | unknownName (name : Text)
  /-- No language has the extension. -/
  | unknownExtension (extension : Text)
  /-- There is neither a name nor a file. -/
  | notGiven
  deriving DecidableEq, Repr

/-- What is reported of an unknown language. -/
def LanguageError.message : LanguageError → Text
  | unknownName name =>
    Text.ofString "Unsupported language '" ++ name ++
      Text.ofString "'. Supported: ['javascript', 'tsx', 'typescript']"
  | unknownExtension extension => Text.ofString "Unsupported file extension: " ++ extension
  | notGiven => Text.ofString "Language must be provided when no file path is available."

namespace Language

/-- The name of a language. -/
def name : Language → String
  | javascript => "javascript"
  | typescript => "typescript"
  | tsx => "tsx"

/-- The names that a language goes by. -/
def names : List (String × Language) := [
  ("javascript", javascript),
  ("js", javascript),
  ("jsx", javascript),
  ("ecmascript", javascript),
  ("ts", typescript),
  ("typescript", typescript),
  ("tsx", tsx)]

/-- The extensions of the files of a language. -/
def extensions : List (String × Language) := [
  (".js", javascript),
  (".jsx", javascript),
  (".mjs", javascript),
  (".cjs", javascript),
  (".ts", typescript),
  (".mts", typescript),
  (".cts", typescript),
  (".tsx", tsx)]

/-- The language that a text stands for in a table. -/
def lookup (table : List (String × Language)) (t : Text) : Option Language :=
  (table.find? fun row => Text.ofString row.1 == t).map (·.2)

/-- The language of a name; letter case and white space around it do not matter. -/
def ofName (name : Text) : Except LanguageError Language :=
  match lookup names name.strip.lower with
  | some language => .ok language
  | none => .error (.unknownName name)

/-! ### Files -/

/-- The language of a file, by its extension in lower case. -/
def ofPath (path : Text) : Except LanguageError Language :=
  let extension := (FilePath.extensionOf (FilePath.name path)).lower
  match lookup extensions extension with
  | some language => .ok language
  | none => .error (.unknownExtension extension)

/-- The language of a name, or of a file if no name is given. -/
def resolve (name : Option Text) (path : Option Text) : Except LanguageError Language :=
  match name, path with
  | some (c :: rest), _ => ofName (c :: rest)
  | _, some path => ofPath path
  | _, none => .error .notGiven

end Language

end PropOrder
