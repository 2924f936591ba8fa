import PropOrder.Document
import PropOrder.Language
import PropOrder.Options

/-!
# Requests

A request runs the ordering rule over a document, over a source in a language, or over a file, with
options and settings. What is worth noting on the way is kept beside the answer, also when there is
none. Of two reasons for having no answer the first in this order counts: the language is not known,
the file is not there, the tree cannot be converted, the options cannot be read, the settings
cannot be read, the program cannot be read.
-/

namespace PropOrder

/-! ### What a parser makes of a source -/

/-- What is worth noting. -/
inductive Event where
  /-- The source had syntax errors, and its tree is what the parser made of it. -/
  | recovered (language : Language)
  /-- A file has been linted. -/
  | linted (path : Text) (count : Nat)

namespace Event

/-- How much an event matters. -/
def level : Event → String
  | recovered _ => "WARNING"
  | linted .. => "INFO"

/-- What is noted of an event. -/
def message : Event → Text
  | recovered language =>
    Text.ofString ("Source contains syntax errors; analysing the recovered tree (" ++
      language.name ++ ")")
  | linted path count =>
    Text.ofString "Linted " ++ path ++ Text.ofString ": " ++ Text.ofNat count ++
      Text.ofString " diagnostic(s)"

end Event

/-- What a parser makes of a source. -/
structure Parse where
  /-- The concrete tree. -/
  tree : Concrete
  /-- Whether the source had syntax errors. -/
  hasError : Bool

/-- What is worth noting of a parse. -/
def Parse.events (p : Parse) (language : Language) : List Event :=
  if p.hasError then [.recovered language] else []

/-! ### Answers -/

/-- Why there is no answer. -/
inductive LintError where
  /-- The language is not known. -/
  | language (error : LanguageError)
  /-- The file could not be read. -/
  | file (error : FileError)
  /-- The options or the settings could not be read. -/
  | options (error : OptionsError)
  /-- The program could not be read. -/
  | fault (fault : Fault)

/-- An answer with what is worth noting. -/
structure Noted (α : Type) where
  /-- What is worth noting, in order. -/
  events : List Event
  /-- The answer. -/
  answer : Except LintError α

/-! ### Requests -/

/-- What the rule is run with. -/
structure Request where
  /-- The options. -/
  options : Datum
  /-- The settings. -/
  settings : Datum
  /-- The environment variable that names wrapper functions. -/
  wrapperNames : Text

namespace Request

/-- The policy of a request. -/
def policy (r : Request) : Except OptionsError Policy := Options.policy r.options

/-- The wrapper functions of a request. -/
def wrappers (r : Request) : Except OptionsError (List Wrapper) := do
  return Wrapper.all (← Options.wrappers r.settings) r.wrapperNames

/-- What is found in a document. -/
def lint (r : Request) (d : Document) : Except LintError (List Diagnostic) := do
  let policy ← r.policy.mapError .options
  let wrappers ← r.wrappers.mapError .options
  (d.lint policy wrappers).mapError .fault

/-- Convert what a parser made of a source in a language. -/
def load (language : Language) (source : SourceText) (p : Parse) : Noted Document :=
  ⟨p.events language, (Document.ofConcrete source p.tree).mapError .fault⟩

/-- What is found in a source in a language of a given name. -/
def lintSource (r : Request) (language : Text) (source : SourceText) (p : Parse) :
    Noted (List Diagnostic) :=
  match Language.ofName language with
  | .error e => ⟨[], .error (.language e)⟩
  | .ok language =>
    let loaded := load language source p
    ⟨loaded.events, loaded.answer >>= r.lint⟩

/-- What is found in a file, which may not be there. The language is that of the given name, or else
that of the path; it is found before the file is looked for. -/
def lintFile (r : Request) (path : Text) (language : Option Text)
    (file : Option (SourceText × Parse)) : Noted (List Diagnostic) :=
  match Language.resolve language (some path) with
  | .error e => ⟨[], .error (.language e)⟩
  | .ok language =>
    match file with
    | none => ⟨[], .error (.file (FilePath.error path))⟩
    | some (source, p) =>
      let loaded := load language source p
      match loaded.answer >>= r.lint with
      | .ok found => ⟨loaded.events ++ [.linted path found.length], .ok found⟩
      | .error e => ⟨loaded.events, .error e⟩

end Request

end PropOrder
