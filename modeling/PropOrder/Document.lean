import PropOrder.Conversion
import PropOrder.Inspection

/-!
# Documents

A document is a source with the program that its concrete tree stands for. The order of the
declarations of a document is inspected with a policy and with the wrapper functions that are known.
-/

namespace PropOrder

/-- A source with its program. -/
structure Document where
  /-- The source. -/
  source : SourceText
  /-- The program. -/
  program : Node

namespace Document

/-- The site of the program of a document. -/
def root (d : Document) : Site := .root d.program

/-- The document of a source and its concrete tree. -/
def ofConcrete (source : SourceText) (tree : Concrete) : Except Fault Document := do
  return ⟨source, ← Conversion.convert source tree⟩

/-- The inspection of a document. -/
def inspection (d : Document) (policy : Policy) (wrappers : List Wrapper) :
    Except Fault Inspection := do
  let scopes ← Scope.all d.root
  let components ← Component.all d.root scopes
  return ⟨policy, wrappers, d.source, d.root, components⟩

/-- What is found in a document. -/
def lint (d : Document) (policy : Policy) (wrappers : List Wrapper) :
    Except Fault (List Diagnostic) := do
  (← d.inspection policy wrappers).run d.root

end Document

end PropOrder
