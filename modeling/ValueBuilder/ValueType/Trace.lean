import ValueBuilder.ValueType.Builder

/-!
# Traces

What is worth knowing about a run, as data. `ValueType.buildTrace` is the trace of making a builder:
first the type lookups that need no import, then whether the imports of attributes were left out,
and at last the size of the file, which is there only if the file is.
-/

namespace ValueBuilder

/-- Something that happened in a run. -/
inductive Event where
  /-- A description was read. -/
  | loaded (typeName : Text) (path : String)
  /-- A type lookup was given no import. -/
  | omittedImport (name : Text)
  /-- The imports of the attributes were left out. -/
  | skippedAttributes (typeName : Text)
  /-- A builder was made, with so many attributes, imports and forward declarations. -/
  | synthesized (file : Text) (attributes imports declarations : Nat)
  deriving DecidableEq, Repr

namespace Event

/-- The part of the program that reports an event. -/
def source : Event → Text
  | .loaded .. => "mkbuilder.cli"
  | .omittedImport _ => "mkbuilder.dependencies"
  | .skippedAttributes _ => "mkbuilder.dependencies"
  | .synthesized .. => "mkbuilder.builder"

/-- The words for an event. -/
def message : Event → Text
  | .loaded typeName path => "Loaded value type " ++ typeName ++ " from " ++ path
  | .omittedImport name => "Omitting import for forward-declarable lookup " ++ name
  | .skippedAttributes typeName => "Skipping attribute imports for " ++ typeName
  | .synthesized file attributes imports declarations =>
    "Synthesized " ++ file ++ ": " ++ toString attributes ++ " attributes, " ++ toString imports ++
      " imports, " ++ toString declarations ++ " forward declarations"

/-- The line of a log for an event. -/
def line (e : Event) : Text := "DEBUG " ++ e.source ++ ": " ++ e.message ++ "\n"

end Event

namespace ValueType

/-- The events on the way to the imports of a builder. -/
def importTrace (v : ValueType) (d : Directives) : List Event :=
  (v.omittedLookups d).map (.omittedImport ·.name) ++
    if d.omitsAttributeImports then [.skippedAttributes v.typeName] else []

/-- The events of making a builder. -/
def buildTrace (v : ValueType) (p : Policy) : List Event :=
  v.importTrace (.ofIncludes v.includes) ++
    match v.builderFile p with
    | .ok f =>
      [.synthesized f.name v.attributes.length f.imports.length f.forwardDeclarations.length]
    | .error _ => []

end ValueType

end ValueBuilder
