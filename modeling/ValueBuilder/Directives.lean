import ValueBuilder.Text.Basic

/-!
# Directives

The directives of a value type that a builder honours. Other directives are meant for other
generators and say nothing here.
-/

namespace ValueBuilder

/-- What the directives of a value type ask of its builder. -/
structure Directives where
  /-- Types are declared rather than imported in the header wherever a declaration is enough. -/
  useForwardDeclarations : Bool := false
  /-- The imports of attributes are left out. It takes effect only together with forward
  declarations. -/
  skipImportsInImplementation : Bool := false
  /-- Values with mutable variants are copied when they are set. -/
  valueSemantics : Bool := true
  deriving DecidableEq, Repr

namespace Directives

/-- Reads a list of directives. -/
def ofIncludes (includes : List Text) : Directives where
  useForwardDeclarations := includes.contains "UseForwardDeclarations"
  skipImportsInImplementation := includes.contains "SkipImportsInImplementation"
  valueSemantics := !includes.contains "NoValueSemantics"

/-- Imports stand in the header. -/
def importsInHeader (d : Directives) : Bool := !d.useForwardDeclarations

/-- The imports of attributes are left out. -/
def omitsAttributeImports (d : Directives) : Bool :=
  d.useForwardDeclarations && d.skipImportsInImplementation

end Directives

end ValueBuilder
