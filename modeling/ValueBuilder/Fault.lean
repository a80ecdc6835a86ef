import ValueBuilder.Json.Basic

/-!
# Faults

A description may be accepted and still leave no way to generate code: its members are only looked
at where they are needed. The steps from a value type to the text of its builder answer with a
`Fault` in that case.
-/

namespace ValueBuilder

/-- Why no code is generated for a description that was accepted. -/
inductive Fault where
  /-- The way to refer to the type of this name is no text. -/
  | referenceNotText (typeName : Text)
  /-- The type that the type of this name stands for is a list or an object, which no table can be
  searched for. -/
  | underlyingCompound (typeName : Text)
  /-- The protocol of the type of this name is no text that a prefix could be compared with. -/
  | protocolNotText (typeName : Text) (found : Json)
  /-- A file has no class. -/
  | noClass (file : Text)
  deriving DecidableEq, Repr

end ValueBuilder
