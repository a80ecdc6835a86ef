import ValueBuilder.Fault
import ValueBuilder.ObjC.Code

/-!
# Summaries

A file at a glance: its name, its imports and forward declarations, and the selectors of its first
class.
-/

namespace ValueBuilder

open ObjC (CodeFile Import)

/-- What a summary says about a file. -/
structure Summary where
  /-- The name of the file. -/
  name : Text
  /-- Its imports. -/
  imports : List Import
  /-- The text of its forward declarations. -/
  forwardDeclarations : List Text
  /-- The selectors of the class methods. -/
  classMethods : List Text
  /-- The selectors of the instance methods. -/
  instanceMethods : List Text
  deriving DecidableEq, Repr

/-- The summary of a file; it needs a class. -/
def ObjC.CodeFile.summary (f : CodeFile) : Except Fault Summary :=
  match f.classes with
  | [] => .error (.noClass f.name)
  | c :: _ => .ok {
      name := f.name
      imports := f.imports
      forwardDeclarations := f.forwardDeclarations.map (·.code)
      classMethods := c.classMethods.map (·.selector)
      instanceMethods := c.instanceMethods.map (·.selector) }

namespace Summary

/-- An import in a summary. -/
def importJson (i : Import) : Json :=
  .object [("file", i.file), ("library", i.library), ("public", .bool i.isPublic)]

/-- A list of texts. -/
def texts (xs : List Text) : Json := .list (xs.map .text)

/-- A summary as JSON. -/
def toJson (s : Summary) : Json :=
  .object [
    ("name", .text s.name),
    ("imports", .list (s.imports.map importJson)),
    ("forwardDeclarations", texts s.forwardDeclarations),
    ("classMethods", texts s.classMethods),
    ("instanceMethods", texts s.instanceMethods)]

end Summary

end ValueBuilder
