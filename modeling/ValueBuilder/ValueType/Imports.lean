import ValueBuilder.Directives
import ValueBuilder.Names
import ValueBuilder.Policy.Platform

/-!
# Imports of a builder

What the file of a builder has to import. Three imports are fixed: Foundation, the header of the
value type, and the header of the builder. Each type lookup then has an import unless a forward
declaration is enough for it, and each attribute has one unless a lookup or the language already
accounts for its type.

With forward declarations in use an import stands in the header only where the definition of the
type is needed. The list is put together from independent parts, one lookup and one attribute at a
time.
-/

namespace ValueBuilder

open ObjC (Import)

namespace TypeLookup

/-- The import of a looked-up type; without a library of its own it comes from that of the value
type. -/
def toImport (l : TypeLookup) (library : Json) (isPublic : Bool) : Import where
  file := l.file.orElse (.text (l.name ++ ".h"))
  isPublic := isPublic
  library := l.library.orElse library

/-- The import that a lookup leads to. A type that cannot be forward declared is imported in the
header. Any other is imported in the implementation if forward declarations are in use, and not at
all if they are not. -/
def neededImport? (l : TypeLookup) (d : Directives) (library : Json) : Option Import :=
  if !l.canForwardDeclare then some (l.toImport library true)
  else if d.useForwardDeclarations then some (l.toImport library false)
  else none

end TypeLookup

namespace Attribute

/-- A Boolean test that an attribute needs an import of its own: no lookup has its type, and the
language does not either. -/
def needsImport (a : Attribute) (p : Policy) (lookups : List TypeLookup) : Bool :=
  !(lookups.any fun l => l.name == a.type.name) && p.requiresHeader a.type.name

/-- The import of the type of an attribute. The header of the platform stands for the types that
come with it. Any other type has a header of its own, which is public if the definition of the type
is needed. -/
def toImport (a : Attribute) (p : Policy) (library : Json) (isPublic : Bool) :
    Except Fault Import :=
  match p.platformImport? a.type.name with
  | some known => .ok known
  | none => do
    let isPublic ← if isPublic then pure true else p.needsDefinition a
    return {
      file := a.type.file.orElse (.text (a.type.name ++ ".h"))
      isPublic
      library := a.type.library.orElse library }

end Attribute

namespace ValueType

/-- The imports of every builder: Foundation, the value type, and the builder itself. -/
def fixedImports (v : ValueType) : List Import :=
  [Policy.foundation, ⟨.text (v.typeName ++ ".h"), false, v.libraryName⟩,
   ⟨.text (Names.builder v.typeName ++ ".h"), false, .null⟩]

/-- The imports of the type lookups. -/
def lookupImports (v : ValueType) (d : Directives) : List Import :=
  v.typeLookups.filterMap fun l => l.neededImport? d v.libraryName

/-- The type lookups that have no import. -/
def omittedLookups (v : ValueType) (d : Directives) : List TypeLookup :=
  v.typeLookups.filter fun l => (l.neededImport? d v.libraryName).isNone

/-- The imports of the attributes. -/
def attributeImports (v : ValueType) (d : Directives) (p : Policy) :
    Except Fault (List Import) :=
  if d.omitsAttributeImports then .ok []
  else
    (v.attributes.filter (·.needsImport p v.typeLookups)).mapM
      (·.toImport p v.libraryName d.importsInHeader)

/-- The imports of the builder. -/
def builderImports (v : ValueType) (d : Directives) (p : Policy) : Except Fault (List Import) := do
  return v.fixedImports ++ v.lookupImports d ++ (← v.attributeImports d p)

end ValueType

end ValueBuilder
