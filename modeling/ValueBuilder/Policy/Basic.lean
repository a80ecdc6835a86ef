import ValueBuilder.Fault
import ValueBuilder.ObjC.Basic
import ValueBuilder.Text.Blank
import ValueBuilder.Text.LetterCase
import ValueBuilder.ValueType.Basic

/-!
# Policies

How a platform sees the type of an attribute, decided by tables of names. The builder and the
initializer of a value type have to agree on which incoming values are copied and which types can be
declared ahead of their definition, so both take one `Policy`.

`Policy.storageOf` is how values of a type are held. It looks at the underlying type and at the
reference: a caret makes a block, a star at the end an object. `Policy.categoryOf` is what a file
that uses the type has to know about it. A reference that is no text has no storage (`Fault`), and
neither has an underlying type that is a list or an object. A type that is classified by its name
alone is never asked for its storage.
-/

namespace ValueBuilder

/-- The text that refers to a type. -/
def AttributeType.referenceText (t : AttributeType) : Except Fault Text :=
  match t.reference with
  | .text s => .ok s
  | _ => .error (.referenceNotText t.name)

/-- The type that decides how values are stored, to search the tables for. -/
def AttributeType.searchedName (t : AttributeType) : Except Fault Json :=
  if t.effectiveName.isCompound then .error (.underlyingCompound t.name) else .ok t.effectiveName

/-- How values of a type are held. -/
inductive Storage where
  /-- By a pointer to an object. -/
  | object
  /-- As a block. -/
  | block
  /-- As a number. -/
  | scalar
  /-- As a structure. -/
  | struct
  /-- In a way that only the definition of the type tells. -/
  | opaqueValue
  deriving DecidableEq, Repr

/-- What a file has to know about a type. -/
inductive Category where
  /-- The platform has it. -/
  | builtIn
  /-- It is a class: its name is enough. -/
  | userClass
  /-- It is a protocol. -/
  | ofProtocol
  /-- It is neither: its definition is needed. -/
  | unresolved
  deriving DecidableEq, Repr

/-- The names that a platform knows. -/
structure Policy where
  /-- The types of the language, which need no import. -/
  primitiveTypes : List Text
  /-- The types that are held as numbers. -/
  scalarTypes : List Text
  /-- The types that are held as structures. -/
  structTypes : List Text
  /-- The classes whose values may change behind their holder's back and are copied. -/
  copyableTypes : List Text
  /-- The types that come with a header of the platform. -/
  wellKnownImports : List (Text × ObjC.Import)
  /-- What the names of the platform's own types start with. -/
  systemPrefixes : List Text
  deriving DecidableEq, Repr

namespace Policy

/-- A Boolean test that a name is a prefix and goes on with a capital. -/
def hasPrefix (name stem : Text) : Bool :=
  stem.isPrefixOf name && ((name.drop stem.length).head?.any Text.isUppercase)

/-- A Boolean test that a name is one of the platform's own. -/
def isPlatformName (p : Policy) (name : Text) : Bool := p.systemPrefixes.any (hasPrefix name)

/-- The header of the platform that a type comes with. -/
def platformImport? (p : Policy) (typeName : Text) : Option ObjC.Import :=
  p.wellKnownImports.lookup typeName

/-- A Boolean test that a type needs an import at all. -/
def requiresHeader (p : Policy) (typeName : Text) : Bool := !p.primitiveTypes.contains typeName

/-- A Boolean test that a type is the platform's, by its name alone. -/
def isBuiltInName (p : Policy) (name : Text) : Bool :=
  (p.platformImport? name).isSome || p.primitiveTypes.contains name ||
    p.scalarTypes.contains name || p.isPlatformName name

/-- How values of a type are held, by its effective name and its reference. -/
def storageFor (p : Policy) (name : Json) (reference : Text) : Storage :=
  let reference := Text.strip reference
  if name.isOneOf p.scalarTypes then .scalar
  else if name.isOneOf p.structTypes then .struct
  else if reference.contains '^' then .block
  else if name = .text "id" ∨ reference.getLast? = some '*' then .object
  else .opaqueValue

/-- How values of a type are held. -/
def storageOf (p : Policy) (t : AttributeType) : Except Fault Storage := do
  let reference ← t.referenceText
  let name ← t.searchedName
  return p.storageFor name reference

/-- What a file has to know about a type. -/
def categoryOf (p : Policy) (t : AttributeType) : Except Fault Category :=
  if t.conformingProtocol.isGiven && t.name == "id" then .ok .ofProtocol
  else if p.isBuiltInName t.name then .ok .builtIn
  else do
    let storage ← p.storageOf t
    return if storage = .object then .userClass else .unresolved

/-- A Boolean test that values of a type are copied when they are set: blocks, and objects of a
class that may change. -/
def copies (p : Policy) (t : AttributeType) : Except Fault Bool := do
  match ← p.storageOf t with
  | .block => return true
  | .object => return p.copyableTypes.contains t.name
  | _ => return false

/-- A Boolean test that the value of an attribute is copied when it is set. Without value semantics
nothing is, and the type is not looked at. -/
def copiesIncoming (p : Policy) (valueSemantics : Bool) (a : Attribute) : Except Fault Bool :=
  if valueSemantics then p.copies a.type else .ok false

/-- A Boolean test that a forward declaration of its class is enough for an attribute. -/
def isForwardDeclarable (p : Policy) (a : Attribute) : Except Fault Bool := do
  return (← p.categoryOf a.type) = .userClass

/-- A Boolean test that an attribute needs the definition of its type. -/
def needsDefinition (p : Policy) (a : Attribute) : Except Fault Bool := do
  return (← p.categoryOf a.type) = .unresolved

/-- A Boolean test that the protocol of a type is the platform's. It fails where a prefix has to be
compared with a protocol that is no text. -/
def isPlatformProtocol (p : Policy) (t : AttributeType) : Except Fault Bool :=
  match t.conformingProtocol with
  | .text name => .ok (p.isPlatformName name)
  | found =>
    if p.systemPrefixes.isEmpty then .ok false else .error (.protocolNotText t.name found)

/-- The protocol to declare for an attribute: the one that its values conform to, unless the
platform has it. -/
def forwardProtocol? (p : Policy) (a : Attribute) : Except Fault (Option Json) :=
  if a.type.conformingProtocol.isGiven then do
    return if ← p.isPlatformProtocol a.type then none else some a.type.conformingProtocol
  else .ok none

end Policy

end ValueBuilder
