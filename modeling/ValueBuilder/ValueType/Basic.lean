import ValueBuilder.Json.Basic

/-!
# Value types

The description of an immutable class: its name, its attributes with their types, directives to the
generators, and the places where types that it mentions were found. Members that a description only
hands on to the generated code, such as the library of a type, are kept as JSON values: a
description may hold anything there.
-/

namespace ValueBuilder

/-- Whether an attribute may hold nil. -/
inductive Nullability where
  /-- As the surrounding code says. -/
  | inherited
  /-- It may. -/
  | nullable
  /-- It may not. -/
  | nonnull
  deriving DecidableEq, Repr

/-- The type of an attribute. -/
structure AttributeType where
  /-- The name of the type. -/
  name : Text
  /-- How code refers to the type, such as `NSString *`. -/
  reference : Json
  /-- The library that declares the type. -/
  library : Json := .null
  /-- The header that declares the type. -/
  file : Json := .null
  /-- The type that the name is another name for. -/
  underlyingType : Json := .null
  /-- The protocol that values of the type conform to. -/
  conformingProtocol : Json := .null
  deriving DecidableEq, Repr

/-- An attribute of a value type. -/
structure Attribute where
  /-- The name of the attribute. -/
  name : Text
  /-- Its type. -/
  type : AttributeType
  /-- Whether it may hold nil. -/
  nullability : Nullability := .inherited
  deriving DecidableEq, Repr

/-- Where a type that a value type mentions was found. -/
structure TypeLookup where
  /-- The name of the type. -/
  name : Text
  /-- A declaration of its name is enough to refer to it. -/
  canForwardDeclare : Bool := true
  /-- Its library. -/
  library : Json := .null
  /-- Its header. -/
  file : Json := .null
  deriving DecidableEq, Repr

/-- The description of a value type. -/
structure ValueType where
  /-- The name of the class. -/
  typeName : Text
  /-- The attributes in order. -/
  attributes : List Attribute := []
  /-- Directives to the generators. -/
  includes : List Text := []
  /-- The places of the types that it mentions. -/
  typeLookups : List TypeLookup := []
  /-- The library of the class. -/
  libraryName : Json := .null
  deriving DecidableEq, Repr

/-- The words for the kinds of nullability. -/
def Nullability.word : Nullability → Text
  | .inherited => "inherited"
  | .nullable => "nullable"
  | .nonnull => "nonnull"

/-- All kinds of nullability. -/
def Nullability.all : List Nullability := [.inherited, .nullable, .nonnull]

/-- The kind of nullability that a word names. -/
def Nullability.ofWord? (word : Text) : Option Nullability :=
  Nullability.all.find? fun n => n.word == word

/-- A kind of nullability is named by its word and by no other. -/
theorem Nullability.ofWord?_eq_some_iff {word : Text} {n : Nullability} :
    Nullability.ofWord? word = some n ↔ word = n.word := by
  constructor
  · intro h
    exact (by simpa using List.find?_some h : n.word = word).symm
  · rintro rfl
    cases n <;> decide

/-- The type that decides how values are stored: the underlying type if there is one. -/
def AttributeType.effectiveName (t : AttributeType) : Json := t.underlyingType.orElse (.text t.name)

/-- The names of the attributes in order. -/
def ValueType.attributeNames (v : ValueType) : List Text := v.attributes.map Attribute.name

end ValueBuilder
