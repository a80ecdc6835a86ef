import ValueBuilder.Staircase
import ValueBuilder.ValueType.Declarations
import ValueBuilder.ValueType.Imports

/-!
# Builders

The builder of a value type: a class that collects the attributes one by one and makes the value at
the end. It has two factories, one that starts fresh and one that takes over an existing value, a
method `build`, and for each attribute a method that sets it and a variable that holds it.

`ValueType.builderClass` and `ValueType.builderFile` fail only where a member of the type of an
attribute has to be looked at and holds something else than a text.
-/

namespace ValueBuilder

open ObjC (Argument CodeFile Keyword Method Modifier Property ReturnType TypeReference)

/-- The modifiers that say whether an argument may be nil. -/
def Nullability.modifiers : Nullability → List Modifier
  | .inherited => []
  | .nullable => [.nullable]
  | .nonnull => [.nonnull]

namespace Attribute

/-- The type of an attribute as code refers to it. -/
def typeReference (a : Attribute) : TypeReference := ⟨a.type.name, a.type.reference⟩

/-- What the method for an attribute stores: the value itself or a copy of it. -/
def storedValue (a : Attribute) (copied : Bool) : Text :=
  if copied then "[" ++ a.name ++ " copy]" else a.name

/-- The method that sets an attribute. -/
def setter (a : Attribute) (copied : Bool) : Method where
  keywords :=
    [⟨Names.setterKeyword a.name,
      some ⟨a.name, a.typeReference, a.nullability.modifiers⟩⟩]
  returnType := ⟨some ObjC.instanceType, []⟩
  code :=
    [Names.instanceVariable a.name ++ " = " ++ a.storedValue copied ++ ";", "return self;"]

/-- The method that sets an attribute under a policy. -/
def setterUnder (a : Attribute) (d : Directives) (p : Policy) : Except Fault Method := do
  return a.setter (← p.copiesIncoming d.valueSemantics a)

/-- The variable that holds an attribute. -/
def holder (a : Attribute) : Property where
  name := a.name
  returnType := a.typeReference
  access := .hidden

end Attribute

namespace ValueType

/-- A reference to the value. -/
def reference (v : ValueType) : TypeReference := ⟨v.typeName, .text (Names.pointer v.typeName)⟩

/-- The call that makes a fresh builder. -/
def freshCall (v : ValueType) : Text :=
  "[" ++ Names.builder v.typeName ++ " " ++ Names.stem v.typeName ++ "]"

/-- The factory that starts fresh. -/
def freshFactory (v : ValueType) : Method where
  keywords := [⟨Names.stem v.typeName, none⟩]
  returnType := ⟨some ObjC.instanceType, []⟩
  code := ["return [" ++ Names.builder v.typeName ++ " new];"]

/-- The factory that takes over an existing value. -/
def seedFactory (v : ValueType) : Method where
  keywords :=
    [⟨Names.seedKeyword v.typeName, some ⟨Names.seedArgument v.typeName, v.reference, []⟩⟩]
  returnType := ⟨some ObjC.instanceType, []⟩
  code := Staircase.lines v.freshCall (Names.seedArgument v.typeName) v.attributeNames

/-- An attribute in the call of the initializer, behind its keyword. -/
def initializerPart (keyword name : Text) : Text :=
  keyword ++ ":" ++ Names.instanceVariable name

/-- The keywords of the initializer with the variables that hold the attributes. -/
def initializerParts : List Text → List Text
  | [] => []
  | name :: names =>
    initializerPart ("initWith" ++ Names.upperFirst name) name ::
      names.map fun n => initializerPart n n

/-- The expression that makes the value: its initializer, or plain creation without attributes. -/
def constructorCall (v : ValueType) : Text :=
  match v.attributeNames with
  | [] => "[" ++ v.typeName ++ " new]"
  | names =>
    "[[" ++ v.typeName ++ " alloc] " ++ List.intercalate " " (initializerParts names) ++ "]"

/-- The method that makes the value. -/
def buildMethod (v : ValueType) : Method where
  keywords := [⟨"build", none⟩]
  returnType := ⟨some v.reference, []⟩
  code := ["return " ++ v.constructorCall ++ ";"]

/-- The builder class. -/
def builderClass (v : ValueType) (d : Directives) (p : Policy) : Except Fault ObjC.Class := do
  let mutations ← v.attributes.mapM (·.setterUnder d p)
  return {
    name := Names.builder v.typeName
    baseClassName := "NSObject"
    classMethods := [v.freshFactory, v.seedFactory]
    instanceMethods := v.buildMethod :: mutations
    internalProperties := v.attributes.map Attribute.holder }

/-- The file of the builder. -/
def builderFile (v : ValueType) (p : Policy) : Except Fault CodeFile := do
  let d := Directives.ofIncludes v.includes
  let imports ← v.builderImports d p
  let forwardDeclarations ← v.builderDeclarations p
  let builder ← v.builderClass d p
  return {
    name := Names.builder v.typeName
    imports, forwardDeclarations
    classes := [builder] }

end ValueType

end ValueBuilder
