import ValueBuilder.Json.Basic

/-!
# Objective-C declarations

What a generated file declares: imports, forward declarations and classes with their methods and
properties. A description is data for whatever prints it. Parts that builders leave empty, such as
comments or macros, belong to the description all the same, since other generators of the same host
fill them.
-/

namespace ValueBuilder.ObjC

/-- A type as code refers to it. -/
structure TypeReference where
  /-- The name of the type. -/
  name : Text
  /-- What code writes for the type. -/
  reference : Json
  deriving DecidableEq, Repr

/-- A modifier of a type in a signature. -/
inductive Modifier where
  /-- The value may be nil. -/
  | nullable
  /-- The value may not be nil. -/
  | nonnull
  deriving DecidableEq, Repr

/-- The argument of a keyword. -/
structure Argument where
  /-- The name of the argument. -/
  name : Text
  /-- Its type. -/
  type : TypeReference
  /-- The modifiers of the type. -/
  modifiers : List Modifier := []
  deriving DecidableEq, Repr

/-- A part of a selector. -/
structure Keyword where
  /-- The keyword. -/
  name : Text
  /-- The argument behind it, if it takes one. -/
  argument : Option Argument := none
  deriving DecidableEq, Repr

/-- What a method returns. -/
structure ReturnType where
  /-- The type; a method without one returns nothing. -/
  type : Option TypeReference := none
  /-- The modifiers of the type. -/
  modifiers : List Modifier := []
  deriving DecidableEq, Repr

/-- A method with its body. -/
structure Method where
  /-- The parts of the selector. -/
  keywords : List Keyword
  /-- What it returns. -/
  returnType : ReturnType
  /-- The lines of the body. -/
  code : List Text := []
  /-- Comments in front of it. -/
  comments : List Text := []
  /-- Attributes for the compiler. -/
  compilerAttributes : List Text := []
  /-- Conditions of the preprocessor around it. -/
  preprocessors : List Text := []
  /-- The protocol that asks for it. -/
  belongsToProtocol : Option Text := none
  deriving DecidableEq, Repr

/-- Who sees a property. -/
inductive Access where
  /-- Everyone. -/
  | visible
  /-- The class alone. -/
  | hidden
  deriving DecidableEq, Repr

/-- A property of a class. -/
structure Property where
  /-- The name of the property. -/
  name : Text
  /-- Its type. -/
  returnType : TypeReference
  /-- Who sees it. -/
  access : Access := .visible
  /-- Its modifiers. -/
  modifiers : List Text := []
  /-- Comments in front of it. -/
  comments : List Text := []
  deriving DecidableEq, Repr

/-- An import of a header. -/
structure Import where
  /-- The header. -/
  file : Json
  /-- It stands in the header of the class and not in its implementation. -/
  isPublic : Bool
  /-- The library of the header. -/
  library : Json := .null
  deriving DecidableEq, Repr

/-- What a forward declaration declares. -/
inductive DeclarationKind where
  /-- A class. -/
  | ofClass
  /-- A protocol. -/
  | ofProtocol
  deriving DecidableEq, Repr

/-- The declaration of a name that is defined elsewhere. -/
structure ForwardDeclaration where
  /-- The name. -/
  name : Json
  /-- What it names. -/
  kind : DeclarationKind
  deriving DecidableEq, Repr

/-- The forward declaration of a class. -/
def ForwardDeclaration.ofClass (name : Text) : ForwardDeclaration := ⟨.text name, .ofClass⟩

/-- The forward declaration of a protocol. -/
def ForwardDeclaration.ofProtocol (name : Json) : ForwardDeclaration := ⟨name, .ofProtocol⟩

/-- Whether the types of a class are not nil unless they say otherwise. -/
inductive ClassNullability where
  /-- Nothing is assumed. -/
  | unspecified
  /-- They are not nil. -/
  | assumeNonnull
  deriving DecidableEq, Repr

/-- A class. -/
structure Class where
  /-- The name of the class. -/
  name : Text
  /-- The name of the class that it inherits from. -/
  baseClassName : Text
  /-- Its class methods. -/
  classMethods : List Method := []
  /-- Its instance methods. -/
  instanceMethods : List Method := []
  /-- Its properties. -/
  properties : List Property := []
  /-- The variables of its instances. -/
  internalProperties : List Property := []
  /-- The protocols that it implements. -/
  implementedProtocols : List Text := []
  /-- Its type parameters. -/
  covariantTypes : List Text := []
  /-- Comments in front of it. -/
  comments : List Text := []
  /-- Whether its types are not nil unless they say otherwise. -/
  nullability : ClassNullability := .unspecified
  /-- No class may inherit from it. -/
  subclassingRestricted : Bool := false
  deriving DecidableEq, Repr

/-- The language of a file. -/
inductive FileType where
  /-- Objective-C. -/
  | objectiveC
  deriving DecidableEq, Repr

/-- A file: a header and an implementation. -/
structure CodeFile where
  /-- The name of the file without its extension. -/
  name : Text
  /-- Its language. -/
  fileType : FileType := .objectiveC
  /-- Its imports. -/
  imports : List Import := []
  /-- Its forward declarations. -/
  forwardDeclarations : List ForwardDeclaration := []
  /-- Its classes. -/
  classes : List Class := []
  /-- Comments at its top. -/
  comments : List Text := []
  /-- Its enumerations. -/
  enumerations : List Text := []
  /-- Its block types. -/
  blockTypes : List Text := []
  /-- Its constants. -/
  staticConstants : List Text := []
  /-- Its functions. -/
  functions : List Text := []
  /-- The diagnostics that it turns off. -/
  diagnosticIgnores : List Text := []
  /-- Its structures. -/
  structs : List Text := []
  /-- Its namespaces. -/
  namespaces : List Text := []
  /-- Its macros. -/
  macros : List Text := []
  deriving DecidableEq, Repr

/-- The type of a method that returns an instance of its class. -/
def instanceType : TypeReference := ⟨"instancetype", .text "instancetype"⟩

end ValueBuilder.ObjC
