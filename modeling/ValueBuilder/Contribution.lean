import ValueBuilder.ValueType.Builder

/-!
# The builder as a plugin

A host that generates code for value types asks each of its plugins what to add. The builder plugin
adds one file, the builder, and leaves the file of the value type as it is.
-/

namespace ValueBuilder

/-- What a plugin adds to the file of a value type. -/
structure Contribution where
  /-- Further value types. -/
  additionalTypes : List ValueType := []
  /-- Further attributes. -/
  attributes : List Attribute := []
  /-- Class methods. -/
  classMethods : List ObjC.Method := []
  /-- The language of the file, if it is to change. -/
  fileType : Option ObjC.FileType := none
  /-- Forward declarations. -/
  forwardDeclarations : List ObjC.ForwardDeclaration := []
  /-- Functions. -/
  functions : List Text := []
  /-- Comments in the header. -/
  headerComments : List Text := []
  /-- Protocols that the class implements. -/
  implementedProtocols : List Text := []
  /-- Imports. -/
  imports : List ObjC.Import := []
  /-- Instance methods. -/
  instanceMethods : List ObjC.Method := []
  /-- Macros. -/
  macros : List Text := []
  /-- What the class assumes about nil, if it is to change. -/
  nullability : Option ObjC.ClassNullability := none
  /-- Properties. -/
  properties : List ObjC.Property := []
  /-- Constants. -/
  staticConstants : List Text := []
  /-- No class may inherit from the class. -/
  subclassingRestricted : Bool := false
  /-- What is wrong with the value type. -/
  validationErrors : List Text := []
  deriving DecidableEq, Repr

/-- The builder plugin. -/
structure Plugin where
  /-- How it sees the types of attributes. -/
  policy : Policy := .standard
  /-- The directives of which a value type has to give one. -/
  requiredIncludes : List Text := ["RMBuilder"]

namespace Plugin

/-- The files that the plugin adds: the builder. -/
def additionalFiles (plugin : Plugin) (v : ValueType) : Except Fault (List ObjC.CodeFile) := do
  return [← v.builderFile plugin.policy]

/-- What the plugin adds to the file of a value type: nothing. -/
def contribution (_ : Plugin) (_ : ValueType) : Contribution := {}

/-- The plugin hands a request for a file on as it is. -/
def transformRequest (_ : Plugin) (request : Json) : Json := request

end Plugin

end ValueBuilder
