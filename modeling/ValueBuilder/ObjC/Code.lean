import ValueBuilder.Json.Literal
import ValueBuilder.ObjC.Basic

/-!
# Objective-C text

The text of a declaration: imports, forward declarations, and the signatures of methods. A selector
is a signature without types, as messages name a method: keywords with an argument end in a colon.
-/

namespace ValueBuilder.ObjC

/-- The word for a modifier. -/
def Modifier.word : Modifier → Text
  | .nullable => "nullable"
  | .nonnull => "nonnull"

/-- The word for what a forward declaration declares. -/
def DeclarationKind.word : DeclarationKind → Text
  | .ofClass => "class"
  | .ofProtocol => "protocol"

/-- A type in parentheses, behind its modifiers. -/
def typeCode (modifiers : List Modifier) (type : TypeReference) : Text :=
  "(" ++ (modifiers.flatMap fun m => (m.word ++ " " : Text)) ++ type.reference.display ++ ")"

/-- An argument: its type and its name. -/
def Argument.code (a : Argument) : Text := typeCode a.modifiers a.type ++ a.name

/-- A keyword with its argument. -/
def Keyword.code (k : Keyword) : Text :=
  match k.argument with
  | none => k.name
  | some a => k.name ++ ":" ++ a.code

/-- A keyword in a selector. -/
def Keyword.selector (k : Keyword) : Text :=
  match k.argument with
  | none => k.name
  | some _ => k.name ++ ":"

/-- A return type; modifiers need a type. -/
def ReturnType.code (r : ReturnType) : Text :=
  match r.type with
  | none => "(void)"
  | some type => typeCode r.modifiers type

/-- Who a method is sent to. -/
inductive Receiver where
  /-- The class. -/
  | ofClass
  /-- An instance. -/
  | ofInstance
  deriving DecidableEq, Repr

/-- The sign in front of a method. -/
def Receiver.sign : Receiver → Text
  | .ofClass => "+"
  | .ofInstance => "-"

/-- The name by which messages select a method. -/
def Method.selector (m : Method) : Text := m.keywords.flatMap Keyword.selector

/-- The first line of a method. -/
def Method.signature (m : Method) (receiver : Receiver) : Text :=
  receiver.sign ++ " " ++ m.returnType.code ++ List.intercalate " " (m.keywords.map Keyword.code)

/-- An import: between angle brackets with its library, between quotation marks without one. -/
def Import.code (i : Import) : Text :=
  if i.library.isGiven then
    "#import <" ++ i.library.display ++ "/" ++ i.file.display ++ ">"
  else "#import \"" ++ i.file.display ++ "\""

/-- A forward declaration. -/
def ForwardDeclaration.code (d : ForwardDeclaration) : Text :=
  "@" ++ d.kind.word ++ " " ++ d.name.display ++ ";"

example : (ForwardDeclaration.ofClass "Person").code = "@class Person;" := by decide
example : (Import.mk (.text "UIKit.h") true (.text "UIKit")).code = "#import <UIKit/UIKit.h>" := by
  decide

end ValueBuilder.ObjC
