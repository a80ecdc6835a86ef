import ValueBuilder.Json.Literal
import ValueBuilder.ValueType.Basic

/-!
# Reading value types

A value type from its JSON description. A description is checked from the outside in and from left
to right, and the first fault ends the reading: the object itself, its name, the directives, then
the attributes one by one, then the type lookups one by one. Members of other names are passed over,
and members that are only handed on are not looked at.
-/

namespace ValueBuilder

/-- The parts of a description that have a name. -/
inductive Part where
  /-- A value type. -/
  | valueType
  /-- An attribute. -/
  | attr
  /-- The type of an attribute. -/
  | attributeType
  /-- A type lookup. -/
  | typeLookup
  deriving DecidableEq, Repr

/-- The words for a part. -/
def Part.words : Part → Text
  | .valueType => "value type"
  | .attr => "attribute"
  | .attributeType => "attribute type"
  | .typeLookup => "type lookup"

/-- The member that names a part. -/
def Part.nameKey : Part → Text
  | .valueType => "typeName"
  | _ => "name"

/-- Why a description is refused. -/
inductive DescriptionFault where
  /-- A part is no object. -/
  | notObject (part : Part) (found : Json)
  /-- A part has no name, or an empty one. -/
  | missingName (part : Part)
  /-- A member is no list. -/
  | notList (key : Text) (found : Json)
  /-- A directive is no text. -/
  | includesNotTexts
  /-- The nullability of an attribute is no kind of it. -/
  | unknownNullability (name : Text) (found : Json)
  /-- An attribute has no type. -/
  | missingType (name : Text)
  /-- A type lookup does not say whether its type can be forward declared. -/
  | notBoolean (name : Text) (found : Json)
  deriving DecidableEq, Repr

/-- The message for a description that is refused. -/
def DescriptionFault.message : DescriptionFault → Text
  | .notObject part found => part.words ++ " must be an object, got " ++ found.kind
  | .missingName part => part.words ++ " is missing a non-empty '" ++ part.nameKey ++ "'"
  | .notList key found => key ++ " must be a list, got " ++ found.kind
  | .includesNotTexts => "includes must be a list of strings"
  | .unknownNullability name found =>
    "attribute '" ++ name ++ "' has unknown nullability " ++ found.literal ++
      "; expected one of " ++ List.intercalate ", " (Nullability.all.map Nullability.word)
  | .missingType name => "attribute '" ++ name ++ "' is missing 'type'"
  | .notBoolean name found =>
    "type lookup '" ++ name ++ "' has non-boolean canForwardDeclare " ++ found.literal

/-- The members of a part and its name. -/
def Part.membersAndName (part : Part) :
    Json → Except DescriptionFault (List (Text × Json) × Text)
  | .object members =>
    match (Json.member? part.nameKey members).bind Json.givenText? with
    | some name => .ok (members, name)
    | none => .error (.missingName part)
  | found => .error (.notObject part found)

/-- The items of a member that is a list; an absent member has none. -/
def listMember (key : Text) (members : List (Text × Json)) :
    Except DescriptionFault (List Json) :=
  match Json.member? key members with
  | none => .ok []
  | some (.list items) => .ok items
  | some found => .error (.notList key found)

/-- The texts of a list that holds nothing else. -/
def allTexts (items : List Json) : Except DescriptionFault (List Text) :=
  match items.mapM Json.text? with
  | some texts => .ok texts
  | none => .error .includesNotTexts

/-- The type of an attribute from its description. Without a reference it is a pointer. -/
def AttributeType.ofJson (j : Json) : Except DescriptionFault AttributeType := do
  let (members, name) ← Part.attributeType.membersAndName j
  return {
    name := name
    reference := Json.memberD "reference" (.text (name ++ " *")) members
    library := Json.memberD "libraryTypeIsDefinedIn" .null members
    file := Json.memberD "fileTypeIsDefinedIn" .null members
    underlyingType := Json.memberD "underlyingType" .null members
    conformingProtocol := Json.memberD "conformingProtocol" .null members }

/-- The nullability of the attribute `name`; it is inherited if nothing is said. -/
def Nullability.ofMember (name : Text) : Option Json → Except DescriptionFault Nullability
  | none => .ok .inherited
  | some found =>
    match found.text?.bind Nullability.ofWord? with
    | some nullability => .ok nullability
    | none => .error (.unknownNullability name found)

/-- An attribute from its description. -/
def Attribute.ofJson (j : Json) : Except DescriptionFault Attribute := do
  let (members, name) ← Part.attr.membersAndName j
  let nullability ← Nullability.ofMember name (Json.member? "nullability" members)
  match Json.member? "type" members with
  | none => throw (.missingType name)
  | some t =>
    let type ← AttributeType.ofJson t
    return { name, type, nullability }

/-- Whether the type lookup `name` allows a forward declaration; it does if nothing is said. -/
def TypeLookup.forwardDeclarability (name : Text) : Option Json → Except DescriptionFault Bool
  | none => .ok true
  | some (.bool b) => .ok b
  | some found => .error (.notBoolean name found)

/-- A type lookup from its description. -/
def TypeLookup.ofJson (j : Json) : Except DescriptionFault TypeLookup := do
  let (members, name) ← Part.typeLookup.membersAndName j
  let canForwardDeclare ← forwardDeclarability name (Json.member? "canForwardDeclare" members)
  return {
    name, canForwardDeclare
    library := Json.memberD "library" .null members
    file := Json.memberD "file" .null members }

/-- A value type from its description. -/
def ValueType.ofJson (j : Json) : Except DescriptionFault ValueType := do
  let (members, typeName) ← Part.valueType.membersAndName j
  let includes ← allTexts (← listMember "includes" members)
  let attributes ← (← listMember "attributes" members).mapM Attribute.ofJson
  let typeLookups ← (← listMember "typeLookups" members).mapM TypeLookup.ofJson
  return {
    typeName, attributes, includes, typeLookups
    libraryName := Json.memberD "libraryName" .null members }

end ValueBuilder
