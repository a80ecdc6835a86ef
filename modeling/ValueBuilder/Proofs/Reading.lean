import ValueBuilder.Proofs.Traversal
import ValueBuilder.ValueType.OfJson

/-!
# What is read of a description

Each reader of a description, taken apart once. `AttributeType.IsReadFrom` and its companions say
what of a part comes from which member of its object, and lemmas such as `ValueType.ofJson_eq_ok`
say that the reader gives a part exactly if it is read from an object in this way. Lists keep their
length and their order. Members that are only handed on keep their value, and their default stands
in only for a member that is absent: null is a value like any other.

`Json.IsValueType` and its companions are the shapes of the descriptions that have such a part.
-/

namespace ValueBuilder

open Traversal

/-! ## Names, lists and optional members -/

namespace Json

/-- A text is given if it is one and not empty. -/
theorem givenText?_eq_some_iff {j : Json} {s : Text} :
    j.givenText? = some s ↔ j = .text s ∧ s ≠ [] := by
  unfold givenText? text?
  cases j with
  | text t =>
    rw [Option.filter_eq_some_iff, Option.some.injEq, text.injEq, Bool.not_eq_true',
      List.isEmpty_eq_false_iff]
  | _ => simp

/-- The member `key` is a text and not empty. -/
def HasName (key : Text) (ms : List (Text × Json)) : Prop :=
  ∃ name, member? key ms = some (.text name) ∧ name ≠ []

/-- The member `key` is absent, or it is a list of values of a shape. -/
def HasItems (key : Text) (shape : Json → Prop) (ms : List (Text × Json)) : Prop :=
  ∀ j, member? key ms = some j → ∃ items, j = .list items ∧ ∀ item ∈ items, shape item

/-- The items of the member `key`: none if it is absent, and those of the list if it is one. -/
def ItemsOf (key : Text) (ms : List (Text × Json)) (items : List Json) : Prop :=
  member? key ms = none ∧ items = [] ∨ member? key ms = some (.list items)

/-- A member has items of a shape if all of its items are of the shape. -/
theorem hasItems_iff {key : Text} {shape : Json → Prop} {ms : List (Text × Json)} :
    HasItems key shape ms ↔ ∃ items, ItemsOf key ms items ∧ ∀ item ∈ items, shape item := by
  unfold HasItems ItemsOf
  cases member? key ms with
  | none => simp
  | some j => simp

end Json

open Json (HasItems HasName ItemsOf member? memberD)

section Parts

variable {part : Part} {j : Json} {key name : Text} {ms : List (Text × Json)}

/-- A name is given if it is a text and not empty. -/
theorem bind_givenText?_eq_some_iff :
    (member? key ms).bind Json.givenText? = some name ↔
      member? key ms = some (.text name) ∧ name ≠ [] := by
  rw [Option.bind_eq_some_iff]
  simp only [Json.givenText?_eq_some_iff]
  constructor
  · rintro ⟨_, hmember, rfl, hne⟩
    exact ⟨hmember, hne⟩
  · rintro ⟨hmember, hne⟩
    exact ⟨_, hmember, rfl, hne⟩

/-- The members of a part and its name are those of an object with a name. -/
theorem Part.membersAndName_eq_ok :
    part.membersAndName j = .ok (ms, name) ↔
      j = .object ms ∧ member? part.nameKey ms = some (.text name) ∧ name ≠ [] := by
  rw [← bind_givenText?_eq_some_iff]
  unfold membersAndName
  cases j with
  | object members =>
    rw [Json.object.injEq]
    dsimp only
    constructor
    · intro h
      split at h
      · next found hfound =>
        cases h
        exact ⟨rfl, hfound⟩
      · cases h
    · rintro ⟨rfl, hname⟩
      rw [hname]
  | _ => simp

/-- The items of a list member are read if it is absent or a list. -/
theorem listMember_eq_ok {items : List Json} :
    listMember key ms = .ok items ↔ ItemsOf key ms items := by
  unfold listMember ItemsOf
  cases member? key ms with
  | none => simp [eq_comm]
  | some j => cases j <;> simp

/-- Texts are read of a list that holds them and nothing else. -/
theorem allTexts_eq_ok {items : List Json} {texts : List Text} :
    allTexts items = .ok texts ↔ items = texts.map .text := by
  have htexts : items.mapM Json.text? = some texts ↔ items = texts.map .text := by
    induction items generalizing texts with
    | nil => simp [eq_comm]
    | cons item items ih =>
      have hitem (t : Text) : item.text? = some t ↔ item = .text t := by
        cases item <;> simp [Json.text?]
      cases texts with
      | nil => simp [Option.bind_eq_some_iff]
      | cons text texts => simp [Option.bind_eq_some_iff, hitem, ih]
  unfold allTexts
  rw [← htexts]
  cases items.mapM Json.text? <;> simp

/-- The nullability of an attribute is inherited, or that of the word that is given. -/
theorem Nullability.ofMember_eq_ok {o : Option Json} {n : Nullability} :
    Nullability.ofMember name o = .ok n ↔
      o = none ∧ n = .inherited ∨ o = some (.text n.word) := by
  cases o with
  | none => simp [ofMember, eq_comm]
  | some found =>
    have hword : found.text?.bind ofWord? = some n ↔ found = .text n.word := by
      cases found <;> simp [Json.text?, ofWord?_eq_some_iff]
    simp only [reduceCtorEq, false_and, Option.some.injEq, false_or, ← hword, ofMember]
    cases found.text?.bind ofWord? <;> simp

/-- A type lookup allows a forward declaration if nothing is said, or as it is said. -/
theorem TypeLookup.forwardDeclarability_eq_ok {o : Option Json} {b : Bool} :
    TypeLookup.forwardDeclarability name o = .ok b ↔
      o = none ∧ b = true ∨ o = some (.bool b) := by
  cases o with
  | none => simp [forwardDeclarability, eq_comm]
  | some found => cases found <;> simp [forwardDeclarability]

end Parts

/-! ## Parts of a description -/

/-- The type of an attribute is read from the members of an object. -/
structure AttributeType.IsReadFrom (t : AttributeType) (ms : List (Text × Json)) : Prop where
  /-- The object has the name of the type. -/
  name : member? "name" ms = some (.text t.name)
  /-- The name is not empty. -/
  name_ne_nil : t.name ≠ []
  /-- The reference is handed on; without one it is a pointer. -/
  reference : t.reference = memberD "reference" (.text (t.name ++ " *")) ms
  /-- The library is handed on. -/
  library : t.library = memberD "libraryTypeIsDefinedIn" .null ms
  /-- The header is handed on. -/
  file : t.file = memberD "fileTypeIsDefinedIn" .null ms
  /-- The underlying type is handed on. -/
  underlyingType : t.underlyingType = memberD "underlyingType" .null ms
  /-- The protocol is handed on. -/
  conformingProtocol : t.conformingProtocol = memberD "conformingProtocol" .null ms

/-- An attribute is read from the members of an object. -/
structure Attribute.IsReadFrom (a : Attribute) (ms : List (Text × Json)) : Prop where
  /-- The object has the name of the attribute. -/
  name : member? "name" ms = some (.text a.name)
  /-- The name is not empty. -/
  name_ne_nil : a.name ≠ []
  /-- The nullability is named by its word, or nothing is said and it is inherited. -/
  nullability : member? "nullability" ms = none ∧ a.nullability = .inherited ∨
    member? "nullability" ms = some (.text a.nullability.word)
  /-- The type is read from an object of its own. -/
  type : ∃ ts, member? "type" ms = some (.object ts) ∧ a.type.IsReadFrom ts

/-- A type lookup is read from the members of an object. -/
structure TypeLookup.IsReadFrom (l : TypeLookup) (ms : List (Text × Json)) : Prop where
  /-- The object has the name of the lookup. -/
  name : member? "name" ms = some (.text l.name)
  /-- The name is not empty. -/
  name_ne_nil : l.name ≠ []
  /-- A forward declaration is allowed as it is said, or nothing is said and it is. -/
  canForwardDeclare : member? "canForwardDeclare" ms = none ∧ l.canForwardDeclare = true ∨
    member? "canForwardDeclare" ms = some (.bool l.canForwardDeclare)
  /-- The library is handed on. -/
  library : l.library = memberD "library" .null ms
  /-- The header is handed on. -/
  file : l.file = memberD "file" .null ms

/-- A value type is read from the members of an object. Its lists have an element for each item of
the object's lists, in the same order. -/
structure ValueType.IsReadFrom (v : ValueType) (ms : List (Text × Json)) : Prop where
  /-- The object has the name of the value type. -/
  typeName : member? "typeName" ms = some (.text v.typeName)
  /-- The name is not empty. -/
  typeName_ne_nil : v.typeName ≠ []
  /-- The directives are the items of a list. -/
  includes : ItemsOf "includes" ms (v.includes.map .text)
  /-- Each attribute is read from an item of a list. -/
  attributes : ∃ items, ItemsOf "attributes" ms items ∧
    List.Forall₂ (fun j a => ∃ ns, j = .object ns ∧ Attribute.IsReadFrom a ns) items v.attributes
  /-- Each type lookup is read from an item of a list. -/
  typeLookups : ∃ items, ItemsOf "typeLookups" ms items ∧
    List.Forall₂ (fun j l => ∃ ns, j = .object ns ∧ TypeLookup.IsReadFrom l ns) items v.typeLookups
  /-- The library is handed on. -/
  libraryName : v.libraryName = memberD "libraryName" .null ms

/-- The type of an attribute is what is read from an object. -/
theorem AttributeType.ofJson_eq_ok {j : Json} {t : AttributeType} :
    AttributeType.ofJson j = .ok t ↔ ∃ ms, j = .object ms ∧ t.IsReadFrom ms := by
  unfold AttributeType.ofJson
  simp only [bind_eq_ok, pure_eq_ok, Prod.exists, Part.membersAndName_eq_ok]
  constructor
  · rintro ⟨ms, name, ⟨hj, hname, hne⟩, rfl⟩
    exact ⟨ms, hj, hname, hne, rfl, rfl, rfl, rfl, rfl⟩
  · rintro ⟨ms, hj, h⟩
    refine ⟨ms, t.name, ⟨hj, h.name, h.name_ne_nil⟩, ?_⟩
    rw [← h.reference, ← h.library, ← h.file, ← h.underlyingType, ← h.conformingProtocol]

/-- An attribute is what is read from an object. -/
theorem Attribute.ofJson_eq_ok {j : Json} {a : Attribute} :
    Attribute.ofJson j = .ok a ↔ ∃ ms, j = .object ms ∧ a.IsReadFrom ms := by
  unfold Attribute.ofJson
  simp only [bind_eq_ok, Prod.exists, Part.membersAndName_eq_ok, Nullability.ofMember_eq_ok]
  constructor
  · rintro ⟨ms, name, ⟨hj, hname, hne⟩, n, hn, htype⟩
    cases ht : member? "type" ms with
    | none =>
      rw [ht] at htype
      cases htype
    | some t =>
      simp only [ht, bind_eq_ok, pure_eq_ok, AttributeType.ofJson_eq_ok] at htype
      obtain ⟨type, ⟨ts, rfl, hts⟩, rfl⟩ := htype
      exact ⟨ms, hj, hname, hne, hn, ts, ht, hts⟩
  · rintro ⟨ms, hj, h⟩
    obtain ⟨ts, ht, hts⟩ := h.type
    refine ⟨ms, a.name, ⟨hj, h.name, h.name_ne_nil⟩, a.nullability, h.nullability, ?_⟩
    simp only [ht, bind_eq_ok, pure_eq_ok, AttributeType.ofJson_eq_ok]
    exact ⟨a.type, ⟨ts, rfl, hts⟩, rfl⟩

/-- A type lookup is what is read from an object. -/
theorem TypeLookup.ofJson_eq_ok {j : Json} {l : TypeLookup} :
    TypeLookup.ofJson j = .ok l ↔ ∃ ms, j = .object ms ∧ l.IsReadFrom ms := by
  unfold TypeLookup.ofJson
  simp only [bind_eq_ok, pure_eq_ok, Prod.exists, Part.membersAndName_eq_ok,
    forwardDeclarability_eq_ok]
  constructor
  · rintro ⟨ms, name, ⟨hj, hname, hne⟩, b, hb, rfl⟩
    exact ⟨ms, hj, hname, hne, hb, rfl, rfl⟩
  · rintro ⟨ms, hj, h⟩
    refine ⟨ms, l.name, ⟨hj, h.name, h.name_ne_nil⟩, l.canForwardDeclare, h.canForwardDeclare, ?_⟩
    rw [← h.library, ← h.file]

/-- A value type is what is read from an object. -/
theorem ValueType.ofJson_eq_ok {j : Json} {v : ValueType} :
    ValueType.ofJson j = .ok v ↔ ∃ ms, j = .object ms ∧ v.IsReadFrom ms := by
  unfold ValueType.ofJson
  simp only [bind_eq_ok, pure_eq_ok, Prod.exists, Part.membersAndName_eq_ok, listMember_eq_ok,
    allTexts_eq_ok, mapM_eq_ok, Attribute.ofJson_eq_ok, TypeLookup.ofJson_eq_ok]
  constructor
  · rintro ⟨ms, name, ⟨hj, hname, hne⟩, _, hincludes, includes, rfl, as, has, attributes, hattributes,
      ls, hls, lookups, hlookups, rfl⟩
    exact ⟨ms, hj, hname, hne, hincludes, ⟨as, has, hattributes⟩, ⟨ls, hls, hlookups⟩, rfl⟩
  · rintro ⟨ms, hj, h⟩
    obtain ⟨as, has, hattributes⟩ := h.attributes
    obtain ⟨ls, hls, hlookups⟩ := h.typeLookups
    refine ⟨ms, v.typeName, ⟨hj, h.typeName, h.typeName_ne_nil⟩, _, h.includes, v.includes, rfl, as,
      has, v.attributes, hattributes, ls, hls, v.typeLookups, hlookups, ?_⟩
    rw [← h.libraryName]

end ValueBuilder
