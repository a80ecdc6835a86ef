import ValueBuilder.Proofs.Members
import ValueBuilder.Proofs.Reading

/-!
# Normal forms of descriptions

The normal form of a description has the members that a reader looks for and no others, at every
level: unknown members are taken out, and the default stands for a member that is absent. What is no
object or list where one is expected is left as it is, and so is the type of an attribute if it has
no name.

`Alike` and its companions compare two descriptions up to the order of the members of value types,
attributes, their types, and type lookups. A description and its normal form are read with the same
outcome, and so are descriptions that are alike (`ValueType.ofJson_normalForm`,
`ValueType.ofJson_eq_of_alike`). Every reader is taken apart once for both: two objects are read with
the same outcome if the required members are the same and the others are with their defaults
(`ValueType.ofJson_congr`).
-/

namespace ValueBuilder

open Traversal
open Json (HasDistinctKeys MembersAgree completed keys mapMember member? memberD)

/-! ## Normal forms -/

/-- The defaults for the type `name` of an attribute. -/
def AttributeType.defaults (name : Text) : List (Text × Json) :=
  [("reference", .text (name ++ " *")), ("libraryTypeIsDefinedIn", .null),
   ("fileTypeIsDefinedIn", .null), ("underlyingType", .null), ("conformingProtocol", .null)]

/-- The normal form of the type of an attribute; without a name it is left as it is. -/
def AttributeType.normalForm : Json → Json
  | .object ms =>
    match (member? "name" ms).bind Json.givenText? with
    | some name => .object (completed ["name"] (defaults name) ms)
    | none => .object ms
  | j => j

/-- The default for an attribute. -/
def Attribute.defaults : List (Text × Json) := [("nullability", .text "inherited")]

/-- The normal form of an attribute. -/
def Attribute.normalForm : Json → Json
  | .object ms =>
    .object (mapMember "type" AttributeType.normalForm (completed ["name", "type"] defaults ms))
  | j => j

/-- The defaults for a type lookup. -/
def TypeLookup.defaults : List (Text × Json) :=
  [("canForwardDeclare", .bool true), ("library", .null), ("file", .null)]

/-- The normal form of a type lookup. -/
def TypeLookup.normalForm : Json → Json
  | .object ms => .object (completed ["name"] defaults ms)
  | j => j

/-- A list with new items, made from the old ones; what is no list is left as it is. -/
def Json.mapItems (f : Json → Json) : Json → Json
  | .list xs => .list (xs.map f)
  | j => j

/-- The defaults for a value type. -/
def ValueType.defaults : List (Text × Json) :=
  [("libraryName", .null), ("attributes", .list []), ("includes", .list []),
   ("typeLookups", .list [])]

/-- The normal form of a value type. -/
def ValueType.normalForm : Json → Json
  | .object ms =>
    .object
      (mapMember "attributes" (Json.mapItems Attribute.normalForm)
        (mapMember "typeLookups" (Json.mapItems TypeLookup.normalForm)
          (completed ["typeName"] defaults ms)))
  | j => j

/-! ## Descriptions that are alike -/

namespace Json

/-- Objects whose members agree up to order; what is no object agrees with itself. -/
inductive ObjectsAgree (S : Text → Json → Json → Prop) : Json → Json → Prop where
  /-- Both are objects. -/
  | members {ms ns : List (Text × Json)} (h : MembersAgree S ms ns) :
    ObjectsAgree S (.object ms) (.object ns)
  /-- Neither is one, and they are the same. -/
  | other {j : Json} (h : ∀ ms, j ≠ .object ms) : ObjectsAgree S j j

/-- Lists whose items are related one by one; what is no list agrees with itself. -/
inductive ListsAgree (Q : Json → Json → Prop) : Json → Json → Prop where
  /-- Both are lists. -/
  | items {xs ys : List Json} (h : List.Forall₂ Q xs ys) : ListsAgree Q (.list xs) (.list ys)
  /-- Neither is one, and they are the same. -/
  | other {j : Json} (h : ∀ xs, j ≠ .list xs) : ListsAgree Q j j

/-- How the values of a member are compared: by `R` if the member is handed on, and otherwise they
have to be the same. -/
def Compared (handedOn : List Text) (R : Json → Json → Prop) (key : Text) : Json → Json → Prop :=
  if handedOn.contains key then R else Eq

end Json

open Json (Compared ListsAgree ObjectsAgree)

section Alike

variable (R : Json → Json → Prop)

/-- Two types of attributes are alike. -/
def AttributeType.Alike : Json → Json → Prop :=
  ObjectsAgree (Compared ["reference", "libraryTypeIsDefinedIn", "fileTypeIsDefinedIn",
    "underlyingType", "conformingProtocol"] R)

/-- Two attributes are alike. -/
def Attribute.Alike : Json → Json → Prop :=
  ObjectsAgree fun key => if key = "type" then AttributeType.Alike R else Eq

/-- Two type lookups are alike. -/
def TypeLookup.Alike : Json → Json → Prop := ObjectsAgree (Compared ["library", "file"] R)

/-- Two descriptions are alike: they are the same up to the order of members and what `R` relates of
members that are only handed on. -/
def ValueType.Alike : Json → Json → Prop :=
  ObjectsAgree fun key =>
    if key = "attributes" then ListsAgree (Attribute.Alike R)
    else if key = "typeLookups" then ListsAgree (TypeLookup.Alike R)
    else Compared ["libraryName"] R key

end Alike

/-! ## Objects that are read alike -/

section Congruence

variable {key name : Text} {ms ns : List (Text × Json)}

/-- A part is read alike from two objects with the same name, if it is behind the name. -/
theorem Part.membersAndName_bind_congr {α : Type} {part : Part}
    {f : List (Text × Json) × Text → Except DescriptionFault α}
    (hname : member? part.nameKey ms = member? part.nameKey ns)
    (hf : ∀ name, (member? part.nameKey ns).bind Json.givenText? = some name →
      f (ms, name) = f (ns, name)) :
    part.membersAndName (.object ms) >>= f = part.membersAndName (.object ns) >>= f := by
  unfold membersAndName
  dsimp only
  rw [hname]
  cases h : (member? part.nameKey ns).bind Json.givenText? with
  | none => rfl
  | some name => exact hf name h

/-- Nullability is read with its default. -/
theorem Nullability.ofMember_member? (name : Text) (ms : List (Text × Json)) :
    ofMember name (member? "nullability" ms) =
      ofMember name (some (memberD "nullability" (.text "inherited") ms)) := by
  unfold memberD
  cases member? "nullability" ms with
  | none => rfl
  | some found => rfl

/-- Whether a type can be forward declared is read with its default. -/
theorem TypeLookup.forwardDeclarability_member? (name : Text) (ms : List (Text × Json)) :
    forwardDeclarability name (member? "canForwardDeclare" ms) =
      forwardDeclarability name (some (memberD "canForwardDeclare" (.bool true) ms)) := by
  unfold memberD
  cases member? "canForwardDeclare" ms with
  | none => rfl
  | some found => rfl

/-- The items of a list member. -/
def itemsOrFault (key : Text) : Json → Except DescriptionFault (List Json)
  | .list items => .ok items
  | found => .error (.notList key found)

/-- The items of a list member are read with its default. -/
theorem listMember_eq (key : Text) (ms : List (Text × Json)) :
    listMember key ms = itemsOrFault key (memberD key (.list []) ms) := by
  unfold listMember memberD
  cases member? key ms with
  | none => rfl
  | some found => cases found <;> rfl

/-- A traversal of two lists ends alike if each pair of elements does. -/
theorem mapM_congr_of_forall₂ {α β : Type} {f : α → Except DescriptionFault β} {xs ys : List α}
    (h : List.Forall₂ (fun x y => f x = f y) xs ys) : xs.mapM f = ys.mapM f := by
  induction h with
  | nil => rfl
  | cons hxy _ ih => rw [List.mapM_cons, List.mapM_cons, hxy, ih]

/-- A list member is read alike from two objects if its items are. -/
theorem listMember_bind_mapM_congr {β : Type} {f : Json → Except DescriptionFault β}
    (h : ListsAgree (fun x y => f x = f y) (memberD key (.list []) ms) (memberD key (.list []) ns)) :
    (listMember key ms >>= fun xs => xs.mapM f) = listMember key ns >>= fun xs => xs.mapM f := by
  rw [listMember_eq, listMember_eq]
  generalize memberD key (.list []) ms = v, memberD key (.list []) ns = w at h ⊢
  cases h with
  | items hitems => exact mapM_congr_of_forall₂ hitems
  | other _ => rfl

/-- The types of attributes are read alike from two objects of the same name, if all else is the
same with its default. -/
theorem AttributeType.ofJson_congr (hname : member? "name" ms = member? "name" ns)
    (hdefaults : ∀ name, (member? "name" ns).bind Json.givenText? = some name →
      ∀ d ∈ defaults name, memberD d.1 d.2 ms = memberD d.1 d.2 ns) :
    AttributeType.ofJson (.object ms) = AttributeType.ofJson (.object ns) := by
  refine Part.membersAndName_bind_congr hname fun name hgiven => ?_
  have h := hdefaults name hgiven
  simp only [defaults, List.forall_mem_cons] at h
  obtain ⟨hreference, hlibrary, hfile, hunderlyingType, hconformingProtocol, -⟩ := h
  dsimp only
  rw [hreference, hlibrary, hfile, hunderlyingType, hconformingProtocol]

/-- Attributes are read alike from two objects of the same name, with the same nullability, and with
types that are read alike. -/
theorem Attribute.ofJson_congr (hname : member? "name" ms = member? "name" ns)
    (hnullability : memberD "nullability" (.text "inherited") ms =
      memberD "nullability" (.text "inherited") ns)
    (htype : (member? "type" ms).map AttributeType.ofJson =
      (member? "type" ns).map AttributeType.ofJson) :
    Attribute.ofJson (.object ms) = Attribute.ofJson (.object ns) := by
  refine Part.membersAndName_bind_congr hname fun name _ => ?_
  dsimp only
  rw [Nullability.ofMember_member?, hnullability, ← Nullability.ofMember_member?]
  refine bind_congr fun nullability => ?_
  cases ht : member? "type" ms with
  | none =>
    rw [ht, Option.map_none, eq_comm, Option.map_eq_none_iff] at htype
    rw [htype]
  | some t =>
    rw [ht, Option.map_some, eq_comm, Option.map_eq_some_iff] at htype
    obtain ⟨u, hu, htu⟩ := htype
    rw [hu]
    dsimp only
    rw [htu]

/-- Type lookups are read alike from two objects of the same name, if all else is the same with its
default. -/
theorem TypeLookup.ofJson_congr (hname : member? "name" ms = member? "name" ns)
    (hdefaults : ∀ d ∈ defaults, memberD d.1 d.2 ms = memberD d.1 d.2 ns) :
    TypeLookup.ofJson (.object ms) = TypeLookup.ofJson (.object ns) := by
  refine Part.membersAndName_bind_congr hname fun name _ => ?_
  simp only [defaults, List.forall_mem_cons] at hdefaults
  obtain ⟨hdeclare, hlibrary, hfile, -⟩ := hdefaults
  dsimp only
  rw [forwardDeclarability_member?, hdeclare, ← forwardDeclarability_member?, hlibrary, hfile]

/-- Value types are read alike from two objects of the same name, with the same directives, with
attributes and type lookups that are read alike, and with the same library. -/
theorem ValueType.ofJson_congr (hname : member? "typeName" ms = member? "typeName" ns)
    (hincludes : memberD "includes" (.list []) ms = memberD "includes" (.list []) ns)
    (hattributes : ListsAgree (fun x y => Attribute.ofJson x = Attribute.ofJson y)
      (memberD "attributes" (.list []) ms) (memberD "attributes" (.list []) ns))
    (hlookups : ListsAgree (fun x y => TypeLookup.ofJson x = TypeLookup.ofJson y)
      (memberD "typeLookups" (.list []) ms) (memberD "typeLookups" (.list []) ns))
    (hlibrary : memberD "libraryName" .null ms = memberD "libraryName" .null ns) :
    ValueType.ofJson (.object ms) = ValueType.ofJson (.object ns) := by
  refine Part.membersAndName_bind_congr hname fun name _ => ?_
  have hattributes := listMember_bind_mapM_congr hattributes
  have hlookups := listMember_bind_mapM_congr hlookups
  dsimp only
  rw [listMember_eq "includes" ms, hincludes, ← listMember_eq, hlibrary]
  -- The two steps for a list, its items and then each of them, are one step of the chain.
  simp only [← bind_assoc]
  rw [hattributes, hlookups]

end Congruence

/-! ## Reading normal forms -/

/-- The defaults for the type of an attribute do not repeat a name. -/
theorem AttributeType.nodup_keys_defaults (name : Text) : (keys (defaults name)).Nodup := by
  change (["reference", "libraryTypeIsDefinedIn", "fileTypeIsDefinedIn", "underlyingType",
    "conformingProtocol"] : List Text).Nodup
  decide

/-- The type of an attribute with a name is completed by the defaults for that name. -/
theorem AttributeType.normalForm_of_name {ms : List (Text × Json)} {name : Text}
    (h : (member? "name" ms).bind Json.givenText? = some name) :
    normalForm (.object ms) = .object (completed ["name"] (defaults name) ms) := by
  unfold normalForm
  dsimp only
  rw [h]

-- A reference that is null is one, and stays.
example : AttributeType.normalForm
    (.object [("reference", .null), ("size", .int 8), ("name", .text "Image")]) =
    .object [("reference", .null), ("name", .text "Image"), ("libraryTypeIsDefinedIn", .null),
      ("fileTypeIsDefinedIn", .null), ("underlyingType", .null), ("conformingProtocol", .null)] :=
  rfl

/-- The type of an attribute without a name is left as it is. -/
theorem AttributeType.normalForm_of_no_name {ms : List (Text × Json)}
    (h : (member? "name" ms).bind Json.givenText? = none) :
    normalForm (.object ms) = .object ms := by
  unfold normalForm
  dsimp only
  rw [h]

/-- The type of an attribute is read from its normal form with the same outcome. -/
theorem AttributeType.ofJson_normalForm (j : Json) : ofJson (normalForm j) = ofJson j := by
  cases j with
  | object ms =>
    cases hname : (member? "name" ms).bind Json.givenText? with
    | none => rw [normalForm_of_no_name hname]
    | some name =>
      rw [normalForm_of_name hname]
      refine ofJson_congr ?_ fun found hfound d hd => ?_
      · exact Json.member?_completed_of_required (by decide) (by simp [keys, defaults]; decide)
      · -- The defaults for the found name are those that were filled in.
        rw [hname, Option.some.injEq] at hfound
        subst hfound
        exact Json.memberD_completed ((Json.member?_eq_some_iff (nodup_keys_defaults name)).2 hd)
  | _ => rfl

/-- An attribute is read from its normal form with the same outcome. -/
theorem Attribute.ofJson_normalForm (j : Json) : ofJson (normalForm j) = ofJson j := by
  cases j with
  | object ms =>
    refine ofJson_congr ?_ ?_ ?_
    · rw [Json.member?_mapMember_of_ne (by decide),
        Json.member?_completed_of_required (by decide) (by decide)]
    · rw [Json.memberD_mapMember_of_ne (by decide), Json.memberD_completed rfl]
    · rw [Json.member?_mapMember, Json.member?_completed_of_required (by decide) (by decide),
        Option.map_map]
      exact congrArg (Option.map · _) (funext AttributeType.ofJson_normalForm)
  | _ => rfl

/-- A type lookup is read from its normal form with the same outcome. -/
theorem TypeLookup.ofJson_normalForm (j : Json) : ofJson (normalForm j) = ofJson j := by
  cases j with
  | object ms =>
    have hnodup : (keys defaults).Nodup := by decide
    refine ofJson_congr ?_ fun d hd => ?_
    · exact Json.member?_completed_of_required (by decide) (by decide)
    · exact Json.memberD_completed ((Json.member?_eq_some_iff hnodup).2 hd)
  | _ => rfl

/-- If a reader ends alike on an item and on its normal form, then it does on all items. -/
theorem Json.listsAgree_mapItems {β : Type} {read : Json → β} {f : Json → Json}
    (h : ∀ j, read (f j) = read j) (v : Json) :
    ListsAgree (fun x y => read x = read y) (Json.mapItems f v) v := by
  cases v with
  | list xs =>
    refine .items ?_
    rw [List.forall₂_map_left_iff, List.forall₂_same]
    exact fun x _ => h x
  | _ => exact .other fun _ h => by cases h

/-- A value type is read from its normal form with the same outcome. -/
theorem ValueType.ofJson_normalForm (j : Json) : ofJson (normalForm j) = ofJson j := by
  cases j with
  | object ms =>
    refine ofJson_congr ?_ ?_ ?_ ?_ ?_
    · rw [Json.member?_mapMember_of_ne (by decide), Json.member?_mapMember_of_ne (by decide),
        Json.member?_completed_of_required (by decide) (by decide)]
    · rw [Json.memberD_mapMember_of_ne (by decide), Json.memberD_mapMember_of_ne (by decide),
        Json.memberD_completed rfl]
    · rw [Json.memberD_mapMember rfl, Json.memberD_mapMember_of_ne (by decide),
        Json.memberD_completed rfl]
      exact Json.listsAgree_mapItems Attribute.ofJson_normalForm _
    · rw [Json.memberD_mapMember_of_ne (by decide), Json.memberD_mapMember rfl,
        Json.memberD_completed rfl]
      exact Json.listsAgree_mapItems TypeLookup.ofJson_normalForm _
    · rw [Json.memberD_mapMember_of_ne (by decide), Json.memberD_mapMember_of_ne (by decide),
        Json.memberD_completed rfl]
  | _ => rfl

/-! ## Reading descriptions that are alike -/

/-- Where members that are handed on have to be the same, all members have to. -/
theorem Json.compared_eq (handedOn : List Text) (key : Text) : Compared handedOn Eq key = Eq :=
  ite_self _

/-- Lists that are alike are read alike if their items are. -/
theorem Json.ListsAgree.imp {Q Q' : Json → Json → Prop} {v w : Json} (h : ListsAgree Q v w)
    (hv : v.HasDistinctKeys) (hQ : ∀ x y, x.HasDistinctKeys → Q x y → Q' x y) :
    ListsAgree Q' v w := by
  cases h with
  | other hother => exact .other hother
  | @items xs ys hitems =>
    have hdistinct : ∀ x ∈ xs, x.HasDistinctKeys := fun _ => hv.item
    exact .items (((List.forall₂_and_left _ _).2 ⟨hdistinct, hitems⟩).imp
      fun x y hxy => hQ x y hxy.1 hxy.2)

/-- Lists that are alike where they are given are alike with the empty list as default. -/
theorem Json.listsAgree_memberD {Q : Json → Json → Prop} {key : Text} {ms ns : List (Text × Json)}
    (h : Option.Rel (ListsAgree Q) (member? key ms) (member? key ns)) :
    ListsAgree Q (memberD key (.list []) ms) (memberD key (.list []) ns) := by
  unfold memberD
  generalize member? key ms = m, member? key ns = n at h ⊢
  cases h with
  | none => exact .items .nil
  | some h => exact h

/-- The types of attributes are read alike if their descriptions are the same up to order. -/
theorem AttributeType.ofJson_eq_of_alike {j k : Json} (hj : j.HasDistinctKeys) (h : Alike Eq j k) :
    ofJson j = ofJson k := by
  cases h with
  | @members ms ns h =>
    have hsame (key : Text) : member? key ms = member? key ns :=
      h.member?_eq hj.nodup_keys (Json.compared_eq _ key)
    exact ofJson_congr (hsame _) fun _ _ d _ => Json.memberD_congr (hsame _) _
  | other _ => rfl

/-- Attributes are read alike if their descriptions are the same up to order. -/
theorem Attribute.ofJson_eq_of_alike {j k : Json} (hj : j.HasDistinctKeys) (h : Alike Eq j k) :
    ofJson j = ofJson k := by
  cases h with
  | @members ms ns h =>
    have hsame {key : Text} (hkey : key ≠ "type") : member? key ms = member? key ns :=
      h.member?_eq hj.nodup_keys (if_neg hkey)
    refine ofJson_congr (hsame (by decide)) (Json.memberD_congr (hsame (by decide)) _) ?_
    -- The types are there in both descriptions, or in neither.
    have hrel := h.rel_member? hj.nodup_keys "type"
    rw [if_pos rfl] at hrel
    generalize hm : member? "type" ms = m, member? "type" ns = n at hrel ⊢
    cases hrel with
    | none => rfl
    | some htype =>
      rw [Option.map_some, Option.map_some,
        AttributeType.ofJson_eq_of_alike (hj.member hm) htype]
  | other _ => rfl

/-- Type lookups are read alike if their descriptions are the same up to order. -/
theorem TypeLookup.ofJson_eq_of_alike {j k : Json} (hj : j.HasDistinctKeys) (h : Alike Eq j k) :
    ofJson j = ofJson k := by
  cases h with
  | @members ms ns h =>
    have hsame (key : Text) : member? key ms = member? key ns :=
      h.member?_eq hj.nodup_keys (Json.compared_eq _ key)
    exact ofJson_congr (hsame _) fun d _ => Json.memberD_congr (hsame _) _
  | other _ => rfl

/-- Value types are read alike if their descriptions are the same up to order. -/
theorem ValueType.ofJson_eq_of_alike {j k : Json} (hj : j.HasDistinctKeys) (h : Alike Eq j k) :
    ofJson j = ofJson k := by
  cases h with
  | @members ms ns h =>
    have hsame {key : Text} (hattributes : key ≠ "attributes") (hlookups : key ≠ "typeLookups") :
        member? key ms = member? key ns := by
      refine h.member?_eq hj.nodup_keys ?_
      rw [if_neg hattributes, if_neg hlookups, Json.compared_eq]
    have hempty : (Json.list []).HasDistinctKeys := .list (List.forall_mem_nil _)
    have hattributes := h.rel_member? hj.nodup_keys "attributes"
    have hlookups := h.rel_member? hj.nodup_keys "typeLookups"
    rw [if_pos rfl] at hattributes
    rw [if_neg (by decide), if_pos rfl] at hlookups
    refine ofJson_congr (hsame (by decide) (by decide)) ?_ ?_ ?_ ?_
    · exact Json.memberD_congr (hsame (by decide) (by decide)) _
    · exact (Json.listsAgree_memberD hattributes).imp (hj.memberD hempty _)
        fun _ _ => Attribute.ofJson_eq_of_alike
    · exact (Json.listsAgree_memberD hlookups).imp (hj.memberD hempty _)
        fun _ _ => TypeLookup.ofJson_eq_of_alike
    · exact Json.memberD_congr (hsame (by decide) (by decide)) _
  | other _ => rfl

end ValueBuilder
