import ValueBuilder.Proofs.NormalForm

/-!
# Normal forms tell value types apart

The members of a normal form are, up to order, one for each field of what is read from it. So two
descriptions have normal forms that are alike exactly if the same is read from both, where the
fields that are only handed on count as the same if the comparison of their values says so
(`EqUpTo`). No field is dropped, and no two are merged.

`ValueType.normalForm_spec` puts this together with the reading of normal forms.
-/

namespace ValueBuilder

open Json (Compared HasDistinctKeys ItemsOf ListsAgree MembersAgree ObjectsAgree completed keys
  mapMember member? memberD)

/-! ## Equality up to what is handed on -/

section EqUpTo

variable (R : Json → Json → Prop)

/-- Two types of attributes are equal up to what `R` relates of the fields that are handed on. -/
structure AttributeType.EqUpTo (t u : AttributeType) : Prop where
  /-- The names are the same. -/
  name : t.name = u.name
  /-- The references are related. -/
  reference : R t.reference u.reference
  /-- The libraries are related. -/
  library : R t.library u.library
  /-- The headers are related. -/
  file : R t.file u.file
  /-- The underlying types are related. -/
  underlyingType : R t.underlyingType u.underlyingType
  /-- The protocols are related. -/
  conformingProtocol : R t.conformingProtocol u.conformingProtocol

/-- Two attributes are equal up to what `R` relates of the fields that are handed on. -/
structure Attribute.EqUpTo (a b : Attribute) : Prop where
  /-- The names are the same. -/
  name : a.name = b.name
  /-- The types are equal up to what is handed on. -/
  type : a.type.EqUpTo R b.type
  /-- The kinds of nullability are the same. -/
  nullability : a.nullability = b.nullability

/-- Two type lookups are equal up to what `R` relates of the fields that are handed on. -/
structure TypeLookup.EqUpTo (l m : TypeLookup) : Prop where
  /-- The names are the same. -/
  name : l.name = m.name
  /-- Both allow a forward declaration, or neither does. -/
  canForwardDeclare : l.canForwardDeclare = m.canForwardDeclare
  /-- The libraries are related. -/
  library : R l.library m.library
  /-- The headers are related. -/
  file : R l.file m.file

/-- Two value types are equal up to what `R` relates of the fields that are handed on. -/
structure ValueType.EqUpTo (v w : ValueType) : Prop where
  /-- The names are the same. -/
  typeName : v.typeName = w.typeName
  /-- The libraries are related. -/
  libraryName : R v.libraryName w.libraryName
  /-- The attributes are equal one by one up to what is handed on. -/
  attributes : List.Forall₂ (Attribute.EqUpTo R) v.attributes w.attributes
  /-- The directives are the same. -/
  includes : v.includes = w.includes
  /-- The type lookups are equal one by one up to what is handed on. -/
  typeLookups : List.Forall₂ (TypeLookup.EqUpTo R) v.typeLookups w.typeLookups

end EqUpTo

/-- If all that is handed on has to be the same, then types have to be. -/
theorem AttributeType.eqUpTo_eq : EqUpTo Eq = Eq := by
  funext t u
  refine propext ⟨fun h => ?_, fun h => h ▸ ⟨rfl, rfl, rfl, rfl, rfl, rfl⟩⟩
  cases t
  cases u
  rw [mk.injEq]
  exact ⟨h.name, h.reference, h.library, h.file, h.underlyingType, h.conformingProtocol⟩

/-- If all that is handed on has to be the same, then attributes have to be. -/
theorem Attribute.eqUpTo_eq : EqUpTo Eq = Eq := by
  funext a b
  refine propext ⟨fun h => ?_, fun h => h ▸ ⟨rfl, AttributeType.eqUpTo_eq ▸ rfl, rfl⟩⟩
  have htype := h.type
  rw [AttributeType.eqUpTo_eq] at htype
  cases a
  cases b
  rw [mk.injEq]
  exact ⟨h.name, htype, h.nullability⟩

/-- If all that is handed on has to be the same, then type lookups have to be. -/
theorem TypeLookup.eqUpTo_eq : EqUpTo Eq = Eq := by
  funext l m
  refine propext ⟨fun h => ?_, fun h => h ▸ ⟨rfl, rfl, rfl, rfl⟩⟩
  cases l
  cases m
  rw [mk.injEq]
  exact ⟨h.name, h.canForwardDeclare, h.library, h.file⟩

/-- If all that is handed on has to be the same, then value types have to be. -/
theorem ValueType.eqUpTo_eq_iff {v w : ValueType} : v.EqUpTo Eq w ↔ v = w := by
  constructor
  · rintro ⟨htypeName, hlibraryName, hattributes, hincludes, htypeLookups⟩
    rw [Attribute.eqUpTo_eq, List.forall₂_eq_eq_eq] at hattributes
    rw [TypeLookup.eqUpTo_eq, List.forall₂_eq_eq_eq] at htypeLookups
    cases v
    cases w
    rw [mk.injEq]
    exact ⟨htypeName, hattributes, hincludes, htypeLookups, hlibraryName⟩
  · rintro rfl
    refine ⟨rfl, rfl, ?_, rfl, ?_⟩
    · rw [Attribute.eqUpTo_eq, List.forall₂_eq_eq_eq]
    · rw [TypeLookup.eqUpTo_eq, List.forall₂_eq_eq_eq]

/-! ## The members of normal forms -/

section Members

variable {ms : List (Text × Json)}

/-- The members of a type in full. -/
def AttributeType.members (t : AttributeType) : List (Text × Json) :=
  [("name", .text t.name), ("reference", t.reference), ("libraryTypeIsDefinedIn", t.library),
   ("fileTypeIsDefinedIn", t.file), ("underlyingType", t.underlyingType),
   ("conformingProtocol", t.conformingProtocol)]

/-- The members of an attribute in full, with a description of its type. -/
def Attribute.members (a : Attribute) (type : Json) : List (Text × Json) :=
  [("name", .text a.name), ("type", type), ("nullability", .text a.nullability.word)]

/-- The members of a type lookup in full. -/
def TypeLookup.members (l : TypeLookup) : List (Text × Json) :=
  [("name", .text l.name), ("canForwardDeclare", .bool l.canForwardDeclare),
   ("library", l.library), ("file", l.file)]

/-- The members of a value type in full, with descriptions of its attributes and type lookups. -/
def ValueType.members (v : ValueType) (attributes typeLookups : List Json) : List (Text × Json) :=
  [("typeName", .text v.typeName), ("libraryName", v.libraryName),
   ("attributes", .list attributes), ("includes", .list (v.includes.map .text)),
   ("typeLookups", .list typeLookups)]

/-- The members of a type do not repeat a name. -/
theorem AttributeType.nodup_keys_members (t : AttributeType) : (keys t.members).Nodup := by
  change (["name", "reference", "libraryTypeIsDefinedIn", "fileTypeIsDefinedIn", "underlyingType",
    "conformingProtocol"] : List Text).Nodup
  decide

/-- The members of an attribute do not repeat a name. -/
theorem Attribute.nodup_keys_members (a : Attribute) (type : Json) :
    (keys (a.members type)).Nodup := by
  change (["name", "type", "nullability"] : List Text).Nodup
  decide

/-- The members of a type lookup do not repeat a name. -/
theorem TypeLookup.nodup_keys_members (l : TypeLookup) : (keys l.members).Nodup := by
  change (["name", "canForwardDeclare", "library", "file"] : List Text).Nodup
  decide

/-- The members of a value type do not repeat a name. -/
theorem ValueType.nodup_keys_members (v : ValueType) (attributes typeLookups : List Json) :
    (keys (v.members attributes typeLookups)).Nodup := by
  change (["typeName", "libraryName", "attributes", "includes", "typeLookups"] : List Text).Nodup
  decide

/-- The normal form of the type of an attribute has its members in full. -/
theorem AttributeType.IsReadFrom.normalForm_perm {t : AttributeType} (h : t.IsReadFrom ms)
    (hms : (keys ms).Nodup) :
    ∃ ns, normalForm (.object ms) = .object ns ∧ ns.Perm t.members := by
  have hname : (member? "name" ms).bind Json.givenText? = some t.name :=
    bind_givenText?_eq_some_iff.2 ⟨h.name, h.name_ne_nil⟩
  refine ⟨_, normalForm_of_name hname, ?_⟩
  rw [AttributeType.members, h.reference, h.library, h.file, h.underlyingType, h.conformingProtocol]
  exact Json.completed_perm [("name", .text t.name)] (defaults t.name) hms
    t.nodup_keys_members (by simpa using h.name)

/-- With its default, the nullability of an attribute is a word. -/
theorem Attribute.IsReadFrom.memberD_nullability {a : Attribute} (h : a.IsReadFrom ms) :
    memberD "nullability" (.text "inherited") ms = .text a.nullability.word := by
  unfold memberD
  rcases h.nullability with ⟨hnone, hinherited⟩ | hword
  · rw [hnone, hinherited]
    rfl
  · rw [hword]
    rfl

/-- The normal form of an attribute has its members in full, with the normal form of its type. -/
theorem Attribute.IsReadFrom.normalForm_perm {a : Attribute} {t : Json} (h : a.IsReadFrom ms)
    (ht : member? "type" ms = some t) (hms : (keys ms).Nodup) :
    ∃ ns, normalForm (.object ms) = .object ns ∧
      ns.Perm (a.members (AttributeType.normalForm t)) := by
  refine ⟨_, rfl, ?_⟩
  have hperm := Json.completed_perm [("name", .text a.name), ("type", t)] defaults hms
    (a.nodup_keys_members t) (by simpa using ⟨h.name, ht⟩)
  rw [Attribute.members, ← h.memberD_nullability]
  exact hperm.map _

/-- With its default, a type lookup says whether a forward declaration is allowed. -/
theorem TypeLookup.IsReadFrom.memberD_canForwardDeclare {l : TypeLookup} (h : l.IsReadFrom ms) :
    memberD "canForwardDeclare" (.bool true) ms = .bool l.canForwardDeclare := by
  unfold memberD
  rcases h.canForwardDeclare with ⟨hnone, htrue⟩ | hbool
  · rw [hnone, htrue]
    rfl
  · rw [hbool]
    rfl

/-- The normal form of a type lookup has its members in full. -/
theorem TypeLookup.IsReadFrom.normalForm_perm {l : TypeLookup} (h : l.IsReadFrom ms)
    (hms : (keys ms).Nodup) :
    ∃ ns, normalForm (.object ms) = .object ns ∧ ns.Perm l.members := by
  refine ⟨_, rfl, ?_⟩
  rw [TypeLookup.members, h.library, h.file, ← h.memberD_canForwardDeclare]
  exact Json.completed_perm [("name", .text l.name)] defaults hms l.nodup_keys_members
    (by simpa using h.name)

/-- With its default, a list member is a list. -/
theorem Json.ItemsOf.memberD_eq {key : Text} {items : List Json} (h : ItemsOf key ms items) :
    memberD key (.list []) ms = .list items := by
  unfold memberD
  rcases h with ⟨hnone, rfl⟩ | hlist
  · rw [hnone]
    rfl
  · rw [hlist]
    rfl

/-- The normal form of a value type has its members in full, with the normal forms of its attributes
and type lookups. -/
theorem ValueType.IsReadFrom.normalForm_perm {v : ValueType} {as ls : List Json} (h : v.IsReadFrom ms)
    (has : ItemsOf "attributes" ms as) (hls : ItemsOf "typeLookups" ms ls)
    (hms : (keys ms).Nodup) :
    ∃ ns, normalForm (.object ms) = .object ns ∧
      ns.Perm (v.members (as.map Attribute.normalForm) (ls.map TypeLookup.normalForm)) := by
  refine ⟨_, rfl, ?_⟩
  have hperm := Json.completed_perm [("typeName", .text v.typeName)] defaults hms
    (v.nodup_keys_members as ls) (by simpa using h.typeName)
  -- Each default gives way to the field that is read from its member.
  simp only [defaults, List.map_cons, List.map_nil, has.memberD_eq, hls.memberD_eq,
    h.includes.memberD_eq, ← h.libraryName] at hperm
  exact (hperm.map _).map _

end Members

/-! ## Comparing normal forms -/

section Comparison

variable {R : Json → Json → Prop} {ms ns : List (Text × Json)}

/-- Objects agree if their members do. -/
theorem Json.objectsAgree_object {S : Text → Json → Json → Prop} :
    ObjectsAgree S (.object ms) (.object ns) ↔ MembersAgree S ms ns := by
  constructor
  · intro h
    cases h with
    | members h => exact h
    | other h => exact absurd rfl (h ms)
  · exact .members

/-- Lists agree if their items do. -/
theorem Json.listsAgree_list {Q : Json → Json → Prop} {xs ys : List Json} :
    ListsAgree Q (.list xs) (.list ys) ↔ List.Forall₂ Q xs ys := by
  constructor
  · intro h
    cases h with
    | items h => exact h
    | other h => exact absurd rfl (h xs)
  · exact .items

/-- The normal forms of types are alike if the types are equal up to what is handed on. -/
theorem AttributeType.alike_normalForm_iff {t u : AttributeType} (ht : t.IsReadFrom ms)
    (hu : u.IsReadFrom ns) (hms : (keys ms).Nodup) (hns : (keys ns).Nodup) :
    Alike R (normalForm (.object ms)) (normalForm (.object ns)) ↔ t.EqUpTo R u := by
  obtain ⟨as, has, hta⟩ := ht.normalForm_perm hms
  obtain ⟨bs, hbs, hub⟩ := hu.normalForm_perm hns
  rw [has, hbs, Alike, Json.objectsAgree_object,
    Json.membersAgree_iff_forall₂ hta hub t.nodup_keys_members rfl]
  -- The names are the same by now, so what is left is one comparison for each field.
  simp +decide only [members, List.forall₂_cons, List.forall₂_nil_left_iff, Compared, if_true,
    if_false, true_and, and_true, Json.text.injEq]
  constructor
  · rintro ⟨hname, hreference, hlibrary, hfile, hunderlyingType, hconformingProtocol⟩
    exact ⟨hname, hreference, hlibrary, hfile, hunderlyingType, hconformingProtocol⟩
  · intro h
    exact ⟨h.name, h.reference, h.library, h.file, h.underlyingType, h.conformingProtocol⟩

/-- A kind of nullability is known by its word. -/
theorem Nullability.word_inj {m n : Nullability} : m.word = n.word ↔ m = n := by
  rw [← Nullability.ofWord?_eq_some_iff, Nullability.ofWord?_eq_some_iff.2 rfl, Option.some.injEq]

/-- The normal forms of attributes are alike if the attributes are equal up to what is handed on. -/
theorem Attribute.alike_normalForm_iff {a b : Attribute} (ha : a.IsReadFrom ms)
    (hb : b.IsReadFrom ns) (hms : (Json.object ms).HasDistinctKeys)
    (hns : (Json.object ns).HasDistinctKeys) :
    Alike R (normalForm (.object ms)) (normalForm (.object ns)) ↔ a.EqUpTo R b := by
  obtain ⟨ts, hmt, hts⟩ := ha.type
  obtain ⟨us, hnu, hus⟩ := hb.type
  obtain ⟨as, has, hperm⟩ := ha.normalForm_perm hmt hms.nodup_keys
  obtain ⟨bs, hbs, hperm'⟩ := hb.normalForm_perm hnu hns.nodup_keys
  have htype := AttributeType.alike_normalForm_iff (R := R) hts hus (hms.member hmt).nodup_keys
    (hns.member hnu).nodup_keys
  rw [has, hbs, Alike, Json.objectsAgree_object,
    Json.membersAgree_iff_forall₂ hperm hperm' (a.nodup_keys_members _) rfl]
  simp +decide only [members, List.forall₂_cons, List.forall₂_nil_left_iff, if_true, if_false,
    true_and, and_true, Json.text.injEq, htype, Nullability.word_inj]
  constructor
  · rintro ⟨hname, htype, hnullability⟩
    exact ⟨hname, htype, hnullability⟩
  · intro h
    exact ⟨h.name, h.type, h.nullability⟩

/-- The normal forms of type lookups are alike if the type lookups are equal up to what is handed
on. -/
theorem TypeLookup.alike_normalForm_iff {l m : TypeLookup} (hl : l.IsReadFrom ms)
    (hm : m.IsReadFrom ns) (hms : (keys ms).Nodup) (hns : (keys ns).Nodup) :
    Alike R (normalForm (.object ms)) (normalForm (.object ns)) ↔ l.EqUpTo R m := by
  obtain ⟨as, has, hperm⟩ := hl.normalForm_perm hms
  obtain ⟨bs, hbs, hperm'⟩ := hm.normalForm_perm hns
  rw [has, hbs, Alike, Json.objectsAgree_object,
    Json.membersAgree_iff_forall₂ hperm hperm' l.nodup_keys_members rfl]
  simp +decide only [members, List.forall₂_cons, List.forall₂_nil_left_iff, Compared, if_true,
    if_false, true_and, and_true, Json.text.injEq, Json.bool.injEq]
  constructor
  · rintro ⟨hname, hdeclare, hlibrary, hfile⟩
    exact ⟨hname, hdeclare, hlibrary, hfile⟩
  · intro h
    exact ⟨h.name, h.canForwardDeclare, h.library, h.file⟩

/-- Items compare as what is read from them does, if each pair does. -/
theorem forall₂_iff_of_forall₂ {α : Type} {P : Json → α → Prop} {Q : Json → Json → Prop}
    {E : α → α → Prop} {xs ys : List Json} {as bs : List α} (hxs : List.Forall₂ P xs as)
    (hys : List.Forall₂ P ys bs) (h : ∀ x y a b, P x a → P y b → (Q x y ↔ E a b)) :
    List.Forall₂ Q xs ys ↔ List.Forall₂ E as bs := by
  induction hxs generalizing ys bs with
  | nil =>
    cases hys with
    | nil => exact iff_of_true .nil .nil
    | cons _ _ => exact iff_of_false nofun nofun
  | @cons x a xs as hxa hxs ih =>
    cases hys with
    | nil => exact iff_of_false nofun nofun
    | cons hyb hys => rw [List.forall₂_cons, List.forall₂_cons, h _ _ _ _ hxa hyb, ih hys]

/-- The items of a list member have distinct names. -/
theorem Json.HasDistinctKeys.itemsOf {key : Text} {items : List Json}
    (h : (Json.object ms).HasDistinctKeys) (hitems : ItemsOf key ms items) :
    ∀ item ∈ items, item.HasDistinctKeys := by
  rcases hitems with ⟨-, rfl⟩ | hlist
  · exact List.forall_mem_nil _
  · exact fun _ => (h.member hlist).item

/-- The normal forms of value types are alike if the value types are equal up to what is handed
on. -/
theorem ValueType.alike_normalForm_iff {v w : ValueType} (hv : v.IsReadFrom ms)
    (hw : w.IsReadFrom ns) (hms : (Json.object ms).HasDistinctKeys)
    (hns : (Json.object ns).HasDistinctKeys) :
    Alike R (normalForm (.object ms)) (normalForm (.object ns)) ↔ v.EqUpTo R w := by
  obtain ⟨as, has, hasv⟩ := hv.attributes
  obtain ⟨ls, hls, hlsv⟩ := hv.typeLookups
  obtain ⟨bs, hbs, hbsw⟩ := hw.attributes
  obtain ⟨ks, hks, hksw⟩ := hw.typeLookups
  have hattributes : List.Forall₂ (Attribute.Alike R) (as.map Attribute.normalForm)
      (bs.map Attribute.normalForm) ↔
      List.Forall₂ (Attribute.EqUpTo R) v.attributes w.attributes := by
    rw [List.forall₂_map_left_iff, List.forall₂_map_right_iff]
    refine forall₂_iff_of_forall₂ ((List.forall₂_and_left _ _).2 ⟨hms.itemsOf has, hasv⟩)
      ((List.forall₂_and_left _ _).2 ⟨hns.itemsOf hbs, hbsw⟩) ?_
    -- Each attribute is read from an object, whose type is again an object with distinct names.
    rintro _ _ a b ⟨hx, xs, rfl, ha⟩ ⟨hy, ys, rfl, hb⟩
    exact Attribute.alike_normalForm_iff ha hb hx hy
  have htypeLookups : List.Forall₂ (TypeLookup.Alike R) (ls.map TypeLookup.normalForm)
      (ks.map TypeLookup.normalForm) ↔
      List.Forall₂ (TypeLookup.EqUpTo R) v.typeLookups w.typeLookups := by
    rw [List.forall₂_map_left_iff, List.forall₂_map_right_iff]
    refine forall₂_iff_of_forall₂ ((List.forall₂_and_left _ _).2 ⟨hms.itemsOf hls, hlsv⟩)
      ((List.forall₂_and_left _ _).2 ⟨hns.itemsOf hks, hksw⟩) ?_
    rintro _ _ l m ⟨hx, xs, rfl, hl⟩ ⟨hy, ys, rfl, hm⟩
    exact TypeLookup.alike_normalForm_iff hl hm hx.nodup_keys hy.nodup_keys
  obtain ⟨ms', hms', hperm⟩ := hv.normalForm_perm has hls hms.nodup_keys
  obtain ⟨ns', hns', hperm'⟩ := hw.normalForm_perm hbs hks hns.nodup_keys
  have hincludes : v.includes.map Json.text = w.includes.map Json.text ↔ v.includes = w.includes :=
    (List.map_injective_iff.2 fun _ _ => Json.text.inj).eq_iff
  rw [hms', hns', Alike, Json.objectsAgree_object,
    Json.membersAgree_iff_forall₂ hperm hperm' (v.nodup_keys_members _ _) rfl]
  simp +decide only [members, List.forall₂_cons, List.forall₂_nil_left_iff, Compared, if_true,
    if_false, true_and, and_true, Json.text.injEq, Json.list.injEq, Json.listsAgree_list,
    hattributes, htypeLookups, hincludes]
  constructor
  · rintro ⟨htypeName, hlibraryName, hattributes, hincludes, htypeLookups⟩
    exact ⟨htypeName, hlibraryName, hattributes, hincludes, htypeLookups⟩
  · intro h
    exact ⟨h.typeName, h.libraryName, h.attributes, h.includes, h.typeLookups⟩

end Comparison

/-! ## Names in normal forms -/

namespace Json.HasDistinctKeys

variable {j : Json}

/-- The normal form of the type of an attribute has distinct names. -/
theorem attributeType_normalForm (h : j.HasDistinctKeys) :
    (AttributeType.normalForm j).HasDistinctKeys := by
  cases j with
  | object ms =>
    cases hname : (member? "name" ms).bind Json.givenText? with
    | none => rwa [AttributeType.normalForm_of_no_name hname]
    | some name =>
      rw [AttributeType.normalForm_of_name hname]
      refine h.completed (.object (AttributeType.nodup_keys_defaults name) ?_)
      simp only [AttributeType.defaults, List.forall_mem_cons]
      exact ⟨.atom rfl, .atom rfl, .atom rfl, .atom rfl, .atom rfl, List.forall_mem_nil _⟩
  | _ => exact h

/-- The normal form of an attribute has distinct names. -/
theorem attribute_normalForm (h : j.HasDistinctKeys) :
    (Attribute.normalForm j).HasDistinctKeys := by
  cases j with
  | object ms =>
    refine (h.completed (.object (by decide) ?_)).mapMember fun _ => attributeType_normalForm
    simp only [Attribute.defaults, List.forall_mem_cons]
    exact ⟨.atom rfl, List.forall_mem_nil _⟩
  | _ => exact h

/-- The normal form of a type lookup has distinct names. -/
theorem typeLookup_normalForm (h : j.HasDistinctKeys) :
    (TypeLookup.normalForm j).HasDistinctKeys := by
  cases j with
  | object ms =>
    refine h.completed (.object (by decide) ?_)
    simp only [TypeLookup.defaults, List.forall_mem_cons]
    exact ⟨.atom rfl, .atom rfl, .atom rfl, List.forall_mem_nil _⟩
  | _ => exact h

/-- New items with distinct names leave a list with distinct names. -/
theorem mapItems {f : Json → Json} (hf : ∀ x, x.HasDistinctKeys → (f x).HasDistinctKeys) {v : Json}
    (h : v.HasDistinctKeys) : (Json.mapItems f v).HasDistinctKeys := by
  cases v with
  | list xs =>
    refine .list fun y hy => ?_
    obtain ⟨x, hx, rfl⟩ := List.mem_map.1 hy
    exact hf x (h.item hx)
  | _ => exact h

/-- The normal form of a value type has distinct names. -/
theorem valueType_normalForm (h : j.HasDistinctKeys) :
    (ValueType.normalForm j).HasDistinctKeys := by
  cases j with
  | object ms =>
    refine ((h.completed (.object (by decide) ?_)).mapMember
      fun _ => mapItems fun _ => typeLookup_normalForm).mapMember
      fun _ => mapItems fun _ => attribute_normalForm
    simp only [ValueType.defaults, List.forall_mem_cons]
    have hempty : (Json.list []).HasDistinctKeys := .list (List.forall_mem_nil _)
    exact ⟨.atom rfl, hempty, hempty, hempty, List.forall_mem_nil _⟩
  | _ => exact h

end Json.HasDistinctKeys

/-! ## The law of normal forms -/

/-- Of two descriptions that are accepted the same is read, up to what is handed on, exactly if their
normal forms are alike. -/
theorem ValueType.eqUpTo_iff_alike {R : Json → Json → Prop} {j k : Json} {v w : ValueType}
    (hj : j.HasDistinctKeys) (hk : k.HasDistinctKeys) (hv : ofJson j = .ok v)
    (hw : ofJson k = .ok w) : v.EqUpTo R w ↔ Alike R (normalForm j) (normalForm k) := by
  obtain ⟨ms, rfl, hms⟩ := ofJson_eq_ok.1 hv
  obtain ⟨ns, rfl, hns⟩ := ofJson_eq_ok.1 hw
  exact (alike_normalForm_iff hms hns hj hk).symm

/-- Reading does not see the difference between a description and its normal form, or the order of
members in either. And of two descriptions that are accepted the same is read exactly if their normal
forms are alike, however the members that are only handed on are compared. -/
theorem ValueType.normalForm_spec {j k : Json} (hj : j.HasDistinctKeys) (hk : k.HasDistinctKeys) :
    ofJson (normalForm j) = ofJson j ∧
      (∀ l, Alike Eq j l ∨ Alike Eq (normalForm j) l → ofJson l = ofJson j) ∧
      ∀ v w, ofJson j = .ok v → ofJson k = .ok w →
        (v = w ↔ Alike Eq (normalForm j) (normalForm k)) ∧
        ∀ R : Json → Json → Prop, v.EqUpTo R w ↔ Alike R (normalForm j) (normalForm k) := by
  refine ⟨ofJson_normalForm j, fun l hl => ?_, fun v w hv hw => ?_⟩
  · rcases hl with halike | halike
    · exact (ofJson_eq_of_alike hj halike).symm
    · rw [← ofJson_eq_of_alike hj.valueType_normalForm halike, ofJson_normalForm]
  · refine ⟨?_, fun R => eqUpTo_iff_alike hj hk hv hw⟩
    rw [← eqUpTo_iff_alike hj hk hv hw, eqUpTo_eq_iff]

/-- The law at a short description, and at one that says the same in full, in another order, and with
a member that nobody knows. -/
theorem ValueType.normalForm_spec_of_defaults :
    let brief : Json := .object [("typeName", .text "Foo"), ("attributes", .list [.object
      [("name", .text "a"), ("type", .object [("name", .text "NSString")])]])]
    let full : Json := .object [("comment", .int 1), ("attributes", .list [.object
      [("nullability", .text "inherited"),
       ("type", .object [("reference", .text "NSString *"), ("name", .text "NSString")]),
       ("name", .text "a")]]), ("libraryName", .null), ("typeName", .text "Foo")]
    brief.HasDistinctKeys ∧ full.HasDistinctKeys ∧
      ∃ v, ofJson brief = .ok v ∧ ofJson full = .ok v ∧
        Alike Eq (normalForm brief) (normalForm full) := by
  intro brief full
  have hbrief : brief.HasDistinctKeys := by
    simp +decide [brief, Json.hasDistinctKeys_object, Json.hasDistinctKeys_list,
      Json.HasDistinctKeys.atom]
  have hfull : full.HasDistinctKeys := by
    simp +decide [full, Json.hasDistinctKeys_object, Json.hasDistinctKeys_list,
      Json.HasDistinctKeys.atom]
  obtain ⟨v, hv, hw⟩ : ∃ v, ofJson brief = .ok v ∧ ofJson full = .ok v := ⟨_, rfl, rfl⟩
  exact ⟨hbrief, hfull, v, hv, hw, ((normalForm_spec hbrief hfull).2.2 v v hv hw).1.1 rfl⟩

end ValueBuilder
