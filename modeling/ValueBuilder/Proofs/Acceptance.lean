import ValueBuilder.Proofs.Reading

/-!
# Which descriptions are accepted

`Json.IsValueType` and its companions are the shapes of descriptions. `Check.ofValueType` and its
companions are the checks that a description is put to, in order, each with the fault for failing
it and with the text that is said then. A part of a description is checked before the parts inside
of it, and members and items are checked from left to right. Members that are only handed on have no
check, and neither have absent members. A text may show the value that was found, which is written
by the rules of `Json.IsShownAs`.

`ValueType.ofJson_spec` says that these are all there is to reading a description. It is accepted
exactly if it has the shape, and if it has not then the fault and the message are those of the first
check that fails. The proof takes the reader and the checks step by step: `Reports` says of a step
that it ends in the first fault of its checks, and chains of steps and traversals of lists keep to
it.
-/

namespace ValueBuilder

open Traversal
open Json (HasItems HasName ItemsOf member? memberD)

/-! ## Shapes -/

namespace Json

/-- A value describes the type of an attribute: an object with a name. -/
def IsAttributeType (j : Json) : Prop := ∃ ms, j = .object ms ∧ HasName "name" ms

/-- A value describes an attribute: an object with a name and a type, and if it says anything about
nullability then one of three words. -/
def IsAttribute (j : Json) : Prop :=
  ∃ ms, j = .object ms ∧ HasName "name" ms ∧
    (∀ n, member? "nullability" ms = some n →
      n = .text "inherited" ∨ n = .text "nullable" ∨ n = .text "nonnull") ∧
    ∃ t, member? "type" ms = some t ∧ t.IsAttributeType

/-- A value describes a type lookup: an object with a name, and if it says anything about forward
declarations then true or false. -/
def IsTypeLookup (j : Json) : Prop :=
  ∃ ms, j = .object ms ∧ HasName "name" ms ∧
    ∀ c, member? "canForwardDeclare" ms = some c → ∃ b, c = .bool b

/-- A value describes a value type: an object with a name, and with lists of directives, attributes
and type lookups if there are any. -/
def IsValueType (j : Json) : Prop :=
  ∃ ms, j = .object ms ∧ HasName "typeName" ms ∧
    HasItems "includes" (fun i => ∃ s, i = .text s) ms ∧
    HasItems "attributes" IsAttribute ms ∧ HasItems "typeLookups" IsTypeLookup ms

end Json

/-- A type is read of each value that describes one. -/
theorem AttributeType.exists_ofJson_eq_ok {j : Json} :
    (∃ t, AttributeType.ofJson j = .ok t) ↔ j.IsAttributeType := by
  unfold AttributeType.ofJson
  simp only [bind_eq_ok, pure_eq_ok, Prod.exists, Part.membersAndName_eq_ok]
  constructor
  · rintro ⟨_, ms, name, ⟨hj, hname, hne⟩, -⟩
    exact ⟨ms, hj, name, hname, hne⟩
  · rintro ⟨ms, hj, name, hname, hne⟩
    exact ⟨_, ms, name, ⟨hj, hname, hne⟩, rfl⟩

/-- A word for a kind of nullability is one of three. -/
theorem Nullability.exists_eq_word_iff {j : Json} :
    (∃ n : Nullability, j = .text n.word) ↔
      j = .text "inherited" ∨ j = .text "nullable" ∨ j = .text "nonnull" := by
  constructor
  · rintro ⟨n, rfl⟩
    cases n <;> simp [word]
  · rintro (rfl | rfl | rfl)
    · exact ⟨.inherited, rfl⟩
    · exact ⟨.nullable, rfl⟩
    · exact ⟨.nonnull, rfl⟩

/-- An attribute is read of each value that describes one. -/
theorem Attribute.exists_ofJson_eq_ok {j : Json} :
    (∃ a, Attribute.ofJson j = .ok a) ↔ j.IsAttribute := by
  simp only [Attribute.ofJson_eq_ok]
  constructor
  · rintro ⟨a, ms, hj, h⟩
    obtain ⟨ts, ht, hts⟩ := h.type
    refine ⟨ms, hj, ⟨a.name, h.name, h.name_ne_nil⟩, fun n hn => ?_, _, ht,
      AttributeType.exists_ofJson_eq_ok.1 ⟨a.type, AttributeType.ofJson_eq_ok.2 ⟨ts, rfl, hts⟩⟩⟩
    rw [← Nullability.exists_eq_word_iff]
    rcases h.nullability with ⟨hnone, -⟩ | hword
    · rw [hn] at hnone
      cases hnone
    · rw [hn, Option.some.injEq] at hword
      exact ⟨_, hword⟩
  · rintro ⟨ms, hj, ⟨name, hname, hne⟩, hnull, t, ht, hshape⟩
    obtain ⟨type, htype⟩ := AttributeType.exists_ofJson_eq_ok.2 hshape
    obtain ⟨ts, rfl, hts⟩ := AttributeType.ofJson_eq_ok.1 htype
    have hnullability : ∃ n : Nullability, member? "nullability" ms = none ∧ n = .inherited ∨
        member? "nullability" ms = some (.text n.word) := by
      cases hn : member? "nullability" ms with
      | none => exact ⟨.inherited, .inl ⟨rfl, rfl⟩⟩
      | some found =>
        obtain ⟨n, hword⟩ := Nullability.exists_eq_word_iff.2 (hnull found hn)
        exact ⟨n, .inr (by rw [hword])⟩
    obtain ⟨n, hn⟩ := hnullability
    exact ⟨⟨name, type, n⟩, ms, hj, hname, hne, hn, ts, ht, hts⟩

/-- A type lookup is read of each value that describes one. -/
theorem TypeLookup.exists_ofJson_eq_ok {j : Json} :
    (∃ l, TypeLookup.ofJson j = .ok l) ↔ j.IsTypeLookup := by
  unfold TypeLookup.ofJson
  simp only [bind_eq_ok, pure_eq_ok, Prod.exists, Part.membersAndName_eq_ok,
    forwardDeclarability_eq_ok]
  constructor
  · rintro ⟨_, ms, name, ⟨hj, hname, hne⟩, b, hb, -⟩
    refine ⟨ms, hj, ⟨name, hname, hne⟩, fun c hc => ?_⟩
    rcases hb with ⟨hnone, -⟩ | hbool
    · rw [hc] at hnone
      cases hnone
    · rw [hc, Option.some.injEq] at hbool
      exact ⟨b, hbool⟩
  · rintro ⟨ms, hj, ⟨name, hname, hne⟩, hbool⟩
    cases hc : member? "canForwardDeclare" ms with
    | none => exact ⟨_, ms, name, ⟨hj, hname, hne⟩, true, .inl ⟨hc, rfl⟩, rfl⟩
    | some found =>
      obtain ⟨b, rfl⟩ := hbool found hc
      exact ⟨_, ms, name, ⟨hj, hname, hne⟩, b, .inr hc, rfl⟩

/-- Items are texts if the list is one of texts. -/
theorem Json.exists_eq_map_text_iff {items : List Json} :
    (∃ texts : List Text, items = texts.map .text) ↔ ∀ i ∈ items, ∃ s, i = .text s := by
  constructor
  · rintro ⟨texts, rfl⟩ i hi
    obtain ⟨s, -, rfl⟩ := List.mem_map.1 hi
    exact ⟨s, rfl⟩
  · intro h
    induction items with
    | nil => exact ⟨[], rfl⟩
    | cons i items ih =>
      obtain ⟨⟨s, rfl⟩, htail⟩ := List.forall_mem_cons.1 h
      obtain ⟨texts, rfl⟩ := ih htail
      exact ⟨s :: texts, rfl⟩

/-- A value type is read of each value that describes one. -/
theorem ValueType.exists_ofJson_eq_ok {j : Json} :
    (∃ v, ValueType.ofJson j = .ok v) ↔ j.IsValueType := by
  unfold ValueType.ofJson Json.IsValueType
  simp only [bind_eq_ok, pure_eq_ok, Prod.exists, Part.membersAndName_eq_ok, listMember_eq_ok,
    allTexts_eq_ok, Json.hasItems_iff, ← Json.exists_eq_map_text_iff,
    ← Attribute.exists_ofJson_eq_ok, ← TypeLookup.exists_ofJson_eq_ok, ← exists_mapM_eq_ok]
  constructor
  · rintro ⟨_, ms, name, ⟨hj, hname, hne⟩, is, his, texts, htexts, as, has, attributes, hattributes,
      ls, hls, lookups, hlookups, -⟩
    exact ⟨ms, hj, ⟨name, hname, hne⟩, ⟨is, his, texts, htexts⟩, ⟨as, has, attributes, hattributes⟩,
      ls, hls, lookups, hlookups⟩
  · rintro ⟨ms, hj, ⟨name, hname, hne⟩, ⟨is, his, texts, htexts⟩,
      ⟨as, has, attributes, hattributes⟩, ls, hls, lookups, hlookups⟩
    exact ⟨_, ms, name, ⟨hj, hname, hne⟩, is, his, texts, htexts, as, has, attributes, hattributes,
      ls, hls, lookups, hlookups, rfl⟩

/-! ## Checks -/

namespace Json

/-- The members of an object. -/
def members : Json → List (Text × Json)
  | .object ms => ms
  | _ => []

/-- The items of a list. -/
def items : Json → List Json
  | .list xs => xs
  | _ => []

/-- A Boolean test that a value is an object. -/
def isObject : Json → Bool
  | .object _ => true
  | _ => false

/-- A Boolean test that a value is a list. -/
def isList : Json → Bool
  | .list _ => true
  | _ => false

/-- A Boolean test that a value is a truth value. -/
def isBool : Json → Bool
  | .bool _ => true
  | _ => false

/-- The items of the list at the member `key` of an object. -/
def itemsAt (key : Text) (j : Json) : List Json := ((member? key j.members).map items).getD []

end Json

/-- A check of a description. -/
structure Check where
  /-- The description passes the check. -/
  passes : Bool
  /-- The fault if it does not. -/
  fault : DescriptionFault
  /-- What is said then. -/
  text : Text

namespace Check

/-- The fault of the first check that is not passed. -/
def firstFault (cs : List Check) : Option DescriptionFault :=
  (cs.find? (!·.passes)).map Check.fault

/-- The text of the first check that is not passed. -/
def firstText (cs : List Check) : Option Text := (cs.find? (!·.passes)).map Check.text

/-- The word of a message for a value of another kind than is asked for. -/
def kindWord : Json → Text
  | .null => "NoneType"
  | .bool _ => "bool"
  | .int _ => "int"
  | .float _ => "float"
  | .text _ => "str"
  | .list _ => "list"
  | .object _ => "dict"

/-- The checks of a member: none if it is absent. -/
def ofMember (key : Text) (check : Json → Check) (j : Json) : List Check :=
  (member? key j.members).toList.map check

/-- The name of a part. -/
def nameOf (part : Part) (j : Json) : Text :=
  ((member? part.nameKey j.members).bind Json.givenText?).getD []

/-- The checks of the name of a part, with the words for the part and the member that names it: the
part is an object, and it has a name. -/
def ofName (part : Part) (words key : Text) (j : Json) : List Check :=
  [{  passes := j.isObject
      fault := .notObject part j
      text := words ++ " must be an object, got " ++ kindWord j },
   {  passes := ((member? key j.members).bind Json.givenText?).isSome
      fault := .missingName part
      text := words ++ " is missing a non-empty '" ++ key ++ "'" }]

/-- The check of a list member: if there is one, it is a list. -/
def ofList (key : Text) : Json → List Check := ofMember key fun found => {
  passes := found.isList
  fault := .notList key found
  text := key ++ " must be a list, got " ++ kindWord found }

/-- The check of directives: all of them are texts. -/
def ofIncludes (items : List Json) : Check where
  passes := items.all (·.text?.isSome)
  fault := .includesNotTexts
  text := "includes must be a list of strings"

/-- The check of the nullability of the attribute `name`: it is one of three words. -/
def ofNullability (name : Text) (found : Json) : Check where
  passes := found.isOneOf ["inherited", "nullable", "nonnull"]
  fault := .unknownNullability name found
  text := "attribute '" ++ name ++ "' has unknown nullability " ++ found.literal ++
    "; expected one of inherited, nullable, nonnull"

/-- The check that the attribute `name` has a type. -/
def ofPresence (name : Text) (type : Option Json) : Check where
  passes := type.isSome
  fault := .missingType name
  text := "attribute '" ++ name ++ "' is missing 'type'"

/-- The check of what the type lookup `name` says about forward declarations: it is true or
false. -/
def ofDeclarability (name : Text) (found : Json) : Check where
  passes := found.isBool
  fault := .notBoolean name found
  text := "type lookup '" ++ name ++ "' has non-boolean canForwardDeclare " ++ found.literal

/-- The checks of the type of an attribute. -/
def ofAttributeType (j : Json) : List Check := ofName .attributeType "attribute type" "name" j

/-- The checks of an attribute: its name, its nullability, whether it has a type, and that type. -/
def ofAttribute (j : Json) : List Check :=
  ofName .attr "attribute" "name" j ++
  ofMember "nullability" (ofNullability (nameOf .attr j)) j ++
  [ofPresence (nameOf .attr j) (member? "type" j.members)] ++
  (member? "type" j.members).toList.flatMap ofAttributeType

/-- The checks of a type lookup: its name, and whether it says that it can be forward declared. -/
def ofTypeLookup (j : Json) : List Check :=
  ofName .typeLookup "type lookup" "name" j ++
  ofMember "canForwardDeclare" (ofDeclarability (nameOf .typeLookup j)) j

/-- The checks of a value type: its name, the list of its directives, that of its attributes with
each of them, and that of its type lookups with each of them. -/
def ofValueType (j : Json) : List Check :=
  ofName .valueType "value type" "typeName" j ++
  ofList "includes" j ++ [ofIncludes (j.itemsAt "includes")] ++
  ofList "attributes" j ++ (j.itemsAt "attributes").flatMap ofAttribute ++
  ofList "typeLookups" j ++ (j.itemsAt "typeLookups").flatMap ofTypeLookup

/-- Checks behind others only count if those are passed. -/
theorem firstFault_append (cs ds : List Check) :
    firstFault (cs ++ ds) = (firstFault cs).or (firstFault ds) := by
  unfold firstFault
  rw [List.find?_append, Option.map_or]

end Check

/-! ## Readers and checks -/

variable {α β : Type}

/-- A step of a reader ends in the first fault of its checks, and it has a result if all of them are
passed. -/
def Reports (cs : List Check) (x : Except DescriptionFault α) : Prop :=
  ∀ e, x = .error e ↔ Check.firstFault cs = some e

namespace Reports

/-- A step with a result has passed all checks. -/
theorem firstFault_eq_none {cs : List Check} {x : Except DescriptionFault α} (h : Reports cs x)
    {a : α} (ha : x = .ok a) : Check.firstFault cs = none := by
  cases hf : Check.firstFault cs with
  | none => rfl
  | some e =>
    have herror := (h e).2 hf
    rw [ha] at herror
    cases herror

/-- A result passes no check at all. -/
theorem ok (a : α) : Reports [] (.ok a : Except DescriptionFault α) := fun e => by
  simp [Check.firstFault]

/-- Two steps in a row make the checks of both. -/
theorem bind {cs ds : List Check} {x : Except DescriptionFault α}
    {f : α → Except DescriptionFault β} (hx : Reports cs x)
    (hf : ∀ a, x = .ok a → Reports ds (f a)) : Reports (cs ++ ds) (x >>= f) := by
  intro e
  rw [Check.firstFault_append]
  cases hstep : x with
  | error e' =>
    rw [(hx e').1 hstep, Option.some_or, Option.some.injEq]
    constructor
    · intro h
      cases h
      rfl
    · rintro rfl
      rfl
  | ok a =>
    rw [hx.firstFault_eq_none hstep, Option.none_or]
    exact hf a hstep e

/-- A traversal makes the checks of each element. -/
theorem mapM {check : α → List Check} {f : α → Except DescriptionFault β} {xs : List α}
    (h : ∀ x ∈ xs, Reports (check x) (f x)) : Reports (xs.flatMap check) (xs.mapM f) := by
  induction xs with
  | nil => exact ok []
  | cons x xs ih =>
    obtain ⟨hhead, htail⟩ := List.forall_mem_cons.1 h
    rw [List.mapM_cons, List.flatMap_cons]
    refine hhead.bind fun _ _ => ?_
    rw [← List.append_nil (xs.flatMap check)]
    exact (ih htail).bind fun _ _ => ok _

end Reports

/-- A step of one check has a result if the check is passed, and ends in its fault if not. -/
theorem reports_singleton {c : Check} {x : Except DescriptionFault α}
    (hpass : c.passes = true → ∃ a, x = .ok a) (hfail : c.passes = false → x = .error c.fault) :
    Reports [c] x := by
  intro e
  cases hc : c.passes with
  | true =>
    obtain ⟨a, ha⟩ := hpass hc
    simp [Check.firstFault, hc, ha]
  | false => simp [Check.firstFault, hc, hfail hc]

/-- A check that is passed makes no difference. -/
theorem Reports.cons {c : Check} {cs : List Check} {x : Except DescriptionFault α}
    (hc : c.passes = true) (h : Reports cs x) : Reports (c :: cs) x := by
  intro e
  rw [h e, Check.firstFault, Check.firstFault, List.find?_cons_of_neg (by simp [hc])]

/-- The name of a part is read with its checks. -/
theorem Part.membersAndName_reports (part : Part) (words : Text) (j : Json) :
    Reports (Check.ofName part words part.nameKey j) (part.membersAndName j) := by
  intro e
  unfold membersAndName Check.ofName
  cases j with
  | object ms =>
    cases hname : (member? part.nameKey ms).bind Json.givenText? <;>
      simp [Check.firstFault, Json.isObject, Json.members, hname]
  | _ => simp [Check.firstFault, Json.isObject]

/-- A list member is read with its check. -/
theorem listMember_reports (key : Text) (ms : List (Text × Json)) :
    Reports (Check.ofList key (.object ms)) (listMember key ms) := by
  unfold listMember Check.ofList Check.ofMember Json.members
  cases member? key ms with
  | none => exact .ok []
  | some found =>
    cases found <;> exact reports_singleton (by simp [Json.isList]) (by simp [Json.isList])

/-- Directives are read with the check that they are texts. -/
theorem allTexts_reports (items : List Json) :
    Reports [Check.ofIncludes items] (allTexts items) := by
  have hpasses : items.all (·.text?.isSome) = true ↔ ∃ texts, allTexts items = .ok texts := by
    simp only [allTexts_eq_ok, Json.exists_eq_map_text_iff, List.all_eq_true]
    refine forall₂_congr fun i _ => ?_
    cases i <;> simp [Json.text?]
  refine reports_singleton hpasses.1 fun hfails => ?_
  cases htexts : items.mapM Json.text? with
  | none =>
    rw [allTexts, htexts]
    rfl
  | some texts =>
    have hok : ∃ texts, allTexts items = .ok texts := ⟨texts, by rw [allTexts, htexts]⟩
    exact absurd (hpasses.2 hok) (Bool.eq_false_iff.1 hfails)

/-- Nullability is read with its check. -/
theorem Nullability.ofMember_reports (name key : Text) (ms : List (Text × Json)) :
    Reports (Check.ofMember key (Check.ofNullability name) (.object ms))
      (ofMember name (member? key ms)) := by
  unfold Check.ofMember Json.members
  cases member? key ms with
  | none => exact .ok Nullability.inherited
  | some found =>
    have hpasses : found.isOneOf ["inherited", "nullable", "nonnull"] = true ↔
        ∃ n, ofMember name (some found) = .ok n := by
      simp only [ofMember_eq_ok, reduceCtorEq, false_and, false_or, Option.some.injEq,
        exists_eq_word_iff]
      cases found <;> simp [Json.isOneOf, Json.text?]
    refine reports_singleton hpasses.1 fun hfails => ?_
    cases hword : found.text?.bind ofWord? with
    | none =>
      simp only [ofMember, hword]
      rfl
    | some n =>
      have hok : ∃ n, ofMember name (some found) = .ok n := ⟨n, by simp only [ofMember, hword]⟩
      exact absurd (hpasses.2 hok) (Bool.eq_false_iff.1 hfails)

/-- A word on forward declarations is read with its check. -/
theorem TypeLookup.forwardDeclarability_reports (name key : Text) (ms : List (Text × Json)) :
    Reports (Check.ofMember key (Check.ofDeclarability name) (.object ms))
      (forwardDeclarability name (member? key ms)) := by
  unfold forwardDeclarability Check.ofMember Json.members
  cases member? key ms with
  | none => exact .ok true
  | some found =>
    cases found <;> exact reports_singleton (by simp [Check.ofDeclarability, Json.isBool])
      (by simp [Check.ofDeclarability, Json.isBool])

/-- The type of an attribute is read with its checks. -/
theorem AttributeType.ofJson_reports (j : Json) :
    Reports (Check.ofAttributeType j) (AttributeType.ofJson j) := by
  rw [Check.ofAttributeType, ← List.append_nil (Check.ofName _ _ _ j)]
  exact (Part.membersAndName_reports _ _ j).bind fun _ _ => .ok _

/-- A name that is read is the name of the part. -/
theorem Part.members_eq_and_nameOf_eq {part : Part} {j : Json} {ms : List (Text × Json)}
    {name : Text} (h : part.membersAndName j = .ok (ms, name)) :
    j = .object ms ∧ Check.nameOf part j = name := by
  obtain ⟨rfl, hname⟩ := Part.membersAndName_eq_ok.1 h
  refine ⟨rfl, ?_⟩
  rw [Check.nameOf, Json.members, bind_givenText?_eq_some_iff.2 hname]
  rfl

/-- An attribute is read with its checks. -/
theorem Attribute.ofJson_reports (j : Json) :
    Reports (Check.ofAttribute j) (Attribute.ofJson j) := by
  simp only [Check.ofAttribute, List.append_assoc]
  refine (Part.membersAndName_reports _ _ j).bind ?_
  rintro ⟨ms, name⟩ h
  obtain ⟨rfl, hname⟩ := Part.members_eq_and_nameOf_eq h
  rw [hname]
  refine (Nullability.ofMember_reports name _ ms).bind fun n _ => ?_
  dsimp only [Json.members]
  -- With a type at hand its presence is no question any more, and its own checks are what is left.
  cases member? "type" ms with
  | none => exact reports_singleton (fun h => nomatch h) fun _ => rfl
  | some t =>
    refine .cons rfl ?_
    rw [Option.toList_some, List.flatMap_singleton, ← List.append_nil (Check.ofAttributeType t)]
    exact (AttributeType.ofJson_reports t).bind fun _ _ => .ok _

/-- A type lookup is read with its checks. -/
theorem TypeLookup.ofJson_reports (j : Json) :
    Reports (Check.ofTypeLookup j) (TypeLookup.ofJson j) := by
  refine (Part.membersAndName_reports _ _ j).bind ?_
  rintro ⟨ms, name⟩ h
  obtain ⟨rfl, hname⟩ := Part.members_eq_and_nameOf_eq h
  rw [hname, ← List.append_nil (Check.ofMember _ _ _)]
  exact (forwardDeclarability_reports name _ ms).bind fun _ _ => .ok _

/-- A value type is read with its checks. -/
theorem ValueType.ofJson_reports (j : Json) :
    Reports (Check.ofValueType j) (ValueType.ofJson j) := by
  simp only [Check.ofValueType, List.append_assoc]
  refine (Part.membersAndName_reports _ _ j).bind ?_
  rintro ⟨ms, name⟩ h
  obtain ⟨rfl, -⟩ := Part.members_eq_and_nameOf_eq h
  -- The checks look for items in the description, and the reader has taken them out.
  have hitems {key : Text} {items : List Json} (hread : listMember key ms = .ok items) :
      (Json.object ms).itemsAt key = items := by
    unfold Json.itemsAt Json.members
    rcases listMember_eq_ok.1 hread with ⟨hnone, rfl⟩ | hsome
    · rw [hnone]
      rfl
    · rw [hsome]
      rfl
  refine (listMember_reports _ ms).bind fun is his => ?_
  rw [hitems his]
  refine (allTexts_reports is).bind fun texts _ => ?_
  refine (listMember_reports _ ms).bind fun as has => ?_
  rw [hitems has]
  refine (Reports.mapM fun a _ => Attribute.ofJson_reports a).bind fun attributes _ => ?_
  refine (listMember_reports _ ms).bind fun ls hls => ?_
  rw [hitems hls, ← List.append_nil (ls.flatMap _)]
  exact (Reports.mapM fun l _ => TypeLookup.ofJson_reports l).bind fun _ _ => .ok _

/-! ## Messages -/

/-- A value is shown in a message as a text. What stands in a list or in an object is shown by the
same rules, with commas between. -/
inductive Json.IsShownAs : Json → String → Prop where
  /-- Null is shown by a word. -/
  | null : IsShownAs .null "None"
  /-- True is shown by a word. -/
  | yes : IsShownAs (.bool true) "True"
  /-- False is shown by a word. -/
  | no : IsShownAs (.bool false) "False"
  /-- A whole number is shown by its digits. -/
  | int (n : Int) : IsShownAs (.int n) (toString n)
  /-- Any other number is shown in the style of messages. -/
  | float (x : Binary64) : IsShownAs (.float x) (literalNumber.text x)
  /-- A text is quoted. -/
  | text (s : Text) : IsShownAs (.text s) (Text.quoted s)
  /-- A list shows its items. -/
  | list {xs : List Json} {shown : List String} (h : List.Forall₂ IsShownAs xs shown) :
    IsShownAs (.list xs) ("[" ++ ", ".intercalate shown ++ "]")
  /-- An object shows its members, with their names quoted. -/
  | object {ms : List (Text × Json)} {shown : List String}
    (h : List.Forall₂ IsShownAs (ms.map Prod.snd) shown) :
    IsShownAs (.object ms) ("\x7b" ++
      ", ".intercalate (List.zipWith (fun m s => Text.quoted m.1 ++ ": " ++ s) ms shown) ++ "\x7d")

namespace Json

/-- Items are written with commas between them. -/
theorem literalItems_eq (xs : List Json) : literalItems xs = ", ".intercalate (xs.map literal) := by
  induction xs with
  | nil => rfl
  | cons x xs ih =>
    cases xs with
    | nil => exact String.intercalate_singleton.symm
    | cons y xs =>
      rw [literalItems, ih]
      simp only [List.map_cons, String.intercalate_cons_cons]

/-- Members are written with commas between them. -/
theorem literalMembers_eq (ms : List (Text × Json)) :
    literalMembers ms = ", ".intercalate (List.zipWith (fun m s => Text.quoted m.1 ++ ": " ++ s) ms
      ((ms.map Prod.snd).map literal)) := by
  induction ms with
  | nil => rfl
  | cons m ms ih =>
    obtain ⟨k, v⟩ := m
    cases ms with
    | nil => exact String.intercalate_singleton.symm
    | cons n ms =>
      rw [literalMembers, ih]
      simp only [List.map_cons, List.zipWith_cons_cons, String.intercalate_cons_cons]

mutual

/-- The literal of a value shows it. -/
theorem isShownAs_literal : ∀ j : Json, j.IsShownAs j.literal
  | .null => .null
  | .bool true => .yes
  | .bool false => .no
  | .int n => .int n
  | .float x => .float x
  | .text s => .text s
  | .list xs => by
    rw [literal, literalItems_eq]
    exact .list (isShownAs_literalItems xs)
  | .object ms => by
    rw [literal, literalMembers_eq]
    exact .object (isShownAs_literalMembers ms)

/-- The literals of items show them. -/
theorem isShownAs_literalItems : ∀ xs : List Json, List.Forall₂ IsShownAs xs (xs.map literal)
  | [] => .nil
  | x :: xs => .cons (isShownAs_literal x) (isShownAs_literalItems xs)

/-- The literals of the values of members show them. -/
theorem isShownAs_literalMembers :
    ∀ ms : List (Text × Json),
      List.Forall₂ IsShownAs (ms.map Prod.snd) ((ms.map Prod.snd).map literal)
  | [] => .nil
  | (_, v) :: ms => .cons (isShownAs_literal v) (isShownAs_literalMembers ms)

end

end Json

namespace Check

/-- The text of a check is the message for its fault. -/
def IsTold (c : Check) : Prop := c.fault.message = c.text

/-- The kind of a value is told by its word. -/
theorem kind_eq_kindWord (j : Json) : j.kind = kindWord j := by
  cases j <;> rfl

variable {cs : List Check}

/-- If each check tells its text then so does the first one that is not passed. -/
theorem firstText_eq (h : ∀ c ∈ cs, c.IsTold) :
    firstText cs = (firstFault cs).map DescriptionFault.message := by
  unfold firstText firstFault
  cases hc : cs.find? (!·.passes) with
  | none => rfl
  | some c => exact congrArg some (h c (List.mem_of_find?_eq_some hc)).symm

/-- The checks of a name tell their texts, if the words are those for the part. -/
theorem isTold_ofName {part : Part} {words key : Text} (hwords : part.words = words)
    (hkey : part.nameKey = key) (j : Json) : ∀ c ∈ ofName part words key j, c.IsTold := by
  subst hwords hkey
  refine List.forall_mem_cons.2 ⟨?_, List.forall_mem_singleton.2 rfl⟩
  show (DescriptionFault.notObject part j).message = _
  rw [DescriptionFault.message, kind_eq_kindWord]

/-- The checks of a member tell their texts if the check of each value does. -/
theorem isTold_ofMember {check : Json → Check} (h : ∀ found, (check found).IsTold) (key : Text)
    (j : Json) : ∀ c ∈ ofMember key check j, c.IsTold := by
  intro c hc
  obtain ⟨found, -, rfl⟩ := List.mem_map.1 hc
  exact h found

/-- The check of a list member tells its text. -/
theorem isTold_ofList (key : Text) (j : Json) : ∀ c ∈ ofList key j, c.IsTold := by
  refine isTold_ofMember (fun found => ?_) key j
  show (DescriptionFault.notList key found).message = _
  rw [DescriptionFault.message, kind_eq_kindWord]

/-- The check of a nullability tells its text. -/
theorem isTold_ofNullability (name : Text) (found : Json) : (ofNullability name found).IsTold := by
  have hwords : Text.ofString "; expected one of inherited, nullable, nonnull" =
      "; expected one of " ++ List.intercalate ", " (Nullability.all.map Nullability.word) := by
    decide
  show (DescriptionFault.unknownNullability name found).message = (ofNullability name found).text
  rw [DescriptionFault.message, ofNullability, hwords]
  simp only [List.append_assoc]

/-- The checks of a type tell their texts. -/
theorem isTold_ofAttributeType (j : Json) : ∀ c ∈ ofAttributeType j, c.IsTold :=
  isTold_ofName rfl rfl j

/-- The checks of an attribute tell their texts. -/
theorem isTold_ofAttribute (j : Json) : ∀ c ∈ ofAttribute j, c.IsTold := by
  have hname : ∀ c ∈ ofName .attr "attribute" "name" j, c.IsTold := isTold_ofName rfl rfl j
  have hnullability := isTold_ofMember (isTold_ofNullability (nameOf .attr j)) "nullability" j
  have hpresence := List.forall_mem_singleton.2
    (show (ofPresence (nameOf .attr j) (member? "type" j.members)).IsTold from rfl)
  have htype : ∀ c ∈ (member? "type" j.members).toList.flatMap ofAttributeType, c.IsTold := by
    intro c hc
    obtain ⟨t, -, ht⟩ := List.mem_flatMap.1 hc
    exact isTold_ofAttributeType t c ht
  simp only [ofAttribute, List.forall_mem_append]
  exact ⟨⟨⟨hname, hnullability⟩, hpresence⟩, htype⟩

/-- The checks of a type lookup tell their texts. -/
theorem isTold_ofTypeLookup (j : Json) : ∀ c ∈ ofTypeLookup j, c.IsTold := by
  have hname : ∀ c ∈ ofName .typeLookup "type lookup" "name" j, c.IsTold := isTold_ofName rfl rfl j
  have hdeclarability (found : Json) : (ofDeclarability (nameOf .typeLookup j) found).IsTold := rfl
  exact List.forall_mem_append.2 ⟨hname, isTold_ofMember hdeclarability "canForwardDeclare" j⟩

/-- All checks of a value type tell their texts. -/
theorem isTold_ofValueType (j : Json) : ∀ c ∈ ofValueType j, c.IsTold := by
  have hname : ∀ c ∈ ofName .valueType "value type" "typeName" j, c.IsTold :=
    isTold_ofName rfl rfl j
  have hincludes := List.forall_mem_singleton.2
    (show (ofIncludes (j.itemsAt "includes")).IsTold from rfl)
  have hattributes : ∀ c ∈ (j.itemsAt "attributes").flatMap ofAttribute, c.IsTold := by
    intro c hc
    obtain ⟨a, -, ha⟩ := List.mem_flatMap.1 hc
    exact isTold_ofAttribute a c ha
  have htypeLookups : ∀ c ∈ (j.itemsAt "typeLookups").flatMap ofTypeLookup, c.IsTold := by
    intro c hc
    obtain ⟨l, -, hl⟩ := List.mem_flatMap.1 hc
    exact isTold_ofTypeLookup l c hl
  simp only [ofValueType, List.forall_mem_append]
  exact ⟨⟨⟨⟨⟨⟨hname, isTold_ofList _ j⟩, hincludes⟩, isTold_ofList _ j⟩, hattributes⟩,
    isTold_ofList _ j⟩, htypeLookups⟩

end Check

/-- A description is refused with the text of the first check that is not passed. -/
theorem ValueType.firstText_eq_some_iff (j : Json) (text : Text) :
    Check.firstText (Check.ofValueType j) = some text ↔
      ∃ e, ValueType.ofJson j = .error e ∧ e.message = text := by
  rw [Check.firstText_eq (Check.isTold_ofValueType j), Option.map_eq_some_iff]
  exact exists_congr fun e => and_congr_left fun _ => (ofJson_reports j e).symm

/-! ## Acceptance -/

/-- A description is accepted exactly if it has the shape of a value type, and then the value type
is what is read from its members. If it is not accepted then the fault is that of the first check
that is not passed, and its message is the text of that check. Where the text shows the value that
was found, it does so by the rules of `Json.IsShownAs`. -/
theorem ValueType.ofJson_spec (j : Json) :
    ((∃ v, ValueType.ofJson j = .ok v) ↔ j.IsValueType) ∧
    (∀ v, ValueType.ofJson j = .ok v ↔ ∃ ms, j = .object ms ∧ v.IsReadFrom ms) ∧
    (∀ e, ValueType.ofJson j = .error e ↔ Check.firstFault (Check.ofValueType j) = some e) ∧
    (∀ text, (∃ e, ValueType.ofJson j = .error e ∧ e.message = text) ↔
      Check.firstText (Check.ofValueType j) = some text) ∧
    ∀ found : Json, found.IsShownAs found.literal :=
  ⟨exists_ofJson_eq_ok, fun _ => ofJson_eq_ok, ofJson_reports j,
    fun text => (firstText_eq_some_iff j text).symm, Json.isShownAs_literal⟩

end ValueBuilder
