import ValueBuilder.Policy.Basic
import ValueBuilder.Proofs.Traversal

/-!
# What a policy answers

For each question to a `Policy`, when it has an answer and which one. A question fails only where it
comes to a member of the type that holds something else than a text. `AttributeType.HasStorage` is
what it takes to tell the storage of a type, and `Policy.SettlesByName` is when a type is classified
without asking for its storage. `AttributeType.IsTextual` is what a description promises by its
shape, and it is enough for every question.
-/

namespace ValueBuilder

open Traversal

instance (j : Json) : Decidable (∃ s, j = .text s) :=
  decidable_of_iff (j.text?.isSome = true) (by cases j <;> simp [Json.text?])

namespace AttributeType

/-- The storage of a type can be told: its reference is a text, and tables can be searched for its
effective name. -/
structure HasStorage (t : AttributeType) : Prop where
  /-- The reference is a text. -/
  reference : ∃ s, t.reference = .text s
  /-- The effective name is no list and no object. -/
  effectiveName : t.effectiveName.isCompound = false

/-- A type whose members are texts: its reference, and its underlying type and its protocol if they
are given. -/
structure IsTextual (t : AttributeType) : Prop where
  /-- The reference is a text. -/
  reference : ∃ s, t.reference = .text s
  /-- An underlying type is a text. -/
  underlyingType : t.underlyingType.isGiven = true → ∃ s, t.underlyingType = .text s
  /-- A protocol is a text. -/
  conformingProtocol : t.conformingProtocol.isGiven = true → ∃ s, t.conformingProtocol = .text s

instance (t : AttributeType) : Decidable t.HasStorage :=
  decidable_of_iff ((∃ s, t.reference = .text s) ∧ t.effectiveName.isCompound = false)
    ⟨fun ⟨hr, hn⟩ => ⟨hr, hn⟩, fun ⟨hr, hn⟩ => ⟨hr, hn⟩⟩

instance (t : AttributeType) : Decidable t.IsTextual :=
  decidable_of_iff
    ((∃ s, t.reference = .text s) ∧
      (t.underlyingType.isGiven = true → ∃ s, t.underlyingType = .text s) ∧
      (t.conformingProtocol.isGiven = true → ∃ s, t.conformingProtocol = .text s))
    ⟨fun ⟨hr, hu, hc⟩ => ⟨hr, hu, hc⟩, fun ⟨hr, hu, hc⟩ => ⟨hr, hu, hc⟩⟩

/-- The reference of a type is there to be read if it is a text. -/
theorem referenceText_eq_ok {t : AttributeType} {s : Text} :
    t.referenceText = .ok s ↔ t.reference = .text s := by
  unfold referenceText
  cases t.reference <;> simp

/-- The effective name of a type is searched for unless it is a list or an object. -/
theorem searchedName_eq_ok {t : AttributeType} {name : Json} :
    t.searchedName = .ok name ↔ t.effectiveName.isCompound = false ∧ t.effectiveName = name := by
  unfold searchedName
  cases t.effectiveName.isCompound <;> simp

/-- The effective name of a type is a text if an underlying type is one. -/
theorem isCompound_effectiveName {t : AttributeType}
    (h : t.underlyingType.isGiven = true → ∃ s, t.underlyingType = .text s) :
    t.effectiveName.isCompound = false := by
  unfold effectiveName
  cases hg : t.underlyingType.isGiven with
  | false => rw [Json.orElse_of_not_isGiven hg]; rfl
  | true =>
    obtain ⟨s, hs⟩ := h hg
    rw [Json.orElse_of_isGiven hg, hs]
    rfl

/-- The storage of a type can be told if its members are texts. -/
theorem IsTextual.hasStorage {t : AttributeType} (h : t.IsTextual) : t.HasStorage :=
  ⟨h.reference, isCompound_effectiveName h.underlyingType⟩

end AttributeType

namespace Policy

variable {p : Policy} {t : AttributeType} {a : Attribute}

/-- A type is a bare protocol: any object that conforms to a protocol. -/
def IsBareProtocol (t : AttributeType) : Prop :=
  t.conformingProtocol.isGiven = true ∧ t.name = "id"

/-- A type is classified by its name alone: it is a bare protocol or the platform's. -/
def SettlesByName (p : Policy) (t : AttributeType) : Prop :=
  IsBareProtocol t ∨ p.isBuiltInName t.name = true

/-- The storage of a type is that of its effective name and its reference. -/
theorem storageOf_eq_ok {s : Storage} :
    p.storageOf t = .ok s ↔ ∃ reference, t.reference = .text reference ∧
      t.effectiveName.isCompound = false ∧ p.storageFor t.effectiveName reference = s := by
  unfold storageOf
  simp only [bind_eq_ok, pure_eq_ok, AttributeType.referenceText_eq_ok,
    AttributeType.searchedName_eq_ok]
  constructor
  · rintro ⟨r, hr, _, ⟨hn, rfl⟩, hs⟩
    exact ⟨r, hr, hn, hs⟩
  · rintro ⟨r, hr, hn, hs⟩
    exact ⟨r, hr, _, ⟨hn, rfl⟩, hs⟩

/-- When a type has a storage. -/
theorem exists_storageOf_eq_ok : (∃ s, p.storageOf t = .ok s) ↔ t.HasStorage := by
  simp only [storageOf_eq_ok]
  constructor
  · rintro ⟨_, r, hr, hn, -⟩
    exact ⟨⟨r, hr⟩, hn⟩
  · rintro ⟨⟨r, hr⟩, hn⟩
    exact ⟨_, r, hr, hn, rfl⟩

/-- The category of a type, in the order in which the rules are tried. -/
theorem categoryOf_eq_ok {c : Category} :
    p.categoryOf t = .ok c ↔
      IsBareProtocol t ∧ .ofProtocol = c ∨
      ¬ IsBareProtocol t ∧ p.isBuiltInName t.name = true ∧ .builtIn = c ∨
      ¬ p.SettlesByName t ∧ ∃ s, p.storageOf t = .ok s ∧
        (if s = .object then .userClass else .unresolved) = c := by
  have hbare : (t.conformingProtocol.isGiven && t.name == "id") = true ↔ IsBareProtocol t := by
    rw [Bool.and_eq_true, beq_iff_eq, IsBareProtocol]
  unfold categoryOf SettlesByName
  -- The rules are tried in the order of the code, and each case excludes the ones before it.
  by_cases hp : IsBareProtocol t
  · rw [if_pos (hbare.2 hp)]
    simp [hp]
  · rw [if_neg (mt hbare.1 hp)]
    by_cases hb : p.isBuiltInName t.name = true
    · simp [hp, hb]
    · rw [if_neg hb, bind_eq_ok]
      simp [hp, hb]

/-- When a type has a category. -/
theorem exists_categoryOf_eq_ok :
    (∃ c, p.categoryOf t = .ok c) ↔ p.SettlesByName t ∨ t.HasStorage := by
  rw [← exists_storageOf_eq_ok (p := p)]
  simp only [categoryOf_eq_ok]
  constructor
  · rintro ⟨c, ⟨hp, -⟩ | ⟨-, hb, -⟩ | ⟨-, s, hs, -⟩⟩
    · exact .inl (.inl hp)
    · exact .inl (.inr hb)
    · exact .inr ⟨s, hs⟩
  · intro h
    by_cases hp : IsBareProtocol t
    · exact ⟨_, .inl ⟨hp, rfl⟩⟩
    · by_cases hb : p.isBuiltInName t.name = true
      · exact ⟨_, .inr (.inl ⟨hp, hb, rfl⟩)⟩
      · have hn : ¬ p.SettlesByName t := not_or.2 ⟨hp, hb⟩
        obtain ⟨s, hs⟩ := h.resolve_left hn
        exact ⟨_, .inr (.inr ⟨hn, s, hs, rfl⟩)⟩

/-- A header of the platform stands in the table. -/
theorem mem_of_platformImport?_eq_some {name : Text} {i : ObjC.Import}
    (h : p.platformImport? name = some i) : (name, i) ∈ p.wellKnownImports := by
  obtain ⟨before, after, htable, -⟩ := List.lookup_eq_some_iff.1 h
  rw [htable]
  exact List.mem_append_right _ List.mem_cons_self

/-- A type whose definition is needed is no type that a name alone classifies. -/
theorem not_settlesByName_of_unresolved (h : p.categoryOf t = .ok .unresolved) :
    ¬ p.SettlesByName t := by
  rcases categoryOf_eq_ok.1 h with ⟨-, hc⟩ | ⟨-, -, hc⟩ | ⟨hn, -⟩
  · cases hc
  · cases hc
  · exact hn

/-- A type that no name classifies has no header of the platform. -/
theorem platformImport?_eq_none_of_not_settlesByName (h : ¬ p.SettlesByName t) :
    p.platformImport? t.name = none := by
  cases hi : p.platformImport? t.name with
  | none => rfl
  | some i =>
    refine absurd (.inr ?_) h
    simp [isBuiltInName, hi]

/-- A type that no name classifies is none of the language. -/
theorem requiresHeader_of_not_settlesByName (h : ¬ p.SettlesByName t) :
    p.requiresHeader t.name = true := by
  cases hc : p.primitiveTypes.contains t.name with
  | false => rw [requiresHeader, hc]; rfl
  | true =>
    refine absurd (.inr ?_) h
    simp only [isBuiltInName, hc, Bool.or_true, Bool.true_or]

/-- When it is known whether values of a type are copied. -/
theorem exists_copies_eq_ok : (∃ b, p.copies t = .ok b) ↔ t.HasStorage := by
  rw [← exists_storageOf_eq_ok (p := p)]
  unfold copies
  simp only [bind_eq_ok]
  constructor
  · rintro ⟨_, s, hs, -⟩
    exact ⟨s, hs⟩
  · rintro ⟨s, hs⟩
    cases s <;> exact ⟨_, _, hs, rfl⟩

/-- When it is known whether the value of an attribute is copied: always without value semantics. -/
theorem exists_copiesIncoming_eq_ok {valueSemantics : Bool} :
    (∃ b, p.copiesIncoming valueSemantics a = .ok b) ↔
      (valueSemantics = true → a.type.HasStorage) := by
  unfold copiesIncoming
  cases valueSemantics with
  | false => simp
  | true => simpa using exists_copies_eq_ok

/-- An attribute can be forward declared if its type is a class. -/
theorem isForwardDeclarable_eq_ok {b : Bool} :
    p.isForwardDeclarable a = .ok b ↔
      ∃ c, p.categoryOf a.type = .ok c ∧ decide (c = .userClass) = b := by
  unfold isForwardDeclarable
  simp only [bind_eq_ok, pure_eq_ok]

/-- An attribute needs the definition of its type if the type is neither a class nor known. -/
theorem needsDefinition_eq_ok {b : Bool} :
    p.needsDefinition a = .ok b ↔
      ∃ c, p.categoryOf a.type = .ok c ∧ decide (c = .unresolved) = b := by
  unfold needsDefinition
  simp only [bind_eq_ok, pure_eq_ok]

/-- A protocol that is a text is declared unless it is empty or the platform's. -/
theorem forwardProtocol?_of_text {name : Text} (h : a.type.conformingProtocol = .text name) :
    p.forwardProtocol? a =
      .ok (if name = [] ∨ p.isPlatformName name = true then none else some (.text name)) := by
  unfold forwardProtocol? isPlatformProtocol
  rw [h]
  cases name with
  | nil => rfl
  | cons c cs =>
    -- The text says something, so the question of the platform is asked, and it has an answer.
    have hne : (c :: cs) ≠ [] := List.cons_ne_nil c cs
    simp only [Json.isGiven_text, List.isEmpty_cons, Bool.not_false, if_true, bind_eq_ok,
      pure_eq_ok, Except.ok.injEq, hne, false_or]
    exact ⟨_, rfl, rfl⟩

/-- When it is known whether a protocol is declared for an attribute. -/
theorem exists_forwardProtocol?_eq_ok :
    (∃ o, p.forwardProtocol? a = .ok o) ↔
      (a.type.conformingProtocol.isGiven = true →
        (∃ s, a.type.conformingProtocol = .text s) ∨ p.systemPrefixes = []) := by
  unfold forwardProtocol? isPlatformProtocol
  cases hg : a.type.conformingProtocol.isGiven with
  | false => simp
  | true =>
    -- Only a text has prefixes. Without prefixes to compare, any protocol passes.
    simp only [if_true, bind_eq_ok, pure_eq_ok, forall_const]
    cases a.type.conformingProtocol with
    | text s => simp
    | _ => cases p.systemPrefixes <;> simp

end Policy

end ValueBuilder
