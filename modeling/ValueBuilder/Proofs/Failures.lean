import ValueBuilder.Command.Run
import ValueBuilder.Proofs.Generation

/-!
# When a builder cannot be made

A builder fails at a reference that is no text, and nowhere else, as long as the other members that
name a type or a protocol are texts where they are given (`AttributeType.NamesTexts`). The reference
is read on several paths: for the category of the type, for the publicity of its import, for its
declaration and for the decision to copy. Each path stops at that one fault
(`Attribute.Blamed`), so whichever of them comes first, the fault is the same.

`ValueType.builderFile_fails_iff` says exactly when a builder fails. A reference is not read if the
name of the type classifies it and nothing is copied. A builder that was made in this way has a
header and a summary, but its implementation shows the reference and fails.
-/

namespace ValueBuilder

namespace Traversal

variable {ε α β : Type} {P : ε → Prop}

/-- A step fails with no other faults than those of a kind. -/
def FailsOnly (P : ε → Prop) (x : Except ε α) : Prop := ∀ e, x = .error e → P e

/-- A step that has a result does not fail. -/
theorem failsOnly_ok (a : α) : FailsOnly P (.ok a : Except ε α) := fun _ h => nomatch h

/-- Two steps fail with no other faults if neither of them does. -/
theorem FailsOnly.bind {x : Except ε α} {f : α → Except ε β} (hx : FailsOnly P x)
    (hf : ∀ a, x = .ok a → FailsOnly P (f a)) : FailsOnly P (x >>= f) := by
  cases x with
  | error e =>
    intro e' h
    cases h
    exact hx e rfl
  | ok a => exact hf a rfl

/-- A traversal fails with no other faults if no element does. -/
theorem FailsOnly.mapM {f : α → Except ε β} {xs : List α} (h : ∀ x ∈ xs, FailsOnly P (f x)) :
    FailsOnly P (xs.mapM f) := by
  induction xs with
  | nil => exact failsOnly_ok []
  | cons x xs ih =>
    obtain ⟨hhead, htail⟩ := List.forall_mem_cons.1 h
    rw [List.mapM_cons]
    exact hhead.bind fun _ _ => (ih htail).bind fun _ _ => failsOnly_ok _

/-- A step fails if it has no result. -/
theorem exists_error_iff {x : Except ε α} : (∃ e, x = .error e) ↔ ¬ ∃ a, x = .ok a := by
  cases x <;> simp

end Traversal

open Traversal
open ObjC (CodeFile Property)

/-- Values are copied unless the directives say otherwise. -/
theorem Directives.valueSemantics_ofIncludes {includes : List Text} :
    (Directives.ofIncludes includes).valueSemantics = true ↔
      Text.ofString "NoValueSemantics" ∉ includes := by
  simp [Directives.ofIncludes]

/-! ## Faults of one attribute -/

namespace AttributeType

/-- The members of a type that name another type or a protocol are texts if they are given. -/
structure NamesTexts (t : AttributeType) : Prop where
  /-- An underlying type is a text. -/
  underlyingType : t.underlyingType.isGiven = true → ∃ s, t.underlyingType = .text s
  /-- A protocol is a text. -/
  conformingProtocol : t.conformingProtocol.isGiven = true → ∃ s, t.conformingProtocol = .text s

instance (t : AttributeType) : Decidable t.NamesTexts :=
  decidable_of_iff
    ((t.underlyingType.isGiven = true → ∃ s, t.underlyingType = .text s) ∧
      (t.conformingProtocol.isGiven = true → ∃ s, t.conformingProtocol = .text s))
    ⟨fun ⟨hu, hc⟩ => ⟨hu, hc⟩, fun ⟨hu, hc⟩ => ⟨hu, hc⟩⟩

/-- The fault at the reference of a type: it is no text. -/
def Blamed (t : AttributeType) (f : Fault) : Prop :=
  (∀ s, t.reference ≠ .text s) ∧ f = .referenceNotText t.name

variable {t : AttributeType}

/-- The reference of a type is read, or it is no text. -/
theorem referenceText_failsOnly : FailsOnly t.Blamed t.referenceText := by
  intro f h
  unfold referenceText at h
  unfold Blamed
  cases hr : t.reference <;> simp_all

/-- The effective name of a type can be searched for. -/
theorem searchedName_failsOnly (h : t.NamesTexts) : FailsOnly t.Blamed t.searchedName := by
  rw [searchedName, isCompound_effectiveName h.underlyingType]
  exact failsOnly_ok _

end AttributeType

namespace Policy

variable {p : Policy} {t : AttributeType} {a : Attribute}

/-- The storage of a type is not told for its reference. -/
theorem storageOf_failsOnly (h : t.NamesTexts) : FailsOnly t.Blamed (p.storageOf t) :=
  AttributeType.referenceText_failsOnly.bind fun _ _ =>
    (AttributeType.searchedName_failsOnly h).bind fun _ _ => failsOnly_ok _

/-- The category of a type is not told for its reference. -/
theorem categoryOf_failsOnly (h : t.NamesTexts) : FailsOnly t.Blamed (p.categoryOf t) := by
  unfold categoryOf
  split
  · exact failsOnly_ok _
  · split
    · exact failsOnly_ok _
    · exact (storageOf_failsOnly h).bind fun _ _ => failsOnly_ok _

/-- Whether values are copied is not told for a reference. -/
theorem copiesIncoming_failsOnly (h : a.type.NamesTexts) (valueSemantics : Bool) :
    FailsOnly a.type.Blamed (p.copiesIncoming valueSemantics a) := by
  unfold copiesIncoming
  split
  · refine (storageOf_failsOnly h).bind fun s _ => ?_
    cases s <;> exact failsOnly_ok _
  · exact failsOnly_ok _

/-- A protocol that is a text if it is given is declared or not. -/
theorem forwardProtocol?_failsOnly (h : a.type.NamesTexts) :
    FailsOnly a.type.Blamed (p.forwardProtocol? a) := by
  obtain ⟨o, ho⟩ := (exists_forwardProtocol?_eq_ok (p := p)).2 fun hg =>
    .inl (h.conformingProtocol hg)
  rw [ho]
  exact failsOnly_ok o

/-- A type is the platform's by its name: it stands in the table of headers, it is one of the
language or a number, or it starts like a name of the platform. -/
theorem isBuiltInName_iff {name : Text} :
    p.isBuiltInName name = true ↔
      (∃ i, (name, i) ∈ p.wellKnownImports) ∨ name ∈ p.primitiveTypes ∨ name ∈ p.scalarTypes ∨
        p.isPlatformName name = true := by
  have htable : (p.platformImport? name).isSome = true ↔ ∃ i, (name, i) ∈ p.wellKnownImports := by
    rw [platformImport?, List.lookup_isSome_iff]
    constructor
    · rintro ⟨m, hm, hname⟩
      rw [beq_iff_eq] at hname
      exact ⟨m.2, by rw [hname]; exact hm⟩
    · rintro ⟨i, hi⟩
      exact ⟨_, hi, beq_self_eq_true name⟩
  unfold isBuiltInName
  rw [Bool.or_eq_true, Bool.or_eq_true, Bool.or_eq_true, htable, List.contains_iff_mem,
    List.contains_iff_mem, or_assoc, or_assoc]

/-- A type is not classified by its name alone if it is neither a bare protocol nor the
platform's. -/
theorem not_settlesByName_iff :
    ¬ p.SettlesByName t ↔
      ¬ (t.name = "id" ∧ t.conformingProtocol.isGiven = true) ∧
      ¬ ((∃ i, (t.name, i) ∈ p.wellKnownImports) ∨ t.name ∈ p.primitiveTypes ∨
        t.name ∈ p.scalarTypes ∨ p.isPlatformName t.name = true) := by
  rw [SettlesByName, not_or, IsBareProtocol, and_comm (b := t.name = "id"), isBuiltInName_iff]

end Policy

namespace Attribute

variable {p : Policy} {a : Attribute}

/-- The import of an attribute fails at its reference. -/
theorem toImport_failsOnly (h : a.type.NamesTexts) (library : Json) (isPublic : Bool) :
    FailsOnly a.type.Blamed (a.toImport p library isPublic) := by
  unfold toImport
  split
  · exact failsOnly_ok _
  · dsimp only
    split
    · exact failsOnly_ok _
    · exact ((Policy.categoryOf_failsOnly h).bind fun _ _ => failsOnly_ok _).bind fun _ _ =>
        failsOnly_ok _

/-- The declaration of the class of an attribute fails at its reference. -/
theorem classDeclaration?_failsOnly (h : a.type.NamesTexts) :
    FailsOnly a.type.Blamed (a.classDeclaration? p) := by
  refine FailsOnly.bind ?_ fun _ _ => failsOnly_ok _
  exact (Policy.categoryOf_failsOnly h).bind fun _ _ => failsOnly_ok _

/-- The declaration of the protocol of an attribute does not fail. -/
theorem protocolDeclaration?_failsOnly (h : a.type.NamesTexts) :
    FailsOnly a.type.Blamed (a.protocolDeclaration? p) :=
  (Policy.forwardProtocol?_failsOnly h).bind fun _ _ => failsOnly_ok _

/-- The method for an attribute fails at its reference. -/
theorem setterUnder_failsOnly (h : a.type.NamesTexts) (d : Directives) :
    FailsOnly a.type.Blamed (a.setterUnder d p) :=
  (Policy.copiesIncoming_failsOnly h d.valueSemantics).bind fun _ _ => failsOnly_ok _

/-- An attribute has a reference that is no text, and the reference is read: values are copied, or
the type is not classified by its name. -/
theorem not_isSupported_iff {valueSemantics : Bool} (h : a.type.NamesTexts) :
    ¬ a.IsSupported p valueSemantics ↔
      (∀ s, a.type.reference ≠ .text s) ∧
        (valueSemantics = true ∨ ¬ p.SettlesByName a.type) := by
  have hstorage : a.type.HasStorage ↔ ∃ s, a.type.reference = .text s :=
    ⟨fun hs => hs.reference, fun hr =>
      ⟨hr, AttributeType.isCompound_effectiveName h.underlyingType⟩⟩
  have hsupported : a.IsSupported p valueSemantics ↔
      (p.SettlesByName a.type ∨ a.type.HasStorage) ∧
        (valueSemantics = true → a.type.HasStorage) :=
    ⟨fun hs => ⟨hs.category, hs.storage⟩, fun hs =>
      ⟨hs.1, fun hg => .inl (h.conformingProtocol hg), hs.2⟩⟩
  rw [hsupported, hstorage, ← not_exists]
  by_cases hr : ∃ s, a.type.reference = .text s
  · simp only [hr, or_true, implies_true, and_self, not_true_eq_false, false_and]
  · simp only [hr, or_false, imp_false, not_false_eq_true, true_and, not_and_or, not_not]
    exact or_comm

end Attribute

/-! ## Faults of a builder -/

namespace ValueType

variable {v : ValueType} {p : Policy}

/-- The fault at the reference of one of the attributes. -/
def Blamed (v : ValueType) (f : Fault) : Prop := ∃ a ∈ v.attributes, a.type.Blamed f

/-- If a question to each attribute fails only at its reference, then so does asking all of them. -/
theorem mapM_failsOnly {α : Type} {f : Attribute → Except Fault α} {as : List Attribute}
    (hsub : ∀ a ∈ as, a ∈ v.attributes) (h : ∀ a ∈ as, FailsOnly a.type.Blamed (f a)) :
    FailsOnly v.Blamed (as.mapM f) :=
  .mapM fun a ha e he => ⟨a, hsub a ha, h a ha e he⟩

/-- A builder fails at a reference. -/
theorem builderFile_failsOnly (h : ∀ a ∈ v.attributes, a.type.NamesTexts) :
    FailsOnly v.Blamed (v.builderFile p) := by
  have himports (d : Directives) : FailsOnly v.Blamed (v.builderImports d p) := by
    refine FailsOnly.bind ?_ fun _ _ => failsOnly_ok _
    unfold attributeImports
    split
    · exact failsOnly_ok _
    · exact mapM_failsOnly (fun a ha => List.mem_of_mem_filter ha) fun a ha =>
        Attribute.toImport_failsOnly (h a (List.mem_of_mem_filter ha)) _ _
  have hdeclarations : FailsOnly v.Blamed (v.builderDeclarations p) := by
    have hclasses := mapM_failsOnly (v := v) (fun _ ha => ha) fun a ha =>
      Attribute.classDeclaration?_failsOnly (p := p) (h a ha)
    have hprotocols := mapM_failsOnly (v := v) (fun _ ha => ha) fun a ha =>
      Attribute.protocolDeclaration?_failsOnly (p := p) (h a ha)
    exact hclasses.bind fun _ _ => hprotocols.bind fun _ _ => failsOnly_ok _
  have hclass (d : Directives) : FailsOnly v.Blamed (v.builderClass d p) := by
    have hsetters := mapM_failsOnly (v := v) (fun _ ha => ha) fun a ha =>
      Attribute.setterUnder_failsOnly (p := p) (h a ha) d
    exact hsetters.bind fun _ _ => failsOnly_ok _
  -- A file is its imports, its declarations and its class, in this order.
  exact (himports _).bind fun _ _ => hdeclarations.bind fun _ _ => (hclass _).bind fun _ _ =>
    failsOnly_ok _

/-- A value type with one attribute, whose reference is null. -/
def nullHolder (typeName : Text) (includes : List Text) : ValueType where
  typeName := "A"
  attributes := [{ name := "x", type := { name := typeName, reference := .null } }]
  includes := includes

/-- When a builder fails, and what of a builder that was made can be shown. The underlying types and
the protocols have to be texts if they are given.

A builder fails exactly if some attribute has a reference that is no text and it is read. It is if
values are copied. If they are not, it is unless the name of the type classifies it: the type is a
bare protocol or the platform's. The fault is that at such a reference. A builder that was made has
a header and a summary, and an implementation unless some reference is no text. -/
theorem builderFile_fails_iff (h : ∀ a ∈ v.attributes,
    (a.type.underlyingType.isGiven = true → ∃ s, a.type.underlyingType = .text s) ∧
    (a.type.conformingProtocol.isGiven = true → ∃ s, a.type.conformingProtocol = .text s)) :
    ((∃ f, v.builderFile p = .error f) ↔
      ∃ a ∈ v.attributes, (∀ s, a.type.reference ≠ .text s) ∧
        (Text.ofString "NoValueSemantics" ∉ v.includes ∨
          ¬ (a.type.name = "id" ∧ a.type.conformingProtocol.isGiven = true) ∧
          ¬ ((∃ i, (a.type.name, i) ∈ p.wellKnownImports) ∨ a.type.name ∈ p.primitiveTypes ∨
            a.type.name ∈ p.scalarTypes ∨ p.isPlatformName a.type.name = true))) ∧
    (∀ f, v.builderFile p = .error f →
      ∃ a ∈ v.attributes, (∀ s, a.type.reference ≠ .text s) ∧
        f = .referenceNotText a.type.name) ∧
    ∀ f, v.builderFile p = .ok f →
      (∃ text, Command.Subcommand.header.show f = .ok text) ∧ (∃ s, f.summary = .ok s) ∧
      ((∃ e, f.implementation = .error e) ↔
        ∃ a ∈ v.attributes, ∀ s, a.type.reference ≠ .text s) := by
  have htexts : ∀ a ∈ v.attributes, a.type.NamesTexts := fun a ha => ⟨(h a ha).1, (h a ha).2⟩
  refine ⟨?_, builderFile_failsOnly htexts, fun f hf => ⟨⟨_, rfl⟩, exists_summary_eq_ok hf, ?_⟩⟩
  · rw [exists_error_iff, exists_builderFile_eq_ok, not_forall]
    refine exists_congr fun a => ?_
    rw [Classical.not_imp]
    refine and_congr_right fun ha => ?_
    rw [Attribute.not_isSupported_iff (htexts a ha), Directives.valueSemantics_ofIncludes,
      Policy.not_settlesByName_iff]
  · rw [exists_error_iff, exists_implementation_iff hf]
    simp only [not_forall, not_exists, exists_prop]

/-- A null reference of a class makes the builder fail. That of a type which the platform has does
not if nothing is copied, but then there is no implementation. -/
theorem builderFile_fails_nullHolder :
    (∃ f, (nullHolder "Person" []).builderFile .standard = .error f) ∧
    ∃ f, (nullHolder "NSString" ["NoValueSemantics"]).builderFile .standard = .ok f ∧
      (∃ s, f.summary = .ok s) ∧ ∃ e, f.implementation = .error e := by
  have htexts (typeName : Text) (includes : List Text) :
      ∀ a ∈ (nullHolder typeName includes).attributes,
        (a.type.underlyingType.isGiven = true → ∃ s, a.type.underlyingType = .text s) ∧
        (a.type.conformingProtocol.isGiven = true → ∃ s, a.type.conformingProtocol = .text s) := by
    intro a ha
    rw [List.mem_singleton.1 ha]
    exact ⟨nofun, nofun⟩
  constructor
  · have hfails := (builderFile_fails_iff (p := .standard) (htexts "Person" [])).1
    exact hfails.2 ⟨_, List.mem_singleton_self _, nofun, .inl List.not_mem_nil⟩
  · -- The table has a header for the type, and the directive turns copies off.
    have hmade : ∃ f, (nullHolder "NSString" ["NoValueSemantics"]).builderFile .standard =
        .ok f :=
      ⟨_, rfl⟩
    obtain ⟨f, hf⟩ := hmade
    obtain ⟨-, -, hshown⟩ :=
      builderFile_fails_iff (p := .standard) (htexts "NSString" ["NoValueSemantics"])
    obtain ⟨-, hsummary, himplementation⟩ := hshown f hf
    exact ⟨f, hf, hsummary, himplementation.2 ⟨_, List.mem_singleton_self _, nofun⟩⟩

end ValueType

end ValueBuilder
