import ValueBuilder.Proofs.Generation

/-!
# How imports account for the attributes

Three rules decide together whether the type of an attribute is imported: type lookups go first,
types of the language need no import, and the imports of attributes may be left out altogether.
`ValueType.Accounted` lists the ways in which a type is accounted for, and
`ValueType.accounted_of_builderImports` says that one of them applies to every attribute.

A type that is unresolved needs its definition wherever it is used. `ValueType.exists_publicImport`
follows it through the ways that are left: its header is imported publicly unless the imports of
attributes are left out, or the description itself says by its lookups that a declaration is enough.
-/

namespace ValueBuilder

open Traversal
open ObjC (ForwardDeclaration Import)

/-! ## Headers -/

/-- An import is that of the header for a type: the file and the library that are given, or else the
file that goes by the name of the type, and another library. -/
def ObjC.Import.IsHeaderFor (i : Import) (name : Text) (file library other : Json) : Prop :=
  i.file = (if file.isGiven then file else .text (name ++ ".h")) ∧
    i.library = (if library.isGiven then library else other)

instance {i : Import} {name : Text} {file library other : Json} :
    Decidable (i.IsHeaderFor name file library other) :=
  inferInstanceAs (Decidable (_ ∧ _))

/-- The own import of an attribute is that of the header for its type. -/
theorem Attribute.isHeaderFor_ownImport (a : Attribute) (library : Json) (isPublic : Bool) :
    (a.ownImport library isPublic).IsHeaderFor a.type.name a.type.file a.type.library library :=
  ⟨rfl, rfl⟩

/-- The import of a lookup is that of the header for its type. -/
theorem TypeLookup.isHeaderFor_toImport (l : TypeLookup) (library : Json) (isPublic : Bool) :
    (l.toImport library isPublic).IsHeaderFor l.name l.file l.library library :=
  ⟨rfl, rfl⟩

namespace ValueType

variable {v : ValueType} {d : Directives} {p : Policy} {is : List Import} {a : Attribute}

/-! ## Ways to account for a type -/

/-- How the imports of a builder account for the type of an attribute. -/
inductive Accounted (v : ValueType) (d : Directives) (p : Policy) (is : List Import)
    (a : Attribute) : Prop where
  /-- A lookup of the type cannot be forward declared, and its header is imported publicly. -/
  | defined (l : TypeLookup) (mem : l ∈ v.typeLookups) (name : l.name = a.type.name)
      (definition : l.canForwardDeclare = false) (imported : l.toImport v.libraryName true ∈ is)
  /-- There are lookups of the type, and all of them can be forward declared. -/
  | declared (l : TypeLookup) (mem : l ∈ v.typeLookups) (name : l.name = a.type.name)
      (declarable : ∀ k ∈ v.typeLookups, k.name = a.type.name → k.canForwardDeclare = true)
  /-- The language has the type. -/
  | ofLanguage (mem : a.type.name ∈ p.primitiveTypes)
  /-- The type has no lookup, and the imports of attributes are left out. -/
  | omitted (lookups : ∀ l ∈ v.typeLookups, l.name ≠ a.type.name)
      (omits : d.omitsAttributeImports = true)
  /-- The attribute has its import. -/
  | imported (i : Import) (mem : i ∈ is)
      (ok : a.toImport p v.libraryName d.importsInHeader = .ok i)

/-- A lookup that cannot be forward declared has a public import. -/
theorem mem_lookupImports {l : TypeLookup} (hl : l ∈ v.typeLookups)
    (h : l.canForwardDeclare = false) : l.toImport v.libraryName true ∈ v.lookupImports d := by
  refine List.mem_filterMap.2 ⟨l, hl, ?_⟩
  rw [TypeLookup.neededImport?, h]
  rfl

/-- An attribute needs an import of its own if neither a lookup nor the language has its type. -/
theorem needsImport_eq_true_iff {lookups : List TypeLookup} :
    a.needsImport p lookups = true ↔
      (∀ l ∈ lookups, l.name ≠ a.type.name) ∧ a.type.name ∉ p.primitiveTypes := by
  simp [Attribute.needsImport, Policy.requiresHeader]

/-- An attribute that needs an import has it unless the imports of attributes are left out. -/
theorem exists_mem_attributeImports {js : List Import} (h : v.attributeImports d p = .ok js)
    (homits : d.omitsAttributeImports = false) (ha : a ∈ v.attributes)
    (hneeds : a.needsImport p v.typeLookups = true) :
    ∃ i ∈ js, a.toImport p v.libraryName d.importsInHeader = .ok i := by
  rw [attributeImports, homits, if_neg Bool.false_ne_true] at h
  have hmem : a ∈ v.attributes.filter (·.needsImport p v.typeLookups) :=
    List.mem_filter.2 ⟨ha, hneeds⟩
  obtain ⟨i, hi⟩ := exists_mapM_eq_ok.1 ⟨js, h⟩ a hmem
  exact ⟨i, (mem_iff_of_mapM_eq_ok h).2 ⟨a, hmem, hi⟩, hi⟩

/-- The imports of a builder account for the type of every attribute. -/
theorem accounted_of_builderImports (h : v.builderImports d p = .ok is) (ha : a ∈ v.attributes) :
    v.Accounted d p is a := by
  obtain ⟨js, hjs, rfl⟩ := builderImports_eq_ok.1 h
  -- The filters of the imports in order: lookups, the language, and the directives.
  by_cases hlookup : ∃ l ∈ v.typeLookups, l.name = a.type.name
  · by_cases hdef : ∃ l ∈ v.typeLookups, l.name = a.type.name ∧ l.canForwardDeclare = false
    · obtain ⟨l, hl, hname, hd⟩ := hdef
      exact .defined l hl hname hd
        (List.mem_append_left _ (List.mem_append_right _ (mem_lookupImports hl hd)))
    · obtain ⟨l, hl, hname⟩ := hlookup
      refine .declared l hl hname fun k hk hkname => ?_
      rw [← Bool.not_eq_false]
      exact fun hkd => hdef ⟨k, hk, hkname, hkd⟩
  · have hnone : ∀ l ∈ v.typeLookups, l.name ≠ a.type.name := fun l hl hname =>
      hlookup ⟨l, hl, hname⟩
    by_cases hlanguage : a.type.name ∈ p.primitiveTypes
    · exact .ofLanguage hlanguage
    · cases homits : d.omitsAttributeImports with
      | true => exact .omitted hnone homits
      | false =>
        obtain ⟨i, hi, hok⟩ :=
          exists_mem_attributeImports hjs homits ha (needsImport_eq_true_iff.2 ⟨hnone, hlanguage⟩)
        exact .imported i (List.mem_append_right _ hi) hok

/-! ## Declarations -/

/-- A lookup that can be forward declared is declared. -/
theorem mem_builderDeclarations_of_lookup {ds : List ForwardDeclaration} {l : TypeLookup}
    (h : v.builderDeclarations p = .ok ds) (hl : l ∈ v.typeLookups)
    (hdecl : l.canForwardDeclare = true) : .ofClass l.name ∈ ds := by
  obtain ⟨cs, -, ps, -, rfl⟩ := builderDeclarations_eq_ok.1 h
  refine List.mem_cons_of_mem _ (List.mem_append_left _ (List.mem_append_left _ ?_))
  exact List.mem_map.2 ⟨l, List.mem_filter.2 ⟨hl, hdecl⟩, rfl⟩

/-! ## Types that need their definition -/

/-- The import of an attribute of an unresolved type is public, and that of the header for the
type, whatever the directives are. -/
theorem toImport_of_unresolved {library : Json} {isPublic : Bool} {i : Import}
    (hc : p.categoryOf a.type = .ok .unresolved) (h : a.toImport p library isPublic = .ok i) :
    i.isPublic = true ∧ i.IsHeaderFor a.type.name a.type.file a.type.library library := by
  have hplatform : p.platformImport? a.type.name = none :=
    Policy.platformImport?_eq_none_of_not_settlesByName (Policy.not_settlesByName_of_unresolved hc)
  rcases Attribute.toImport_eq_ok.1 h with hknown | ⟨-, b, hb, rfl⟩
  · rw [hplatform] at hknown
    cases hknown
  · have hpublic : a.publicity p isPublic = .ok true := by
      cases isPublic with
      | true => rfl
      | false => exact Policy.needsDefinition_eq_ok.2 ⟨_, hc, rfl⟩
    rw [hpublic, Except.ok.injEq] at hb
    subst hb
    exact ⟨rfl, a.isHeaderFor_ownImport library true⟩

/-- Some import is public and that of the header for the type of an attribute: its own header, or
that of a lookup of the type. -/
def HasPublicImport (v : ValueType) (is : List Import) (a : Attribute) : Prop :=
  ∃ i ∈ is, i.isPublic = true ∧
    (i.IsHeaderFor a.type.name a.type.file a.type.library v.libraryName ∨
      ∃ l ∈ v.typeLookups, l.name = a.type.name ∧
        i.IsHeaderFor l.name l.file l.library v.libraryName)

instance : Decidable (v.HasPublicImport is a) :=
  inferInstanceAs (Decidable (∃ i ∈ is, _))

/-- A value type with one attribute, whose type is neither known nor referred to by a pointer. -/
def opaqueHolder (includes : List Text) (typeLookups : List TypeLookup) : ValueType where
  typeName := "A"
  attributes := [{ name := "x", type := { name := "Opaque", reference := .text "Opaque" } }]
  includes := includes
  typeLookups := typeLookups

/-- The imports of a builder account for every unresolved type. They have a public import for it,
with two exceptions. The imports of attributes are left out, and no lookup has the type. Or lookups
have the type, all of them say that it can be forward declared, and then it is. -/
theorem exists_publicImport (v : ValueType) (d : Directives) (p : Policy) :
    ((∀ a ∈ v.attributes, a.type.HasStorage) → ∃ is, v.builderImports d p = .ok is) ∧
    ∀ is, v.builderImports d p = .ok is →
      ∀ a ∈ v.attributes, p.categoryOf a.type = .ok .unresolved →
        v.HasPublicImport is a ∨
        (d.useForwardDeclarations = true ∧ d.skipImportsInImplementation = true ∧
          ∀ l ∈ v.typeLookups, l.name ≠ a.type.name) ∨
        ((∃ l ∈ v.typeLookups, l.name = a.type.name) ∧
          (∀ l ∈ v.typeLookups, l.name = a.type.name → l.canForwardDeclare = true) ∧
          ∀ ds, v.builderDeclarations p = .ok ds → .ofClass a.type.name ∈ ds) := by
  refine ⟨fun h => exists_builderImports_eq_ok fun a ha =>
    Policy.exists_categoryOf_eq_ok.2 (.inr (h a ha)), fun is his a ha hc => ?_⟩
  cases accounted_of_builderImports his ha with
  | defined l hl hname _ himported =>
    exact .inl ⟨_, himported, rfl, .inr ⟨l, hl, hname, l.isHeaderFor_toImport _ _⟩⟩
  | declared l hl hname hdecl =>
    refine .inr (.inr ⟨⟨l, hl, hname⟩, hdecl, fun ds hds => ?_⟩)
    rw [← hname]
    exact mem_builderDeclarations_of_lookup hds hl (hdecl l hl hname)
  | ofLanguage hlanguage =>
    -- A type of the language is classified by its name, so it is never unresolved.
    have hheader := Policy.requiresHeader_of_not_settlesByName
      (Policy.not_settlesByName_of_unresolved hc)
    simp [Policy.requiresHeader, hlanguage] at hheader
  | omitted hnone homits =>
    rw [Directives.omitsAttributeImports, Bool.and_eq_true] at homits
    exact .inr (.inl ⟨homits.1, homits.2, hnone⟩)
  | imported i hi hok =>
    obtain ⟨hpublic, hheader⟩ := toImport_of_unresolved hc hok
    exact .inl ⟨i, hi, hpublic, .inl hheader⟩

/-- The unresolved type is imported publicly even if forward declarations are in use. -/
theorem exists_publicImport_opaqueHolder :
    (∀ a ∈ (opaqueHolder [] []).attributes,
      a.type.HasStorage ∧ Policy.standard.categoryOf a.type = .ok .unresolved) ∧
    ∃ is, (opaqueHolder [] []).builderImports { useForwardDeclarations := true } .standard =
        .ok is ∧
      ∀ a ∈ (opaqueHolder [] []).attributes, (opaqueHolder [] []).HasPublicImport is a := by
  have hstorage : ∀ a ∈ (opaqueHolder [] []).attributes, a.type.HasStorage := by decide
  have hunresolved : ∀ a ∈ (opaqueHolder [] []).attributes,
      Policy.standard.categoryOf a.type = .ok .unresolved := by
    decide
  obtain ⟨hexists, hpublic⟩ :=
    exists_publicImport (opaqueHolder [] []) { useForwardDeclarations := true } .standard
  obtain ⟨is, his⟩ := hexists hstorage
  refine ⟨fun a ha => ⟨hstorage a ha, hunresolved a ha⟩, is, his, fun a ha => ?_⟩
  rcases hpublic is his a ha (hunresolved a ha) with h | ⟨-, hskip, -⟩ | ⟨⟨l, hl, -⟩, -⟩
  · exact h
  · cases hskip
  · cases hl

/-- The builder has no public import for some attribute of an unresolved type. -/
def LacksPublicImport (v : ValueType) (p : Policy) : Prop :=
  ∃ a ∈ v.attributes, p.categoryOf a.type = .ok .unresolved ∧
    ∃ is, v.builderImports (.ofIncludes v.includes) p = .ok is ∧ ¬ v.HasPublicImport is a

/-- The unresolved type is not imported publicly if the imports of attributes are left out, and
neither is it if a lookup says that it can be forward declared. -/
theorem lacksPublicImport_opaqueHolder :
    (opaqueHolder ["UseForwardDeclarations", "SkipImportsInImplementation"] []).LacksPublicImport
        .standard ∧
      (opaqueHolder [] [{ name := "Opaque" }]).LacksPublicImport .standard := by
  constructor
  · exact ⟨_, List.mem_singleton_self _, by decide, _, rfl, by decide⟩
  · exact ⟨_, List.mem_singleton_self _, by decide, _, rfl, by decide⟩

end ValueType

end ValueBuilder
