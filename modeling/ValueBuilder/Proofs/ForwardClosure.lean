import Mathlib.Data.List.Infix
import ValueBuilder.Proofs.HeaderClosure

/-!
# What a header makes known with forward declarations

With forward declarations in use the imports of attributes leave the header, and declarations take
their place. `ValueType.HeaderKnows` is what the header of a builder has to do for the type of an
attribute, and `ValueType.header_closure_forwardDeclarations` follows each category of types through
it. A type that has a lookup is declared or imported for it, and a class is declared. What is left
are types of the platform, which are never declared. They depend on their header, so there are two
kinds of them for which the header may do nothing: those whose header is not in the table, since any
other header is imported privately, and those whose header is in the table, but is not the one that
every builder imports, if the imports of attributes are left out.
-/

namespace ValueBuilder

open Traversal
open ObjC (CodeFile ForwardDeclaration Import)

/-- A line of a text is a part of it. -/
theorem Text.HasLine.isInfix {text line : Text} (h : text.HasLine line) : line <:+: text := by
  obtain ⟨before, after, htext, -⟩ := h
  refine ⟨before, Text.ofString "\n" ++ after, ?_⟩
  rw [htext, List.append_assoc (before ++ line)]

namespace Policy

variable {p : Policy} {t : AttributeType}

/-- A type of the platform whose header is not in the table is one of the language, a number, or it
starts like a name of the platform. -/
theorem mem_or_isPlatformName {name : Text} (h : p.isBuiltInName name = true)
    (hnone : p.platformImport? name = none) :
    name ∈ p.primitiveTypes ∨ name ∈ p.scalarTypes ∨ p.isPlatformName name = true := by
  rw [isBuiltInName, hnone] at h
  simpa [or_assoc] using h

/-- A header of the standard platform is public. -/
theorem isPublic_of_platformImport?_standard {name : Text} {i : Import}
    (h : standard.platformImport? name = some i) : i.isPublic = true := by
  have hall : ∀ m ∈ standard.wellKnownImports, m.2.isPublic = true := by decide +kernel
  exact hall _ (mem_of_platformImport?_eq_some h)

/-- A number of the standard platform is one of the language, or its header is in the table. -/
theorem mem_primitiveTypes_of_scalarTypes_standard {name : Text}
    (h : name ∈ standard.scalarTypes) (hnone : standard.platformImport? name = none) :
    name ∈ standard.primitiveTypes := by
  have hheader : ∀ name ∈ platformNumberTypes,
      (standard.platformImport? name).isSome = true := by
    decide +kernel
  rcases List.mem_append.1 h with hnumber | hplatform
  · exact List.mem_append_right _ hnumber
  · have hsome := hheader name hplatform
    rw [hnone] at hsome
    cases hsome

end Policy

namespace ValueType

variable {v : ValueType} {p : Policy} {f : CodeFile} {a : Attribute}

/-- The header of a builder makes the type of an attribute known: it declares the type as a class,
or it imports a header for it, that of the platform, that of the attribute, or that of a lookup of
the type. -/
def HeaderKnows (v : ValueType) (p : Policy) (f : CodeFile) (a : Attribute) : Prop :=
  f.header.HasLine ("@class " ++ a.type.name ++ ";") ∨
  ∃ i : Import, i.isPublic = true ∧ f.header.HasLine i.code ∧
    (p.platformImport? a.type.name = some i ∨
      i.IsHeaderFor a.type.name a.type.file a.type.library v.libraryName ∨
      ∃ l ∈ v.typeLookups, l.name = a.type.name ∧
        i.IsHeaderFor l.name l.file l.library v.libraryName)

/-- A type that is declared is known. -/
theorem headerKnows_of_declaration (h : .ofClass a.type.name ∈ f.forwardDeclarations) :
    v.HeaderKnows p f a := by
  rw [HeaderKnows, ← ForwardDeclaration.code_ofClass]
  exact .inl (CodeFile.hasLine_header_of_declaration h)

/-- A type that has a lookup is known: it is declared if the lookup allows it, and its header is
imported if not. -/
theorem headerKnows_of_lookup (h : v.builderFile p = .ok f) {l : TypeLookup}
    (hl : l ∈ v.typeLookups) (hname : l.name = a.type.name) : v.HeaderKnows p f a := by
  cases hdeclarable : l.canForwardDeclare with
  | true =>
    apply headerKnows_of_declaration
    rw [← hname]
    exact mem_builderDeclarations_of_lookup (builderDeclarations_of_builderFile h) hl hdeclarable
  | false =>
    obtain ⟨js, -, himports⟩ := imports_of_builderFile h
    have hmem : l.toImport v.libraryName true ∈ f.imports := by
      rw [← himports]
      exact List.mem_append_left _ (List.mem_append_right _ (mem_lookupImports hl hdeclarable))
    exact .inr ⟨_, rfl, CodeFile.hasLine_header_of_import hmem rfl,
      .inr (.inr ⟨l, hl, hname, l.isHeaderFor_toImport _ _⟩)⟩

/-- A class is known: it is declared. -/
theorem headerKnows_of_userClass (h : v.builderFile p = .ok f) (ha : a ∈ v.attributes)
    (hc : p.categoryOf a.type = .ok .userClass) : v.HeaderKnows p f a := by
  obtain ⟨cs, hcs, ps, -, hds⟩ :=
    builderDeclarations_eq_ok.1 (builderDeclarations_of_builderFile h)
  have hdeclared : some (.ofClass a.type.name) ∈ cs :=
    (mem_iff_of_mapM_eq_ok hcs).2
      ⟨a, ha, Attribute.classDeclaration?_eq_ok.2 ⟨_, hc, if_pos rfl⟩⟩
  apply headerKnows_of_declaration
  rw [← hds]
  exact List.mem_cons_of_mem _ (List.mem_append_left _ (List.mem_append_right _
    (List.mem_filterMap.2 ⟨_, hdeclared, rfl⟩)))

/-- An attribute that needs an import has it in the file unless the imports of attributes are left
out. -/
theorem exists_mem_imports (h : v.builderFile p = .ok f) (ha : a ∈ v.attributes)
    (hneeds : a.needsImport p v.typeLookups = true)
    (homits : (Directives.ofIncludes v.includes).omitsAttributeImports = false) :
    ∃ i ∈ f.imports, a.toImport p v.libraryName (Directives.ofIncludes v.includes).importsInHeader =
      .ok i := by
  obtain ⟨js, hjs, himports⟩ := imports_of_builderFile h
  obtain ⟨i, hi, hok⟩ := exists_mem_attributeImports hjs homits ha hneeds
  rw [← himports]
  exact ⟨i, List.mem_append_right _ hi, hok⟩

/-- A type of the platform whose header is in the table is known if that is the one which every
builder imports, or if the imports of attributes are not left out. -/
theorem headerKnows_of_platformImport? (h : v.builderFile p = .ok f) (ha : a ∈ v.attributes)
    {i : Import} (hi : p.platformImport? a.type.name = some i) (hpublic : i.isPublic = true)
    (hneeds : a.needsImport p v.typeLookups = true)
    (himported : i = Policy.foundation ∨
      (Directives.ofIncludes v.includes).omitsAttributeImports = false) :
    v.HeaderKnows p f a := by
  have hmem : i ∈ f.imports := by
    rcases himported with rfl | homits
    · obtain ⟨js, -, himports⟩ := imports_of_builderFile h
      rw [← himports]
      exact List.mem_append_left _ (List.mem_append_left _ List.mem_cons_self)
    · obtain ⟨j, hj, hok⟩ := exists_mem_imports h ha hneeds homits
      -- The table goes first, so the import of the attribute is that of the platform.
      rcases Attribute.toImport_eq_ok.1 hok with hknown | ⟨hnone, -⟩
      · rw [hi, Option.some.injEq] at hknown
        rw [hknown]
        exact hj
      · rw [hi] at hnone
        cases hnone
  exact .inr ⟨i, hpublic, CodeFile.hasLine_header_of_import hmem hpublic, .inl hi⟩

/-- A type whose header is not in the table is known without forward declarations: its own header is
imported publicly. -/
theorem headerKnows_of_not_useForwardDeclarations (h : v.builderFile p = .ok f)
    (ha : a ∈ v.attributes) (hnone : p.platformImport? a.type.name = none)
    (hneeds : a.needsImport p v.typeLookups = true)
    (huse : (Directives.ofIncludes v.includes).useForwardDeclarations = false) :
    v.HeaderKnows p f a := by
  have homits : (Directives.ofIncludes v.includes).omitsAttributeImports = false := by
    rw [Directives.omitsAttributeImports, huse, Bool.false_and]
  obtain ⟨i, hi, hok⟩ := exists_mem_imports h ha hneeds homits
  rw [Directives.importsInHeader, huse] at hok
  rcases Attribute.toImport_eq_ok.1 hok with hknown | ⟨-, b, hb, rfl⟩
  · rw [hnone] at hknown
    cases hknown
  · cases hb
    exact .inr ⟨_, rfl, CodeFile.hasLine_header_of_import hi rfl,
      .inr (.inl (a.isHeaderFor_ownImport _ _))⟩

/-- A file is made of every value type whose members are texts. Its header makes the type of every
attribute known, whatever the directives are, if the type is none of the language and not
unresolved. Nothing is said about two kinds of types of the platform that have no lookup, with
forward declarations in use: those whose header is not in the table, and, if the imports of
attributes are left out too, those whose header is in the table but is not that of Foundation. -/
theorem header_closure_forwardDeclarations (v : ValueType) :
    (v.IsTextual → ∃ f, v.builderFile .standard = .ok f) ∧
    ∀ f, v.builderFile .standard = .ok f →
      ∀ a ∈ v.attributes, a.type.name ∉ Policy.standard.primitiveTypes →
        Policy.standard.categoryOf a.type ≠ .ok .unresolved →
        v.HeaderKnows .standard f a ∨
        Text.ofString "UseForwardDeclarations" ∈ v.includes ∧
          (∀ l ∈ v.typeLookups, l.name ≠ a.type.name) ∧
          (Policy.standard.platformImport? a.type.name = none ∧
              Policy.standard.isPlatformName a.type.name = true ∨
            Text.ofString "SkipImportsInImplementation" ∈ v.includes ∧
              ∃ i, Policy.standard.platformImport? a.type.name = some i ∧
                i ≠ Policy.foundation) := by
  refine ⟨fun htextual => exists_builderFile_eq_ok.2 fun a ha =>
    Attribute.isSupported_of_isTextual (htextual a ha), fun f h a ha hlanguage hc => ?_⟩
  by_cases hlookup : ∃ l ∈ v.typeLookups, l.name = a.type.name
  · obtain ⟨l, hl, hname⟩ := hlookup
    exact .inl (headerKnows_of_lookup h hl hname)
  have hnone : ∀ l ∈ v.typeLookups, l.name ≠ a.type.name := fun l hl hname =>
    hlookup ⟨l, hl, hname⟩
  have hneeds := needsImport_eq_true_iff.2 ⟨hnone, hlanguage⟩
  obtain ⟨c, hcategory⟩ := Policy.exists_categoryOf_eq_ok.2
    (exists_builderFile_eq_ok.1 ⟨f, h⟩ a ha).category
  rcases Policy.categoryOf_eq_ok.1 hcategory with ⟨hbare, -⟩ | ⟨-, hbuiltIn, -⟩ | ⟨hn, s, hs, hclass⟩
  · -- The type of a bare protocol is one of the language.
    rw [hbare.2] at hlanguage
    exact absurd (by decide) hlanguage
  · cases hi : Policy.standard.platformImport? a.type.name with
    | none =>
      cases huse : (Directives.ofIncludes v.includes).useForwardDeclarations with
      | false => exact .inl (headerKnows_of_not_useForwardDeclarations h ha hi hneeds huse)
      | true =>
        rcases Policy.mem_or_isPlatformName hbuiltIn hi with hp | hs | hp
        · exact absurd hp hlanguage
        · exact absurd (Policy.mem_primitiveTypes_of_scalarTypes_standard hs hi) hlanguage
        · exact .inr ⟨by simpa [Directives.ofIncludes] using huse, hnone, .inl ⟨rfl, hp⟩⟩
    | some i =>
      have hpublic := Policy.isPublic_of_platformImport?_standard hi
      by_cases hfoundation : i = Policy.foundation
      · exact .inl (headerKnows_of_platformImport? h ha hi hpublic hneeds (.inl hfoundation))
      cases homits : (Directives.ofIncludes v.includes).omitsAttributeImports with
      | false => exact .inl (headerKnows_of_platformImport? h ha hi hpublic hneeds (.inr homits))
      | true =>
        rw [Directives.omitsAttributeImports, Bool.and_eq_true] at homits
        refine .inr ⟨by simpa [Directives.ofIncludes] using homits.1, hnone, .inr ⟨?_, i, rfl,
          hfoundation⟩⟩
        simpa [Directives.ofIncludes] using homits.2
  · split at hclass
    · subst hclass
      exact .inl (headerKnows_of_userClass h ha hcategory)
    · subst hclass
      exact absurd hcategory hc

/-- The gathering with forward declarations in use and the imports of attributes left out. -/
def declaredGathering : ValueType :=
  { gathering with includes := ["UseForwardDeclarations", "SkipImportsInImplementation"] }

/-- The header for the gathering makes the classes of its title and its host known, although the
imports of attributes are left out. -/
theorem header_closure_forwardDeclarations_gathering :
    declaredGathering.IsTextual ∧
    ∃ f, declaredGathering.builderFile .standard = .ok f ∧
      ∀ a ∈ declaredGathering.attributes, a.name = "title" ∨ a.name = "host" →
        a.type.name ∉ Policy.standard.primitiveTypes ∧
        Policy.standard.categoryOf a.type ≠ .ok .unresolved ∧
        declaredGathering.HeaderKnows .standard f a := by
  have htextual : declaredGathering.IsTextual := by decide
  obtain ⟨hexists, hknows⟩ := header_closure_forwardDeclarations declaredGathering
  obtain ⟨f, hf⟩ := hexists htextual
  have hkind : ∀ a ∈ declaredGathering.attributes, a.name = "title" ∨ a.name = "host" →
      a.type.name ∉ Policy.standard.primitiveTypes ∧
      Policy.standard.categoryOf a.type ≠ .ok .unresolved ∧
      (Policy.standard.platformImport? a.type.name = some Policy.foundation ∨
        Policy.standard.platformImport? a.type.name = none ∧
          Policy.standard.isPlatformName a.type.name = false) := by
    decide +kernel
  refine ⟨htextual, f, hf, fun a ha hname => ?_⟩
  obtain ⟨hlanguage, hc, hheader⟩ := hkind a ha hname
  refine ⟨hlanguage, hc, ?_⟩
  rcases hknows f hf a ha hlanguage hc with hknown | ⟨-, -, ⟨hnone, hp⟩ | ⟨-, i, hi, hne⟩⟩
  · exact hknown
  · rcases hheader with hfoundation | ⟨-, hp'⟩
    · rw [hnone] at hfoundation
      cases hfoundation
    · rw [hp'] at hp
      cases hp
  · rcases hheader with hfoundation | ⟨hnone, -⟩
    · rw [hi, Option.some.injEq] at hfoundation
      exact absurd hfoundation hne
    · rw [hi] at hnone
      cases hnone

/-- The header leaves the type of some attribute unknown, although the type is neither one of the
language nor unresolved. -/
def LeavesUnknown (v : ValueType) (p : Policy) : Prop :=
  v.IsTextual ∧ ∃ f, v.builderFile p = .ok f ∧ ∃ a ∈ v.attributes,
    a.type.name ∉ p.primitiveTypes ∧ p.categoryOf a.type ≠ .ok .unresolved ∧ ¬ v.HeaderKnows p f a

/-- A header that has no line for a declaration of a type and no line for either of its headers
leaves the type unknown, if no lookup has it. -/
theorem not_headerKnows (hlookups : v.typeLookups = [])
    (hdeclaration : ¬ (ForwardDeclaration.ofClass a.type.name).code <:+: f.header)
    (hplatform : ∀ i ∈ p.platformImport? a.type.name, ¬ i.code <:+: f.header)
    (hown : ¬ (a.ownImport v.libraryName true).code <:+: f.header) : ¬ v.HeaderKnows p f a := by
  rintro (hline | ⟨i, hpublic, hline, hknown | ⟨hfile, hlibrary⟩ | ⟨l, hl, -⟩⟩)
  · exact hdeclaration hline.isInfix
  · exact hplatform i hknown hline.isInfix
  · have hi : i = a.ownImport v.libraryName true := by
      cases i
      cases hpublic
      cases hfile
      cases hlibrary
      rfl
    exact hown (hi ▸ hline.isInfix)
  · rw [hlookups] at hl
    cases hl

/-- A value type with one attribute, which is a pointer to a class. -/
def pointerHolder (typeName : Text) (includes : List Text) : ValueType where
  typeName := "A"
  attributes := [{ name := "x", type := {
    name := typeName, reference := .text (typeName ++ " *") } }]
  includes := includes

/-- A class that starts like a name of the platform is left unknown with forward declarations in
use, and one of UIKit is if the imports of attributes are left out too. -/
theorem leavesUnknown_pointerHolder :
    (pointerHolder "NSFooBar" ["UseForwardDeclarations"]).LeavesUnknown .standard ∧
      (pointerHolder "UIColor"
        ["UseForwardDeclarations", "SkipImportsInImplementation"]).LeavesUnknown .standard := by
  constructor
  · refine ⟨by decide, _, rfl, _, List.mem_singleton_self _, by decide +kernel, by decide +kernel, ?_⟩
    exact not_headerKnows rfl (by decide +kernel) (by decide +kernel) (by decide +kernel)
  · refine ⟨by decide, _, rfl, _, List.mem_singleton_self _, by decide +kernel, by decide +kernel, ?_⟩
    exact not_headerKnows rfl (by decide +kernel) (by decide +kernel) (by decide +kernel)

end ValueType

end ValueBuilder
