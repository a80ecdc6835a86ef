import ValueBuilder.Proofs.HeaderLines
import ValueBuilder.Proofs.Imports

/-!
# What a header makes known

The header of a builder mentions the types of the attributes, so it has to make them known.
`ValueType.header_closure` says how it does if forward declarations are not in use: the language has
the type, or the header has a line that declares it as a class or imports a header for it. The
protocols of the attributes are declared by lines of their own, whatever the directives are.

The proof follows `ValueType.Accounted`. Each way to account for a type leaves a public import or a
declaration in the file, and `ObjC.CodeFile.header_eq` finds the line for it in the text, even if
another import has the same text.
-/

namespace ValueBuilder

open Traversal
open ObjC (CodeFile ForwardDeclaration Import)

/-- The text of a class declaration. -/
theorem ObjC.ForwardDeclaration.code_ofClass (name : Text) :
    (ForwardDeclaration.ofClass name).code = "@class " ++ name ++ ";" := rfl

/-- The text of a protocol declaration. -/
theorem ObjC.ForwardDeclaration.code_ofProtocol (name : Text) :
    (ForwardDeclaration.ofProtocol (.text name)).code = "@protocol " ++ name ++ ";" := rfl

namespace ValueType

variable {v : ValueType} {p : Policy} {f : CodeFile} {a : Attribute}

/-- A protocol of an attribute is declared unless it is the platform's. -/
theorem mem_builderDeclarations_of_protocol {ds : List ForwardDeclaration} {name : Text}
    (h : v.builderDeclarations p = .ok ds) (ha : a ∈ v.attributes)
    (hname : a.type.conformingProtocol = .text name) (hne : name ≠ [])
    (hplatform : p.isPlatformName name = false) : .ofProtocol (.text name) ∈ ds := by
  obtain ⟨cs, -, ps, hps, rfl⟩ := builderDeclarations_eq_ok.1 h
  have hforward : p.forwardProtocol? a = .ok (some (.text name)) := by
    rw [Policy.forwardProtocol?_of_text hname, if_neg (by simp [hne, hplatform])]
  have hdecl : some (ForwardDeclaration.ofProtocol (.text name)) ∈ ps :=
    (mem_iff_of_mapM_eq_ok hps).2
      ⟨a, ha, Attribute.protocolDeclaration?_eq_ok.2 ⟨_, hforward, rfl⟩⟩
  exact List.mem_cons_of_mem _ (List.mem_append_right _ (List.mem_filterMap.2 ⟨_, hdecl, rfl⟩))

/-- A public import that an attribute has without forward declarations is that of the platform, or
that of the header for the type. -/
theorem toImport_public {library : Json} {i : Import}
    (hplatform : ∀ m ∈ p.wellKnownImports, m.2.isPublic = true)
    (h : a.toImport p library true = .ok i) :
    i.isPublic = true ∧ (p.platformImport? a.type.name = some i ∨
      i.IsHeaderFor a.type.name a.type.file a.type.library library) := by
  rcases Attribute.toImport_eq_ok.1 h with hknown | ⟨-, b, hb, rfl⟩
  · exact ⟨hplatform _ (Policy.mem_of_platformImport?_eq_some hknown), .inl hknown⟩
  · cases hb
    exact ⟨rfl, .inr (a.isHeaderFor_ownImport library true)⟩

/-- A value type with attributes of all kinds: of a class of the platform, a number, a class, a type
that only its header defines, a type that has a lookup, and an object that conforms to a protocol. -/
def gathering : ValueType where
  typeName := "Gathering"
  attributes := [
    { name := "title", type := { name := "NSString", reference := .text "NSString *" } },
    { name := "size", type := { name := "int", reference := .text "int" } },
    { name := "host", type := { name := "Person", reference := .text "Person *" } },
    { name := "place", type := {
      name := "Place", reference := .text "Place", file := .text "Places.h" } },
    { name := "mood", type := { name := "Mood", reference := .text "Mood" } },
    { name := "greeter", type := {
      name := "id", reference := .text "id<Greeter>", conformingProtocol := .text "Greeter" } }]
  typeLookups := [{ name := "Mood", canForwardDeclare := false }]

/-- The header of a builder that was made makes the types of the attributes known. Without forward
declarations in use, and if the imports of the platform are public, each type is one of the
language, or declared as a class, or a header for it is imported: that of the platform, that of the
attribute, or that of a lookup of the type which cannot be forward declared. And whatever the
directives are, every protocol of an attribute is declared unless it is the platform's. -/
theorem header_closure (h : v.builderFile p = .ok f) :
    ((∀ m ∈ p.wellKnownImports, m.2.isPublic = true) →
      Text.ofString "UseForwardDeclarations" ∉ v.includes →
      ∀ a ∈ v.attributes,
        a.type.name ∈ p.primitiveTypes ∨
        f.header.HasLine ("@class " ++ a.type.name ++ ";") ∨
        ∃ i : Import, i.isPublic = true ∧ f.header.HasLine i.code ∧
          (p.platformImport? a.type.name = some i ∨
            i.IsHeaderFor a.type.name a.type.file a.type.library v.libraryName ∨
            ∃ l ∈ v.typeLookups, l.name = a.type.name ∧ l.canForwardDeclare = false ∧
              i.IsHeaderFor l.name l.file l.library v.libraryName)) ∧
    ∀ a ∈ v.attributes, ∀ name, a.type.conformingProtocol = .text name → name ≠ [] →
      p.isPlatformName name = false → f.header.HasLine ("@protocol " ++ name ++ ";") := by
  have himports := builderImports_of_builderFile h
  have hdecls := builderDeclarations_of_builderFile h
  refine ⟨fun hplatform hincludes a ha => ?_, fun a ha name hname hne hnp => ?_⟩
  · have huse : (Directives.ofIncludes v.includes).useForwardDeclarations = false := by
      simpa [Directives.ofIncludes] using hincludes
    cases accounted_of_builderImports himports ha with
    | defined l hl hname hdef himported =>
      exact .inr (.inr ⟨_, rfl, CodeFile.hasLine_header_of_import himported rfl,
        .inr (.inr ⟨l, hl, hname, hdef, l.isHeaderFor_toImport _ _⟩)⟩)
    | declared l hl hname hdecl =>
      have hmem := mem_builderDeclarations_of_lookup hdecls hl (hdecl l hl hname)
      rw [hname] at hmem
      rw [← ForwardDeclaration.code_ofClass]
      exact .inr (.inl (CodeFile.hasLine_header_of_declaration hmem))
    | ofLanguage hlanguage => exact .inl hlanguage
    | omitted _ homits =>
      -- Imports are only left out together with forward declarations.
      rw [Directives.omitsAttributeImports, huse] at homits
      cases homits
    | imported i hi hok =>
      rw [Directives.importsInHeader, huse] at hok
      obtain ⟨hpublic, hheader⟩ := toImport_public hplatform hok
      exact .inr (.inr ⟨i, hpublic, CodeFile.hasLine_header_of_import hi hpublic,
        hheader.imp_right .inl⟩)
  · rw [← ForwardDeclaration.code_ofProtocol]
    exact CodeFile.hasLine_header_of_declaration
      (mem_builderDeclarations_of_protocol hdecls ha hname hne hnp)

/-- The header for a gathering is closed, and it declares the protocol of the greeter. -/
theorem header_closure_gathering :
    ∃ f, gathering.builderFile .standard = .ok f ∧
      (∀ m ∈ Policy.standard.wellKnownImports, m.2.isPublic = true) ∧
      Text.ofString "UseForwardDeclarations" ∉ gathering.includes ∧
      (∀ a ∈ gathering.attributes,
        a.type.name ∈ Policy.standard.primitiveTypes ∨
        f.header.HasLine ("@class " ++ a.type.name ++ ";") ∨
        ∃ i : Import, i.isPublic = true ∧ f.header.HasLine i.code ∧
          (Policy.standard.platformImport? a.type.name = some i ∨
            i.IsHeaderFor a.type.name a.type.file a.type.library gathering.libraryName ∨
            ∃ l ∈ gathering.typeLookups, l.name = a.type.name ∧ l.canForwardDeclare = false ∧
              i.IsHeaderFor l.name l.file l.library gathering.libraryName)) ∧
      f.header.HasLine "@protocol Greeter;" := by
  have htextual : gathering.IsTextual := by decide
  obtain ⟨f, hf⟩ := exists_builderFile_eq_ok.2 fun a ha =>
    Attribute.isSupported_of_isTextual (p := .standard) (htextual a ha)
  have hpublic : ∀ m ∈ Policy.standard.wellKnownImports, m.2.isPublic = true := by decide
  have hincludes : Text.ofString "UseForwardDeclarations" ∉ gathering.includes := by decide
  obtain ⟨htypes, hprotocols⟩ := header_closure hf
  refine ⟨f, hf, hpublic, hincludes, htypes hpublic hincludes, ?_⟩
  exact hprotocols { name := "greeter", type := {
      name := "id", reference := .text "id<Greeter>", conformingProtocol := .text "Greeter" } }
    (by decide) "Greeter" rfl (by decide) (by decide)

end ValueType

end ValueBuilder
