import ValueBuilder.Proofs.Failures
import ValueBuilder.Proofs.HeaderClosure

/-!
# What directives do

A directive acts on a builder by its documented effect and in no other way. The declarations and the
class of a builder depend on no directive but the one about copies. What is left are the imports.
With forward declarations in use further lookups are imported, and imports of attributes may turn
private: `ObjC.Import.Demotes` relates the imports of one attribute with and without. If the imports
of attributes are left out, those of the lookups are left.

`ValueType.builderFile_directives` compares the three files of a value type. Directives that nobody
knows, their order and their repetition never count, and neither does leaving out the imports of
attributes if forward declarations are not in use (`ValueType.builderFile_including_congr`).
-/

namespace ValueBuilder

open Traversal
open ObjC (CodeFile Import)

namespace Directives

variable {includes : List Text}

/-- Forward declarations are in use if the directive for them is given. -/
theorem useForwardDeclarations_ofIncludes :
    (ofIncludes includes).useForwardDeclarations = true ↔
      Text.ofString "UseForwardDeclarations" ∈ includes := by
  simp [ofIncludes]

/-- The imports of attributes are left out if both directives are given. -/
theorem omitsAttributeImports_ofIncludes :
    (ofIncludes includes).omitsAttributeImports = true ↔
      Text.ofString "UseForwardDeclarations" ∈ includes ∧
        Text.ofString "SkipImportsInImplementation" ∈ includes := by
  simp [ofIncludes, omitsAttributeImports]

/-- Whether values are copied depends on one directive. -/
theorem valueSemantics_congr {xs ys : List Text}
    (h : Text.ofString "NoValueSemantics" ∈ xs ↔ Text.ofString "NoValueSemantics" ∈ ys) :
    (ofIncludes xs).valueSemantics = (ofIncludes ys).valueSemantics := by
  rw [Bool.eq_iff_iff, valueSemantics_ofIncludes, valueSemantics_ofIncludes, h]

end Directives

/-- A value type with other directives. -/
def ValueType.including (v : ValueType) (includes : List Text) : ValueType :=
  { v with includes := includes }

/-- An import is the other one, or it is private and has the same header and the same library. -/
def ObjC.Import.Demotes (i j : Import) : Prop :=
  j.file = i.file ∧ j.library = i.library ∧ (j.isPublic = true → j = i)

/-! ## Lists of imports -/

section Lists

variable {is js : List Import}

/-- If imports turn private one by one, the headers stay the same in the same order. -/
theorem map_header_of_demotes (h : List.Forall₂ Import.Demotes is js) :
    js.map (fun i => (i.file, i.library)) = is.map fun i => (i.file, i.library) := by
  refine map_eq_map_of_forall₂ h fun i _ j hij => ?_
  rw [hij.1, hij.2.1]

/-- If imports turn private one by one, the public ones that are left keep their order. -/
theorem filter_public_sublist_of_demotes (h : List.Forall₂ Import.Demotes is js) :
    (js.filter (·.isPublic)).Sublist (is.filter (·.isPublic)) := by
  induction h with
  | nil => exact List.Sublist.slnil
  | @cons i j is js hij _ ih =>
    cases hj : j.isPublic with
    | true =>
      obtain rfl := hij.2.2 hj
      rw [List.filter_cons_of_pos hj, List.filter_cons_of_pos hj]
      exact ih.cons_cons j
    | false =>
      rw [List.filter_cons_of_neg (by rw [hj]; exact Bool.false_ne_true)]
      exact ih.trans ((List.sublist_cons_self i is).filter _)

end Lists

/-! ## Imports -/

/-- The import of an attribute turns private at most, if it need not be public. -/
theorem Attribute.demotes_toImport {a : Attribute} {p : Policy} {library : Json} {i j : Import}
    (hi : a.toImport p library true = .ok i) (hj : a.toImport p library false = .ok j) :
    i.Demotes j := by
  -- The header of the platform does not depend on what is asked for, and the own header is public
  -- on demand.
  rcases Attribute.toImport_eq_ok.1 hi with hknown | ⟨hnone, b, hb, rfl⟩
  · rcases Attribute.toImport_eq_ok.1 hj with hknown' | ⟨hnone, -⟩
    · rw [hknown, Option.some.injEq] at hknown'
      subst hknown'
      exact ⟨rfl, rfl, fun _ => rfl⟩
    · rw [hknown] at hnone
      cases hnone
  · rcases Attribute.toImport_eq_ok.1 hj with hknown | ⟨-, b', -, rfl⟩
    · rw [hnone] at hknown
      cases hknown
    · cases hb
      refine ⟨rfl, rfl, fun hpublic => ?_⟩
      obtain rfl : b' = true := hpublic
      rfl

namespace ValueType

variable {v : ValueType} {d e : Directives} {p : Policy}

/-- With forward declarations in use each lookup has an import, which is public if the type cannot be
forward declared. -/
theorem lookupImports_of_use (h : d.useForwardDeclarations = true) :
    v.lookupImports d =
      v.typeLookups.map fun l => l.toImport v.libraryName (!l.canForwardDeclare) := by
  rw [lookupImports, ← List.filterMap_eq_map]
  refine List.filterMap_congr fun l _ => ?_
  rw [TypeLookup.neededImport?, h, Function.comp_apply]
  cases l.canForwardDeclare <;> rfl

/-- Without forward declarations only the public imports of the lookups are left. -/
theorem lookupImports_of_not_use (hd : d.useForwardDeclarations = false)
    (he : e.useForwardDeclarations = true) :
    v.lookupImports d = (v.lookupImports e).filter (·.isPublic) := by
  rw [lookupImports_of_use he, lookupImports]
  induction v.typeLookups with
  | nil => rfl
  | cons l ls ih =>
    -- A lookup that can be forward declared has no import here and a private one there.
    rw [List.filterMap_cons, List.map_cons, TypeLookup.neededImport?, hd, ih]
    cases l.canForwardDeclare <;> rfl

/-- The imports of attributes turn private at most, if forward declarations are in use. -/
theorem demotes_attributeImports {is js : List Import} (hd : d.useForwardDeclarations = false)
    (he : e.useForwardDeclarations = true) (homits : e.omitsAttributeImports = false)
    (his : v.attributeImports d p = .ok is) (hjs : v.attributeImports e p = .ok js) :
    List.Forall₂ Import.Demotes is js := by
  have hkeeps : d.omitsAttributeImports = false := by
    rw [Directives.omitsAttributeImports, hd, Bool.false_and]
  rw [attributeImports, hkeeps, if_neg Bool.false_ne_true, Directives.importsInHeader, hd] at his
  rw [attributeImports, homits, if_neg Bool.false_ne_true, Directives.importsInHeader, he] at hjs
  exact forall₂_of_mapM_eq_ok his hjs fun _ _ _ _ => Attribute.demotes_toImport

/-- What is left if the imports of attributes are left out. -/
theorem builderImports_of_omits (h : d.omitsAttributeImports = true) :
    v.builderImports d p = .ok (v.fixedImports ++ v.lookupImports d) := by
  refine builderImports_eq_ok.2 ⟨[], ?_, List.append_nil _⟩
  rw [attributeImports, h, if_pos rfl]

/-- The imports of a builder without and with forward declarations in use. No further one is public,
and the headers are there in their order among those of further lookups. -/
theorem sublist_of_builderImports {is js : List Import} (hd : d.useForwardDeclarations = false)
    (he : e.useForwardDeclarations = true) (homits : e.omitsAttributeImports = false)
    (his : v.builderImports d p = .ok is) (hjs : v.builderImports e p = .ok js) :
    (js.filter (·.isPublic)).Sublist (is.filter (·.isPublic)) ∧
      (is.map fun i => (i.file, i.library)).Sublist (js.map fun i => (i.file, i.library)) := by
  obtain ⟨as, has, rfl⟩ := builderImports_eq_ok.1 his
  obtain ⟨bs, hbs, rfl⟩ := builderImports_eq_ok.1 hjs
  have hattributes := demotes_attributeImports hd he homits has hbs
  have hlookups := lookupImports_of_not_use (v := v) hd he
  constructor
  · -- The public imports of the lookups are the same ones.
    rw [List.filter_append, List.filter_append, List.filter_append, List.filter_append, hlookups,
      List.filter_filter]
    simp only [Bool.and_self]
    exact (filter_public_sublist_of_demotes hattributes).append_left _
  · rw [List.map_append, List.map_append, List.map_append, List.map_append,
      map_header_of_demotes hattributes, hlookups]
    exact ((List.filter_sublist.map _).append_left _).append_right _

/-- The imports of a builder with forward declarations in use start with those that are left if the
imports of attributes are left out: the fixed ones, and one for each lookup. -/
theorem prefix_of_builderImports {is js : List Import} (hd : d.useForwardDeclarations = true)
    (he : e.omitsAttributeImports = true) (his : v.builderImports d p = .ok is)
    (hjs : v.builderImports e p = .ok js) :
    js = v.fixedImports ++
        v.typeLookups.map (fun l => l.toImport v.libraryName (!l.canForwardDeclare)) ∧
      js <+: is := by
  -- The imports of attributes are only left out together with forward declarations.
  have huse : e.useForwardDeclarations = true := by
    rw [Directives.omitsAttributeImports, Bool.and_eq_true] at he
    exact he.1
  obtain ⟨as, -, rfl⟩ := builderImports_eq_ok.1 his
  rw [builderImports_of_omits he, Except.ok.injEq] at hjs
  subst hjs
  rw [lookupImports_of_use hd, lookupImports_of_use huse]
  exact ⟨rfl, List.prefix_append _ _⟩

/-- The imports of a builder depend on two questions to the directives only. -/
theorem builderImports_congr (huse : d.useForwardDeclarations = e.useForwardDeclarations)
    (homits : d.omitsAttributeImports = e.omitsAttributeImports) :
    v.builderImports d p = v.builderImports e p := by
  have hlookups : v.lookupImports d = v.lookupImports e := by
    simp only [lookupImports, TypeLookup.neededImport?, huse]
  have hattributes : v.attributeImports d p = v.attributeImports e p := by
    simp only [attributeImports, homits, Directives.importsInHeader, huse]
  rw [builderImports, builderImports, hlookups, hattributes]

/-- The file of a value type with other directives. -/
theorem builderFile_including (v : ValueType) (includes : List Text) (p : Policy) :
    (v.including includes).builderFile p = (do
      let imports ← v.builderImports (.ofIncludes includes) p
      let forwardDeclarations ← v.builderDeclarations p
      let builder ← v.builderClass (.ofIncludes includes) p
      return {
        name := Names.builder v.typeName
        imports, forwardDeclarations
        classes := [builder] }) := rfl

/-- The class of a builder depends on one question to the directives only. -/
theorem builderClass_congr (h : d.valueSemantics = e.valueSemantics) :
    v.builderClass d p = v.builderClass e p := by
  simp only [builderClass, Attribute.setterUnder, h]

/-- The file of a builder depends on three questions to the directives only. The second one is asked
only if the first one is answered with yes. -/
theorem builderFile_including_congr {xs ys : List Text}
    (huse : Text.ofString "UseForwardDeclarations" ∈ xs ↔
      Text.ofString "UseForwardDeclarations" ∈ ys)
    (hskip : Text.ofString "UseForwardDeclarations" ∈ xs →
      (Text.ofString "SkipImportsInImplementation" ∈ xs ↔
        Text.ofString "SkipImportsInImplementation" ∈ ys))
    (hcopy : Text.ofString "NoValueSemantics" ∈ xs ↔ Text.ofString "NoValueSemantics" ∈ ys) :
    (v.including xs).builderFile p = (v.including ys).builderFile p := by
  have himports : v.builderImports (.ofIncludes xs) p = v.builderImports (.ofIncludes ys) p := by
    apply builderImports_congr
    · rw [Bool.eq_iff_iff, Directives.useForwardDeclarations_ofIncludes,
        Directives.useForwardDeclarations_ofIncludes, huse]
    · rw [Bool.eq_iff_iff, Directives.omitsAttributeImports_ofIncludes,
        Directives.omitsAttributeImports_ofIncludes, and_congr_right hskip, huse]
  have hclass : v.builderClass (.ofIncludes xs) p = v.builderClass (.ofIncludes ys) p :=
    builderClass_congr (Directives.valueSemantics_congr hcopy)
  rw [builderFile_including, builderFile_including, himports, hclass]

/-- Two files of a value type with other directives differ in their imports only, if the directives
agree about copies. -/
theorem eq_of_builderFile_including {xs ys : List Text} {f g : CodeFile}
    (hcopy : Text.ofString "NoValueSemantics" ∈ xs ↔ Text.ofString "NoValueSemantics" ∈ ys)
    (hf : (v.including xs).builderFile p = .ok f) (hg : (v.including ys).builderFile p = .ok g) :
    g = { f with imports := g.imports } := by
  obtain ⟨is, -, ds, hds, c, hc, rfl⟩ := builderFile_eq_ok.1 hf
  obtain ⟨js, -, es, hes, k, hk, rfl⟩ := builderFile_eq_ok.1 hg
  have hdeclarations : ds = es := Except.ok.inj (hds.symm.trans hes)
  have hclass : v.builderClass (.ofIncludes xs) p = v.builderClass (.ofIncludes ys) p :=
    builderClass_congr (Directives.valueSemantics_congr hcopy)
  have hclasses : c = k := Except.ok.inj (hc.symm.trans (hclass.trans hk))
  rw [hdeclarations, hclasses]
  rfl

/-- Files of a value type with other directives are made together, if the directives agree about
copies. -/
theorem exists_builderFile_including_iff {xs ys : List Text}
    (hcopy : Text.ofString "NoValueSemantics" ∈ xs ↔ Text.ofString "NoValueSemantics" ∈ ys) :
    (∃ f, (v.including xs).builderFile p = .ok f) ↔
      ∃ f, (v.including ys).builderFile p = .ok f := by
  rw [exists_builderFile_eq_ok, exists_builderFile_eq_ok]
  change (∀ a ∈ v.attributes, a.IsSupported p (Directives.ofIncludes xs).valueSemantics) ↔
    ∀ a ∈ v.attributes, a.IsSupported p (Directives.ofIncludes ys).valueSemantics
  rw [Directives.valueSemantics_congr hcopy]

/-- What directives do to the file of a builder. `plain` has neither of the directives about imports,
`forward` asks for forward declarations on top, and `skipped` asks for no imports of attributes on
top of that.

The three files are made together. They differ in their imports only. With forward declarations no
further import is public, and all headers are there in their order. Without the imports of attributes
the fixed imports are left, and one for each lookup, and the file with them starts with these.

Any other directives do nothing, and neither do order and repetition. Leaving out the imports of
attributes only counts together with forward declarations. -/
theorem builderFile_directives (v : ValueType) (p : Policy) :
    (∀ plain forward skipped : List Text,
      Text.ofString "UseForwardDeclarations" ∉ plain →
      Text.ofString "SkipImportsInImplementation" ∉ plain →
      (∀ s, s ∈ forward ↔ s = "UseForwardDeclarations" ∨ s ∈ plain) →
      (∀ s, s ∈ skipped ↔ s = "SkipImportsInImplementation" ∨ s ∈ forward) →
      (((∃ f, (v.including plain).builderFile p = .ok f) ↔
          ∃ g, (v.including forward).builderFile p = .ok g) ∧
        ((∃ f, (v.including plain).builderFile p = .ok f) ↔
          ∃ h, (v.including skipped).builderFile p = .ok h)) ∧
      ∀ f g h, (v.including plain).builderFile p = .ok f →
        (v.including forward).builderFile p = .ok g →
        (v.including skipped).builderFile p = .ok h →
        g = { f with imports := g.imports } ∧ h = { f with imports := h.imports } ∧
        (g.imports.filter (·.isPublic)).Sublist (f.imports.filter (·.isPublic)) ∧
        (f.imports.map fun i => (i.file, i.library)).Sublist
          (g.imports.map fun i => (i.file, i.library)) ∧
        h.imports = v.fixedImports ++
          v.typeLookups.map (fun l => l.toImport v.libraryName (!l.canForwardDeclare)) ∧
        h.imports <+: g.imports) ∧
    ∀ xs ys : List Text,
      (Text.ofString "UseForwardDeclarations" ∈ xs ↔
        Text.ofString "UseForwardDeclarations" ∈ ys) →
      (Text.ofString "NoValueSemantics" ∈ xs ↔ Text.ofString "NoValueSemantics" ∈ ys) →
      (Text.ofString "UseForwardDeclarations" ∈ xs →
        (Text.ofString "SkipImportsInImplementation" ∈ xs ↔
          Text.ofString "SkipImportsInImplementation" ∈ ys)) →
      (v.including xs).builderFile p = (v.including ys).builderFile p := by
  refine ⟨fun plain forward skipped hplainUse hplainSkip hforward hskipped => ?_,
    fun xs ys huse hcopy hskip => builderFile_including_congr huse hskip hcopy⟩
  -- The answers of the three lists of directives.
  have hcopyForward : Text.ofString "NoValueSemantics" ∈ plain ↔
      Text.ofString "NoValueSemantics" ∈ forward := by
    rw [hforward, or_iff_right (by decide)]
  have hcopySkipped : Text.ofString "NoValueSemantics" ∈ plain ↔
      Text.ofString "NoValueSemantics" ∈ skipped := by
    rw [hskipped, or_iff_right (by decide), hcopyForward]
  have huse : (Directives.ofIncludes forward).useForwardDeclarations = true :=
    Directives.useForwardDeclarations_ofIncludes.2 ((hforward _).2 (.inl rfl))
  have hplain : (Directives.ofIncludes plain).useForwardDeclarations = false := by
    rw [← Bool.not_eq_true, Directives.useForwardDeclarations_ofIncludes]
    exact hplainUse
  have hkeeps : (Directives.ofIncludes forward).omitsAttributeImports = false := by
    rw [← Bool.not_eq_true, Directives.omitsAttributeImports_ofIncludes, hforward, hforward,
      or_iff_right (a := Text.ofString "SkipImportsInImplementation" = _) (by decide)]
    exact fun hboth => hplainSkip hboth.2
  have homits : (Directives.ofIncludes skipped).omitsAttributeImports = true :=
    Directives.omitsAttributeImports_ofIncludes.2
      ⟨(hskipped _).2 (.inr ((hforward _).2 (.inl rfl))), (hskipped _).2 (.inl rfl)⟩
  refine ⟨⟨exists_builderFile_including_iff hcopyForward,
    exists_builderFile_including_iff hcopySkipped⟩, fun f g h hf hg hh => ?_⟩
  obtain ⟨hpublic, hheaders⟩ := sublist_of_builderImports hplain huse hkeeps
    (builderImports_of_builderFile hf) (builderImports_of_builderFile hg)
  obtain ⟨hleft, hprefix⟩ := prefix_of_builderImports huse homits
    (builderImports_of_builderFile hg) (builderImports_of_builderFile hh)
  exact ⟨eq_of_builderFile_including hcopyForward hf hg,
    eq_of_builderFile_including hcopySkipped hf hh, hpublic, hheaders, hleft, hprefix⟩

/-- The three files for a gathering are made, and they are related in this way. Leaving out the
imports of attributes changes nothing without forward declarations, even if it is asked for twice with
something else in between. -/
theorem builderFile_directives_gathering :
    ∃ f g h, (gathering.including []).builderFile .standard = .ok f ∧
      (gathering.including ["UseForwardDeclarations"]).builderFile .standard = .ok g ∧
      (gathering.including ["UseForwardDeclarations",
        "SkipImportsInImplementation"]).builderFile .standard = .ok h ∧
      g = { f with imports := g.imports } ∧ h = { f with imports := h.imports } ∧
      (g.imports.filter (·.isPublic)).Sublist (f.imports.filter (·.isPublic)) ∧
      (f.imports.map fun i => (i.file, i.library)).Sublist
        (g.imports.map fun i => (i.file, i.library)) ∧
      h.imports <+: g.imports ∧
      (gathering.including ["SkipImportsInImplementation", "Other",
        "SkipImportsInImplementation"]).builderFile .standard = .ok f := by
  obtain ⟨hfiles, hsame⟩ := builderFile_directives gathering .standard
  obtain ⟨⟨hforward, hskipped⟩, hrelated⟩ := hfiles [] ["UseForwardDeclarations"]
    ["UseForwardDeclarations", "SkipImportsInImplementation"] (by decide) (by decide)
    (fun s => by simp) (fun s => by simp [or_comm])
  have htextual : (gathering.including []).IsTextual := by decide
  have hmade : ∃ f, (gathering.including []).builderFile .standard = .ok f :=
    exists_builderFile_eq_ok.2 fun a ha => Attribute.isSupported_of_isTextual (htextual a ha)
  obtain ⟨f, hf⟩ := hmade
  obtain ⟨g, hg⟩ := hforward.1 ⟨f, hf⟩
  obtain ⟨h, hh⟩ := hskipped.1 ⟨f, hf⟩
  obtain ⟨hg', hh', hpublic, hheaders, -, hleft⟩ := hrelated f g h hf hg hh
  refine ⟨f, g, h, hf, hg, hh, hg', hh', hpublic, hheaders, hleft, ?_⟩
  rw [← hf]
  exact hsame _ _ (by decide) (by decide) (by decide)

end ValueType

end ValueBuilder
