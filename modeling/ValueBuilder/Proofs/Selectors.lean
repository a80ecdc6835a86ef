import ValueBuilder.Proofs.SeedExpression

/-!
# Selectors of a builder

A class cannot have two methods with one selector. The factories of a builder never have, since the
keyword of one is an extension of the keyword of the other. A setter is never mistaken for the
method that builds. Two setters have the same selector exactly if the names of their attributes are
the same with the first character in upper case (`Names.setterKeyword_inj`). Names may be different
and still agree in that: they may differ in the case of their first letter, and one may spell a
letter with several that the other has as one.

`ValueType.nodup_selectors_iff` states this for the class of a builder.
-/

namespace ValueBuilder

open ObjC (Keyword Method)

namespace Names

/-- Two setters have the same keyword if their names do with the first character in upper case. -/
theorem setterKeyword_inj {a b : Text} :
    setterKeyword a = setterKeyword b ↔ upperFirst a = upperFirst b :=
  List.append_right_inj _

/-- The selector of a setter is not that of the method that builds. -/
theorem setterKeyword_append_ne_build (name : Text) :
    setterKeyword name ++ ":" ≠ Text.ofString "build" := by
  intro h
  -- The two differ in their first letter.
  have hsetter : (setterKeyword name ++ ":" : Text).head? = some (.char 'w') := rfl
  have hbuild : (Text.ofString "build").head? = some (.char 'b') := rfl
  rw [h, hbuild] at hsetter
  exact absurd hsetter (by decide)

/-- The selector of the factory that takes an existing value is longer than that of the other. -/
theorem stem_ne_seedKeyword_append (typeName : Text) :
    stem typeName ≠ seedKeyword typeName ++ ":" := by
  intro h
  -- What stands behind the stem is never empty, whatever its first character is mapped to.
  have hmiddle : (Text.ofString "FromExisting").length = 12 := by decide
  have hlength := congrArg List.length h
  simp only [seedKeyword, List.length_append, hmiddle] at hlength
  omega

end Names

namespace ValueType

variable {v : ValueType} {d : Directives} {p : Policy} {c : ObjC.Class}

/-- The selectors of the instance methods: that of the method that builds, and those of the
setters. -/
theorem map_selector_instanceMethods (h : v.builderClass d p = .ok c) :
    c.instanceMethods.map Method.selector =
      Text.ofString "build" :: v.attributeNames.map fun name => Names.setterKeyword name ++ ":" := by
  obtain ⟨ms, hms, rfl⟩ := builderClass_eq_ok.1 h
  have hbuild : v.buildMethod.selector = Text.ofString "build" :=
    List.append_nil (Text.ofString "build")
  rw [classWith, List.map_cons, hbuild, map_selector_of_mapM_setterUnder hms]

/-- The selectors of the class methods: those of the two factories. -/
theorem map_selector_classMethods (h : v.builderClass d p = .ok c) :
    c.classMethods.map Method.selector =
      [Names.stem v.typeName, Names.seedKeyword v.typeName ++ ":"] := by
  obtain ⟨ms, -, rfl⟩ := builderClass_eq_ok.1 h
  simp [classWith, freshFactory, seedFactory, Method.selector, Keyword.selector]

/-- No two setters have the same selector if no two names are the same with the first character in
upper case, and only then. -/
theorem nodup_setterSelectors_iff {names : List Text} :
    (names.map fun name => (Names.setterKeyword name ++ ":" : Text)).Nodup ↔
      (names.map Names.upperFirst).Nodup := by
  have hpairs (a b : Text) : (Names.setterKeyword a ++ ":" : Text) = Names.setterKeyword b ++ ":" ↔
      Names.upperFirst a = Names.upperFirst b := by
    rw [List.append_left_inj, Names.setterKeyword_inj]
  simp only [List.Nodup, List.pairwise_map, ne_eq, hpairs]

/-- There is a class if the storage of every type can be told. The selectors of its instance methods
are pairwise distinct exactly if the names of the attributes are with their first character in upper
case. Those of its class methods always are. -/
theorem nodup_selectors_iff (v : ValueType) (d : Directives) (p : Policy) :
    ((∀ a ∈ v.attributes, a.type.HasStorage) → ∃ c, v.builderClass d p = .ok c) ∧
    ∀ c, v.builderClass d p = .ok c →
      ((c.instanceMethods.map Method.selector).Nodup ↔
        (v.attributeNames.map Names.upperFirst).Nodup) ∧
      (c.classMethods.map Method.selector).Nodup := by
  refine ⟨fun h => exists_builderClass_eq_ok.2 fun a ha _ => h a ha, fun c hc => ⟨?_, ?_⟩⟩
  · have hbuild : Text.ofString "build" ∉
        v.attributeNames.map fun name => Names.setterKeyword name ++ ":" := by
      intro hmem
      obtain ⟨name, -, heq⟩ := List.mem_map.1 hmem
      exact Names.setterKeyword_append_ne_build name heq
    rw [map_selector_instanceMethods hc, List.nodup_cons, and_iff_right hbuild,
      nodup_setterSelectors_iff]
  · rw [map_selector_classMethods hc, List.nodup_cons, List.mem_singleton]
    exact ⟨Names.stem_ne_seedKeyword_append v.typeName, List.pairwise_singleton _ _⟩

/-- The methods of the builder of a person have selectors of their own. -/
theorem nodup_selectors_person :
    (∀ a ∈ person.attributes, a.type.HasStorage) ∧
    (person.attributeNames.map Names.upperFirst).Nodup ∧
    ∃ c, person.builderClass {} .standard = .ok c ∧
      (c.instanceMethods.map Method.selector).Nodup ∧
      (c.classMethods.map Method.selector).Nodup := by
  have hstorage : ∀ a ∈ person.attributes, a.type.HasStorage := by decide
  have hnames : (person.attributeNames.map Names.upperFirst).Nodup := by decide
  obtain ⟨hexists, hselectors⟩ := nodup_selectors_iff person {} .standard
  obtain ⟨c, hc⟩ := hexists hstorage
  obtain ⟨hinstance, hclass⟩ := hselectors c hc
  exact ⟨hstorage, hnames, c, hc, hinstance.2 hnames, hclass⟩

/-- A value type with two attributes. -/
def twins (first second : Text) : ValueType where
  typeName := "A"
  attributes := [
    { name := first, type := { name := "NSString", reference := .text "NSString *" } },
    { name := second, type := { name := "NSString", reference := .text "NSString *" } }]

/-- Two instance methods of a builder have the same selector, although the attributes have different
names. -/
def SharesSelector (v : ValueType) (p : Policy) : Prop :=
  v.IsTextual ∧ v.attributeNames.Nodup ∧ (∀ name ∈ v.attributeNames, name ≠ []) ∧
    ∃ c, v.builderClass (.ofIncludes v.includes) p = .ok c ∧
      ¬ (c.instanceMethods.map Method.selector).Nodup

/-- Names that differ in the case of their first letter lead to the same selector, and so do names
that differ in how they spell it. -/
theorem sharesSelector_twins :
    (twins "name" "Name").SharesSelector .standard ∧
      (twins "ßa" "SSa").SharesSelector .standard := by
  constructor
  · exact ⟨by decide, by decide, by decide, _, rfl, by decide⟩
  · exact ⟨by decide, by decide, by decide, _, rfl, by decide⟩

end ValueType

end ValueBuilder
