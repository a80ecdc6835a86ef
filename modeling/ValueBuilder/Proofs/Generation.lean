import ValueBuilder.Preview
import ValueBuilder.Proofs.Classification
import ValueBuilder.Summary
import ValueBuilder.ValueType.Builder

/-!
# When a builder can be made

The functions that make a builder, each taken apart once: `ValueType.builderFile_eq_ok` and the
lemmas before it say of which parts a result consists. From them it is read off when there is a
result at all. `Attribute.IsSupported` says what it takes of one attribute, and
`ValueType.exists_builderFile_eq_ok` that a file can be made exactly if every attribute is
supported: no part of a file asks for more than another, and no attribute matters to another one.

A file that was made can be shown as a header and as a summary. Its implementation also shows the
reference of every attribute, which has to be a text (`ValueType.exists_implementation_iff`).
-/

namespace ValueBuilder

open Traversal
open ObjC (CodeFile ForwardDeclaration Import Method Property)

namespace Attribute

variable {p : Policy} {a : Attribute}

/-- The import of the header that is declared for the type of an attribute, or that goes by the name
of the type. -/
def ownImport (a : Attribute) (library : Json) (isPublic : Bool) : Import where
  file := a.type.file.orElse (.text (a.type.name ++ ".h"))
  isPublic := isPublic
  library := a.type.library.orElse library

/-- What the file of a builder needs to know about an attribute can be told: the category of its
type, whether its protocol is declared, and, if values are copied, the storage of its type. -/
structure IsSupported (p : Policy) (valueSemantics : Bool) (a : Attribute) : Prop where
  /-- The type is classified by its name, or it has a storage. -/
  category : p.SettlesByName a.type ∨ a.type.HasStorage
  /-- A protocol is a text if it is compared with a prefix. -/
  conformingProtocol : a.type.conformingProtocol.isGiven = true →
    (∃ s, a.type.conformingProtocol = .text s) ∨ p.systemPrefixes = []
  /-- The type has a storage if values are copied. -/
  storage : valueSemantics = true → a.type.HasStorage

/-- An attribute whose members are texts is supported by every policy. -/
theorem isSupported_of_isTextual {valueSemantics : Bool} (h : a.type.IsTextual) :
    a.IsSupported p valueSemantics where
  category := .inr h.hasStorage
  conformingProtocol hg := .inl (h.conformingProtocol hg)
  storage _ := h.hasStorage

/-- Whether the own import of an attribute is public: it is on demand, and else if the definition of
its type is needed. -/
def publicity (a : Attribute) (p : Policy) (isPublic : Bool) : Except Fault Bool :=
  if isPublic then .ok true else p.needsDefinition a

/-- The import of the type of an attribute is that of the platform or its own. -/
theorem toImport_eq_ok {library : Json} {isPublic : Bool} {i : Import} :
    a.toImport p library isPublic = .ok i ↔
      p.platformImport? a.type.name = some i ∨
      p.platformImport? a.type.name = none ∧
        ∃ b, a.publicity p isPublic = .ok b ∧ a.ownImport library b = i := by
  unfold toImport publicity
  cases p.platformImport? a.type.name with
  | some known => simp
  | none =>
    -- On demand the import is public, and the type is not looked at.
    cases isPublic with
    | true => simp [ownImport]
    | false =>
      simp only [Bool.false_eq_true, if_false, bind_eq_ok, pure_eq_ok]
      simp [ownImport]

/-- An attribute whose type has a category has an import. -/
theorem exists_toImport_eq_ok {library : Json} {isPublic : Bool}
    (h : ∃ c, p.categoryOf a.type = .ok c) : ∃ i, a.toImport p library isPublic = .ok i := by
  obtain ⟨c, hc⟩ := h
  have hpub : ∃ b, a.publicity p isPublic = .ok b := by
    unfold publicity
    cases isPublic with
    | true => exact ⟨true, rfl⟩
    | false => exact ⟨_, Policy.needsDefinition_eq_ok.2 ⟨c, hc, rfl⟩⟩
  obtain ⟨b, hb⟩ := hpub
  simp only [toImport_eq_ok]
  cases p.platformImport? a.type.name with
  | some known => exact ⟨known, .inl rfl⟩
  | none => exact ⟨a.ownImport library b, .inr ⟨rfl, b, hb, rfl⟩⟩

/-- The class of an attribute is declared if it can be. -/
theorem classDeclaration?_eq_ok {o : Option ForwardDeclaration} :
    a.classDeclaration? p = .ok o ↔ ∃ c, p.categoryOf a.type = .ok c ∧
      (if c = .userClass then some (.ofClass a.type.name) else none) = o := by
  unfold classDeclaration?
  simp only [bind_eq_ok, pure_eq_ok, Policy.isForwardDeclarable_eq_ok]
  constructor
  · rintro ⟨_, ⟨c, hc, rfl⟩, ho⟩
    exact ⟨c, hc, by simpa using ho⟩
  · rintro ⟨c, hc, ho⟩
    exact ⟨_, ⟨c, hc, rfl⟩, by simpa using ho⟩

/-- When it is known whether the class of an attribute is declared. -/
theorem exists_classDeclaration?_eq_ok :
    (∃ o, a.classDeclaration? p = .ok o) ↔ p.SettlesByName a.type ∨ a.type.HasStorage := by
  rw [← Policy.exists_categoryOf_eq_ok]
  simp only [classDeclaration?_eq_ok]
  constructor
  · rintro ⟨_, c, hc, -⟩
    exact ⟨c, hc⟩
  · rintro ⟨c, hc⟩
    exact ⟨_, c, hc, rfl⟩

/-- The protocol of an attribute is declared if there is one to declare. -/
theorem protocolDeclaration?_eq_ok {o : Option ForwardDeclaration} :
    a.protocolDeclaration? p = .ok o ↔
      ∃ name, p.forwardProtocol? a = .ok name ∧ name.map .ofProtocol = o := by
  unfold protocolDeclaration?
  simp only [bind_eq_ok, pure_eq_ok]

/-- When it is known whether the protocol of an attribute is declared. -/
theorem exists_protocolDeclaration?_eq_ok :
    (∃ o, a.protocolDeclaration? p = .ok o) ↔
      (a.type.conformingProtocol.isGiven = true →
        (∃ s, a.type.conformingProtocol = .text s) ∨ p.systemPrefixes = []) := by
  rw [← Policy.exists_forwardProtocol?_eq_ok]
  simp only [protocolDeclaration?_eq_ok]
  constructor
  · rintro ⟨_, name, hname, -⟩
    exact ⟨name, hname⟩
  · rintro ⟨name, hname⟩
    exact ⟨_, name, hname, rfl⟩

/-- The method for an attribute is its setter, with or without a copy. -/
theorem setterUnder_eq_ok {d : Directives} {m : Method} :
    a.setterUnder d p = .ok m ↔
      ∃ b, p.copiesIncoming d.valueSemantics a = .ok b ∧ a.setter b = m := by
  unfold setterUnder
  simp only [bind_eq_ok, pure_eq_ok]

/-- When there is a method for an attribute. -/
theorem exists_setterUnder_eq_ok {d : Directives} :
    (∃ m, a.setterUnder d p = .ok m) ↔ (d.valueSemantics = true → a.type.HasStorage) := by
  rw [← Policy.exists_copiesIncoming_eq_ok (p := p)]
  simp only [setterUnder_eq_ok]
  constructor
  · rintro ⟨_, b, hb, -⟩
    exact ⟨b, hb⟩
  · rintro ⟨b, hb⟩
    exact ⟨_, b, hb, rfl⟩

end Attribute

/-- The methods that set attributes: the first instance method is the one that builds. -/
def ObjC.Class.mutations (c : ObjC.Class) : List Method := c.instanceMethods.tail

namespace ValueType

variable {v : ValueType} {d : Directives} {p : Policy}

/-- A value type each of whose attributes has a type whose members are texts. -/
def IsTextual (v : ValueType) : Prop := ∀ a ∈ v.attributes, a.type.IsTextual

instance (v : ValueType) : Decidable v.IsTextual :=
  inferInstanceAs (Decidable (∀ a ∈ v.attributes, a.type.IsTextual))

/-- The imports of a builder are the fixed ones, those of the lookups and those of the
attributes. -/
theorem builderImports_eq_ok {is : List Import} :
    v.builderImports d p = .ok is ↔ ∃ js, v.attributeImports d p = .ok js ∧
      v.fixedImports ++ v.lookupImports d ++ js = is := by
  unfold builderImports
  simp only [bind_eq_ok, pure_eq_ok]

/-- The declarations of a builder are that of the value type, those of the lookups, and those of the
classes and the protocols of the attributes. -/
theorem builderDeclarations_eq_ok {ds : List ForwardDeclaration} :
    v.builderDeclarations p = .ok ds ↔
      ∃ cs, v.attributes.mapM (·.classDeclaration? p) = .ok cs ∧
      ∃ ps, v.attributes.mapM (·.protocolDeclaration? p) = .ok ps ∧
        .ofClass v.typeName :: ((v.typeLookups.filter (·.canForwardDeclare)).map
          (fun l => ForwardDeclaration.ofClass l.name) ++ cs.filterMap id ++ ps.filterMap id) =
          ds := by
  unfold builderDeclarations
  simp only [bind_eq_ok, pure_eq_ok]

/-- The class of a builder, with the methods that set the attributes. -/
def classWith (v : ValueType) (mutations : List Method) : ObjC.Class where
  name := Names.builder v.typeName
  baseClassName := "NSObject"
  classMethods := [v.freshFactory, v.seedFactory]
  instanceMethods := v.buildMethod :: mutations
  internalProperties := v.attributes.map Attribute.holder

/-- The class of a builder is known but for the methods that set the attributes. -/
theorem builderClass_eq_ok {c : ObjC.Class} :
    v.builderClass d p = .ok c ↔
      ∃ ms, v.attributes.mapM (·.setterUnder d p) = .ok ms ∧ v.classWith ms = c := by
  unfold builderClass
  simp only [bind_eq_ok, pure_eq_ok, classWith]

/-- The file of a builder consists of its imports, its declarations and its class. -/
theorem builderFile_eq_ok {f : CodeFile} :
    v.builderFile p = .ok f ↔
      ∃ is, v.builderImports (.ofIncludes v.includes) p = .ok is ∧
      ∃ ds, v.builderDeclarations p = .ok ds ∧
      ∃ c, v.builderClass (.ofIncludes v.includes) p = .ok c ∧
        { name := Names.builder v.typeName, imports := is, forwardDeclarations := ds,
          classes := [c] } = f := by
  unfold builderFile
  simp only [bind_eq_ok, pure_eq_ok]

/-- There are imports if the type of every attribute has a category. -/
theorem exists_builderImports_eq_ok
    (h : ∀ a ∈ v.attributes, ∃ c, p.categoryOf a.type = .ok c) :
    ∃ is, v.builderImports d p = .ok is := by
  have hjs : ∃ js, v.attributeImports d p = .ok js := by
    unfold attributeImports
    split
    · exact ⟨[], rfl⟩
    · rw [exists_mapM_eq_ok]
      intro a ha
      exact Attribute.exists_toImport_eq_ok (h a (List.mem_of_mem_filter ha))
  obtain ⟨js, hjs⟩ := hjs
  exact ⟨_, builderImports_eq_ok.2 ⟨js, hjs, rfl⟩⟩

/-- When there is a class. -/
theorem exists_builderClass_eq_ok :
    (∃ c, v.builderClass d p = .ok c) ↔
      ∀ a ∈ v.attributes, d.valueSemantics = true → a.type.HasStorage := by
  simp only [builderClass_eq_ok]
  constructor
  · rintro ⟨_, ms, hms, -⟩ a ha
    exact Attribute.exists_setterUnder_eq_ok.1 (exists_mapM_eq_ok.1 ⟨ms, hms⟩ a ha)
  · intro h
    obtain ⟨ms, hms⟩ := exists_mapM_eq_ok.2 fun a ha =>
      (Attribute.exists_setterUnder_eq_ok (p := p)).2 (h a ha)
    exact ⟨_, ms, hms, rfl⟩

/-- When there are declarations. -/
theorem exists_builderDeclarations_eq_ok :
    (∃ ds, v.builderDeclarations p = .ok ds) ↔
      ∀ a ∈ v.attributes, (p.SettlesByName a.type ∨ a.type.HasStorage) ∧
        (a.type.conformingProtocol.isGiven = true →
          (∃ s, a.type.conformingProtocol = .text s) ∨ p.systemPrefixes = []) := by
  simp only [builderDeclarations_eq_ok]
  constructor
  · rintro ⟨_, cs, hcs, ps, hps, -⟩ a ha
    exact ⟨Attribute.exists_classDeclaration?_eq_ok.1 (exists_mapM_eq_ok.1 ⟨cs, hcs⟩ a ha),
      Attribute.exists_protocolDeclaration?_eq_ok.1 (exists_mapM_eq_ok.1 ⟨ps, hps⟩ a ha)⟩
  · intro h
    obtain ⟨cs, hcs⟩ := exists_mapM_eq_ok.2 fun a ha =>
      Attribute.exists_classDeclaration?_eq_ok.2 (h a ha).1
    obtain ⟨ps, hps⟩ := exists_mapM_eq_ok.2 fun a ha =>
      Attribute.exists_protocolDeclaration?_eq_ok.2 (h a ha).2
    exact ⟨_, cs, hcs, ps, hps, rfl⟩

/-- A file can be made exactly if every attribute is supported. The imports ask for nothing that
the declarations do not ask for. -/
theorem exists_builderFile_eq_ok :
    (∃ f, v.builderFile p = .ok f) ↔
      ∀ a ∈ v.attributes, a.IsSupported p (Directives.ofIncludes v.includes).valueSemantics := by
  simp only [builderFile_eq_ok]
  constructor
  · -- What an attribute needs is asked for by the declarations and by the class.
    rintro ⟨_, -, -, ds, hds, c, hc, -⟩ a ha
    obtain ⟨hcat, hprot⟩ := exists_builderDeclarations_eq_ok.1 ⟨ds, hds⟩ a ha
    exact ⟨hcat, hprot, exists_builderClass_eq_ok.1 ⟨c, hc⟩ a ha⟩
  · intro h
    obtain ⟨is, his⟩ := exists_builderImports_eq_ok fun a ha =>
      Policy.exists_categoryOf_eq_ok.2 (h a ha).category
    obtain ⟨ds, hds⟩ := exists_builderDeclarations_eq_ok.2 fun a ha =>
      ⟨(h a ha).category, (h a ha).conformingProtocol⟩
    obtain ⟨c, hc⟩ := exists_builderClass_eq_ok.2 fun a ha => (h a ha).storage
    exact ⟨_, is, his, ds, hds, c, hc, rfl⟩

end ValueType

/-! ## What is shown of a file -/

/-- The line for a variable needs a reference that is a text. -/
theorem exists_variableLine_eq_ok {q : Property} :
    (∃ l, q.variableLine = .ok l) ↔ ∃ s, q.returnType.reference = .text s := by
  unfold Property.variableLine
  cases q.returnType.reference <;> simp

/-- A file has an implementation if the reference of every variable is a text. -/
theorem exists_implementation_eq_ok {f : CodeFile} :
    (∃ t, f.implementation = .ok t) ↔
      ∀ c ∈ f.classes, ∀ q ∈ c.internalProperties, ∃ s, q.returnType.reference = .text s := by
  have hlines : (∃ t, f.implementation = .ok t) ↔
      ∃ ls, f.classes.mapM (·.variableLines) = .ok ls := by
    unfold CodeFile.implementation
    simp only [bind_eq_ok, pure_eq_ok]
    constructor
    · rintro ⟨_, ls, hls, -⟩
      exact ⟨ls, hls⟩
    · rintro ⟨ls, hls⟩
      exact ⟨_, ls, hls, rfl⟩
  rw [hlines, exists_mapM_eq_ok]
  simp only [ObjC.Class.variableLines, exists_mapM_eq_ok, exists_variableLine_eq_ok]

namespace ValueType

variable {v : ValueType} {p : Policy} {f : CodeFile}

/-- A file that was made has the imports of the builder. -/
theorem builderImports_of_builderFile (h : v.builderFile p = .ok f) :
    v.builderImports (.ofIncludes v.includes) p = .ok f.imports := by
  obtain ⟨is, his, -, -, -, -, rfl⟩ := builderFile_eq_ok.1 h
  exact his

/-- The imports of a file that was made are the fixed ones, those of the lookups and those of the
attributes. -/
theorem imports_of_builderFile (h : v.builderFile p = .ok f) :
    ∃ js, v.attributeImports (.ofIncludes v.includes) p = .ok js ∧
      v.fixedImports ++ v.lookupImports (.ofIncludes v.includes) ++ js = f.imports :=
  builderImports_eq_ok.1 (builderImports_of_builderFile h)

/-- A file that was made has the forward declarations of the builder. -/
theorem builderDeclarations_of_builderFile (h : v.builderFile p = .ok f) :
    v.builderDeclarations p = .ok f.forwardDeclarations := by
  obtain ⟨-, -, ds, hds, -, -, rfl⟩ := builderFile_eq_ok.1 h
  exact hds

/-- A file that was made has one class, with a variable for each attribute. -/
theorem classes_of_builderFile (h : v.builderFile p = .ok f) :
    ∃ ms, f.classes = [v.classWith ms] := by
  obtain ⟨-, -, -, -, c, hc, rfl⟩ := builderFile_eq_ok.1 h
  obtain ⟨ms, -, rfl⟩ := builderClass_eq_ok.1 hc
  exact ⟨ms, rfl⟩

/-- A file that was made has an implementation exactly if the reference of every attribute is a
text. -/
theorem exists_implementation_iff (h : v.builderFile p = .ok f) :
    (∃ t, f.implementation = .ok t) ↔ ∀ a ∈ v.attributes, ∃ s, a.type.reference = .text s := by
  obtain ⟨ms, hms⟩ := classes_of_builderFile h
  rw [exists_implementation_eq_ok, hms]
  simp [classWith, Attribute.holder, Attribute.typeReference]

/-- A file that was made has a summary. -/
theorem exists_summary_eq_ok (h : v.builderFile p = .ok f) : ∃ s, f.summary = .ok s := by
  obtain ⟨ms, hms⟩ := classes_of_builderFile h
  unfold CodeFile.summary
  rw [hms]
  exact ⟨_, rfl⟩

end ValueType

end ValueBuilder
