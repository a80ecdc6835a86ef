import ValueBuilder.Proofs.Copies
import ValueBuilder.Proofs.Independence

/-!
# What a builder declares

The forward declarations of a builder come from three places: from the value type itself, from the
type lookups that allow it, and from the attributes. For the type of an attribute there are two
rules, and each of them is said here in terms of the description: `Policy.DeclaresClass` is when the
name of the type is declared as a class, and `Policy.DeclaresProtocol` is when its protocol is.
`ValueType.builderDeclarations_eq` is the list that the rules lead to. From it
`ValueType.count_builderDeclarations` reads off how often a name is declared and in which order.

The rules ask nothing about the lookups. So a lookup that refuses a declaration keeps the name from
being declared for its own sake, but not for the sake of an attribute
(`ValueType.declared_iff_of_refused`). Its header is imported publicly in any case.
-/

namespace ValueBuilder

open Traversal
open ObjC (DeclarationKind ForwardDeclaration Import)

/-! ## Lists -/

namespace Traversal

variable {ε α β : Type}

/-- If each element has a result exactly if it passes a test, the results of a traversal are those
of the elements that pass. -/
theorem filterMap_id_of_mapM_eq_ok {f : α → Except ε (Option β)} {xs : List α} {os : List (Option β)}
    (h : xs.mapM f = .ok os) {q : α → Prop} [DecidablePred q] {g : α → β}
    (hf : ∀ x ∈ xs, ∀ o, f x = .ok o → o = if q x then some (g x) else none) :
    os.filterMap id = (xs.filter q).map g := by
  rw [mapM_eq_ok] at h
  induction h with
  | nil => rfl
  | @cons x o _ _ hxo _ ih =>
    obtain ⟨hhead, htail⟩ := List.forall_mem_cons.1 hf
    have ho := hhead o hxo
    by_cases hq : q x
    · rw [if_pos hq] at ho
      rw [ho, List.filter_cons_of_pos (by simpa using hq), List.map_cons, ← ih htail]
      rfl
    · rw [if_neg hq] at ho
      rw [ho, List.filter_cons_of_neg (by simpa using hq), ← ih htail]
      rfl

/-- A value is among the images of the elements that pass a test. -/
theorem mem_map_filter {xs : List α} {q : α → Bool} {g : α → β} {y : β} :
    y ∈ (xs.filter q).map g ↔ ∃ x ∈ xs, g x = y ∧ q x = true := by
  rw [List.mem_map]
  refine exists_congr fun x => ?_
  rw [List.mem_filter, and_right_comm, and_assoc]

/-- How often a value is among the images of the elements that pass a test. -/
theorem count_map_filter [DecidableEq β] (xs : List α) (q : α → Bool) (g : α → β) (y : β) :
    ((xs.filter q).map g).count y = xs.countP fun x => g x = y ∧ q x = true := by
  rw [List.count, List.countP_map, List.countP_filter]
  refine List.countP_congr fun x _ => ?_
  simp

end Traversal

/-! ## The two rules -/

namespace Policy

variable {p : Policy} {t : AttributeType} {a : Attribute} {name : Text}

/-- A name is a prefix of the platform, then a capital, and then anything. -/
def HasSystemPrefix (p : Policy) (name : Text) : Prop :=
  ∃ front ∈ p.systemPrefixes, ∃ c rest, name = front ++ c :: rest ∧ Text.isUppercase c = true

/-- A name has a prefix if it goes on with a capital behind it. -/
theorem hasPrefix_iff {front : Text} :
    hasPrefix name front = true ↔
      ∃ c rest, name = front ++ c :: rest ∧ Text.isUppercase c = true := by
  rw [hasPrefix, Bool.and_eq_true, List.isPrefixOf_iff_prefix]
  constructor
  · rintro ⟨⟨rest, rfl⟩, hcapital⟩
    rw [List.drop_left] at hcapital
    cases rest with
    | nil => cases hcapital
    | cons c rest => exact ⟨c, rest, rfl, hcapital⟩
  · rintro ⟨c, rest, rfl, hcapital⟩
    rw [List.drop_left]
    exact ⟨List.prefix_append _ _, hcapital⟩

/-- The names of the platform's own are those with one of its prefixes. -/
theorem isPlatformName_iff : p.isPlatformName name = true ↔ p.HasSystemPrefix name := by
  simp only [isPlatformName, List.any_eq_true, hasPrefix_iff, HasSystemPrefix]

instance (p : Policy) (name : Text) : Decidable (p.HasSystemPrefix name) :=
  decidable_of_iff _ isPlatformName_iff

/-- The name of a type is declared as a class for an attribute. -/
structure DeclaresClass (p : Policy) (t : AttributeType) : Prop where
  /-- The type is no bare protocol. -/
  notBareProtocol : ¬ (t.name = "id" ∧ t.conformingProtocol.isGiven = true)
  /-- The platform has no header for it. -/
  notWellKnown : ∀ i, (t.name, i) ∉ p.wellKnownImports
  /-- It is no type of the language. -/
  notPrimitive : t.name ∉ p.primitiveTypes
  /-- It is no number. -/
  notScalar : t.name ∉ p.scalarTypes
  /-- It does not start like a name of the platform. -/
  notPrefixed : ¬ p.HasSystemPrefix t.name
  /-- What it is another name for is no number. -/
  effectiveNotScalar : t.effectiveName ∉ p.scalarTypes.map .text
  /-- What it is another name for is no structure. -/
  effectiveNotStruct : t.effectiveName ∉ p.structTypes.map .text
  /-- It is referred to by a pointer, and not as a block. -/
  pointer : ∃ reference, t.reference = .text reference ∧ .char '^' ∉ reference ∧
    (t.effectiveName = .text "id" ∨ (Text.strip reference).getLast? = some (.char '*'))

/-- The rule for classes asks first for the name of the type and then for its storage. -/
theorem declaresClass_iff :
    p.DeclaresClass t ↔ ¬ p.SettlesByName t ∧ ∃ reference, t.reference = .text reference ∧
      p.storageFor t.effectiveName reference = .object := by
  have hname : ¬ p.SettlesByName t ↔
      ¬ (t.name = "id" ∧ t.conformingProtocol.isGiven = true) ∧
      (∀ i, (t.name, i) ∉ p.wellKnownImports) ∧ t.name ∉ p.primitiveTypes ∧
        t.name ∉ p.scalarTypes ∧ ¬ p.HasSystemPrefix t.name := by
    rw [not_settlesByName_iff, not_or, not_or, not_or, not_exists, isPlatformName_iff]
  rw [hname]
  constructor
  · rintro ⟨hbare, hknown, hprimitive, hscalar, hprefix, hescalar, hestruct, reference, hreference,
      hcaret, hobject⟩
    exact ⟨⟨hbare, hknown, hprimitive, hscalar, hprefix⟩, reference, hreference,
      (p.storageFor_eq_iff _ _).2.2 ⟨hescalar, hestruct, hcaret, hobject⟩⟩
  · rintro ⟨⟨hbare, hknown, hprimitive, hscalar, hprefix⟩, reference, hreference, hstorage⟩
    obtain ⟨hescalar, hestruct, hcaret, hobject⟩ := (p.storageFor_eq_iff _ _).2.1 hstorage
    exact ⟨hbare, hknown, hprimitive, hscalar, hprefix, hescalar, hestruct, reference, hreference,
      hcaret, hobject⟩

instance (t : AttributeType) : Decidable (IsBareProtocol t) :=
  inferInstanceAs (Decidable (_ ∧ _))

instance (p : Policy) (t : AttributeType) : Decidable (p.SettlesByName t) :=
  inferInstanceAs (Decidable (_ ∨ _))

instance (p : Policy) (t : AttributeType) : Decidable (p.DeclaresClass t) :=
  decidable_of_iff
    (¬ p.SettlesByName t ∧
      (t.reference.text?.any fun reference =>
        p.storageFor t.effectiveName reference = .object) = true)
    (by
      rw [declaresClass_iff]
      cases t.reference <;> simp [Json.text?])

/-- A type is classified as a class exactly if the rule declares it. -/
theorem eq_userClass_iff {c : Category} (h : p.categoryOf t = .ok c) :
    c = .userClass ↔ p.DeclaresClass t := by
  rw [declaresClass_iff]
  rcases categoryOf_eq_ok.1 h with ⟨hbare, rfl⟩ | ⟨-, hbuiltIn, rfl⟩ | ⟨hn, s, hs, rfl⟩
  · have hsettled : p.SettlesByName t := .inl hbare
    simp [hsettled]
  · have hsettled : p.SettlesByName t := .inr hbuiltIn
    simp [hsettled]
  · obtain ⟨reference, hreference, -, rfl⟩ := storageOf_eq_ok.1 hs
    simp [hn, hreference]

/-- The protocol of a type is declared for an attribute: there is one, and it does not start like a
name of the platform. -/
def DeclaresProtocol (p : Policy) (t : AttributeType) : Prop :=
  t.conformingProtocol.isGiven = true ∧
    ∀ name, t.conformingProtocol = .text name → ¬ p.HasSystemPrefix name

instance (p : Policy) (t : AttributeType) : Decidable (p.DeclaresProtocol t) :=
  decidable_of_iff
    (t.conformingProtocol.isGiven = true ∧
      ∀ name ∈ t.conformingProtocol.text?, ¬ p.HasSystemPrefix name)
    (by
      unfold DeclaresProtocol
      cases t.conformingProtocol <;> simp [Json.text?])

/-- The protocol to declare for an attribute is the one that the rule declares. -/
theorem forwardProtocol?_of_ok {o : Option Json} (h : p.forwardProtocol? a = .ok o) :
    o = if p.DeclaresProtocol a.type then some a.type.conformingProtocol else none := by
  by_cases htext : ∃ name, a.type.conformingProtocol = .text name
  · obtain ⟨name, hname⟩ := htext
    rw [forwardProtocol?_of_text hname, Except.ok.injEq] at h
    have hrule : p.DeclaresProtocol a.type ↔ ¬ (name = [] ∨ p.isPlatformName name = true) := by
      rw [DeclaresProtocol, hname, isPlatformName_iff]
      simp
    rw [← h, hname]
    by_cases hnone : name = [] ∨ p.isPlatformName name = true
    · rw [if_pos hnone, if_neg (mt hrule.1 (not_not.2 hnone))]
    · rw [if_neg hnone, if_pos (hrule.2 hnone)]
  · -- What is no text has no prefix, so it is declared if it is there.
    have hrule : p.DeclaresProtocol a.type ↔ a.type.conformingProtocol.isGiven = true :=
      and_iff_left fun name hname => absurd ⟨name, hname⟩ htext
    unfold forwardProtocol? at h
    split at h
    · next hgiven =>
      rw [bind_eq_ok] at h
      obtain ⟨b, hb, ho⟩ := h
      have hforeign : b = false := by
        unfold isPlatformProtocol at hb
        split at hb
        · next name hname => exact absurd ⟨name, hname⟩ htext
        · split at hb
          · exact (Except.ok.inj hb).symm
          · cases hb
      rw [pure_eq_ok, hforeign, if_neg Bool.false_ne_true] at ho
      rw [if_pos (hrule.2 hgiven), ho]
    · next hgiven =>
      rw [if_neg (mt hrule.1 hgiven)]
      exact (Except.ok.inj h).symm

end Policy

/-! ## The list -/

/-- Declarations of classes are the same if their names are. -/
theorem ObjC.ForwardDeclaration.ofClass_inj {x y : Text} : ofClass x = ofClass y ↔ x = y := by
  simp [ofClass]

/-- Declarations of protocols are the same if their names are. -/
theorem ObjC.ForwardDeclaration.ofProtocol_inj {x y : Json} :
    ofProtocol x = ofProtocol y ↔ x = y := by
  simp [ofProtocol]

namespace ValueType

variable {v : ValueType} {p : Policy} {ds : List ForwardDeclaration}

/-- The forward declarations of the classes of attributes. -/
def classDeclarations (v : ValueType) (p : Policy) : List ForwardDeclaration :=
  (v.attributes.filter fun a => p.DeclaresClass a.type).map fun a => .ofClass a.type.name

/-- The forward declarations of the protocols of attributes. -/
def protocolDeclarations (v : ValueType) (p : Policy) : List ForwardDeclaration :=
  (v.attributes.filter fun a => p.DeclaresProtocol a.type).map fun a =>
    .ofProtocol a.type.conformingProtocol

/-- The forward declarations of a builder: that of the value type, those of the lookups, and those
that the two rules lead to. -/
theorem builderDeclarations_eq (h : v.builderDeclarations p = .ok ds) :
    ds = (.ofClass v.typeName :: (v.lookupDeclarations ++ v.classDeclarations p)) ++
      v.protocolDeclarations p := by
  obtain ⟨cs, hcs, ps, hps, rfl⟩ := builderDeclarations_eq_ok.1 h
  have hclasses : cs.filterMap id = v.classDeclarations p := by
    refine filterMap_id_of_mapM_eq_ok hcs fun a _ o ho => ?_
    obtain ⟨c, hc, rfl⟩ := Attribute.classDeclaration?_eq_ok.1 ho
    simp only [Policy.eq_userClass_iff hc]
  have hprotocols : ps.filterMap id = v.protocolDeclarations p := by
    refine filterMap_id_of_mapM_eq_ok hps fun a _ o ho => ?_
    obtain ⟨name, hname, rfl⟩ := Attribute.protocolDeclaration?_eq_ok.1 ho
    rw [Policy.forwardProtocol?_of_ok hname]
    split <;> rfl
  rw [hclasses, hprotocols]
  rfl

/-- The declarations in front of those of protocols are declarations of classes. -/
theorem kind_of_mem_classes {d : ForwardDeclaration}
    (h : d ∈ .ofClass v.typeName :: (v.lookupDeclarations ++ v.classDeclarations p)) :
    d.kind = .ofClass := by
  rcases List.mem_cons.1 h with rfl | h
  · rfl
  rcases List.mem_append.1 h with h | h
  · obtain ⟨l, -, rfl⟩ := List.mem_map.1 h
    rfl
  · obtain ⟨a, -, rfl⟩ := List.mem_map.1 h
    rfl

/-- The declarations of the protocols of attributes are declarations of protocols. -/
theorem kind_of_mem_protocolDeclarations {d : ForwardDeclaration}
    (h : d ∈ v.protocolDeclarations p) : d.kind = .ofProtocol := by
  obtain ⟨a, -, rfl⟩ := List.mem_map.1 h
  rfl

/-- How often the lookups declare a name. -/
theorem count_lookupDeclarations (v : ValueType) (x : Text) :
    v.lookupDeclarations.count (.ofClass x) =
      v.typeLookups.countP fun l => l.name = x ∧ l.canForwardDeclare = true := by
  rw [lookupDeclarations, count_map_filter]
  simp only [ForwardDeclaration.ofClass_inj]

/-- How often the attributes declare the name of a class. -/
theorem count_classDeclarations (v : ValueType) (p : Policy) (x : Text) :
    (v.classDeclarations p).count (.ofClass x) =
      v.attributes.countP fun a => a.type.name = x ∧ p.DeclaresClass a.type := by
  rw [classDeclarations, count_map_filter]
  simp only [ForwardDeclaration.ofClass_inj, decide_eq_true_eq]

/-- How often the attributes declare a protocol. -/
theorem count_protocolDeclarations (v : ValueType) (p : Policy) (x : Json) :
    (v.protocolDeclarations p).count (.ofProtocol x) =
      v.attributes.countP fun a =>
        a.type.conformingProtocol = x ∧ p.DeclaresProtocol a.type := by
  rw [protocolDeclarations, count_map_filter]
  simp only [ForwardDeclaration.ofProtocol_inj, decide_eq_true_eq]

/-- There are declarations for every value type whose members are texts. -/
theorem exists_builderDeclarations_of_isTextual (h : v.IsTextual) :
    ∃ ds, v.builderDeclarations p = .ok ds :=
  exists_builderDeclarations_eq_ok.2 fun a ha =>
    ⟨.inr (h a ha).hasStorage, fun hg => .inl ((h a ha).conformingProtocol hg)⟩

/-- Every value type whose members are texts has declarations. A name is declared as a class once
for the value type that has it, once for each lookup of it that allows it, and once for each
attribute whose type has it and is declared as a class by the rule. A protocol is declared once for
each attribute that has it and whose protocol is declared by the rule. The declaration of the value
type comes first, and those of classes come before those of protocols. -/
theorem count_builderDeclarations (v : ValueType) (p : Policy) :
    (v.IsTextual → ∃ ds, v.builderDeclarations p = .ok ds) ∧
    ∀ ds, v.builderDeclarations p = .ok ds →
      (∀ x, ds.count (.ofClass x) =
        (if x = v.typeName then 1 else 0) +
          (v.typeLookups.countP fun l => l.name = x ∧ l.canForwardDeclare = true) +
          v.attributes.countP fun a => a.type.name = x ∧ p.DeclaresClass a.type) ∧
      (∀ x, ds.count (.ofProtocol x) =
        v.attributes.countP fun a =>
          a.type.conformingProtocol = x ∧ p.DeclaresProtocol a.type) ∧
      ds.head? = some (.ofClass v.typeName) ∧
      ∃ classes protocols, ds = classes ++ protocols ∧ (∀ d ∈ classes, d.kind = .ofClass) ∧
        ∀ d ∈ protocols, d.kind = .ofProtocol := by
  refine ⟨exists_builderDeclarations_of_isTextual, fun ds hds => ?_⟩
  have hsplit := builderDeclarations_eq hds
  refine ⟨fun x => ?_, fun x => ?_, by rw [hsplit]; rfl, _, _, hsplit,
    fun _ => kind_of_mem_classes, fun _ => kind_of_mem_protocolDeclarations⟩
  · have hprotocols : (v.protocolDeclarations p).count (.ofClass x) = 0 :=
      List.count_eq_zero.2 fun hmem => nomatch kind_of_mem_protocolDeclarations hmem
    have hown : (ForwardDeclaration.ofClass v.typeName == .ofClass x) = decide (x = v.typeName) := by
      rw [Bool.eq_iff_iff, beq_iff_eq, decide_eq_true_iff, ForwardDeclaration.ofClass_inj, eq_comm]
    rw [hsplit, List.count_append, hprotocols, List.count_cons, List.count_append,
      count_lookupDeclarations, count_classDeclarations, hown]
    simp only [decide_eq_true_eq]
    omega
  · have hclasses : (ForwardDeclaration.ofClass v.typeName ::
        (v.lookupDeclarations ++ v.classDeclarations p)).count (.ofProtocol x) = 0 :=
      List.count_eq_zero.2 fun hmem => nomatch kind_of_mem_classes hmem
    rw [hsplit, List.count_append, hclasses, count_protocolDeclarations, Nat.zero_add]

/-- A node that knows its neighbours, and a feed that conforms to a protocol. -/
def linkedNode : ValueType where
  typeName := "Node"
  attributes := [
    { name := "next", type := { name := "Node", reference := .text "Node *" } },
    { name := "previous", type := { name := "Node", reference := .text "Node *" } },
    { name := "feed", type := {
      name := "Feed", reference := .text "Feed<FeedSource> *",
      conformingProtocol := .text "FeedSource" } }]
  typeLookups := [{ name := "Node" }]

/-- A node is declared for itself, for its lookup and for each of the neighbours. -/
theorem count_builderDeclarations_linkedNode :
    linkedNode.IsTextual ∧ ∃ ds, linkedNode.builderDeclarations .standard = .ok ds ∧
      ds.count (.ofClass "Node") = 4 ∧ ds.count (.ofClass "Feed") = 1 ∧
      ds.count (.ofProtocol (.text "FeedSource")) = 1 := by
  have htextual : linkedNode.IsTextual := by decide
  obtain ⟨hexists, hcounts⟩ := count_builderDeclarations linkedNode .standard
  obtain ⟨ds, hds⟩ := hexists htextual
  obtain ⟨hclasses, hprotocols, -⟩ := hcounts ds hds
  refine ⟨htextual, ds, hds, ?_, ?_, ?_⟩
  · rw [hclasses]
    decide +kernel
  · rw [hclasses]
    decide +kernel
  · rw [hprotocols]
    decide +kernel

/-! ## Lookups that refuse a declaration -/

/-- Which names are declared as classes: that of the value type, those of the lookups that allow it,
and those of the attributes that the rule declares. -/
theorem ofClass_mem_builderDeclarations_iff (h : v.builderDeclarations p = .ok ds) {x : Text} :
    .ofClass x ∈ ds ↔
      x = v.typeName ∨
      (∃ l ∈ v.typeLookups, l.name = x ∧ l.canForwardDeclare = true) ∨
      ∃ a ∈ v.attributes, a.type.name = x ∧ p.DeclaresClass a.type := by
  have hprotocols : ForwardDeclaration.ofClass x ∉ v.protocolDeclarations p := fun hmem =>
    nomatch kind_of_mem_protocolDeclarations hmem
  have hlookups : ForwardDeclaration.ofClass x ∈ v.lookupDeclarations ↔
      ∃ l ∈ v.typeLookups, l.name = x ∧ l.canForwardDeclare = true := by
    simp only [lookupDeclarations, mem_map_filter, ForwardDeclaration.ofClass_inj]
  have hclasses : ForwardDeclaration.ofClass x ∈ v.classDeclarations p ↔
      ∃ a ∈ v.attributes, a.type.name = x ∧ p.DeclaresClass a.type := by
    simp only [classDeclarations, mem_map_filter, ForwardDeclaration.ofClass_inj,
      decide_eq_true_eq]
  rw [builderDeclarations_eq h, List.mem_append, or_iff_left hprotocols, List.mem_cons,
    List.mem_append, ForwardDeclaration.ofClass_inj, hlookups, hclasses]

/-- If there are declarations, every attribute has a category, and the rule declares those that are
classified as classes. -/
theorem categoryOf_eq_userClass_iff (h : v.builderDeclarations p = .ok ds) {a : Attribute}
    (ha : a ∈ v.attributes) : p.categoryOf a.type = .ok .userClass ↔ p.DeclaresClass a.type := by
  obtain ⟨hcategory, -⟩ := exists_builderDeclarations_eq_ok.1 ⟨ds, h⟩ a ha
  obtain ⟨c, hc⟩ := Policy.exists_categoryOf_eq_ok.2 hcategory
  rw [hc, Except.ok.injEq, Policy.eq_userClass_iff hc]

/-- The name of a type that no lookup allows to be declared, and that is not the name of the value
type, is declared as a class exactly if some attribute has the type and it is classified as a class.
Whatever the directives are, the header of a lookup of the type is imported publicly. Every value
type whose members are texts has declarations and imports. -/
theorem declared_iff_of_refused {x : Text}
    (hrefused : ∃ l ∈ v.typeLookups, l.name = x ∧ l.canForwardDeclare = false)
    (hnone : ∀ l ∈ v.typeLookups, l.name = x → l.canForwardDeclare = false)
    (hname : x ≠ v.typeName) :
    (v.IsTextual → (∃ ds, v.builderDeclarations p = .ok ds) ∧
      ∀ d, ∃ is, v.builderImports d p = .ok is) ∧
    (∀ ds, v.builderDeclarations p = .ok ds →
      (.ofClass x ∈ ds ↔
        ∃ a ∈ v.attributes, a.type.name = x ∧ p.categoryOf a.type = .ok .userClass)) ∧
    ∀ d is, v.builderImports d p = .ok is →
      ∃ l ∈ v.typeLookups, l.name = x ∧ l.toImport v.libraryName true ∈ is := by
  refine ⟨fun h => ⟨exists_builderDeclarations_of_isTextual h, fun d => ?_⟩, fun ds hds => ?_,
    fun d is his => ?_⟩
  · exact exists_builderImports_eq_ok fun a ha =>
      Policy.exists_categoryOf_eq_ok.2 (.inr (h a ha).hasStorage)
  · have hlookups : ¬ ∃ l ∈ v.typeLookups, l.name = x ∧ l.canForwardDeclare = true := by
      rintro ⟨l, hl, hlname, hdeclarable⟩
      rw [hnone l hl hlname] at hdeclarable
      cases hdeclarable
    -- What is left are the attributes, which nothing keeps from being declared.
    rw [ofClass_mem_builderDeclarations_iff hds, or_iff_right hname, or_iff_right hlookups]
    exact exists_congr fun a => and_congr_right fun ha => and_congr_right fun _ =>
      (categoryOf_eq_userClass_iff hds ha).symm
  · obtain ⟨l, hl, hlname, hrefuses⟩ := hrefused
    obtain ⟨js, -, rfl⟩ := builderImports_eq_ok.1 his
    exact ⟨l, hl, hlname,
      List.mem_append_left _ (List.mem_append_right _ (mem_lookupImports hl hrefuses))⟩

/-- The mood of a gathering is not declared, and its header is imported. -/
theorem declared_iff_of_refused_gathering :
    (∃ l ∈ gathering.typeLookups, l.name = "Mood" ∧ l.canForwardDeclare = false) ∧
    (∀ l ∈ gathering.typeLookups, l.name = "Mood" → l.canForwardDeclare = false) ∧
    (Text.ofString "Mood") ≠ gathering.typeName ∧ gathering.IsTextual ∧
    (∃ ds, gathering.builderDeclarations .standard = .ok ds ∧ .ofClass "Mood" ∉ ds) ∧
    ∃ is, gathering.builderImports {} .standard = .ok is ∧ ∃ l ∈ gathering.typeLookups,
      l.name = "Mood" ∧ l.toImport gathering.libraryName true ∈ is := by
  have hrefused : ∃ l ∈ gathering.typeLookups, l.name = "Mood" ∧ l.canForwardDeclare = false := by
    decide
  have hnone : ∀ l ∈ gathering.typeLookups, l.name = "Mood" → l.canForwardDeclare = false := by
    decide
  have hname : (Text.ofString "Mood") ≠ gathering.typeName := by decide
  have htextual : gathering.IsTextual := by decide
  have hattributes : ¬ ∃ a ∈ gathering.attributes, a.type.name = "Mood" ∧
      Policy.standard.categoryOf a.type = .ok .userClass := by
    decide +kernel
  obtain ⟨hexists, hdeclared, himported⟩ :=
    declared_iff_of_refused (p := .standard) hrefused hnone hname
  obtain ⟨⟨ds, hds⟩, himports⟩ := hexists htextual
  obtain ⟨is, his⟩ := himports {}
  exact ⟨hrefused, hnone, hname, htextual, ⟨ds, hds, mt (hdeclared ds hds).1 hattributes⟩, is, his,
    himported {} is his⟩

/-- A person whose home is a class, and a lookup of the class that refuses a declaration. -/
def homeowner : ValueType where
  typeName := "RMPerson"
  attributes := [
    { name := "home", type := { name := "Address", reference := .text "Address *" } }]
  typeLookups := [{ name := "Address", canForwardDeclare := false }]

/-- A name is declared as a class although all lookups of it refuse that. -/
def DeclaresRefused (v : ValueType) (p : Policy) (x : Text) : Prop :=
  v.IsTextual ∧ (∃ l ∈ v.typeLookups, l.name = x ∧ l.canForwardDeclare = false) ∧
    (∀ l ∈ v.typeLookups, l.name = x → l.canForwardDeclare = false) ∧ x ≠ v.typeName ∧
    ∃ ds, v.builderDeclarations p = .ok ds ∧ .ofClass x ∈ ds

/-- The class of a home is declared for the attribute. -/
theorem declaresRefused_homeowner : homeowner.DeclaresRefused .standard "Address" := by
  have htextual : homeowner.IsTextual := by decide
  have hdeclares : ∃ a ∈ homeowner.attributes, a.type.name = "Address" ∧
      Policy.standard.DeclaresClass a.type := by
    decide +kernel
  obtain ⟨ds, hds⟩ := exists_builderDeclarations_of_isTextual (p := .standard) htextual
  exact ⟨htextual, by decide, by decide, by decide, ds, hds,
    (ofClass_mem_builderDeclarations_iff hds).2 (.inr (.inr hdeclares))⟩

end ValueType

end ValueBuilder
