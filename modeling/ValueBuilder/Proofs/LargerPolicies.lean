import ValueBuilder.Proofs.Declarations

/-!
# Larger policies

What happens to the types of attributes if the tables of a policy grow. `Policy.IsExtendedBy` says
that a second policy knows at least the names that the first one knows, and that both copy values of
the same classes. A type that is the platform's under the first policy is so under the second one.
The other rules ask that a name is in none of the tables, so under the second policy they hold of
fewer types: fewer types are classes, fewer values are copied, and fewer protocols are declared.

A table may act at two places. A number is the platform's by its own name, and a type that is
another name for a number is held as one, so that it is no class either. Both places ask the same
way, so the rules of `Policy.DeclaresClass`, `Policy.DeclaresProtocol` and `Policy.CopiesType` are
compared member by member. `Policy.monotone_of_isExtendedBy` draws the conclusions for the
classification, and for the forward declarations of a builder, which lose some members and keep the
others in their order.
-/

namespace ValueBuilder

open Traversal
open ObjC (ForwardDeclaration)

namespace Policy

/-- A second policy knows at least the names that a first one knows, and copies values of the same
classes. -/
structure IsExtendedBy (p q : Policy) : Prop where
  /-- The types that come with a header of the platform; the headers may be others. -/
  wellKnown : ∀ name i, (name, i) ∈ p.wellKnownImports → ∃ j, (name, j) ∈ q.wellKnownImports
  /-- The types of the language. -/
  primitive : p.primitiveTypes ⊆ q.primitiveTypes
  /-- The types that are held as numbers. -/
  scalar : p.scalarTypes ⊆ q.scalarTypes
  /-- The types that are held as structures. -/
  struct : p.structTypes ⊆ q.structTypes
  /-- What the names of the platform's own types start with. -/
  prefixes : p.systemPrefixes ⊆ q.systemPrefixes
  /-- The classes whose values are copied are the same ones. -/
  copyable : ∀ name, name ∈ p.copyableTypes ↔ name ∈ q.copyableTypes

variable {p q : Policy} {t : AttributeType} {name : Text}

/-! ## The rules under a larger policy -/

namespace IsExtendedBy

variable (h : p.IsExtendedBy q)
include h

/-- A name with a prefix of the smaller policy has one of the larger policy. -/
theorem hasSystemPrefix (hname : p.HasSystemPrefix name) : q.HasSystemPrefix name := by
  obtain ⟨front, hfront, hrest⟩ := hname
  exact ⟨front, h.prefixes hfront, hrest⟩

/-- What the smaller policy knows by its name the larger one does. -/
theorem isBuiltInName (hname : p.isBuiltInName name = true) : q.isBuiltInName name = true := by
  rw [isBuiltInName_iff, isPlatformName_iff] at hname ⊢
  rcases hname with ⟨i, hi⟩ | hprimitive | hscalar | hprefix
  · exact .inl (h.wellKnown name i hi)
  · exact .inr (.inl (h.primitive hprimitive))
  · exact .inr (.inr (.inl (h.scalar hscalar)))
  · exact .inr (.inr (.inr (h.hasSystemPrefix hprefix)))

/-- What is no number for the larger policy is none for the smaller one, and likewise for
structures. -/
theorem not_mem_tables {value : Json} (hscalar : value ∉ q.scalarTypes.map .text)
    (hstruct : value ∉ q.structTypes.map .text) :
    value ∉ p.scalarTypes.map .text ∧ value ∉ p.structTypes.map .text :=
  ⟨mt (List.map_subset _ h.scalar ·) hscalar, mt (List.map_subset _ h.struct ·) hstruct⟩

/-- A type that the larger policy declares as a class is declared by the smaller one. -/
theorem declaresClass (ht : q.DeclaresClass t) : p.DeclaresClass t := by
  obtain ⟨hscalar, hstruct⟩ := h.not_mem_tables ht.effectiveNotScalar ht.effectiveNotStruct
  exact {
    notBareProtocol := ht.notBareProtocol
    notWellKnown := fun i hi => by
      obtain ⟨j, hj⟩ := h.wellKnown t.name i hi
      exact ht.notWellKnown j hj
    notPrimitive := fun hmem => ht.notPrimitive (h.primitive hmem)
    notScalar := fun hmem => ht.notScalar (h.scalar hmem)
    notPrefixed := fun hprefix => ht.notPrefixed (h.hasSystemPrefix hprefix)
    effectiveNotScalar := hscalar
    effectiveNotStruct := hstruct
    pointer := ht.pointer }

/-- A protocol that the larger policy declares is declared by the smaller one. -/
theorem declaresProtocol (ht : q.DeclaresProtocol t) : p.DeclaresProtocol t :=
  ⟨ht.1, fun name hname hprefix => ht.2 name hname (h.hasSystemPrefix hprefix)⟩

/-- Values that the larger policy copies are copied by the smaller one. -/
theorem copiesType (ht : q.CopiesType t) : p.CopiesType t := by
  obtain ⟨hscalar, hstruct, reference, hreference, hkind⟩ := ht
  obtain ⟨hscalar', hstruct'⟩ := h.not_mem_tables hscalar hstruct
  refine ⟨hscalar', hstruct', reference, hreference, ?_⟩
  -- A block is copied whatever the table of classes says.
  exact hkind.imp_right (And.imp_right (h.copyable t.name).2)

end IsExtendedBy

/-! ## Classification -/

/-- A type is classified as a protocol if it is a bare one, whatever the tables are. -/
theorem categoryOf_eq_ofProtocol_iff : p.categoryOf t = .ok .ofProtocol ↔ IsBareProtocol t := by
  rw [categoryOf_eq_ok]
  constructor
  · rintro (⟨hbare, -⟩ | ⟨-, -, hc⟩ | ⟨-, s, -, hc⟩)
    · exact hbare
    · cases hc
    · split at hc <;> cases hc
  · intro hbare
    exact .inl ⟨hbare, rfl⟩

/-- A type is classified as the platform's by its name, unless it is a bare protocol. -/
theorem categoryOf_eq_builtIn_iff :
    p.categoryOf t = .ok .builtIn ↔ ¬ IsBareProtocol t ∧ p.isBuiltInName t.name = true := by
  rw [categoryOf_eq_ok]
  constructor
  · rintro (⟨-, hc⟩ | ⟨hbare, hname, -⟩ | ⟨-, s, -, hc⟩)
    · cases hc
    · exact ⟨hbare, hname⟩
    · split at hc <;> cases hc
  · rintro ⟨hbare, hname⟩
    exact .inr (.inl ⟨hbare, hname, rfl⟩)

/-- A type that is classified as a class has a storage. -/
theorem hasStorage_of_userClass (ht : p.categoryOf t = .ok .userClass) : t.HasStorage := by
  rcases categoryOf_eq_ok.1 ht with ⟨-, hc⟩ | ⟨-, -, hc⟩ | ⟨-, s, hs, -⟩
  · cases hc
  · cases hc
  · exact exists_storageOf_eq_ok.1 ⟨s, hs⟩

namespace IsExtendedBy

variable (h : p.IsExtendedBy q)
include h

/-- A class of the larger policy is one of the smaller policy. -/
theorem categoryOf_eq_userClass (ht : q.categoryOf t = .ok .userClass) :
    p.categoryOf t = .ok .userClass := by
  have hdeclares : p.DeclaresClass t := h.declaresClass ((eq_userClass_iff ht).1 rfl)
  -- The storage of a type can be told or not, whatever the policy is.
  obtain ⟨c, hc⟩ := (exists_categoryOf_eq_ok (p := p)).2 (.inr (hasStorage_of_userClass ht))
  rw [hc, (eq_userClass_iff hc).2 hdeclares]

/-- Values that are copied under the larger policy are copied under the smaller one. -/
theorem copies_eq_true (ht : q.copies t = .ok true) : p.copies t = .ok true := by
  have hcopies : p.CopiesType t := h.copiesType ((copies_iff ht).1 rfl)
  have hstorage : t.HasStorage := exists_copies_eq_ok.1 ⟨true, ht⟩
  obtain ⟨b, hb⟩ := (exists_copies_eq_ok (p := p)).2 hstorage
  rw [hb, (copies_iff hb).2 hcopies]

/-- The larger policy declares a part of what the smaller one declares, in the same order. -/
theorem builderDeclarations_sublist {v : ValueType} {ds es : List ForwardDeclaration}
    (hds : v.builderDeclarations p = .ok ds) (hes : v.builderDeclarations q = .ok es) :
    es.Sublist ds := by
  have hclasses : (v.classDeclarations q).Sublist (v.classDeclarations p) := by
    refine List.Sublist.map _ (List.monotone_filter_right _ fun a ha => ?_)
    rw [decide_eq_true_iff] at ha ⊢
    exact h.declaresClass ha
  have hprotocols : (v.protocolDeclarations q).Sublist (v.protocolDeclarations p) := by
    refine List.Sublist.map _ (List.monotone_filter_right _ fun a ha => ?_)
    rw [decide_eq_true_iff] at ha ⊢
    exact h.declaresProtocol ha
  rw [ValueType.builderDeclarations_eq hds, ValueType.builderDeclarations_eq hes]
  -- The declarations of the value type and of its lookups are the same under both policies.
  exact (((List.Sublist.refl _).append hclasses).cons_cons _).append hprotocols

end IsExtendedBy

/-- What a policy does if its tables grow and the classes whose values are copied stay the same. A
type stays a protocol or stays none. A type of the platform stays one. A class under the larger
policy was one before, and values that the larger policy copies were copied before. Each type that
has a storage has a category, and it is known whether its values are copied.

Every value type whose members are texts has declarations under both policies. Those under the
larger policy are a part of those under the smaller one, in the same order. -/
theorem monotone_of_isExtendedBy (h : p.IsExtendedBy q) :
    (∀ t : AttributeType,
      (p.categoryOf t = .ok .ofProtocol ↔ q.categoryOf t = .ok .ofProtocol) ∧
      (p.categoryOf t = .ok .builtIn → q.categoryOf t = .ok .builtIn) ∧
      (q.categoryOf t = .ok .userClass → p.categoryOf t = .ok .userClass) ∧
      (q.copies t = .ok true → p.copies t = .ok true) ∧
      (t.HasStorage → ∀ r : Policy,
        (∃ c, r.categoryOf t = .ok c) ∧ ∃ b, r.copies t = .ok b)) ∧
    ∀ v : ValueType,
      (v.IsTextual → ∀ r : Policy, ∃ ds, v.builderDeclarations r = .ok ds) ∧
      ∀ ds es, v.builderDeclarations p = .ok ds → v.builderDeclarations q = .ok es →
        es.Sublist ds := by
  refine ⟨fun t => ⟨?_, fun ht => ?_, h.categoryOf_eq_userClass, h.copies_eq_true,
    fun ht r => ?_⟩, fun v => ⟨fun hv r => ?_, fun ds es => h.builderDeclarations_sublist⟩⟩
  · rw [categoryOf_eq_ofProtocol_iff, categoryOf_eq_ofProtocol_iff]
  · rw [categoryOf_eq_builtIn_iff] at ht ⊢
    exact ⟨ht.1, h.isBuiltInName ht.2⟩
  · exact ⟨exists_categoryOf_eq_ok.2 (.inr ht), exists_copies_eq_ok.2 ht⟩
  · exact ValueType.exists_builderDeclarations_of_isTextual hv

/-- The standard policy with a kind of number and a prefix of its own. -/
def marketplace : Policy :=
  { standard with
    scalarTypes := "Money" :: standard.scalarTypes
    systemPrefixes := "RM" :: standard.systemPrefixes }

/-- The type of a title. -/
def titleType : AttributeType where
  name := "NSString"
  reference := .text "NSString *"

/-- The type of a shop, with a protocol whose name has the prefix of `marketplace`. -/
def shopType : AttributeType where
  name := "Shop"
  reference := .text "Shop<RMSeller> *"
  conformingProtocol := .text "RMSeller"

/-- An order: a title, a price that is another name for a number of `marketplace`, a buyer whose
type has its prefix, and a shop. -/
def order : ValueType where
  typeName := "Order"
  attributes := [
    { name := "title", type := titleType },
    { name := "price", type := {
      name := "Price", reference := .text "Price *", underlyingType := .text "Money" } },
    { name := "buyer", type := { name := "RMPerson", reference := .text "RMPerson *" } },
    { name := "shop", type := shopType }]

/-- Under the larger policy the price is a number and the buyer the platform's, so neither is
declared any longer, and the protocol of the shop is not either. The title stays the platform's, and
it is copied under both policies. The shop is a class under both. -/
theorem monotone_of_isExtendedBy_order :
    standard.IsExtendedBy marketplace ∧ order.IsTextual ∧
    (∃ ds es, order.builderDeclarations standard = .ok ds ∧
      order.builderDeclarations marketplace = .ok es ∧ es.Sublist ds ∧
      ds.map (·.code) = [.ofString "@class Order;", .ofString "@class Price;",
        .ofString "@class RMPerson;", .ofString "@class Shop;", .ofString "@protocol RMSeller;"] ∧
      es.map (·.code) = [.ofString "@class Order;", .ofString "@class Shop;"]) ∧
    (titleType.HasStorage ∧ (∃ c, marketplace.categoryOf titleType = .ok c) ∧
      ∃ b, marketplace.copies titleType = .ok b) ∧
    (standard.categoryOf titleType = .ok .builtIn ∧
      marketplace.categoryOf titleType = .ok .builtIn) ∧
    (marketplace.copies titleType = .ok true ∧ standard.copies titleType = .ok true) ∧
    marketplace.categoryOf shopType = .ok .userClass ∧
      standard.categoryOf shopType = .ok .userClass := by
  have hextended : standard.IsExtendedBy marketplace :=
    { wellKnown := fun _ i hi => ⟨i, hi⟩
      primitive := List.Subset.refl _
      scalar := List.subset_cons_self _ _
      struct := List.Subset.refl _
      prefixes := List.subset_cons_self _ _
      copyable := fun _ => Iff.rfl }
  have htextual : order.IsTextual := by decide
  have hstorage : titleType.HasStorage := by decide
  have hbuiltIn : standard.categoryOf titleType = .ok .builtIn := by decide +kernel
  have hcopies : marketplace.copies titleType = .ok true := by decide +kernel
  have hclass : marketplace.categoryOf shopType = .ok .userClass := by decide +kernel
  obtain ⟨htypes, hvalues⟩ := monotone_of_isExtendedBy hextended
  obtain ⟨-, htitle, -, hcopied, htold⟩ := htypes titleType
  obtain ⟨-, -, hshop, -, -⟩ := htypes shopType
  obtain ⟨hexists, hsublist⟩ := hvalues order
  obtain ⟨ds, hds⟩ := hexists htextual standard
  obtain ⟨es, hes⟩ := hexists htextual marketplace
  refine ⟨hextended, htextual, ⟨ds, es, hds, hes, hsublist ds es hds hes, ?_, ?_⟩,
    ⟨hstorage, htold hstorage marketplace⟩, ⟨hbuiltIn, htitle hbuiltIn⟩,
    ⟨hcopies, hcopied hcopies⟩, hclass, hshop hclass⟩
  · rw [ValueType.builderDeclarations_eq hds]
    decide +kernel
  · rw [ValueType.builderDeclarations_eq hes]
    decide +kernel

end Policy

end ValueBuilder
