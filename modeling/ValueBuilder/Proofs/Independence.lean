import ValueBuilder.Proofs.HeaderClosure

/-!
# Attributes do not interfere

The file of a builder is put together in several passes over the attributes: for the imports, for the
classes and the protocols that are declared, for the variables, and for the methods that set the
attributes. No pass carries anything from one attribute to the next one. So one more attribute adds
what it would add alone, at its place in each pass, and nothing else changes but the bodies of the
two methods that mention all attributes. `InsertsAt` is that relation between lists, and it goes
through each kind of pass.

`ValueType.builderFile_insert` says it of the whole file, and that a file can be made exactly if it
can be made without the attribute and with the attribute alone. It also says that the order of the
attributes and of the type lookups is the order of what they add and has no other effect.
-/

namespace ValueBuilder

open Traversal
open ObjC (CodeFile ForwardDeclaration Import Method Property)

/-! ## Parts of lists -/

section Lists

variable {ε α β : Type} {n : ℕ} {part without whole : List α}

/-- A list is another one with a part put in behind its first elements. -/
def InsertsAt (n : ℕ) (part without whole : List α) : Prop :=
  ∃ before after, before.length = n ∧ without = before ++ after ∧ whole = before ++ part ++ after

/-- A part is put in between two lists. -/
theorem insertsAt_append (before part after : List α) :
    InsertsAt before.length part (before ++ after) (before ++ part ++ after) :=
  ⟨before, after, rfl, rfl, rfl⟩

/-- What is in front of both lists stays there. -/
theorem InsertsAt.append_left (h : InsertsAt n part without whole) (front : List α) :
    InsertsAt (front.length + n) part (front ++ without) (front ++ whole) := by
  obtain ⟨before, after, rfl, rfl, rfl⟩ := h
  refine ⟨front ++ before, after, List.length_append, ?_, ?_⟩
  · rw [List.append_assoc]
  · rw [List.append_assoc, List.append_assoc, List.append_assoc]

/-- What is behind both lists stays there. -/
theorem InsertsAt.append_right (h : InsertsAt n part without whole) (back : List α) :
    InsertsAt n part (without ++ back) (whole ++ back) := by
  obtain ⟨before, after, rfl, rfl, rfl⟩ := h
  exact ⟨before, after ++ back, rfl, List.append_assoc .., List.append_assoc ..⟩

/-- The elements are replaced one by one. -/
theorem InsertsAt.map (h : InsertsAt n part without whole) (f : α → β) :
    InsertsAt n (part.map f) (without.map f) (whole.map f) := by
  obtain ⟨before, after, rfl, rfl, rfl⟩ := h
  refine ⟨before.map f, after.map f, List.length_map .., List.map_append, ?_⟩
  rw [List.map_append, List.map_append]

/-- Some of the elements are left out. -/
theorem InsertsAt.filter (h : InsertsAt n part without whole) (q : α → Bool) :
    ∃ k, InsertsAt k (part.filter q) (without.filter q) (whole.filter q) := by
  obtain ⟨before, after, rfl, rfl, rfl⟩ := h
  refine ⟨_, before.filter q, after.filter q, rfl, List.filter_append .., ?_⟩
  rw [List.filter_append, List.filter_append]

/-- The elements are replaced or left out one by one. -/
theorem InsertsAt.filterMap (h : InsertsAt n part without whole) (f : α → Option β) :
    ∃ k, InsertsAt k (part.filterMap f) (without.filterMap f) (whole.filterMap f) := by
  obtain ⟨before, after, rfl, rfl, rfl⟩ := h
  refine ⟨_, before.filterMap f, after.filterMap f, rfl, List.filterMap_append, ?_⟩
  rw [List.filterMap_append, List.filterMap_append]

/-- A traversal goes over the part by itself. -/
theorem InsertsAt.mapM_eq_ok (h : InsertsAt n part without whole) {f : α → Except ε β}
    {part' without' whole' : List β} (hpart : part.mapM f = .ok part')
    (hwithout : without.mapM f = .ok without') (hwhole : whole.mapM f = .ok whole') :
    InsertsAt n part' without' whole' := by
  obtain ⟨before, after, rfl, rfl, rfl⟩ := h
  -- The traversals split where the lists do, and on the same list they have the same results.
  obtain ⟨us, hus, vs, hvs, rfl⟩ := mapM_append_eq_ok.1 hwithout
  obtain ⟨_, hfront, vs', hvs', rfl⟩ := mapM_append_eq_ok.1 hwhole
  obtain ⟨us', hus', ps, hps, rfl⟩ := mapM_append_eq_ok.1 hfront
  rw [hus, Except.ok.injEq] at hus'
  rw [hvs, Except.ok.injEq] at hvs'
  rw [hpart, Except.ok.injEq] at hps
  subst hus' hvs' hps
  exact ⟨us, vs, (mapM_eq_ok.1 hus).length_eq.symm, rfl, rfl⟩

/-- An optional result that is given is the only one. -/
theorem filterMap_id_singleton (o : Option α) : [o].filterMap id = o.toList := by
  cases o <;> rfl

end Lists

/-! ## One more attribute -/

/-- A method without its body. -/
def ObjC.Method.withoutBody (m : Method) : Method := { m with code := [] }

/-- One more attribute in a class: `whole` is `without` together with what is for the attribute in
`alone`, the class that has no other attribute. It stands at place `n`. -/
structure ObjC.Class.AddsAttribute (n : ℕ) (without alone whole : ObjC.Class) : Prop where
  /-- Nothing but methods and variables changes. -/
  other : whole = { without with
    classMethods := whole.classMethods, instanceMethods := whole.instanceMethods,
    internalProperties := whole.internalProperties }
  /-- The factory that starts fresh is the same. The other one is, but for its body. -/
  factories : ∃ fresh seed seed', without.classMethods = [fresh, seed] ∧
    whole.classMethods = [fresh, seed'] ∧ seed'.withoutBody = seed.withoutBody
  /-- The method that makes the value is the same but for its body. -/
  build : ∃ build build', without.instanceMethods = build :: without.mutations ∧
    whole.instanceMethods = build' :: whole.mutations ∧ build'.withoutBody = build.withoutBody
  /-- There is one more variable. -/
  holders : ∃ q, alone.internalProperties = [q] ∧
    InsertsAt n [q] without.internalProperties whole.internalProperties
  /-- There is one more method that sets an attribute. -/
  mutations : ∃ m, alone.mutations = [m] ∧ InsertsAt n [m] without.mutations whole.mutations

namespace Attribute

variable {a : Attribute} {p : Policy} {o : Option ForwardDeclaration}

/-- The declaration of the class of an attribute is that of a class. -/
theorem kind_of_classDeclaration? (h : a.classDeclaration? p = .ok o) :
    ∀ d ∈ o, d.kind = .ofClass := by
  obtain ⟨c, -, rfl⟩ := classDeclaration?_eq_ok.1 h
  intro d hd
  split at hd
  · cases hd
    rfl
  · cases hd

/-- The declaration of the protocol of an attribute is that of a protocol. -/
theorem kind_of_protocolDeclaration? (h : a.protocolDeclaration? p = .ok o) :
    ∀ d ∈ o, d.kind = .ofProtocol := by
  obtain ⟨name, -, rfl⟩ := protocolDeclaration?_eq_ok.1 h
  intro d hd
  obtain ⟨n, -, rfl⟩ := Option.map_eq_some_iff.1 hd
  rfl

end Attribute

namespace ValueType

/-- A value type with other attributes. -/
def withAttributes (v : ValueType) (as : List Attribute) : ValueType := { v with attributes := as }

/-- A value type with other type lookups. -/
def withLookups (v : ValueType) (ls : List TypeLookup) : ValueType := { v with typeLookups := ls }

/-- The forward declarations of the type lookups. -/
def lookupDeclarations (v : ValueType) : List ForwardDeclaration :=
  (v.typeLookups.filter (·.canForwardDeclare)).map fun l => .ofClass l.name

/-- One more attribute in the file of a builder: `whole` is `without` together with what is for the
attribute in `alone`, the file for no other attribute. -/
structure AddsAttribute (v : ValueType) (n : ℕ) (without alone whole : CodeFile) : Prop where
  /-- Nothing but imports, forward declarations and the class changes. -/
  other : whole = { without with
    imports := whole.imports, forwardDeclarations := whole.forwardDeclarations,
    classes := whole.classes }
  /-- There is at most one more import. -/
  imports : ∃ (i : Option Import) (k : ℕ),
    alone.imports = v.fixedImports ++ v.lookupImports (.ofIncludes v.includes) ++ i.toList ∧
    InsertsAt k i.toList without.imports whole.imports
  /-- There is at most one more class that is declared, and at most one more protocol. -/
  declarations : ∃ (c q : Option ForwardDeclaration) (k l : ℕ) (between : List ForwardDeclaration),
    (∀ d ∈ c, d.kind = .ofClass) ∧ (∀ d ∈ q, d.kind = .ofProtocol) ∧
    alone.forwardDeclarations =
      .ofClass v.typeName :: (v.lookupDeclarations ++ c.toList ++ q.toList) ∧
    InsertsAt k c.toList without.forwardDeclarations between ∧
    InsertsAt l q.toList between whole.forwardDeclarations
  /-- There is one more attribute in the class. -/
  classes : ∃ c k l, without.classes = [c] ∧ alone.classes = [k] ∧ whole.classes = [l] ∧
    ObjC.Class.AddsAttribute n c k l

section Insertion

variable {v : ValueType} {d : Directives} {p : Policy} {xs ys : List Attribute} {a : Attribute}

/-- An attribute has at most one import, whatever attributes are around it. -/
theorem insertsAt_attributeImports {is js ks : List Import}
    (hwithout : (v.withAttributes (xs ++ ys)).attributeImports d p = .ok is)
    (halone : (v.withAttributes [a]).attributeImports d p = .ok js)
    (hwhole : (v.withAttributes (xs ++ [a] ++ ys)).attributeImports d p = .ok ks) :
    ∃ (i : Option Import) (k : ℕ), js = i.toList ∧ InsertsAt k i.toList is ks := by
  unfold attributeImports at hwithout halone hwhole
  cases homits : d.omitsAttributeImports with
  | true =>
    rw [homits, if_pos rfl, Except.ok.injEq] at hwithout halone hwhole
    subst hwithout halone hwhole
    exact ⟨none, 0, rfl, insertsAt_append [] [] []⟩
  | false =>
    rw [homits, if_neg Bool.false_ne_true] at hwithout halone hwhole
    obtain ⟨k, hfilter⟩ :=
      (insertsAt_append xs [a] ys).filter fun a => a.needsImport p v.typeLookups
    have hinserts := hfilter.mapM_eq_ok halone hwithout hwhole
    -- The attribute needs an import or it does not.
    change ([a].filter fun a => a.needsImport p v.typeLookups).mapM _ = Except.ok js at halone
    cases hneeds : a.needsImport p v.typeLookups with
    | true =>
      rw [List.filter_singleton, hneeds, cond_true] at halone
      obtain ⟨i, -, rfl⟩ := mapM_singleton_eq_ok.1 halone
      exact ⟨some i, k, rfl, hinserts⟩
    | false =>
      rw [List.filter_singleton, hneeds, cond_false, List.mapM_nil, pure_eq_ok] at halone
      subst halone
      exact ⟨none, k, rfl, hinserts⟩

/-- An attribute adds its import behind the ones that do not depend on attributes. -/
theorem insertsAt_builderImports {is js ks : List Import}
    (hwithout : (v.withAttributes (xs ++ ys)).builderImports d p = .ok is)
    (halone : (v.withAttributes [a]).builderImports d p = .ok js)
    (hwhole : (v.withAttributes (xs ++ [a] ++ ys)).builderImports d p = .ok ks) :
    ∃ (i : Option Import) (k : ℕ),
      js = v.fixedImports ++ v.lookupImports d ++ i.toList ∧ InsertsAt k i.toList is ks := by
  obtain ⟨is', his, rfl⟩ := builderImports_eq_ok.1 hwithout
  obtain ⟨js', hjs, rfl⟩ := builderImports_eq_ok.1 halone
  obtain ⟨ks', hks, rfl⟩ := builderImports_eq_ok.1 hwhole
  obtain ⟨i, k, rfl, himports⟩ := insertsAt_attributeImports his hjs hks
  exact ⟨i, _, rfl, himports.append_left _⟩

/-- An attribute declares at most one class and at most one protocol, whatever attributes are around
it. -/
theorem insertsAt_builderDeclarations {ds es fs : List ForwardDeclaration}
    (hwithout : (v.withAttributes (xs ++ ys)).builderDeclarations p = .ok ds)
    (halone : (v.withAttributes [a]).builderDeclarations p = .ok es)
    (hwhole : (v.withAttributes (xs ++ [a] ++ ys)).builderDeclarations p = .ok fs) :
    ∃ (c q : Option ForwardDeclaration) (k l : ℕ) (between : List ForwardDeclaration),
      (∀ d ∈ c, d.kind = .ofClass) ∧ (∀ d ∈ q, d.kind = .ofProtocol) ∧
      es = .ofClass v.typeName :: (v.lookupDeclarations ++ c.toList ++ q.toList) ∧
      InsertsAt k c.toList ds between ∧ InsertsAt l q.toList between fs := by
  obtain ⟨cs, hcs, qs, hqs, rfl⟩ := builderDeclarations_eq_ok.1 hwithout
  obtain ⟨_, hclass, _, hprotocol, rfl⟩ := builderDeclarations_eq_ok.1 halone
  obtain ⟨cs', hcs', qs', hqs', rfl⟩ := builderDeclarations_eq_ok.1 hwhole
  -- The class and the protocol come from separate traversals, and all classes stand in front of all
  -- protocols. So the class is put in first, and the protocol into the list that this gives.
  have hplace := insertsAt_append xs [a] ys
  obtain ⟨k, hclasses⟩ := (hplace.mapM_eq_ok hclass hcs hcs').filterMap id
  obtain ⟨l, hprotocols⟩ := (hplace.mapM_eq_ok hprotocol hqs hqs').filterMap id
  obtain ⟨c, hc, rfl⟩ := mapM_singleton_eq_ok.1 hclass
  obtain ⟨q, hq, rfl⟩ := mapM_singleton_eq_ok.1 hprotocol
  rw [filterMap_id_singleton] at hclasses hprotocols
  refine ⟨c, q, _, _, _, Attribute.kind_of_classDeclaration? hc,
    Attribute.kind_of_protocolDeclaration? hq, ?_,
    (hclasses.append_left (.ofClass v.typeName :: v.lookupDeclarations)).append_right _,
    hprotocols.append_left _⟩
  rw [filterMap_id_singleton, filterMap_id_singleton]
  rfl

/-- An attribute has one variable and one method in the class, whatever attributes are around it. -/
theorem addsAttribute_builderClass {c k l : ObjC.Class}
    (hwithout : (v.withAttributes (xs ++ ys)).builderClass d p = .ok c)
    (halone : (v.withAttributes [a]).builderClass d p = .ok k)
    (hwhole : (v.withAttributes (xs ++ [a] ++ ys)).builderClass d p = .ok l) :
    ObjC.Class.AddsAttribute xs.length c k l := by
  obtain ⟨ms, hms, rfl⟩ := builderClass_eq_ok.1 hwithout
  obtain ⟨_, hsetter, rfl⟩ := builderClass_eq_ok.1 halone
  obtain ⟨ns, hns, rfl⟩ := builderClass_eq_ok.1 hwhole
  have hplace := insertsAt_append xs [a] ys
  have hmutations := hplace.mapM_eq_ok hsetter hms hns
  obtain ⟨m, -, rfl⟩ := mapM_singleton_eq_ok.1 hsetter
  exact {
    other := rfl
    factories := ⟨_, _, _, rfl, rfl, rfl⟩
    build := ⟨_, _, rfl, rfl, rfl⟩
    holders := ⟨_, rfl, hplace.map Attribute.holder⟩
    mutations := ⟨m, rfl, hmutations⟩ }

/-- An attribute adds to the file what it adds alone, whatever attributes are around it. -/
theorem addsAttribute_builderFile {f g h : CodeFile}
    (hwithout : (v.withAttributes (xs ++ ys)).builderFile p = .ok f)
    (halone : (v.withAttributes [a]).builderFile p = .ok g)
    (hwhole : (v.withAttributes (xs ++ [a] ++ ys)).builderFile p = .ok h) :
    v.AddsAttribute xs.length f g h := by
  obtain ⟨is, his, ds, hds, c, hc, rfl⟩ := builderFile_eq_ok.1 hwithout
  obtain ⟨js, hjs, es, hes, k, hk, rfl⟩ := builderFile_eq_ok.1 halone
  obtain ⟨ks, hks, fs, hfs, l, hl, rfl⟩ := builderFile_eq_ok.1 hwhole
  exact {
    other := rfl
    imports := insertsAt_builderImports his hjs hks
    declarations := insertsAt_builderDeclarations hds hes hfs
    classes := ⟨c, k, l, rfl, rfl, rfl, addsAttribute_builderClass hc hk hl⟩ }

end Insertion

section Order

variable {v : ValueType} {d : Directives} {p : Policy} {as bs : List Attribute}
  {ls ms : List TypeLookup}

/-- Whether an attribute needs an import of its own does not depend on the order of the lookups. -/
theorem needsImport_of_perm (h : ls.Perm ms) (a : Attribute) :
    a.needsImport p ls = a.needsImport p ms := by
  rw [Bool.eq_iff_iff, needsImport_eq_true_iff, needsImport_eq_true_iff]
  simp only [h.mem_iff]

/-- The imports of reordered attributes are reordered. -/
theorem attributeImports_of_perm {is js : List Import} (has : as.Perm bs) (hls : ls.Perm ms)
    (his : ((v.withLookups ls).withAttributes as).attributeImports d p = .ok is)
    (hjs : ((v.withLookups ms).withAttributes bs).attributeImports d p = .ok js) :
    is.Perm js := by
  unfold attributeImports at his hjs
  cases homits : d.omitsAttributeImports with
  | true =>
    rw [homits, if_pos rfl, Except.ok.injEq] at his hjs
    rw [← his, ← hjs]
  | false =>
    rw [homits, if_neg Bool.false_ne_true] at his hjs
    have hneeds : (fun a : Attribute => a.needsImport p ls) = fun a => a.needsImport p ms :=
      funext (needsImport_of_perm hls)
    have hfilter : (as.filter fun a => a.needsImport p ls).Perm
        (bs.filter fun a => a.needsImport p ms) := by
      rw [hneeds]
      exact has.filter _
    exact perm_of_mapM_eq_ok hfilter his hjs

/-- The imports of reordered attributes and lookups are reordered behind the fixed ones. -/
theorem builderImports_of_perm {is js : List Import} (has : as.Perm bs) (hls : ls.Perm ms)
    (his : ((v.withLookups ls).withAttributes as).builderImports d p = .ok is)
    (hjs : ((v.withLookups ms).withAttributes bs).builderImports d p = .ok js) :
    ∃ is' js', is = v.fixedImports ++ is' ∧ js = v.fixedImports ++ js' ∧ is'.Perm js' := by
  obtain ⟨is', his', rfl⟩ := builderImports_eq_ok.1 his
  obtain ⟨js', hjs', rfl⟩ := builderImports_eq_ok.1 hjs
  have hlookups : ((v.withLookups ls).lookupImports d).Perm ((v.withLookups ms).lookupImports d) :=
    hls.filterMap _
  exact ⟨_, _, List.append_assoc .., List.append_assoc ..,
    hlookups.append (attributeImports_of_perm has hls his' hjs')⟩

/-- The declarations of reordered attributes and lookups are reordered behind that of the value
type. -/
theorem builderDeclarations_of_perm {ds es : List ForwardDeclaration} (has : as.Perm bs)
    (hls : ls.Perm ms)
    (hds : ((v.withLookups ls).withAttributes as).builderDeclarations p = .ok ds)
    (hes : ((v.withLookups ms).withAttributes bs).builderDeclarations p = .ok es) :
    ∃ ds' es', ds = .ofClass v.typeName :: ds' ∧ es = .ofClass v.typeName :: es' ∧
      ds'.Perm es' := by
  obtain ⟨cs, hcs, qs, hqs, rfl⟩ := builderDeclarations_eq_ok.1 hds
  obtain ⟨cs', hcs', qs', hqs', rfl⟩ := builderDeclarations_eq_ok.1 hes
  have hclasses : cs.Perm cs' := perm_of_mapM_eq_ok has hcs hcs'
  have hprotocols : qs.Perm qs' := perm_of_mapM_eq_ok has hqs hqs'
  exact ⟨_, _, rfl, rfl,
    (((hls.filter _).map _).append (hclasses.filterMap _)).append (hprotocols.filterMap _)⟩

end Order

/-- Attributes do not interfere with each other. A file can be made with one more attribute exactly
if it can be made without it and with it alone. Then the attribute adds to the file what it adds
alone.

And the order of attributes and of type lookups is that of the imports and the declarations, except
for the three imports and the declaration that come first. Whether a file can be made does not
depend on it. -/
theorem builderFile_insert (v : ValueType) (p : Policy) :
    (∀ (xs ys : List Attribute) (a : Attribute),
      ((∃ h, (v.withAttributes (xs ++ [a] ++ ys)).builderFile p = .ok h) ↔
        (∃ f, (v.withAttributes (xs ++ ys)).builderFile p = .ok f) ∧
          ∃ g, (v.withAttributes [a]).builderFile p = .ok g) ∧
      ∀ f g h, (v.withAttributes (xs ++ ys)).builderFile p = .ok f →
        (v.withAttributes [a]).builderFile p = .ok g →
        (v.withAttributes (xs ++ [a] ++ ys)).builderFile p = .ok h →
        v.AddsAttribute xs.length f g h) ∧
    ∀ (as bs : List Attribute) (ls ms : List TypeLookup), as.Perm bs → ls.Perm ms →
      ((∃ f, ((v.withLookups ls).withAttributes as).builderFile p = .ok f) ↔
        ∃ g, ((v.withLookups ms).withAttributes bs).builderFile p = .ok g) ∧
      ∀ f g, ((v.withLookups ls).withAttributes as).builderFile p = .ok f →
        ((v.withLookups ms).withAttributes bs).builderFile p = .ok g →
        (∃ is js, f.imports = v.fixedImports ++ is ∧ g.imports = v.fixedImports ++ js ∧
          is.Perm js) ∧
        ∃ ds es, f.forwardDeclarations = .ofClass v.typeName :: ds ∧
          g.forwardDeclarations = .ofClass v.typeName :: es ∧ ds.Perm es := by
  refine ⟨fun xs ys a => ⟨?_, fun f g h => addsAttribute_builderFile⟩,
    fun as bs ls ms has hls => ⟨?_, fun f g hf hg => ⟨?_, ?_⟩⟩⟩
  · -- Whether an attribute is supported is asked of one attribute at a time.
    simp only [exists_builderFile_eq_ok]
    change (∀ b ∈ xs ++ [a] ++ ys, _) ↔ (∀ b ∈ xs ++ ys, _) ∧ ∀ b ∈ [a], _
    simp only [List.forall_mem_append]
    exact and_right_comm
  · simp only [exists_builderFile_eq_ok]
    exact forall_congr' fun a => imp_congr_left has.mem_iff
  · exact builderImports_of_perm has hls (builderImports_of_builderFile hf)
      (builderImports_of_builderFile hg)
  · exact builderDeclarations_of_perm has hls (builderDeclarations_of_builderFile hf)
      (builderDeclarations_of_builderFile hg)

/-- The file for a gathering is the one without its host together with what is for the host alone.
With its attributes in reverse order the imports are reordered. -/
theorem builderFile_insert_gathering :
    (∃ f g h, (gathering.withAttributes (gathering.attributes.take 2 ++
          gathering.attributes.drop 3)).builderFile .standard = .ok f ∧
      (gathering.withAttributes [{ name := "host", type := {
          name := "Person", reference := .text "Person *" } }]).builderFile .standard = .ok g ∧
      gathering.builderFile .standard = .ok h ∧ gathering.AddsAttribute 2 f g h) ∧
    ∃ f g, gathering.builderFile .standard = .ok f ∧
      (gathering.withAttributes gathering.attributes.reverse).builderFile .standard = .ok g ∧
      ∃ is js, f.imports = gathering.fixedImports ++ is ∧
        g.imports = gathering.fixedImports ++ js ∧ is.Perm js := by
  obtain ⟨hinsert, horder⟩ := builderFile_insert gathering .standard
  have htextual : gathering.IsTextual := by decide
  have hmade : ∃ h, gathering.builderFile .standard = .ok h :=
    exists_builderFile_eq_ok.2 fun a ha => Attribute.isSupported_of_isTextual (htextual a ha)
  obtain ⟨h, hh⟩ := hmade
  constructor
  · obtain ⟨hiff, hadds⟩ := hinsert (gathering.attributes.take 2) (gathering.attributes.drop 3)
      { name := "host", type := { name := "Person", reference := .text "Person *" } }
    obtain ⟨⟨f, hf⟩, g, hg⟩ := hiff.1 ⟨h, hh⟩
    exact ⟨f, g, h, hf, hg, hh, hadds f g h hf hg hh⟩
  · obtain ⟨hiff, hrelated⟩ := horder gathering.attributes gathering.attributes.reverse
      gathering.typeLookups gathering.typeLookups (List.reverse_perm _).symm (List.Perm.refl _)
    obtain ⟨g, hg⟩ := hiff.1 ⟨h, hh⟩
    exact ⟨h, g, hh, hg, (hrelated h g hh hg).1⟩

end ValueType

end ValueBuilder
