import Mathlib.Data.List.TakeWhile
import ValueBuilder.Proofs.DirectiveEffects

/-!
# What the choice of copies does

Which values are copied is decided by one directive and by one table of the policy, and both act on
a builder at one place only: the line of a setter that stores the value. Everything else in the
file is the same (`ObjC.CodeFile.AgreesUpToStores`), so the header and the summary do not show the
choice.

`Policy.CopiesType` is the rule. How the values are held is told by the effective name and by the
reference, while the table is searched for the name of the type. `ValueType.builderFile_copying`
compares the files under two choices and says which line each setter has.
-/

namespace ValueBuilder

open Traversal
open ObjC (CodeFile Method)

/-! ## Blanks at the ends of a text -/

namespace Text

variable {c : CodePoint}

/-- A character of another kind is not dropped. -/
theorem mem_dropWhile_iff {q : CodePoint → Bool} (hc : q c = false) (s : Text) :
    c ∈ s.dropWhile q ↔ c ∈ s := by
  have htaken : c ∉ s.takeWhile q := by
    intro hmem
    rw [List.mem_takeWhile_imp hmem] at hc
    cases hc
  calc c ∈ s.dropWhile q ↔ c ∈ s.takeWhile q ++ s.dropWhile q := by
        rw [List.mem_append, or_iff_right htaken]
    _ ↔ c ∈ s := by rw [List.takeWhile_append_dropWhile]

/-- A character that is no blank stays when blanks are removed at both ends. -/
theorem mem_strip_iff (hc : isBlank c = false) (s : Text) : c ∈ strip s ↔ c ∈ s := by
  rw [strip, stripRight, List.mem_reverse, mem_dropWhile_iff hc, List.mem_reverse,
    mem_dropWhile_iff hc]

end Text

/-- A value is one of some texts. -/
theorem Json.isOneOf_iff {texts : List Text} {j : Json} :
    j.isOneOf texts = true ↔ j ∈ texts.map .text := by
  cases j <;> simp [Json.isOneOf, Json.text?]

/-! ## The rule -/

namespace Policy

variable {p : Policy} {t : AttributeType}

/-- The values of a type are copied. They are held neither as numbers nor as structures. They are
blocks, or else they are objects, and the name of the type is in the table. -/
def CopiesType (p : Policy) (t : AttributeType) : Prop :=
  t.effectiveName ∉ p.scalarTypes.map .text ∧ t.effectiveName ∉ p.structTypes.map .text ∧
  ∃ reference, t.reference = .text reference ∧
    (.char '^' ∈ reference ∨
      (t.effectiveName = .text "id" ∨ (Text.strip reference).getLast? = some (.char '*')) ∧
        t.name ∈ p.copyableTypes)

instance (p : Policy) (t : AttributeType) : Decidable (p.CopiesType t) :=
  decidable_of_iff
    ((!t.effectiveName.isOneOf p.scalarTypes && !t.effectiveName.isOneOf p.structTypes &&
      t.reference.text?.any fun reference => reference.contains (.char '^') ||
        (t.effectiveName == .text "id" || (Text.strip reference).getLast? == some (.char '*')) &&
          p.copyableTypes.contains t.name) = true)
    (by
      unfold CopiesType
      cases t.reference <;> simp [Json.text?, ← Json.isOneOf_iff, and_assoc])

/-- A policy with another table of classes whose values are copied. -/
def copying (p : Policy) (names : List Text) : Policy := { p with copyableTypes := names }

/-- When values are held as blocks, and when as objects. -/
theorem storageFor_eq_iff (p : Policy) (name : Json) (reference : Text) :
    (p.storageFor name reference = .block ↔
      name ∉ p.scalarTypes.map .text ∧ name ∉ p.structTypes.map .text ∧
        .char '^' ∈ reference) ∧
    (p.storageFor name reference = .object ↔
      name ∉ p.scalarTypes.map .text ∧ name ∉ p.structTypes.map .text ∧
        .char '^' ∉ reference ∧
        (name = .text "id" ∨ (Text.strip reference).getLast? = some (.char '*'))) := by
  have hrules : p.storageFor name reference =
      if name.isOneOf p.scalarTypes = true then .scalar
      else if name.isOneOf p.structTypes = true then .struct
      else if (Text.strip reference).contains (.char '^') = true then .block
      else if name = .text "id" ∨ (Text.strip reference).getLast? = some (.char '*') then .object
      else .opaqueValue := rfl
  have hcaret : (Text.strip reference).contains (.char '^') = true ↔ .char '^' ∈ reference := by
    rw [List.contains_iff_mem, Text.mem_strip_iff (by decide)]
  rw [hrules]
  simp only [Json.isOneOf_iff, hcaret]
  -- The rules are tried in the order of the code.
  by_cases hscalar : name ∈ p.scalarTypes.map .text
  · rw [if_pos hscalar]
    simp [hscalar]
  · rw [if_neg hscalar]
    by_cases hstruct : name ∈ p.structTypes.map .text
    · rw [if_pos hstruct]
      simp [hstruct]
    · rw [if_neg hstruct, and_iff_right hscalar, and_iff_right hscalar, and_iff_right hstruct,
        and_iff_right hstruct]
      by_cases hblock : .char '^' ∈ reference
      · simp [hblock]
      · rw [if_neg hblock]
        split <;> simp [*]

/-- Whether values are copied is told by their storage and by the table. -/
theorem copies_eq_ok {b : Bool} :
    p.copies t = .ok b ↔ ∃ s, p.storageOf t = .ok s ∧
      decide (s = .block ∨ s = .object ∧ t.name ∈ p.copyableTypes) = b := by
  unfold copies
  rw [bind_eq_ok]
  refine exists_congr fun s => and_congr_right fun _ => ?_
  cases s <;> simp

/-- What is known about copies of a type is the rule. -/
theorem copies_iff {b : Bool} (h : p.copies t = .ok b) : b = true ↔ p.CopiesType t := by
  obtain ⟨s, hs, rfl⟩ := copies_eq_ok.1 h
  obtain ⟨reference, hreference, -, rfl⟩ := storageOf_eq_ok.1 hs
  obtain ⟨hblock, hobject⟩ := p.storageFor_eq_iff t.effectiveName reference
  have hrule : p.CopiesType t ↔
      t.effectiveName ∉ p.scalarTypes.map .text ∧ t.effectiveName ∉ p.structTypes.map .text ∧
        (.char '^' ∈ reference ∨
          (t.effectiveName = .text "id" ∨ (Text.strip reference).getLast? = some (.char '*')) ∧
            t.name ∈ p.copyableTypes) := by
    rw [CopiesType, hreference]
    simp
  -- An object is asked for its name, and a block is none of the objects.
  rw [decide_eq_true_iff, hblock, hobject, hrule]
  by_cases hcaret : .char '^' ∈ reference <;> simp [hcaret, and_assoc]

/-- A larger table copies no fewer types. -/
theorem CopiesType.mono {names : List Text} (h : p.CopiesType t)
    (hnames : p.copyableTypes ⊆ names) : (p.copying names).CopiesType t := by
  obtain ⟨hscalar, hstruct, reference, hreference, hkind⟩ := h
  exact ⟨hscalar, hstruct, reference, hreference, hkind.imp_right (And.imp_right (@hnames _))⟩

end Policy

namespace Attribute

variable {p : Policy} {a : Attribute} {includes : List Text} {m : Method}

/-- The value of an attribute is copied when it is set. -/
def IsCopied (a : Attribute) (p : Policy) (includes : List Text) : Prop :=
  Text.ofString "NoValueSemantics" ∉ includes ∧ p.CopiesType a.type

instance (a : Attribute) (p : Policy) (includes : List Text) : Decidable (a.IsCopied p includes) :=
  inferInstanceAs (Decidable (_ ∧ _))

/-- The line that stores a copy. -/
def copyLine (a : Attribute) : Text := "_" ++ a.name ++ " = [" ++ a.name ++ " copy];"

/-- The line that stores the value itself. -/
def plainLine (a : Attribute) : Text := "_" ++ a.name ++ " = " ++ a.name ++ ";"

/-- The first line of a method stores the value of an attribute as the rule says. -/
def IsStoredBy (a : Attribute) (p : Policy) (includes : List Text) (m : Method) : Prop :=
  (a.IsCopied p includes → m.code.head? = some a.copyLine) ∧
    (¬ a.IsCopied p includes → m.code.head? = some a.plainLine)

/-- The two lines are different. -/
theorem copyLine_ne_plainLine (a : Attribute) : a.copyLine ≠ a.plainLine := by
  intro h
  have hlength := congrArg List.length h
  have hbefore : (Text.ofString " = [").length = 4 ∧ (Text.ofString " = ").length = 3 := by decide
  have hbehind : (Text.ofString " copy];").length = 7 ∧ (Text.ofString ";").length = 1 := by decide
  simp only [copyLine, plainLine, List.length_append, hbefore, hbehind] at hlength
  omega

/-- The first line of a setter. -/
theorem head?_setter (a : Attribute) (copied : Bool) :
    (a.setter copied).code.head? = some (if copied then a.copyLine else a.plainLine) := by
  have hpieces : Text.ofString " = [" = Text.ofString " = " ++ Text.ofString "[" ∧
      Text.ofString " copy];" = Text.ofString " copy]" ++ Text.ofString ";" := by decide
  cases copied with
  | false => rfl
  | true =>
    rw [if_pos rfl, copyLine, hpieces.1, hpieces.2]
    simp [setter, storedValue, Names.instanceVariable, List.append_assoc]

/-- The setter that is made stores the value as the rule says. -/
theorem isStoredBy_of_setterUnder (h : a.setterUnder (.ofIncludes includes) p = .ok m) :
    a.IsStoredBy p includes m := by
  obtain ⟨b, hb, rfl⟩ := setterUnder_eq_ok.1 h
  have hrule : b = true ↔ a.IsCopied p includes := by
    unfold Policy.copiesIncoming at hb
    rw [IsCopied, ← Directives.valueSemantics_ofIncludes]
    cases hsemantics : (Directives.ofIncludes includes).valueSemantics with
    | false =>
      rw [hsemantics, if_neg Bool.false_ne_true] at hb
      cases hb
      simp
    | true =>
      rw [hsemantics, if_pos rfl] at hb
      rw [Policy.copies_iff hb, and_iff_right rfl]
  constructor
  · intro hcopied
    rw [head?_setter, if_pos (hrule.2 hcopied)]
  · intro hcopied
    rw [head?_setter, if_neg (mt hrule.1 hcopied)]

/-- If the rule asks for no fewer copies, then a copy stays a copy. -/
theorem IsStoredBy.mono {q : Policy} {includes' : List Text} {n : Method}
    (hm : a.IsStoredBy p includes m) (hn : a.IsStoredBy q includes' n)
    (h : a.IsCopied p includes → a.IsCopied q includes')
    (hcopy : m.code.head? = some a.copyLine) : n.code.head? = some a.copyLine := by
  have hcopied : a.IsCopied p includes := by
    by_contra hplain
    rw [hm.2 hplain, Option.some.injEq] at hcopy
    exact a.copyLine_ne_plainLine hcopy.symm
  exact hn.1 (h hcopied)

end Attribute

/-! ## Files that agree but for stores -/

namespace ObjC

/-- Two methods are the same but for the first line of their bodies. -/
def Method.AgreesBelow (m n : Method) : Prop :=
  n = { m with code := n.code } ∧ n.code.tail = m.code.tail ∧ n.code.length = m.code.length

/-- Two classes are the same but for the first lines of the methods that set attributes. -/
structure Class.AgreesUpToStores (c k : Class) : Prop where
  /-- Nothing but instance methods differs. -/
  other : k = { c with instanceMethods := k.instanceMethods }
  /-- The method that builds is the same. -/
  build : k.instanceMethods.head? = c.instanceMethods.head?
  /-- The methods that set attributes differ in their first lines at most. -/
  mutations : List.Forall₂ Method.AgreesBelow c.mutations k.mutations

/-- Two files are the same but for the first lines of the methods that set attributes. -/
structure CodeFile.AgreesUpToStores (f g : CodeFile) : Prop where
  /-- Nothing but classes differs. -/
  other : g = { f with classes := g.classes }
  /-- The classes differ in the first lines of the methods that set attributes at most. -/
  classes : List.Forall₂ Class.AgreesUpToStores f.classes g.classes

/-- A method agrees with itself. -/
theorem Method.agreesBelow_refl (m : Method) : m.AgreesBelow m := ⟨rfl, rfl, rfl⟩

/-- All instance methods of the two classes agree but for their first lines. -/
theorem Class.AgreesUpToStores.instanceMethods {c k : Class} (h : c.AgreesUpToStores k) :
    List.Forall₂ Method.AgreesBelow c.instanceMethods k.instanceMethods := by
  have hbuild := h.build
  have hmutations := h.mutations
  unfold Class.mutations at hmutations
  generalize c.instanceMethods = ms at hbuild hmutations ⊢
  generalize k.instanceMethods = ns at hbuild hmutations ⊢
  cases ms with
  | nil =>
    obtain rfl : ns = [] := List.head?_eq_none_iff.1 hbuild
    exact .nil
  | cons m ms =>
    obtain ⟨ns', rfl⟩ := List.head?_eq_some_iff.1 hbuild
    exact .cons m.agreesBelow_refl hmutations

/-- What does not depend on the bodies of the instance methods is the same for both classes. -/
theorem Class.AgreesUpToStores.map_eq {c k : Class} (h : c.AgreesUpToStores k) {α : Type}
    {r : Method → α} (hr : ∀ (m : Method) code, r { m with code := code } = r m) :
    k.instanceMethods.map r = c.instanceMethods.map r := by
  refine map_eq_map_of_forall₂ h.instanceMethods fun m _ n hmn => ?_
  rw [hmn.1, hr]

/-- A header shows no bodies. -/
theorem CodeFile.AgreesUpToStores.header_eq {f g : CodeFile} (h : f.AgreesUpToStores g) :
    f.header = g.header := by
  have hclass {c k : Class} (hck : c.AgreesUpToStores k) : c.headerLines = k.headerLines := by
    have hmethods := hck.map_eq (r := Method.headerLines .ofInstance) fun _ _ => rfl
    have hother := hck.other
    rw [Class.headerLines, Class.headerLines, List.flatMap_def (l := c.instanceMethods),
      List.flatMap_def (l := k.instanceMethods), hmethods, hother]
    rfl
  have hclasses : g.classes.map Class.headerLines = f.classes.map Class.headerLines :=
    map_eq_map_of_forall₂ h.classes fun c _ k hck => (hclass hck).symm
  have himports : f.importLines = g.importLines := by rw [h.other]; rfl
  have hdeclarations : f.declarationLines = g.declarationLines := by rw [h.other]; rfl
  rw [CodeFile.header_eq, CodeFile.header_eq, headerLines, headerLines, himports, hdeclarations,
    List.flatMap_def (l := g.classes), hclasses, ← List.flatMap_def]

/-- A summary shows no bodies. -/
theorem CodeFile.AgreesUpToStores.summary_eq {f g : CodeFile} (h : f.AgreesUpToStores g) :
    f.summary = g.summary := by
  have hclasses := h.classes
  rw [h.other]
  unfold CodeFile.summary
  dsimp only
  cases hf : f.classes with
  | nil =>
    rw [hf, List.forall₂_nil_left_iff] at hclasses
    rw [hclasses]
  | cons c cs =>
    rw [hf] at hclasses
    obtain ⟨k, ks, hck, -, hg⟩ := List.forall₂_cons_left_iff.1 hclasses
    have hselectors := hck.map_eq (r := Method.selector) fun _ _ => rfl
    rw [hg]
    dsimp only
    rw [hselectors, hck.other]

end ObjC

namespace ValueType

variable {v : ValueType} {p : Policy} {names xs ys : List Text} {f g : CodeFile}

/-- The setters of two choices agree but for their first lines. -/
theorem agreesBelow_of_setterUnder {a : Attribute} {d e : Directives} {q : Policy} {m n : Method}
    (hm : a.setterUnder d p = .ok m) (hn : a.setterUnder e q = .ok n) : m.AgreesBelow n := by
  obtain ⟨b, -, rfl⟩ := Attribute.setterUnder_eq_ok.1 hm
  obtain ⟨b', -, rfl⟩ := Attribute.setterUnder_eq_ok.1 hn
  exact ⟨rfl, rfl, rfl⟩

/-- The imports of a builder do not depend on the choice of copies. -/
theorem builderImports_copying
    (hincludes : ∀ s, s ≠ Text.ofString "NoValueSemantics" → (s ∈ xs ↔ s ∈ ys)) :
    v.builderImports (.ofIncludes ys) (p.copying names) = v.builderImports (.ofIncludes xs) p := by
  have huse := hincludes (Text.ofString "UseForwardDeclarations") (by decide)
  have hskip := hincludes (Text.ofString "SkipImportsInImplementation") (by decide)
  -- The table of copies is none of those that imports are made from.
  have htables : v.builderImports (.ofIncludes ys) (p.copying names) =
      v.builderImports (.ofIncludes ys) p := rfl
  rw [htables]
  apply builderImports_congr
  · rw [Bool.eq_iff_iff, Directives.useForwardDeclarations_ofIncludes,
      Directives.useForwardDeclarations_ofIncludes, huse]
  · rw [Bool.eq_iff_iff, Directives.omitsAttributeImports_ofIncludes,
      Directives.omitsAttributeImports_ofIncludes, huse, hskip]

/-- The classes of two choices agree but for the stores. -/
theorem agreesUpToStores_classWith {ms ns : List Method} {d e : Directives} {q : Policy}
    (hms : v.attributes.mapM (·.setterUnder d p) = .ok ms)
    (hns : v.attributes.mapM (·.setterUnder e q) = .ok ns) :
    (v.classWith ms).AgreesUpToStores (v.classWith ns) where
  other := rfl
  build := rfl
  mutations := forall₂_of_mapM_eq_ok hms hns fun _ _ _ _ => agreesBelow_of_setterUnder

/-- What the choice of copies does to the file of a builder, if both files are made. `xs` and `ys`
agree about all directives but the one against copies, and `names` takes the place of the table of
classes whose values are copied.

The files are the same but for the first lines of the methods that set attributes, so their headers
and their summaries are the same. In both files that line stores a copy if the rule says so, and the
value itself if it does not. If the second choice has the larger table and does not turn copies off,
then a copy stays a copy. -/
theorem builderFile_copying
    (hincludes : ∀ s, s ≠ Text.ofString "NoValueSemantics" → (s ∈ xs ↔ s ∈ ys))
    (hf : (v.including xs).builderFile p = .ok f)
    (hg : (v.including ys).builderFile (p.copying names) = .ok g) :
    f.AgreesUpToStores g ∧ f.header = g.header ∧ f.summary = g.summary ∧
    ∃ c k, f.classes = [c] ∧ g.classes = [k] ∧
      c.mutations.length = v.attributes.length ∧ k.mutations.length = v.attributes.length ∧
      ∀ (i : ℕ) (a : Attribute), v.attributes[i]? = some a →
        ∃ m n : Method, c.mutations[i]? = some m ∧ k.mutations[i]? = some n ∧
          a.IsStoredBy p xs m ∧ a.IsStoredBy (p.copying names) ys n ∧
          (p.copyableTypes ⊆ names →
            (Text.ofString "NoValueSemantics" ∈ ys → Text.ofString "NoValueSemantics" ∈ xs) →
            m.code.head? = some a.copyLine → n.code.head? = some a.copyLine) := by
  obtain ⟨is, his, ds, hds, c, hc, rfl⟩ := builderFile_eq_ok.1 hf
  obtain ⟨js, hjs, es, hes, k, hk, rfl⟩ := builderFile_eq_ok.1 hg
  obtain ⟨ms, hms, rfl⟩ := builderClass_eq_ok.1 hc
  obtain ⟨ns, hns, rfl⟩ := builderClass_eq_ok.1 hk
  have himports : js = is := by
    have hsame : v.builderImports (.ofIncludes ys) (p.copying names) =
        v.builderImports (.ofIncludes xs) p := builderImports_copying hincludes
    exact Except.ok.inj (hjs.symm.trans (hsame.trans his))
  have hdeclarations : es = ds := Except.ok.inj (hes.symm.trans hds)
  subst himports hdeclarations
  have hagree : CodeFile.AgreesUpToStores
      { name := Names.builder v.typeName, imports := js, forwardDeclarations := es,
        classes := [v.classWith ms] }
      { name := Names.builder v.typeName, imports := js, forwardDeclarations := es,
        classes := [v.classWith ns] } :=
    ⟨rfl, .cons (agreesUpToStores_classWith hms hns) .nil⟩
  refine ⟨hagree, hagree.header_eq, hagree.summary_eq, v.classWith ms, v.classWith ns, rfl, rfl,
    (mapM_eq_ok.1 hms).length_eq.symm, (mapM_eq_ok.1 hns).length_eq.symm, fun i a ha => ?_⟩
  obtain ⟨m, hm, hsetter⟩ := exists_getElem?_of_mapM_eq_ok hms ha
  obtain ⟨n, hn, hsetter'⟩ := exists_getElem?_of_mapM_eq_ok hns ha
  have hstored := Attribute.isStoredBy_of_setterUnder hsetter
  have hstored' := Attribute.isStoredBy_of_setterUnder hsetter'
  exact ⟨m, n, hm, hn, hstored, hstored', fun hnames hoff => hstored.mono hstored'
    fun hcopied => ⟨mt hoff hcopied.1, hcopied.2.mono hnames⟩⟩

/-- A name, a number and a block. -/
def callable : ValueType where
  typeName := "Callable"
  attributes := [
    { name := "name", type := { name := "NSString", reference := .text "NSString *" } },
    { name := "age", type := { name := "NSUInteger", reference := .text "NSUInteger" } },
    { name := "action", type := { name := "Action", reference := .text "void (^)(void)" } }]

/-- With copies turned off a name and a block are stored as they are. With copies and with a table
of one class both are copied. The header and the summary do not show it. -/
theorem builderFile_copying_callable :
    ∃ f g c k, (callable.including ["NoValueSemantics"]).builderFile .standard = .ok f ∧
      (callable.including []).builderFile (Policy.standard.copying ["NSString"]) = .ok g ∧
      f.AgreesUpToStores g ∧ f.header = g.header ∧ f.summary = g.summary ∧
      f.classes = [c] ∧ g.classes = [k] ∧
      c.mutations[0]?.bind (·.code.head?) = some (.ofString "_name = name;") ∧
      k.mutations[0]?.bind (·.code.head?) = some (.ofString "_name = [name copy];") ∧
      c.mutations[2]?.bind (·.code.head?) = some (.ofString "_action = action;") ∧
      k.mutations[2]?.bind (·.code.head?) = some (.ofString "_action = [action copy];") := by
  have hincludes : ∀ s, s ≠ Text.ofString "NoValueSemantics" →
      (s ∈ ([Text.ofString "NoValueSemantics"] : List Text) ↔ s ∈ ([] : List Text)) := by
    intro s hs
    simp [hs]
  have hmade (includes : List Text) (p : Policy) :
      ∃ f, (callable.including includes).builderFile p = .ok f := by
    have htextual : (callable.including includes).IsTextual := by
      change callable.IsTextual
      decide
    exact exists_builderFile_eq_ok.2 fun a ha => Attribute.isSupported_of_isTextual (htextual a ha)
  obtain ⟨f, hf⟩ := hmade ["NoValueSemantics"] .standard
  obtain ⟨g, hg⟩ := hmade [] (Policy.standard.copying ["NSString"])
  obtain ⟨hagree, hheader, hsummary, c, k, hc, hk, -, -, hstores⟩ :=
    builderFile_copying hincludes hf hg
  obtain ⟨m, n, hm, hn, hname, hname', -⟩ := hstores 0 _ rfl
  obtain ⟨o, q, ho, hq, haction, haction', -⟩ := hstores 2 _ rfl
  refine ⟨f, g, c, k, hf, hg, hagree, hheader, hsummary, hc, hk, ?_, ?_, ?_, ?_⟩
  · rw [hm, Option.bind_some, hname.2 (by decide)]
    rfl
  · rw [hn, Option.bind_some, hname'.1 (by decide)]
    rfl
  · rw [ho, Option.bind_some, haction.2 (by decide)]
    rfl
  · rw [hq, Option.bind_some, haction'.1 (by decide)]
    rfl

end ValueType

end ValueBuilder
