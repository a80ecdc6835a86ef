import Mathlib.Data.List.Induction
import Mathlib.Data.List.Nodup
import Mathlib.Logic.Function.Basic
import ValueBuilder.Proofs.ImplementationLines
import ValueBuilder.Proofs.SeedExpression
import ValueBuilder.Proofs.Words

/-!
# What a builder builds from

A builder holds each attribute in a variable of its own. The name of the variable is spelled three
times: in the declarations of the variables, in the method that sets the attribute, and in the call
of the initializer. `ObjC.Class.call` and `ObjC.Class.built` read the class as a program: a call of
a mutation method stores a value in the variable that the method assigns to, and the method that
builds passes what is stored in the variables whose names it mentions.

`ObjC.Class.run_eq_lastValue` says that after any calls the variable of an attribute holds the value
of the last call for it. It is an induction on the calls, carried by `ObjC.Class.call_holder` for one
call, and it needs the names of the attributes to be distinct. `ValueType.built_eq_lastValues` adds
that the initializer is passed the variables of the attributes, each at its place.
-/

namespace ValueBuilder

open Traversal
open ObjC (CodeFile Method Property)

/-! ## A class as a program -/

/-- The value of the last call with a number, if there is one. -/
def lastValue {α : Type} (calls : List (ℕ × α)) (i : ℕ) : Option α :=
  (calls.filter (·.1 == i)).getLast?.map Prod.snd

namespace ObjC

/-- The variable in which a method stores its argument: what the first line of its body assigns
to. -/
def Method.target? (m : Method) : Option Text := m.code.head?.bind Text.assigned?

/-- The names of the variables that a method passes on. -/
def Method.passedNames (m : Method) : List Text := m.code.flatMap Text.markedWords

namespace Class

variable {α : Type} {c : Class} {names : List Text}

/-- A call of the mutation method of a number stores the value in its variable. -/
def call (c : Class) (store : Text → Option α) (call : ℕ × α) : Text → Option α :=
  match c.mutations[call.1]?.bind Method.target? with
  | some holder => Function.update store holder (some call.2)
  | none => store

/-- What the variables hold after calls of mutation methods. -/
def run (c : Class) (calls : List (ℕ × α)) : Text → Option α := calls.foldl c.call fun _ => none

/-- The arguments that the method which builds passes after calls of mutation methods. -/
def built (c : Class) (calls : List (ℕ × α)) : List (Option α) :=
  (c.instanceMethods.head?.toList.flatMap Method.passedNames).map fun name =>
    c.run calls (Names.instanceVariable name)

/-- The mutation methods store in the variables for some names, in this order. -/
def SetsHolders (c : Class) (names : List Text) : Prop :=
  c.mutations.map Method.target? = names.map fun name => some (Names.instanceVariable name)

end Class

end ObjC

/-! ## Calls of mutation methods -/

section LastValue

variable {α : Type} (calls : List (ℕ × α)) (i j : ℕ) (x : α)

/-- A further call decides the last value for its number and for no other one. -/
theorem lastValue_append :
    lastValue (calls ++ [(j, x)]) i = if j = i then some x else lastValue calls i := by
  unfold lastValue
  by_cases h : j = i
  · simp [h]
  · simp [h]

end LastValue

namespace ObjC.Class

variable {α : Type} {c : Class} {names : List Text}

/-- The variables for two different names are different. -/
theorem instanceVariable_inj {m n : Text} :
    Names.instanceVariable m = Names.instanceVariable n ↔ m = n :=
  List.append_right_inj _

/-- The mutation method of a number stores in the variable for the name of that number. -/
theorem SetsHolders.target?_eq (h : c.SetsHolders names) (i : ℕ) :
    c.mutations[i]?.bind Method.target? = names[i]?.map Names.instanceVariable := by
  have hi := congrArg (·[i]?) h
  simp only [List.getElem?_map] at hi
  cases hname : names[i]? with
  | none =>
    rw [hname, Option.map_none] at hi
    rw [Option.map_eq_none_iff.1 hi]
    rfl
  | some name =>
    rw [hname, Option.map_some] at hi
    obtain ⟨m, hm, htarget⟩ := Option.map_eq_some_iff.1 hi
    rw [hm]
    exact htarget

/-- One call stores its value in the variable of its own number and leaves the variables of all
other numbers as they are. -/
theorem call_holder (h : c.SetsHolders names) (hnodup : names.Nodup) (store : Text → Option α)
    (i : ℕ) (x : α) {j : ℕ} (hj : j < names.length) :
    c.call store (i, x) (Names.instanceVariable names[j]) =
      if i = j then some x else store (Names.instanceVariable names[j]) := by
  rw [call, h.target?_eq]
  by_cases hi : i < names.length
  · rw [List.getElem?_eq_getElem hi, Option.map_some]
    have hsame : Names.instanceVariable names[j] = Names.instanceVariable names[i] ↔ i = j := by
      rw [instanceVariable_inj, List.Nodup.getElem_inj_iff hnodup, eq_comm]
    exact (Function.update_apply _ _ _ _).trans (if_congr hsame rfl rfl)
  · -- There is no method of this number, so nothing is stored.
    rw [List.getElem?_eq_none (Nat.le_of_not_lt hi), if_neg (by omega)]
    rfl

/-- After any calls the variable for a name holds the value of the last call with its number. -/
theorem run_eq_lastValue (h : c.SetsHolders names) (hnodup : names.Nodup)
    (calls : List (ℕ × α)) {j : ℕ} (hj : j < names.length) :
    c.run calls (Names.instanceVariable names[j]) = lastValue calls j := by
  -- The calls are taken off at the end: the last one decides, or it leaves what the others did.
  induction calls using List.reverseRecOn with
  | nil => rfl
  | append_singleton calls call ih =>
    rw [run, List.foldl_append, List.foldl_cons, List.foldl_nil, call_holder h hnodup _ _ _ hj,
      lastValue_append]
    exact congrArg (if call.1 = j then some call.2 else ·) ih

/-- If the method that builds passes the variables for the names in their order, then it passes the
values of the last calls. -/
theorem built_eq_lastValues (h : c.SetsHolders names) (hnodup : names.Nodup)
    {build : Method} (hbuild : c.instanceMethods.head? = some build)
    (hpassed : build.passedNames = names) (calls : List (ℕ × α)) :
    c.built calls = (List.range names.length).map (lastValue calls) := by
  rw [built, hbuild, Option.toList_some, List.flatMap_singleton, hpassed]
  refine List.ext_getElem (by simp) fun j hj _ => ?_
  rw [List.length_map] at hj
  rw [List.getElem_map, List.getElem_map, List.getElem_range]
  exact run_eq_lastValue h hnodup calls hj

end ObjC.Class

/-! ## The names of the variables -/

namespace ValueType

variable {v : ValueType} {d : Directives} {p : Policy}

/-- A part of the call of the initializer is marked with the name of its attribute. -/
theorem initializerPart_eq (keyword name : Text) :
    initializerPart keyword name = keyword ++ (":_" ++ name) := by
  rw [initializerPart, Names.instanceVariable, List.append_assoc]
  rfl

/-- What follows the first name in the call of the initializer: the parts for the other names, and
the end of the statement. -/
def laterParts (names : List Text) : Text :=
  names.flatMap (fun name => Text.ofString " " ++ initializerPart name name) ++ "];"

/-- The part for a name stands behind a space, and its name is marked. -/
theorem laterParts_cons (name : Text) (names : List Text) :
    laterParts (name :: names) =
      Text.ofString " " ++ name ++ (":_" ++ name ++ laterParts names) := by
  rw [laterParts, laterParts, List.flatMap_cons, initializerPart_eq]
  simp only [List.append_assoc]

/-- What follows a name in the call of the initializer is no part of a word. -/
theorem isWordChar_head?_laterParts (names : List Text) :
    ∀ c ∈ (laterParts names).head?, c.isWordChar = false := by
  cases names with
  | nil => decide
  | cons n ns =>
    intro c hc
    rw [laterParts_cons] at hc
    obtain rfl : CodePoint.char ' ' = c := Option.some.inj hc
    rfl

/-- The parts behind the first one pass on the variables for their names. -/
theorem markedWords_laterParts {names : List Text} (h : ∀ n ∈ names, n.IsWord) :
    Text.markedWords (laterParts names) = names := by
  induction names with
  | nil => decide
  | cons n ns ih =>
    obtain ⟨hn, hns⟩ := List.forall_mem_cons.1 h
    -- The keyword is skipped because it has no colon, and the name ends where the next part starts.
    have hkeyword : CodePoint.char ':' ∉ Text.ofString " " ++ n := by
      rw [List.mem_append, not_or]
      exact ⟨by decide, Text.not_mem_of_isWordChar rfl hn.2⟩
    rw [laterParts_cons, Text.markedWords_append hkeyword,
      Text.markedWords_mark hn (isWordChar_head?_laterParts ns), ih hns]

/-- The statement that builds the value passes on the variables of the attributes in their order. -/
theorem markedWords_constructorCall (htype : v.typeName.IsWord)
    (hnames : ∀ n ∈ v.attributeNames, n.IsWord) :
    Text.markedWords ("return " ++ v.constructorCall ++ ";") = v.attributeNames := by
  have hcolon : CodePoint.char ':' ∉ v.typeName := Text.not_mem_of_isWordChar rfl htype.2
  unfold constructorCall
  cases hattributes : v.attributeNames with
  | nil =>
    have hfront : CodePoint.char ':' ∉
        Text.ofString "return " ++ ("[" ++ v.typeName ++ " new]") ++ ";" := by
      simp only [List.mem_append, not_or]
      exact ⟨⟨by decide, ⟨by decide, hcolon⟩, by decide⟩, by decide⟩
    have hmarked := Text.markedWords_append hfront []
    rw [List.append_nil] at hmarked
    exact hmarked
  | cons n ns =>
    rw [hattributes] at hnames
    obtain ⟨hn, hns⟩ := List.forall_mem_cons.1 hnames
    -- The first keyword is spelled from its name in upper case, which has no colon either.
    have hfront : CodePoint.char ':' ∉
        Text.ofString "return [[" ++ v.typeName ++ " alloc] initWith" ++ Names.upperFirst n := by
      simp only [List.mem_append, not_or]
      exact ⟨⟨⟨by decide, hcolon⟩, by decide⟩,
        Text.not_mem_of_isWordChar rfl hn.isWordChar_upperFirst⟩
    calc Text.markedWords ("return " ++ ("[[" ++ v.typeName ++ " alloc] " ++
            List.intercalate (Text.ofString " ") (initializerParts (n :: ns)) ++ "]") ++ ";")
        = Text.markedWords (Text.ofString "return [[" ++ v.typeName ++ " alloc] initWith" ++
            Names.upperFirst n ++ (":_" ++ n ++ laterParts ns)) := by
          rw [initializerParts, Text.intercalate_cons, List.flatMap_map, initializerPart_eq,
            laterParts]
          simp only [List.append_assoc]
          rfl
      _ = n :: ns := by
          rw [Text.markedWords_append hfront,
            Text.markedWords_mark hn (isWordChar_head?_laterParts ns), markedWords_laterParts hns]

end ValueType

/-! ## Builders -/

namespace Attribute

variable {a : Attribute}

/-- The method for an attribute stores in the variable of the attribute, with or without a copy. -/
theorem target?_setter (h : a.name.IsWord) (copied : Bool) :
    (a.setter copied).target? = some (Names.instanceVariable a.name) := by
  have hspace : CodePoint.char ' ' ∉ Names.instanceVariable a.name := by
    rw [Names.instanceVariable, List.mem_append, not_or]
    exact ⟨by decide, Text.not_mem_of_isWordChar rfl h.2⟩
  have hassigned := Text.assigned?_append hspace (a.storedValue copied ++ ";")
  rw [← List.append_assoc] at hassigned
  exact hassigned

/-- A line declares the variable of an attribute: two spaces, the reference to its type, at most one
space, the variable, and a semicolon. -/
def IsDeclaredBy (a : Attribute) (line : Text) : Prop :=
  ∃ reference separator, a.type.reference = .text reference ∧
    (separator = [] ∨ separator = Text.ofString " ") ∧
    line = "  " ++ reference ++ separator ++ Names.instanceVariable a.name ++ ";"

/-- The line for the variable of an attribute declares it. -/
theorem isDeclaredBy_of_variableLine {line : Text} (h : a.holder.variableLine = .ok line) :
    a.IsDeclaredBy ("  " ++ line) := by
  obtain ⟨reference, hreference, rfl⟩ := Property.variableLine_eq_ok.1 h
  refine ⟨reference, if reference.getLast? = some (.char '*') then [] else Text.ofString " ",
    hreference, ?_, ?_⟩
  · split
    · exact .inl rfl
    · exact .inr rfl
  · rw [Names.instanceVariable, holder]
    simp only [List.append_assoc]

end Attribute

namespace ValueType

variable {v : ValueType} {d : Directives} {p : Policy}

/-- The mutation methods of a builder store in the variables of the attributes. -/
theorem setsHolders_of_builderClass {c : ObjC.Class} (hnames : ∀ a ∈ v.attributes, a.name.IsWord)
    (h : v.builderClass d p = .ok c) : c.SetsHolders v.attributeNames := by
  obtain ⟨ms, hms, rfl⟩ := builderClass_eq_ok.1 h
  rw [ObjC.Class.SetsHolders, attributeNames, List.map_map]
  refine map_eq_map_of_mapM_eq_ok hms fun a ha m hm => ?_
  obtain ⟨copied, -, rfl⟩ := Attribute.setterUnder_eq_ok.1 hm
  exact Attribute.target?_setter (hnames a ha) copied

/-- The method that builds passes on the variables of the attributes. -/
theorem passedNames_buildMethod (htype : v.typeName.IsWord)
    (hnames : ∀ a ∈ v.attributes, a.name.IsWord) :
    v.buildMethod.passedNames = v.attributeNames := by
  have hwords : ∀ n ∈ v.attributeNames, n.IsWord := by
    intro n hn
    obtain ⟨a, ha, rfl⟩ := List.mem_map.1 hn
    exact hnames a ha
  rw [Method.passedNames, buildMethod, List.flatMap_singleton]
  exact markedWords_constructorCall htype hwords

/-- The implementation of a file with one class declares the variables of the attributes in a block
right behind the line that opens the class, one line for each attribute in order. Without attributes
there is no block, and an empty line follows. -/
def DeclaresVariables (v : ValueType) (f : CodeFile) (c : ObjC.Class) : Prop :=
  ∃ (text : Text) (declarations rest : List Text),
    f.implementation = .ok text ∧
    text = List.intercalate "\n" (f.privateImportLines ++ [[], c.implementationLine] ++
      (if v.attributes = [] then [] else ObjC.betweenBraces declarations) ++ [] :: rest) ++ "\n" ∧
    List.Forall₂ Attribute.IsDeclaredBy v.attributes declarations

/-- The implementation of a builder declares the variables of the attributes. -/
theorem declaresVariables_of_builderFile
    (hrefs : ∀ a ∈ v.attributes, ∃ s, a.type.reference = .text s)
    {f : CodeFile} (h : v.builderFile p = .ok f) {c : ObjC.Class} (hclasses : f.classes = [c])
    {ms : List Method} (hc : c = v.classWith ms) : v.DeclaresVariables f c := by
  subst hc
  obtain ⟨text, htext⟩ := (exists_implementation_iff h).2 hrefs
  obtain ⟨holders, hholders, hlayout⟩ := CodeFile.implementation_eq_ok.1 htext
  rw [hclasses] at hholders
  obtain ⟨lines, _, hlines, hnil, rfl⟩ := List.forall₂_cons_left_iff.1 hholders
  obtain rfl := List.forall₂_nil_left_iff.1 hnil
  rw [ObjC.Class.variableLines, mapM_eq_ok] at hlines
  have hdeclared : List.Forall₂ Attribute.IsDeclaredBy v.attributes
      (lines.map (Text.ofString "  " ++ ·)) := by
    rw [List.forall₂_map_right_iff]
    exact (List.forall₂_map_left_iff.1 hlines).imp fun _ _ => Attribute.isDeclaredBy_of_variableLine
  -- There are lines for variables exactly if there are attributes.
  have hblock : ObjC.variableBlockLines lines =
      if v.attributes = [] then [] else ObjC.betweenBraces (lines.map (Text.ofString "  " ++ ·)) := by
    have hempty : lines = [] ↔ v.attributes = [] := by
      rw [← List.length_eq_zero_iff, ← List.length_eq_zero_iff, ← hlines.length_eq]
      simp [classWith]
    exact if_congr hempty rfl rfl
  have hmethods : ∃ rest, (v.classWith ms).classMethods.flatMap (·.implementationLines .ofClass) ++
      (v.classWith ms).instanceMethods.flatMap (·.implementationLines .ofInstance) ++
      [[], Text.ofString "@end"] = [] :: rest :=
    ⟨_, rfl⟩
  obtain ⟨rest, hrest⟩ := hmethods
  refine ⟨text, _, rest, htext, ?_, hdeclared⟩
  rw [← hlayout, CodeFile.implementationLines, hclasses, List.zip_cons_cons, List.zip_nil_left,
    List.flatMap_singleton, ObjC.Class.implementationLines, hblock, ← hrest]
  simp only [List.append_assoc]

/-- A builder of a value type whose names are words, with distinct attributes, builds from what was
set. The statement that builds the value mentions the variables of the attributes in their order,
each mutation method stores in the variable of its attribute, and so after any calls of mutation
methods the initializer is passed for each attribute the value of the last call for it, or nothing
if there was none. The implementation declares exactly these variables in the same order, in a block
that is there if there are attributes. -/
theorem builder_roundTrip (v : ValueType) (p : Policy) (htype : v.typeName.IsWord)
    (hnames : ∀ a ∈ v.attributes, a.name.IsWord) (hdistinct : v.attributeNames.Nodup)
    (hrefs : ∀ a ∈ v.attributes, ∃ s, a.type.reference = .text s) :
    (v.IsTextual → ∃ f, v.builderFile p = .ok f) ∧
    (∀ d c, v.builderClass d p = .ok c →
      (∃ build line, c.instanceMethods.head? = some build ∧ build.code = [line] ∧
        Text.markedWords line = v.attributeNames) ∧
      c.mutations.map Method.target? =
        v.attributeNames.map (fun name => some (Names.instanceVariable name)) ∧
      ∀ (α : Type) (calls : List (ℕ × α)),
        c.built calls = (List.range v.attributes.length).map (lastValue calls)) ∧
    ∀ f, v.builderFile p = .ok f →
      ∃ c, v.builderClass (.ofIncludes v.includes) p = .ok c ∧ f.classes = [c] ∧
        v.DeclaresVariables f c := by
  refine ⟨fun htextual => exists_builderFile_eq_ok.2 fun a ha =>
    Attribute.isSupported_of_isTextual (htextual a ha), fun d c hc => ?_, fun f hf => ?_⟩
  · have hpassed := passedNames_buildMethod htype hnames
    have hsets := setsHolders_of_builderClass hnames hc
    have hbuild : c.instanceMethods.head? = some v.buildMethod := by
      obtain ⟨ms, -, rfl⟩ := builderClass_eq_ok.1 hc
      rfl
    have hlength : v.attributeNames.length = v.attributes.length := List.length_map _
    refine ⟨⟨v.buildMethod, "return " ++ v.constructorCall ++ ";", hbuild, rfl, ?_⟩, hsets,
      fun α calls => ?_⟩
    · rw [← hpassed, Method.passedNames, buildMethod, List.flatMap_singleton]
    · rw [ObjC.Class.built_eq_lastValues hsets hdistinct hbuild hpassed, hlength]
  · obtain ⟨_, -, _, -, c, hc, hfile⟩ := builderFile_eq_ok.1 hf
    have hclasses : f.classes = [c] := by rw [← hfile]
    obtain ⟨ms, -, hms⟩ := builderClass_eq_ok.1 hc
    exact ⟨c, hc, hclasses, declaresVariables_of_builderFile hrefs hf hclasses hms.symm⟩

/-- A builder of a person passes on the only name and the last age that was set. -/
theorem builder_roundTrip_person :
    person.typeName.IsWord ∧ (∀ a ∈ person.attributes, a.name.IsWord) ∧
    person.attributeNames.Nodup ∧ (∀ a ∈ person.attributes, ∃ s, a.type.reference = .text s) ∧
    ∃ f c, person.builderFile .standard = .ok f ∧ f.classes = [c] ∧
      c.built [(1, "30"), (0, "Ada"), (1, "31")] = [some "Ada", some "31"] := by
  have htype : person.typeName.IsWord := by decide
  have hnames : ∀ a ∈ person.attributes, a.name.IsWord := by decide
  have hdistinct : person.attributeNames.Nodup := by decide
  have hrefs : ∀ a ∈ person.attributes, ∃ s, a.type.reference = .text s := by decide
  obtain ⟨hexists, hclass, hfile⟩ := builder_roundTrip person .standard htype hnames hdistinct hrefs
  obtain ⟨f, hf⟩ := hexists (by decide)
  obtain ⟨c, hc, hclasses, -⟩ := hfile f hf
  obtain ⟨-, -, hbuilt⟩ := hclass _ c hc
  exact ⟨htype, hnames, hdistinct, hrefs, f, c, hf, hclasses, hbuilt String _⟩

end ValueType

end ValueBuilder
