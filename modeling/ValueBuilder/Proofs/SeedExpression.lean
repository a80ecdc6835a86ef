import ValueBuilder.Proofs.Generation
import ValueBuilder.Proofs.Lines

/-!
# The expression that seeds a builder

The body of the seed factory is laid out as a staircase, with all brackets in front and one closed
on each line. Read without its layout it is one expression: `ObjC.Class.seedExpression` builds it
from the inside out and takes every name from the class itself. It starts from the fresh factory,
and it sends each mutation method once, in the order of the attributes.

`Staircase.brackets_append_sends` relates the two. The brackets in front count the sends that are
still to come, so its induction is on the attributes with the expression so far as accumulator.
-/

namespace ValueBuilder

open Traversal
open ObjC (Keyword Method Property)

namespace ObjC.Class

/-- The selector of the class method at a position. -/
def classSelector (c : ObjC.Class) (i : Nat) : Text :=
  (c.classMethods[i]?.map Method.selector).getD []

/-- The selector of the instance method at a position. -/
def instanceSelector (c : ObjC.Class) (i : Nat) : Text :=
  (c.instanceMethods[i]?.map Method.selector).getD []

/-- The name of the variable at a position. -/
def variableName (c : ObjC.Class) (i : Nat) : Text :=
  (c.internalProperties[i]?.map Property.name).getD []

/-- The nested sends that take over the first so many members of `seed`: the innermost receiver is
the result of the fresh factory, and the next receiver is always the result so far. The method at
the first position is the one that builds, so the mutation methods follow it. -/
def seedExpression (c : ObjC.Class) (seed : Text) : Nat → Text
  | 0 => "[" ++ c.name ++ " " ++ c.classSelector 0 ++ "]"
  | i + 1 =>
    "[" ++ c.seedExpression seed i ++ " " ++ c.instanceSelector (i + 1) ++ seed ++ "." ++
      c.variableName i ++ "]"

/-- A class is seeded by sends: its second factory lays out, for the named members, one send after
the other. The first line starts at the margin, and the further ones behind as many spaces as it
takes to stand under the brackets that they close. Without these spaces, and with one space between
two lines, the body returns the nested sends. -/
def IsSeededBySends (c : ObjC.Class) (names : List Text) : Prop :=
  ∃ fresh seed argument,
    c.classMethods = [fresh, seed] ∧ seed.keywords.filterMap Keyword.argument = [argument] ∧
    c.instanceMethods.length = names.length + 1 ∧ c.internalProperties.map Property.name = names ∧
    seed.code.map Text.indentation =
      0 :: (List.range names.length).map (fun i => 7 + names.length - i) ∧
    List.intercalate " " (seed.code.map Text.unindented) =
      "return " ++ c.seedExpression argument.name names.length ++ ";"

end ObjC.Class

/-! ## The staircase without its layout -/

namespace Staircase

variable (factory seed : Text)

/-- A send starts with a letter, so it has no indentation of its own. -/
theorem indentation_send (name : Text) : Text.indentation (send seed name) = 0 := rfl

/-- A send stays whole when spaces are dropped. -/
theorem unindented_send (name : Text) : Text.unindented (send seed name) = send seed name := rfl

/-- The sends stand behind one space less each time. -/
theorem map_indentation_sends (margin : Int) (names : List Text) :
    (sends seed margin names).map Text.indentation =
      (List.range names.length).map (fun i : Nat => (margin - i).toNat) := by
  induction names generalizing margin with
  | nil => rfl
  | cons name names ih =>
    rw [sends, List.map_cons, ih, List.length_cons, List.range_succ_eq_map, List.map_cons,
      List.map_map, spaces, Text.indentation_spaces, indentation_send]
    congr 1
    · simp
    · -- A later send counts from the smaller margin.
      refine List.map_congr_left fun i _ => ?_
      rw [Function.comp_apply, Int.natCast_succ]
      omega

/-- Without the spaces in front of them the sends are left. -/
theorem map_unindented_sends (margin : Int) (names : List Text) :
    (sends seed margin names).map Text.unindented = names.map (send seed) := by
  induction names generalizing margin with
  | nil => rfl
  | cons name names ih =>
    rw [sends, List.map_cons, ih, List.map_cons, spaces, Text.unindented_spaces, unindented_send]

/-- The semicolon changes no measure that it does not count for. -/
theorem map_terminated {α : Type} {f : Text → α} (hf : ∀ line, f (line ++ ";") = f line)
    (ls : List Text) : (terminated ls).map f = ls.map f := by
  fun_induction terminated ls with
  | case1 => rfl
  | case2 line => rw [List.map_singleton, List.map_singleton, hf]
  | case3 line next ls ih => rw [List.map_cons, ih, List.map_cons (l := next :: ls)]

/-- The semicolon stays at the end of what is done to each line, if it does at the end of a line. -/
theorem map_terminated_eq_terminated_map {f : Text → Text}
    (hf : ∀ line, f (line ++ ";") = f line ++ ";") (ls : List Text) :
    (terminated ls).map f = terminated (ls.map f) := by
  fun_induction terminated ls with
  | case1 => rfl
  | case2 line => rw [List.map_singleton, hf]; rfl
  | case3 line next ls ih => rw [List.map_cons, ih]; rfl

/-- The semicolon ends the joined lines. -/
theorem intercalate_terminated (separator line : Text) (ls : List Text) :
    List.intercalate separator (terminated (line :: ls)) =
      List.intercalate separator (line :: ls) ++ ";" := by
  induction ls generalizing line with
  | nil => rw [terminated, List.intercalate_singleton, List.intercalate_singleton]
  | cons next ls ih =>
    have hne : terminated (next :: ls) ≠ [] := by
      rw [← List.length_pos_iff, length_terminated, List.length_cons]
      omega
    rw [terminated, List.intercalate_cons_of_ne_nil hne, ih, List.intercalate_cons_cons]
    simp only [List.append_assoc]

/-- Brackets in front of an expression, with one send behind it for each, are the sends around the
expression: the bracket next to the expression belongs to the first send. -/
theorem brackets_append_sends (e : Text) (names : List Text) :
    brackets names.length ++ e ++ names.flatMap (fun name => (" " ++ send seed name : Text)) =
      names.foldl (fun e name => "[" ++ e ++ " " ++ send seed name) e := by
  induction names generalizing e with
  | nil => simp [brackets]
  | cons name names ih =>
    -- The innermost bracket closes around the expression and its first send.
    have hbracket : brackets (names.length + 1) = brackets names.length ++ "[" :=
      List.replicate_succ'
    calc brackets (name :: names).length ++ e ++
          (name :: names).flatMap (fun name => (" " ++ send seed name : Text))
        = brackets names.length ++ ("[" ++ e ++ " " ++ send seed name) ++
            names.flatMap (fun name => (" " ++ send seed name : Text)) := by
          rw [List.length_cons, hbracket, List.flatMap_cons]
          simp only [List.append_assoc]
      _ = (name :: names).foldl (fun e name => "[" ++ e ++ " " ++ send seed name) e := by
          rw [ih, List.foldl_cons]

/-- The first line starts at the margin, and the further ones behind as many spaces as there are
letters and brackets in front of the factory, less one each time. -/
theorem map_indentation_lines (names : List Text) :
    (lines factory seed names).map Text.indentation =
      0 :: (List.range names.length).map (fun i => 7 + names.length - i) := by
  have hfirst : Text.indentation (opening ++ brackets names.length ++ factory) = 0 := rfl
  have hopening : (opening.length : Int) = 7 := rfl
  rw [lines, map_terminated (fun _ => Text.indentation_append rfl), List.map_cons, hfirst,
    map_indentation_sends, hopening]
  congr 1
  refine List.map_congr_left fun i _ => ?_
  omega

/-- Without its layout the staircase returns the sends around the factory. -/
theorem intercalate_unindented_lines (names : List Text) :
    List.intercalate " " ((lines factory seed names).map Text.unindented) =
      "return " ++ names.foldl (fun e name => "[" ++ e ++ " " ++ send seed name) factory ++ ";" := by
  have hfirst : Text.unindented (opening ++ brackets names.length ++ factory) =
      opening ++ brackets names.length ++ factory := rfl
  rw [lines, map_terminated_eq_terminated_map (fun _ => Text.unindented_append rfl), List.map_cons,
    hfirst, map_unindented_sends, intercalate_terminated, Text.intercalate_cons, List.flatMap_map,
    ← brackets_append_sends]
  simp only [List.append_assoc]
  rfl

end Staircase

/-! ## The class of a builder -/

/-- The selector of a setter is the keyword of its attribute. -/
theorem Attribute.selector_setter (a : Attribute) (copied : Bool) :
    (a.setter copied).selector = Names.setterKeyword a.name ++ ":" := by
  simp [setter, Method.selector, Keyword.selector]

namespace ValueType

variable {v : ValueType} {d : Directives} {p : Policy}

/-- The mutation methods of a class have the keywords of the attributes in order. -/
theorem map_selector_of_mapM_setterUnder {ms : List Method}
    (h : v.attributes.mapM (·.setterUnder d p) = .ok ms) :
    ms.map Method.selector = v.attributeNames.map (fun name => Names.setterKeyword name ++ ":") := by
  rw [attributeNames, List.map_map]
  refine map_eq_map_of_mapM_eq_ok h fun a _ m hm => ?_
  obtain ⟨b, -, rfl⟩ := Attribute.setterUnder_eq_ok.1 hm
  exact a.selector_setter b

/-- The nested sends of a class whose mutation methods have the keywords of the attributes. -/
theorem seedExpression_classWith {ms : List Method} {seed : Text}
    (h : ms.map Method.selector = v.attributeNames.map (fun name => Names.setterKeyword name ++ ":"))
    {i : Nat} (hi : i ≤ v.attributeNames.length) :
    (v.classWith ms).seedExpression seed i =
      (v.attributeNames.take i).foldl (fun e name => "[" ++ e ++ " " ++ Staircase.send seed name)
        v.freshCall := by
  induction i with
  | zero => simp [ObjC.Class.seedExpression, ObjC.Class.classSelector, classWith, freshFactory,
      freshCall, Method.selector, Keyword.selector]
  | succ i ih =>
    have hlt : i < v.attributeNames.length := hi
    -- The method that builds stands first, so the methods are one position ahead.
    have hselector : (v.classWith ms).instanceSelector (i + 1) =
        Names.setterKeyword v.attributeNames[i] ++ ":" := by
      have hget : (ms.map Method.selector)[i]? =
          some (Names.setterKeyword v.attributeNames[i] ++ ":") := by
        rw [h, List.getElem?_map, List.getElem?_eq_getElem hlt, Option.map_some]
      rw [List.getElem?_map] at hget
      rw [ObjC.Class.instanceSelector, classWith, List.getElem?_cons_succ, hget, Option.getD_some]
    have hvariable : (v.classWith ms).variableName i = v.attributeNames[i] := by
      have hnames : (v.classWith ms).internalProperties.map Property.name = v.attributeNames := by
        simp [classWith, attributeNames, Attribute.holder]
      rw [ObjC.Class.variableName, ← List.getElem?_map, hnames, List.getElem?_eq_getElem hlt,
        Option.getD_some]
    rw [ObjC.Class.seedExpression, ih (Nat.le_of_lt hlt), hselector, hvariable,
      List.take_succ_eq_append_getElem hlt, List.foldl_append, List.foldl_cons, List.foldl_nil,
      Staircase.send]
    simp only [List.append_assoc]

/-- The class of a builder is seeded by sends, one for each attribute, whatever the names of the
value type and of its attributes are. There is a class if the storage of every type can be told. -/
theorem builderClass_isSeededBySends (v : ValueType) (d : Directives) (p : Policy) :
    ((∀ a ∈ v.attributes, a.type.HasStorage) → ∃ c, v.builderClass d p = .ok c) ∧
    ∀ c, v.builderClass d p = .ok c → c.IsSeededBySends v.attributeNames := by
  refine ⟨fun h => exists_builderClass_eq_ok.2 fun a ha _ => h a ha, fun c hc => ?_⟩
  obtain ⟨ms, hms, rfl⟩ := builderClass_eq_ok.1 hc
  have hselectors := map_selector_of_mapM_setterUnder hms
  refine ⟨v.freshFactory, v.seedFactory, ⟨Names.seedArgument v.typeName, v.reference, []⟩, rfl, rfl,
    ?_, ?_, Staircase.map_indentation_lines _ _ _, ?_⟩
  · have hlength := congrArg List.length hselectors
    rw [List.length_map, List.length_map] at hlength
    rw [classWith, List.length_cons, hlength]
  · simp [classWith, attributeNames, Attribute.holder]
  · rw [seedExpression_classWith hselectors (Nat.le_refl _), List.take_length]
    exact Staircase.intercalate_unindented_lines _ _ _

/-- A person with a name and an age. -/
def person : ValueType where
  typeName := "RMPerson"
  attributes := [
    { name := "name", type := { name := "NSString", reference := .text "NSString *" } },
    { name := "age", type := { name := "NSUInteger", reference := .text "NSUInteger" } }]

/-- The builder of a person is seeded with a name and with an age. -/
theorem builderClass_isSeededBySends_person :
    (∀ a ∈ person.attributes, a.type.HasStorage) ∧
      ∃ c, person.builderClass {} .standard = .ok c ∧ c.IsSeededBySends ["name", "age"] := by
  have hstorage : ∀ a ∈ person.attributes, a.type.HasStorage := by decide
  obtain ⟨c, hc⟩ := (builderClass_isSeededBySends person {} .standard).1 hstorage
  exact ⟨hstorage, c, hc, (builderClass_isSeededBySends person {} .standard).2 c hc⟩

end ValueType

end ValueBuilder
