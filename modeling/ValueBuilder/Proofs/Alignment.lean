import ValueBuilder.Proofs.Brackets
import ValueBuilder.Proofs.ImplementationLines
import ValueBuilder.Proofs.SeedExpression

/-!
# The staircase stands under its brackets

Each line of the staircase closes one bracket, and it stands one column to the right of the bracket
that it closes (`Staircase.IsStep`). The brackets in front count the lines that are still to come,
so the innermost one belongs to the next line. With that line it makes a balanced text again, which
takes the place of the factory: `Staircase.isBalanced_brackets_append` is the induction.

`ValueType.lines_hasStaircase` says so of the lines by themselves, and of the implementation of a
builder, where everything stands two columns further to the right.
-/

namespace ValueBuilder

open Text (BracketsMatch IsBalanced IsBracketFree place unlines)

namespace Staircase

variable {factory seed : Text} {names : List Text}

/-! ## Lines that close brackets -/

/-- What stands behind the bracket that a line closes: a semicolon on the last line. -/
def ending (i count : Nat) : Text := if i + 1 = count then ";" else []

/-- A line closes one bracket, and it has no others. -/
def ClosesOne (line : Text) : Prop :=
  ∃ body rest, line = (body ++ "]" ++ rest : Text) ∧ body.IsBracketFree ∧ rest.IsBracketFree

/-- Spaces are no brackets. -/
theorem isBracketFree_spaces (count : Int) : (spaces count).IsBracketFree := by
  constructor
  · intro h
    exact absurd (List.eq_of_mem_replicate h) (by decide)
  · intro h
    exact absurd (List.eq_of_mem_replicate h) (by decide)

/-- Brackets in a row are counted together. -/
theorem brackets_add (m n : Nat) : brackets (m + n) = brackets m ++ brackets n :=
  List.replicate_append_replicate.symm

/-- Brackets in front of a balanced text are closed by as many lines behind it. -/
theorem isBalanced_brackets_append {rows : List Text} (hrows : ∀ row ∈ rows, ClosesOne row)
    (hfactory : factory.IsBalanced) :
    (brackets rows.length ++ factory ++ "\n" ++ unlines rows : Text).IsBalanced := by
  have hfeed : IsBracketFree "\n" := by decide
  induction rows generalizing factory with
  | nil => exact (hfactory.append hfeed.isBalanced).append (t := []) (by decide)
  | cons row rows ih =>
    obtain ⟨hrow, hrows⟩ := List.forall_mem_cons.1 hrows
    obtain ⟨body, rest, hrow, hbody, hrest⟩ := hrow
    -- The innermost bracket closes around the text and the body of its first line.
    have hclosed : ("[" ++ (factory ++ "\n" ++ body) ++ "]" ++ rest : Text).IsBalanced :=
      ((hfactory.append hfeed.isBalanced).append hbody.isBalanced).enclosed.append hrest.isBalanced
    have hbracket : brackets (rows.length + 1) = brackets rows.length ++ "[" := brackets_add _ 1
    have hbalanced := ih hrows hclosed
    rw [List.length_cons, hbracket, Text.unlines_cons, hrow]
    simp only [List.append_assoc] at hbalanced ⊢
    exact hbalanced

/-! ## Steps -/

/-- One line of a staircase, counted from zero below the first line. The staircase starts at the row
`top`, where its brackets start at the column `left`. -/
structure IsStep (lines : List Text) (top left count i : Nat) (body : Text) : Prop where
  /-- The line ends in a bracket, and the last one in a semicolon on top. -/
  line : lines[top + i + 1]? = some (body ++ "]" ++ ending i count : Text)
  /-- The bracket matches one bracket of the first line: the last one that is still open. -/
  closes : ∀ start, BracketsMatch (unlines lines) start (place lines (top + i + 1) body.length) ↔
    start = place lines top (left + count - 1 - i)
  /-- The line stands one column to the right of that bracket. -/
  column : Text.indentation (body ++ "]" ++ ending i count) = left + count - i

/-- Lines have a staircase of so many steps below a row. -/
def HasStaircase (lines : List Text) (top left count : Nat) : Prop :=
  ∀ i < count, ∃ body, IsStep lines top left count i body

/-- Lines close one bracket each, and each of them stands one column further to the left, the last
one next to the column `left`. -/
def Descends (rows : List Text) (left : Nat) : Prop :=
  ∀ i row, rows[i]? = some row → ∃ body : Text,
    row = body ++ "]" ++ ending i rows.length ∧ body.IsBracketFree ∧
      Text.indentation row = left + rows.length - i

/-- Each of the lines closes one bracket. -/
theorem Descends.closesOne {rows : List Text} {left : Nat} (h : Descends rows left) :
    ∀ row ∈ rows, ClosesOne row := by
  intro row hmem
  obtain ⟨i, hi⟩ := List.mem_iff_getElem?.1 hmem
  obtain ⟨body, hrow, hfree, -⟩ := h i row hi
  refine ⟨body, ending i rows.length, hrow, hfree, ?_⟩
  unfold ending
  split <;> decide

/-- Behind a margin the lines stand further to the right. -/
theorem Descends.map_spaces {rows : List Text} {left : Nat} (h : Descends rows left)
    (margin : Nat) : Descends (rows.map (spaces margin ++ ·)) (margin + left) := by
  intro i row hrow
  rw [List.getElem?_map] at hrow
  obtain ⟨line, hline, rfl⟩ := Option.map_eq_some_iff.1 hrow
  obtain ⟨body, hbody, hfree, hcolumn⟩ := h i line hline
  refine ⟨spaces margin ++ body, ?_, (isBracketFree_spaces _).append hfree, ?_⟩
  · rw [hbody, List.length_map]
    simp only [List.append_assoc]
  · have hi : i < rows.length := (List.getElem?_eq_some_iff.1 hline).1
    rw [spaces, Int.toNat_natCast, Text.indentation_spaces, hcolumn, List.length_map]
    omega

/-- A line with brackets in front of a balanced text has a staircase below it, if as many lines
follow that close the brackets. -/
theorem hasStaircase_of_descends {lines before rows after : List Text} {pre : Text} {left : Nat}
    (hfactory : factory.IsBalanced) (hrows : Descends rows left) (hleft : pre.length = left)
    (hlines : lines = before ++ (pre ++ brackets rows.length ++ factory) :: (rows ++ after)) :
    HasStaircase lines before.length left rows.length := by
  subst hleft
  intro i hi
  obtain ⟨body, hrow, hbody, hcolumn⟩ := hrows i rows[i] (List.getElem?_eq_getElem hi)
  have hcount : (rows.take i).length = i := List.length_take_of_le (Nat.le_of_lt hi)
  have hsplit : rows = rows.take i ++ rows[i] :: rows.drop (i + 1) := by
    rw [List.getElem_cons_drop, List.take_append_drop]
  -- The brackets further in are closed by the lines in between.
  have hbrackets : brackets rows.length =
      brackets (rows.length - 1 - i) ++ "[" ++ brackets (rows.take i).length := by
    have hone : brackets 1 = "[" := rfl
    rw [hcount, ← hone, ← brackets_add, ← brackets_add]
    congr 1
    omega
  have hclosing : ∀ row ∈ rows.take i, ClosesOne row := fun row hmem =>
    hrows.closesOne row (List.mem_of_mem_take hmem)
  have hinside : (brackets (rows.take i).length ++ factory ++ "\n" ++ unlines (rows.take i) ++
      body : Text).IsBalanced :=
    (isBalanced_brackets_append hclosing hfactory).append hbody.isBalanced
  have hfirst : (pre ++ brackets rows.length ++ factory : Text) =
      (pre ++ brackets (rows.length - 1 - i)) ++ "[" ++
        (brackets (rows.take i).length ++ factory) := by
    rw [hbrackets]
    simp only [List.append_assoc]
  have hbelow : rows ++ after =
      rows.take i ++ (body ++ "]" ++ ending i rows.length) :: (rows.drop (i + 1) ++ after) := by
    calc rows ++ after = (rows.take i ++ rows[i] :: rows.drop (i + 1)) ++ after := by rw [← hsplit]
      _ = _ := by rw [hrow, List.append_assoc, List.cons_append]
  have hwhole := hlines
  rw [hfirst, hbelow] at hwhole
  have hmatch := Text.bracketsMatch_unlines hinside hwhole
  rw [hcount, List.length_append, brackets, List.length_replicate] at hmatch
  have hopening : pre.length + (rows.length - 1 - i) = pre.length + rows.length - 1 - i := by omega
  rw [hopening] at hmatch
  refine ⟨body, ?_, fun start => ⟨fun hstart => hstart.unique hmatch, ?_⟩, ?_⟩
  · rw [hlines, List.getElem?_append_right (by omega), Nat.add_assoc, Nat.add_sub_cancel_left,
      List.getElem?_cons_succ, List.getElem?_append_left hi, List.getElem?_eq_getElem hi, hrow]
  · rintro rfl
    exact hmatch
  · rw [← hrow]
    exact hcolumn

/-! ## The lines of the expression -/

/-- The sends in order, each behind its spaces. -/
theorem getElem?_sends (margin : Int) (names : List Text) (i : Nat) :
    (sends seed margin names)[i]? =
      names[i]?.map fun name => spaces (margin - i) ++ send seed name := by
  induction names generalizing margin i with
  | nil => rfl
  | cons name names ih =>
    cases i with
    | zero => simp [sends]
    | succ i =>
      have hmargin : margin - 1 - (i : Int) = margin - (i + 1 : Nat) := by omega
      rw [sends, List.getElem?_cons_succ, ih, List.getElem?_cons_succ, hmargin]

/-- The lines in order, the last one with its semicolon. -/
theorem getElem?_terminated (ls : List Text) (i : Nat) :
    (terminated ls)[i]? = ls[i]?.map (· ++ ending i ls.length) := by
  fun_induction terminated ls generalizing i with
  | case1 => rfl
  | case2 line => cases i <;> rfl
  | case3 line next ls ih =>
    cases i with
    | zero => simp [ending]
    | succ i =>
      have hending : ending (i + 1) (line :: next :: ls).length = ending i (next :: ls).length := by
        simp [ending]
      rw [List.getElem?_cons_succ, ih, List.getElem?_cons_succ, hending]

/-- The line for a name stands behind so many spaces. -/
theorem getElem?_lines (factory seed : Text) {names : List Text} {i : Nat} {name : Text}
    (h : names[i]? = some name) :
    (lines factory seed names)[i + 1]? =
      some (spaces (7 + names.length - i) ++ send seed name ++ ending i names.length) := by
  have hopening : (opening.length : Int) = 7 := rfl
  have hending : ending (i + 1) (names.length + 1) = ending i names.length := by simp [ending]
  rw [lines, getElem?_terminated, List.getElem?_cons_succ, getElem?_sends, h, List.length_cons,
    length_sends, hending, hopening]
  rfl

/-- The send for a name closes one bracket. -/
theorem exists_send_eq (hseed : seed.IsBracketFree) {name : Text} (hname : name.IsBracketFree) :
    ∃ body : Text, send seed name = body ++ "]" ∧ body.IsBracketFree := by
  have hwords : IsBracketFree "with" ∧ IsBracketFree ":" ∧ IsBracketFree "." := by decide
  have hkeyword : (Names.setterKeyword name).IsBracketFree :=
    hwords.1.append (Names.isBracketFree_upperFirst hname)
  exact ⟨_, rfl, (((hkeyword.append hwords.2.1).append hseed).append hwords.2.2).append hname⟩

/-- With names the lines are the line of the factory, with a bracket for each name, and lines that
close the brackets. -/
theorem exists_lines_eq (factory : Text) (hseed : seed.IsBracketFree)
    (hnames : ∀ name ∈ names, name.IsBracketFree) (hne : names ≠ []) :
    ∃ rows, lines factory seed names = (opening ++ brackets rows.length ++ factory) :: rows ∧
      rows.length = names.length ∧ Descends rows 7 := by
  -- The semicolon is not on the first line.
  obtain ⟨rows, hrows⟩ : ∃ rows, lines factory seed names =
      (opening ++ brackets names.length ++ factory) :: rows := by
    obtain ⟨name, others, rfl⟩ := List.exists_cons_of_ne_nil hne
    exact ⟨_, rfl⟩
  have hcount : rows.length = names.length := by
    have hlength := length_lines factory seed names
    rw [hrows, List.length_cons] at hlength
    omega
  refine ⟨rows, by rw [hrows, hcount], hcount, fun i row hrow => ?_⟩
  have hi : i < names.length := by
    rw [← hcount]
    exact (List.getElem?_eq_some_iff.1 hrow).1
  have hsend := getElem?_lines factory seed (List.getElem?_eq_getElem hi)
  rw [hrows, List.getElem?_cons_succ, hrow, Option.some.injEq] at hsend
  obtain ⟨body, hbody, hfree⟩ := exists_send_eq hseed (hnames _ (List.getElem_mem hi))
  refine ⟨spaces (7 + names.length - i) ++ body, ?_, (isBracketFree_spaces _).append hfree, ?_⟩
  · rw [hsend, hbody, hcount]
    simp only [List.append_assoc]
  · have hword : Text.indentation (send seed names[i] ++ ending i names.length) = 0 := rfl
    rw [hsend, List.append_assoc, spaces, Text.indentation_spaces, hword]
    omega

/-- The lines of the expression are a staircase, also as part of other lines and behind a margin. -/
theorem hasStaircase_lines (hfactory : factory.IsBalanced) (hseed : seed.IsBracketFree)
    (hnames : ∀ name ∈ names, name.IsBracketFree) (before after : List Text) (margin : Nat) :
    HasStaircase
      (before ++ (lines factory seed names).map (spaces margin ++ ·) ++ after)
      before.length (margin + 7) names.length := by
  by_cases hempty : names = []
  · intro i hi
    rw [hempty] at hi
    exact absurd hi (Nat.not_lt_zero i)
  · obtain ⟨rows, hrows, hcount, hdescends⟩ := exists_lines_eq factory hseed hnames hempty
    have hleft : (spaces margin ++ opening).length = margin + 7 := by
      rw [List.length_append, spaces, List.length_replicate]
      rfl
    have hmap : (rows.map (spaces margin ++ ·)).length = rows.length := List.length_map _
    have hlines : before ++ (lines factory seed names).map (spaces margin ++ ·) ++ after =
        before ++ ((spaces margin ++ opening) ++ brackets (rows.map (spaces margin ++ ·)).length ++
          factory) :: (rows.map (spaces margin ++ ·) ++ after) := by
      rw [hrows, hmap, List.map_cons]
      simp only [List.append_assoc, List.cons_append]
    rw [← hcount, ← hmap]
    exact hasStaircase_of_descends hfactory (hdescends.map_spaces margin) hleft hlines

/-- No line of the expression is empty. -/
theorem ne_nil_of_mem_lines {line : Text} (h : line ∈ lines factory seed names) : line ≠ [] := by
  obtain ⟨i, hi⟩ := List.mem_iff_getElem?.1 h
  rw [lines, getElem?_terminated, Option.map_eq_some_iff] at hi
  obtain ⟨plain, hplain, rfl⟩ := hi
  refine List.append_ne_nil_of_left_ne_nil ?_ _
  rcases i with _ | i
  · rw [List.getElem?_cons_zero, Option.some.injEq] at hplain
    rw [← hplain]
    exact List.cons_ne_nil _ _
  · rw [List.getElem?_cons_succ, getElem?_sends, Option.map_eq_some_iff] at hplain
    obtain ⟨name, -, rfl⟩ := hplain
    exact List.append_ne_nil_of_right_ne_nil _ (List.cons_ne_nil _ _)

/-- The lines of the expression are balanced. -/
theorem isBalanced_unlines_lines (hfactory : factory.IsBalanced) (hseed : seed.IsBracketFree)
    (hnames : ∀ name ∈ names, name.IsBracketFree) :
    (unlines (lines factory seed names)).IsBalanced := by
  have hopening : opening.IsBracketFree := by decide
  by_cases hempty : names = []
  · have hend : IsBracketFree (";" ++ "\n") := by decide
    have hlines : unlines (lines factory seed names) = opening ++ factory ++ (";" ++ "\n") := by
      rw [hempty, lines, sends, terminated, unlines, List.flatMap_singleton]
      simp [brackets]
    rw [hlines]
    exact (hopening.isBalanced.append hfactory).append hend.isBalanced
  · obtain ⟨rows, hrows, -, hdescends⟩ := exists_lines_eq factory hseed hnames hempty
    have hbelow := isBalanced_brackets_append hdescends.closesOne hfactory
    have hlines : unlines (lines factory seed names) =
        opening ++ (brackets rows.length ++ factory ++ "\n" ++ unlines rows) := by
      rw [hrows, Text.unlines_cons]
      simp only [List.append_assoc]
    rw [hlines]
    exact hopening.isBalanced.append hbelow

end Staircase

/-! ## The staircase in an implementation -/

namespace ValueType

variable {v : ValueType} {p : Policy} {f : ObjC.CodeFile} {text : Text}

/-- The fresh factory of a name without brackets is called in balanced brackets. -/
theorem isBalanced_freshCall (h : v.typeName.IsBracketFree) : v.freshCall.IsBalanced := by
  have hsuffix : IsBracketFree "Builder" := by decide
  have hspace : IsBracketFree " " := by decide
  have hinside : (Names.builder v.typeName ++ " " ++ Names.stem v.typeName : Text).IsBracketFree :=
    ((h.append hsuffix).append hspace).append (Names.isBracketFree_stem h)
  have henclosed := hinside.isBalanced.enclosed
  rw [freshCall]
  simp only [List.append_assoc] at henclosed ⊢
  exact henclosed

/-- The value that a builder is seeded with has no brackets in its name if the type has none. -/
theorem isBracketFree_seedArgument (h : v.typeName.IsBracketFree) :
    (Names.seedArgument v.typeName).IsBracketFree := by
  have hprefix : IsBracketFree "existing" := by decide
  exact hprefix.append (Names.isBracketFree_upperFirst (Names.isBracketFree_stem h))

/-- In an implementation the lines of the seed factory stand two columns further to the right. -/
theorem implementationLines_seedFactory (v : ValueType) :
    v.seedFactory.implementationLines .ofClass =
      [[], v.seedFactory.signature .ofClass] ++ ([Text.ofString "\x7b"] ++
        v.seedFactory.code.map (Staircase.spaces 2 ++ ·) ++ [Text.ofString "\x7d"]) := by
  have hcode : v.seedFactory.code.map ObjC.blockLine =
      v.seedFactory.code.map (Staircase.spaces 2 ++ ·) := by
    refine List.map_congr_left fun line hline => ?_
    rw [ObjC.blockLine, if_neg (Staircase.ne_nil_of_mem_lines hline)]
    rfl
  rw [ObjC.Method.implementationLines, ObjC.betweenBraces, hcode]

/-- An implementation has the body of the seed factory below its signature and a brace, two columns
further to the right. -/
theorem exists_implementation_eq (hf : v.builderFile p = .ok f)
    (htext : f.implementation = .ok text) :
    ∃ before after, text =
      unlines ((before ++ [v.seedFactory.signature .ofClass, Text.ofString "\x7b"]) ++
        v.seedFactory.code.map (Staircase.spaces 2 ++ ·) ++ after) := by
  obtain ⟨ms, hclasses⟩ := classes_of_builderFile hf
  obtain ⟨holders, hholders, rfl⟩ := ObjC.CodeFile.implementation_eq_ok.1 htext
  rw [hclasses] at hholders
  obtain ⟨ls, rest, -, hrest, rfl⟩ := List.forall₂_cons_left_iff.1 hholders
  obtain rfl := List.forall₂_nil_left_iff.1 hrest
  have hlines : f.implementationLines [ls] =
      ((f.privateImportLines ++ [[], (v.classWith ms).implementationLine] ++
        ObjC.variableBlockLines ls ++ v.freshFactory.implementationLines .ofClass ++ [[]]) ++
        [v.seedFactory.signature .ofClass, Text.ofString "\x7b"]) ++
      v.seedFactory.code.map (Staircase.spaces 2 ++ ·) ++
      ([Text.ofString "\x7d"] ++
        (v.classWith ms).instanceMethods.flatMap (·.implementationLines .ofInstance) ++
        [[], "@end"]) := by
    have hmethods : (v.classWith ms).classMethods = [v.freshFactory, v.seedFactory] := rfl
    rw [ObjC.CodeFile.implementationLines, hclasses, List.zip_cons_cons, List.zip_nil_left,
      List.flatMap_singleton, ObjC.Class.implementationLines, hmethods, List.flatMap_cons,
      List.flatMap_singleton, implementationLines_seedFactory]
    simp only [List.append_assoc, List.cons_append, List.nil_append]
  have hne : f.implementationLines [ls] ≠ [] := by
    rw [hlines]
    simp
  rw [Text.intercalate_append_separator _ hne, hlines]
  exact ⟨_, _, rfl⟩

/-- The lines of the expression that seeds a builder, for a factory that is called in balanced
brackets and for names without brackets. The brackets of all lines are balanced. Each line below the
first one closes the last bracket of the first line that is still open, and stands one column to the
right of it. The columns go down one by one to the eighth, so no line is asked to stand behind less
than no spaces.

In the implementation of a builder whose names have no brackets the body of the seed factory is the
same staircase, two columns further to the right. -/
theorem lines_hasStaircase :
    (∀ (factory seed : Text) (names : List Text), factory.IsBalanced → seed.IsBracketFree →
      (∀ name ∈ names, name.IsBracketFree) →
      (unlines (Staircase.lines factory seed names)).IsBalanced ∧
      Staircase.HasStaircase (Staircase.lines factory seed names) 0 7 names.length ∧
      (Staircase.lines factory seed names).map Text.indentation =
        0 :: (List.range names.length).map (fun i => 7 + names.length - i) ∧
      ∀ (i : ℕ) (name : Text), names[i]? = some name →
        (Staircase.lines factory seed names)[i + 1]? =
          some (Staircase.spaces (7 + names.length - i) ++ Staircase.send seed name ++
            Staircase.ending i names.length) ∧
        8 ≤ (7 + names.length - i : Int) ∧
        ((Staircase.spaces (7 + names.length - i)).length : Int) = 7 + names.length - i) ∧
    ∀ (v : ValueType) (p : Policy) (f : ObjC.CodeFile) (text : Text),
      v.typeName.IsBracketFree → (∀ a ∈ v.attributes, a.name.IsBracketFree) →
      v.builderFile p = .ok f → f.implementation = .ok text →
      ∃ before after,
        text = unlines ((before ++ [v.seedFactory.signature .ofClass, Text.ofString "\x7b"]) ++
          v.seedFactory.code.map (Staircase.spaces 2 ++ ·) ++ after) ∧
        Staircase.HasStaircase
          ((before ++ [v.seedFactory.signature .ofClass, Text.ofString "\x7b"]) ++
            v.seedFactory.code.map (Staircase.spaces 2 ++ ·) ++ after)
          (before.length + 2) 9 v.attributes.length := by
  constructor
  · intro factory seed names hfactory hseed hnames
    have hstaircase := Staircase.hasStaircase_lines hfactory hseed hnames [] [] 0
    have hplain : (Staircase.lines factory seed names).map (Staircase.spaces (0 : ℕ) ++ ·) =
        Staircase.lines factory seed names := List.map_id' _
    rw [hplain, List.nil_append, List.append_nil] at hstaircase
    refine ⟨Staircase.isBalanced_unlines_lines hfactory hseed hnames, hstaircase,
      Staircase.map_indentation_lines factory seed names, fun i name hname => ?_⟩
    have hi : i < names.length := (List.getElem?_eq_some_iff.1 hname).1
    refine ⟨Staircase.getElem?_lines factory seed hname, by omega, ?_⟩
    rw [Staircase.spaces, List.length_replicate]
    omega
  · intro v p f text htype hattributes hf htext
    obtain ⟨before, after, htext⟩ := exists_implementation_eq hf htext
    refine ⟨before, after, htext, ?_⟩
    have hnames : ∀ name ∈ v.attributeNames, name.IsBracketFree := by
      intro name hname
      obtain ⟨a, ha, rfl⟩ := List.mem_map.1 hname
      exact hattributes a ha
    have hstaircase := Staircase.hasStaircase_lines (isBalanced_freshCall htype)
      (isBracketFree_seedArgument htype) hnames
      (before ++ [v.seedFactory.signature .ofClass, Text.ofString "\x7b"]) after 2
    rw [List.length_append, attributeNames, List.length_map] at hstaircase
    exact hstaircase

/-- The expression that seeds a builder of a person is a staircase of two steps, by itself and in
the implementation. -/
theorem lines_hasStaircase_person :
    (unlines (Staircase.lines "[RMPersonBuilder person]" "existingPerson"
      ["name", "age"])).IsBalanced ∧
    Staircase.HasStaircase (Staircase.lines "[RMPersonBuilder person]" "existingPerson"
      ["name", "age"]) 0 7 2 ∧
    (Staircase.lines "[RMPersonBuilder person]" "existingPerson" ["name", "age"])[1]? =
      some (Text.ofString "         withName:existingPerson.name]") ∧
    ∃ f text lines top, person.builderFile .standard = .ok f ∧ f.implementation = .ok text ∧
      text = unlines lines ∧ Staircase.HasStaircase lines top 9 2 := by
  obtain ⟨hlines, himplementation⟩ := lines_hasStaircase
  obtain ⟨hbalanced, hstaircase, -, hline⟩ := hlines "[RMPersonBuilder person]" "existingPerson"
    ["name", "age"] (by decide) (by decide) (by decide)
  obtain ⟨hfirst, -⟩ := hline 0 "name" rfl
  have htextual : person.IsTextual := by decide
  obtain ⟨f, hf⟩ := exists_builderFile_eq_ok.2 fun a ha =>
    Attribute.isSupported_of_isTextual (p := .standard) (htextual a ha)
  obtain ⟨text, htext⟩ := (exists_implementation_iff hf).2 fun a ha => (htextual a ha).reference
  obtain ⟨before, after, hwritten, hbelow⟩ :=
    himplementation person .standard f text (by decide) (by decide) hf htext
  exact ⟨hbalanced, hstaircase, hfirst.trans (by decide), f, text, _, _, hf, htext, hwritten,
    hbelow⟩

end ValueType

end ValueBuilder
