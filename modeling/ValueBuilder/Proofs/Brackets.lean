import ValueBuilder.Names
import ValueBuilder.Proofs.Lines

/-!
# Square brackets

A text is balanced if it closes every bracket that it opens, and none before (`Text.IsBalanced`).
Two brackets match if the text between them is balanced (`Text.BracketsMatch`), so a bracket that
closes has one partner at most (`Text.BracketsMatch.unique`).

The brackets may stand on different lines. `Text.place` is where a column of a row stands in the
text that lines are written as, and `Text.bracketsMatch_unlines` matches a bracket of one line with
a bracket of a later one.

Texts without brackets stay so when their first character changes case, since no character is
mapped to a bracket.
-/

namespace ValueBuilder.Text

variable {s t : Text} {i j k : Nat}

/-! ## Balance -/

/-- The brackets that a text opens, less those that it closes. -/
def bracketDepth (t : Text) : Int := t.count (.char '[') - t.count (.char ']')

/-- All brackets of a text are closed. -/
structure IsBalanced (t : Text) : Prop where
  /-- No beginning of the text closes more brackets than it opens. -/
  nonneg : ∀ n, 0 ≤ bracketDepth (t.take n)
  /-- No bracket is left open. -/
  closed : bracketDepth t = 0

/-- A text has no brackets. -/
def IsBracketFree (t : Text) : Prop := .char '[' ∉ t ∧ .char ']' ∉ t

instance (t : Text) : Decidable t.IsBracketFree := inferInstanceAs (Decidable (_ ∧ _))

/-- What the parts of a text open and close counts together. -/
theorem bracketDepth_append (s t : Text) :
    bracketDepth (s ++ t) = bracketDepth s + bracketDepth t := by
  unfold bracketDepth
  rw [List.count_append, List.count_append]
  omega

/-- A text without brackets opens none and closes none. -/
theorem IsBracketFree.bracketDepth_eq (h : t.IsBracketFree) : bracketDepth t = 0 := by
  rw [bracketDepth, List.count_eq_zero.2 h.1, List.count_eq_zero.2 h.2]
  rfl

/-- Part of a text without brackets has none. -/
theorem IsBracketFree.subset (h : t.IsBracketFree) (hs : s ⊆ t) : s.IsBracketFree :=
  ⟨fun hmem => h.1 (hs hmem), fun hmem => h.2 (hs hmem)⟩

/-- Two texts without brackets have none together. -/
theorem IsBracketFree.append (hs : s.IsBracketFree) (ht : t.IsBracketFree) :
    (s ++ t).IsBracketFree :=
  ⟨List.not_mem_append hs.1 ht.1, List.not_mem_append hs.2 ht.2⟩

/-- A text without brackets is balanced. -/
theorem IsBracketFree.isBalanced (h : t.IsBracketFree) : t.IsBalanced where
  nonneg n := Int.le_of_eq (h.subset (List.take_subset n t)).bracketDepth_eq.symm
  closed := h.bracketDepth_eq

/-- Two balanced texts are balanced together. -/
theorem IsBalanced.append (hs : s.IsBalanced) (ht : t.IsBalanced) : (s ++ t).IsBalanced where
  nonneg n := by
    rw [List.take_append, bracketDepth_append]
    exact Int.add_nonneg (hs.nonneg n) (ht.nonneg _)
  closed := by rw [bracketDepth_append, hs.closed, ht.closed, Int.add_zero]

/-- A balanced text between brackets is balanced. -/
theorem IsBalanced.enclosed (h : t.IsBalanced) : ("[" ++ t ++ "]" : Text).IsBalanced where
  nonneg n := by
    have hopen : bracketDepth (ofString "[") = 1 := by decide
    have hclose (m : Nat) : -1 ≤ bracketDepth ((ofString "]").take m) := by
      cases m with
      | zero => decide
      | succ m =>
        have hlength : (ofString "]").length = 1 := rfl
        rw [List.take_of_length_le (by omega)]
        decide
    cases n with
    | zero => exact Int.le_refl _
    | succ n =>
      have hinside := h.nonneg n
      have hbehind := hclose (n - t.length)
      have htake : ("[" ++ t ++ "]" : Text).take (n + 1) =
          ofString "[" ++ (t.take n ++ (ofString "]").take (n - t.length)) := by
        rw [List.append_assoc, ← List.take_append]
        rfl
      rw [htake, bracketDepth_append, bracketDepth_append, hopen]
      omega
  closed := by
    rw [bracketDepth_append, bracketDepth_append, h.closed]
    decide

instance (t : Text) : Decidable t.IsBalanced :=
  decidable_of_iff ((∀ n < t.length, 0 ≤ bracketDepth (t.take n)) ∧ bracketDepth t = 0) <| by
    constructor
    · rintro ⟨hnonneg, hclosed⟩
      refine ⟨fun n => ?_, hclosed⟩
      rcases Nat.lt_or_ge n t.length with hn | hn
      · exact hnonneg n hn
      · rw [List.take_of_length_le hn]
        exact Int.le_of_eq hclosed.symm
    · exact fun h => ⟨fun n _ => h.nonneg n, h.closed⟩

/-! ## Matching brackets -/

/-- The brackets at two places of a text match. The first one opens, the second one closes, and the
text between them is balanced. -/
def BracketsMatch (t : Text) (i j : Nat) : Prop :=
  t[i]? = some (.char '[') ∧ t[j]? = some (.char ']') ∧ i < j ∧
    IsBalanced ((t.take j).drop (i + 1))

instance (t : Text) (i j : Nat) : Decidable (t.BracketsMatch i j) :=
  inferInstanceAs (Decidable (_ ∧ _ ∧ _ ∧ _))

/-- Of two brackets that open and match one that closes, neither stands before the other. -/
theorem BracketsMatch.not_lt (h : BracketsMatch t i k) (h' : BracketsMatch t j k) : ¬ i < j := by
  intro hij
  obtain ⟨-, -, -, hbalanced⟩ := h
  obtain ⟨hopen, -, hjk, hbalanced'⟩ := h'
  -- Between the first bracket and the last one, what stands before the second one would close more
  -- than it opens.
  have hsplit : (t.take k).drop (i + 1) = ((t.take k).drop (i + 1)).take (j - (i + 1)) ++
      (ofString "[" ++ (t.take k).drop (j + 1)) := by
    have hrest : ((t.take k).drop (i + 1)).drop (j - (i + 1)) =
        ofString "[" ++ (t.take k).drop (j + 1) := by
      rw [List.drop_drop, show i + 1 + (j - (i + 1)) = j by omega,
        List.drop_eq_getElem?_toList_append, List.getElem?_take_of_lt hjk, hopen]
      rfl
    rw [← hrest, List.take_append_drop]
  have hdepth := hbalanced.closed
  have hnonneg := hbalanced.nonneg (j - (i + 1))
  have hopened : bracketDepth (ofString "[") = 1 := by decide
  rw [hsplit, bracketDepth_append, bracketDepth_append, hbalanced'.closed, hopened] at hdepth
  omega

/-- A bracket that closes matches one bracket at most. -/
theorem BracketsMatch.unique (h : BracketsMatch t i k) (h' : BracketsMatch t j k) : i = j :=
  Nat.le_antisymm (Nat.le_of_not_lt (h'.not_lt h)) (Nat.le_of_not_lt (h.not_lt h'))

example : BracketsMatch "a[b[c]]" 1 6 ∧ ¬ BracketsMatch "a[b[c]]" 3 6 := by decide

/-- The brackets around a balanced text match. -/
theorem bracketsMatch_of_eq {before inside after : Text} (h : inside.IsBalanced)
    (ht : t = (before ++ "[" ++ inside ++ "]" ++ after : Text)) :
    BracketsMatch t before.length (before.length + inside.length + 1) := by
  have hopen : t = before ++ (.char '[' :: (inside ++ ofString "]" ++ after)) := by
    rw [ht]
    simp only [List.append_assoc]
    rfl
  have hclose : t = (before ++ "[" ++ inside) ++ (.char ']' :: after) := by
    rw [ht]
    simp only [List.append_assoc]
    rfl
  have hlength : (before ++ "[" ++ inside : Text).length = before.length + inside.length + 1 := by
    rw [List.length_append, List.length_append, Nat.add_right_comm]
    rfl
  refine ⟨?_, ?_, by omega, ?_⟩
  · rw [hopen, List.getElem?_append_right (Nat.le_refl _), Nat.sub_self, List.getElem?_cons_zero]
  · rw [hclose, ← hlength, List.getElem?_append_right (Nat.le_refl _), Nat.sub_self,
      List.getElem?_cons_zero]
  · rw [hclose, ← hlength, List.take_left,
      List.drop_left' (by rw [List.length_append]; rfl)]
    exact h

/-! ## Brackets on different lines -/

/-- The text that lines are written as, each with a line feed behind it. -/
def unlines (lines : List Text) : Text := lines.flatMap (· ++ "\n")

/-- Where a column of a row stands in the text that lines are written as. -/
def place (lines : List Text) (row column : Nat) : Nat :=
  (unlines (lines.take row)).length + column

/-- Lines in a row are written in a row. -/
theorem unlines_append (xs ys : List Text) : unlines (xs ++ ys) = unlines xs ++ unlines ys :=
  List.flatMap_append

/-- The first line is written first. -/
theorem unlines_cons (line : Text) (lines : List Text) :
    unlines (line :: lines) = line ++ "\n" ++ unlines lines := List.flatMap_cons

/-- A column of a line stands behind the lines above. -/
theorem place_of_append (before after : List Text) (line : Text) (column : Nat) :
    place (before ++ line :: after) before.length column = (unlines before).length + column := by
  rw [place, List.take_left]

/-- A bracket of a line and a bracket of a line further down match if the text between them is
balanced. -/
theorem bracketsMatch_unlines {lines before between after : List Text} {pre post body rest : Text}
    (h : (post ++ "\n" ++ unlines between ++ body : Text).IsBalanced)
    (hlines : lines =
      before ++ (pre ++ "[" ++ post) :: (between ++ (body ++ "]" ++ rest) :: after)) :
    BracketsMatch (unlines lines) (place lines before.length pre.length)
      (place lines (before.length + between.length + 1) body.length) := by
  have hopen : place lines before.length pre.length = (unlines before ++ pre).length := by
    rw [hlines, place_of_append, List.length_append]
  have hclose : place lines (before.length + between.length + 1) body.length =
      (unlines before ++ pre).length +
        (post ++ "\n" ++ unlines between ++ body : Text).length + 1 := by
    have habove : lines = (before ++ (pre ++ "[" ++ post) :: between) ++
        (body ++ "]" ++ rest) :: after := by
      rw [hlines]
      simp only [List.append_assoc, List.cons_append]
    have hrow : before.length + between.length + 1 =
        (before ++ (pre ++ "[" ++ post) :: between).length := by
      rw [List.length_append, List.length_cons]
      omega
    have hbracket : (ofString "[").length = 1 := rfl
    rw [hrow, habove, place_of_append, unlines_append, unlines_cons]
    simp only [List.length_append, hbracket]
    omega
  have hwritten : unlines lines = ((unlines before ++ pre) ++ "[" ++
      (post ++ "\n" ++ unlines between ++ body) ++ "]" ++
      (rest ++ "\n" ++ unlines after) : Text) := by
    rw [hlines, unlines_append, unlines_cons, unlines_append, unlines_cons]
    simp only [List.append_assoc]
  rw [hopen, hclose]
  exact bracketsMatch_of_eq h hwritten

/-! ## Brackets and letter case -/

/-- No other character is mapped to a code point. -/
def CaseMap.Misses (m : CaseMap) (n : Nat) : Prop :=
  (∀ s ∈ m.shifts, (n : Int) < s.run.first + s.distance ∨ s.run.last + s.distance < n) ∧
    ∀ e ∈ m.spelled, n ∉ e.2

instance (m : CaseMap) (n : Nat) : Decidable (m.Misses n) := inferInstanceAs (Decidable (_ ∧ _))

/-- A code point that is made from a number has that number. Zero is made in place of a number that
no code point has. -/
theorem toNat_of_ofNat_eq {c : CodePoint} {n : Nat} (h : CodePoint.ofNat n = c)
    (hc : c.toNat ≠ 0) : c.toNat = n := by
  rcases Nat.lt_or_ge n 0x110000 with hn | hn
  · rw [← h, CodePoint.toNat_ofNat hn]
  · refine absurd ?_ hc
    have hinvalid : ¬ n.isValidChar := by
      simp only [Nat.isValidChar]
      omega
    rw [← h, CodePoint.ofNat, dif_neg (by omega), Char.ofNat, dif_neg hinvalid]
    rfl

/-- A character that no other one is mapped to comes from itself. -/
theorem CaseMap.eq_of_mem_apply {m : CaseMap} {c d : CodePoint} (h : m.Misses c.toNat)
    (hc : c.toNat ≠ 0) (hmem : c ∈ m.apply d) : c = d := by
  unfold apply at hmem
  split at hmem
  · next s hs =>
    obtain ⟨hshift, hfirst, hlast, -⟩ := Run.holds_of_find? hs
    have hmoved := toNat_of_ofNat_eq (List.mem_singleton.1 hmem).symm hc
    have hmiss := h.1 s hshift
    omega
  · split at hmem
    · next ns hns =>
      obtain ⟨n, hn, hmade⟩ := List.mem_map.1 hmem
      rw [← toNat_of_ofNat_eq hmade hc] at hn
      obtain ⟨above, below, hsplit, -⟩ := List.lookup_eq_some_iff.1 hns
      have hspelled : (d.toNat, ns) ∈ m.spelled := by
        rw [hsplit]
        exact List.mem_append_right _ List.mem_cons_self
      exact absurd hn (h.2 _ hspelled)
    · exact List.mem_singleton.1 hmem

/-- No character is mapped to a bracket. -/
theorem misses_brackets :
    (CaseMap.Misses ⟨upperSpelled, upperShifts⟩ 0x5B ∧
      CaseMap.Misses ⟨upperSpelled, upperShifts⟩ 0x5D) ∧
    CaseMap.Misses ⟨lowerSpelled, lowerShifts⟩ 0x5B ∧
      CaseMap.Misses ⟨lowerSpelled, lowerShifts⟩ 0x5D := by
  decide +kernel

end ValueBuilder.Text

namespace ValueBuilder.Names

open Text (IsBracketFree)

variable {s : Text}

/-- Replacing the first character brings no brackets if no other character is replaced by them. -/
theorem isBracketFree_mapFirst {m : Text.CaseMap} (hopen : m.Misses 0x5B) (hclose : m.Misses 0x5D)
    (h : s.IsBracketFree) : (mapFirst m.apply s).IsBracketFree := by
  cases s with
  | nil => exact h
  | cons c cs =>
    have hfirst : IsBracketFree (m.apply c) := by
      constructor
      · intro hmem
        exact h.1 (List.mem_cons.2 (.inl (Text.CaseMap.eq_of_mem_apply hopen (by decide) hmem)))
      · intro hmem
        exact h.2 (List.mem_cons.2 (.inl (Text.CaseMap.eq_of_mem_apply hclose (by decide) hmem)))
    exact hfirst.append (h.subset (List.subset_cons_self c cs))

/-- A name without brackets has none with its first character in upper case. -/
theorem isBracketFree_upperFirst (h : s.IsBracketFree) : (upperFirst s).IsBracketFree :=
  isBracketFree_mapFirst Text.misses_brackets.1.1 Text.misses_brackets.1.2 h

/-- The stem of a name without brackets has none. -/
theorem isBracketFree_stem (h : s.IsBracketFree) : (stem s).IsBracketFree :=
  isBracketFree_mapFirst Text.misses_brackets.2.1 Text.misses_brackets.2.2
    (h.subset (withoutPrefix_suffix s).subset)

end ValueBuilder.Names
