import Mathlib.Data.List.Basic
import ValueBuilder.Text.Basic

/-!
# Lines

How a line stands in a text. `Text.indentation` and `Text.unindented` split a line into the spaces
in front of it and the rest. `Text.HasLine` says that a text has a line, whatever characters the
line is made of: it starts where the text or a line starts, and a line feed ends it.
`Text.hasLine_joined` finds each line of a list in the text that the list is written as.
-/

namespace ValueBuilder.Text

/-- The number of spaces in front of a line. -/
def indentation (line : Text) : Nat := (line.takeWhile (· == .char ' ')).length

/-- A line without the spaces in front of it. -/
def unindented (line : Text) : Text := line.dropWhile (· == .char ' ')

/-- A text has a line: it stands at the start or behind a line feed, and a line feed follows. -/
def HasLine (text line : Text) : Prop :=
  ∃ before after, text = before ++ line ++ "\n" ++ after ∧
    (before = [] ∨ ∃ lines : Text, before = lines ++ "\n")

/-! ## Spaces in front of a line -/

section Spaces

variable {c : CodePoint} {line rest : Text}

/-- A space in front of a line counts. -/
theorem indentation_cons_space : indentation (.char ' ' :: line) = indentation line + 1 := by
  simp [indentation]

/-- A line that starts with another character has no space in front of it. -/
theorem indentation_cons_of_ne (hc : c ≠ .char ' ') : indentation (c :: line) = 0 := by
  simp [indentation, hc]

/-- A space in front of a line is dropped. -/
theorem unindented_cons_space : unindented (.char ' ' :: line) = unindented line := by
  simp [unindented]

/-- A line that starts with another character stays whole. -/
theorem unindented_cons_of_ne (hc : c ≠ .char ' ') : unindented (c :: line) = c :: line := by
  simp [unindented, hc]

/-- All spaces in front of a line count. -/
theorem indentation_spaces (n : Nat) :
    indentation (List.replicate n (.char ' ') ++ line) = n + indentation line := by
  induction n with
  | zero => rw [List.replicate_zero, List.nil_append, Nat.zero_add]
  | succ n ih =>
    rw [List.replicate_succ, List.cons_append, indentation_cons_space, ih]
    omega

/-- All spaces in front of a line are dropped. -/
theorem unindented_spaces (n : Nat) :
    unindented (List.replicate n (.char ' ') ++ line) = unindented line := by
  induction n with
  | zero => rw [List.replicate_zero, List.nil_append]
  | succ n ih => rw [List.replicate_succ, List.cons_append, unindented_cons_space, ih]

/-- What follows a line has no part in its indentation unless it starts with a space. -/
theorem indentation_append (h : indentation rest = 0) :
    indentation (line ++ rest) = indentation line := by
  induction line with
  | nil => exact h
  | cons c cs ih =>
    by_cases hc : c = .char ' '
    · rw [hc, List.cons_append, indentation_cons_space, indentation_cons_space, ih]
    · rw [List.cons_append, indentation_cons_of_ne hc, indentation_cons_of_ne hc]

/-- What follows a line is kept when spaces are dropped, unless it starts with one. -/
theorem unindented_append (h : unindented rest = rest) :
    unindented (line ++ rest) = unindented line ++ rest := by
  induction line with
  | nil => exact h
  | cons c cs ih =>
    by_cases hc : c = .char ' '
    · rw [hc, List.cons_append, unindented_cons_space, unindented_cons_space, ih]
    · rw [List.cons_append, unindented_cons_of_ne hc, unindented_cons_of_ne hc, List.cons_append]

end Spaces

/-! ## Lists of lines -/

/-- Joined lines are the first one and each further one behind a separator. -/
theorem intercalate_cons (separator line : Text) (lines : List Text) :
    List.intercalate separator (line :: lines) = line ++ lines.flatMap (separator ++ ·) := by
  induction lines generalizing line with
  | nil => simp
  | cons next lines ih =>
    rw [List.intercalate_cons_cons, ih, List.flatMap_cons]
    simp only [List.append_assoc]

/-- Lines that are joined and end in the separator are the lines, each with a separator. -/
theorem intercalate_append_separator (separator : Text) {lines : List Text} (h : lines ≠ []) :
    List.intercalate separator lines ++ separator = lines.flatMap (· ++ separator) := by
  obtain ⟨line, lines, rfl⟩ := List.exists_cons_of_ne_nil h
  rw [intercalate_cons, List.flatMap_cons, List.append_assoc, List.append_assoc]
  congr 1
  clear h
  induction lines with
  | nil => simp
  | cons next lines ih => rw [List.flatMap_cons, List.flatMap_cons, List.append_assoc, ih]; simp

/-- A text that is written line by line has each of its lines. -/
theorem hasLine_joined {lines : List Text} {line : Text} (h : line ∈ lines) :
    HasLine (List.intercalate "\n" lines ++ "\n") line := by
  rw [intercalate_append_separator _ (List.ne_nil_of_mem h)]
  obtain ⟨before, after, rfl⟩ := List.append_of_mem h
  -- Each line in front ends in a line feed, so either none is there or the last one does.
  refine ⟨before.flatMap (· ++ ofString "\n"), after.flatMap (· ++ ofString "\n"), by simp, ?_⟩
  rcases List.eq_nil_or_concat before with rfl | ⟨lines, last, rfl⟩
  · exact .inl rfl
  · exact .inr ⟨lines.flatMap (· ++ ofString "\n") ++ last, by simp⟩

end ValueBuilder.Text
