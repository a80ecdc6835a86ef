import ValueBuilder.Names

/-!
# Words in generated code

A word is made of ASCII letters, digits and underscores, as the names of a value type usually are.
Two readings of a line of generated code rely on that. `Text.markedWords` reads off the words that
directly follow a colon and an underscore, as variables do in the call of an initializer.
`Text.assigned?` reads off what a line assigns to. Text without a colon has no marked words
(`Text.markedWords_append`), and a marked word is read to its end (`Text.markedWords_mark`).
-/

namespace ValueBuilder

/-- A Boolean test for the characters of words: ASCII letters, digits and the underscore. -/
def CodePoint.isWordChar : CodePoint → Bool
  | .char c => c.isAlphanum || c == '_'
  | .surrogate _ => false

namespace Text

/-- A text is a word: it is not empty, and it is made of the characters of words. -/
def IsWord (t : Text) : Prop := t ≠ [] ∧ ∀ c ∈ t, c.isWordChar = true

instance (t : Text) : Decidable t.IsWord := inferInstanceAs (Decidable (_ ∧ _))

/-- The word at the start of a text, as long as it goes. -/
def leadingWord (t : Text) : Text := t.takeWhile CodePoint.isWordChar

/-- The words that directly follow a colon and an underscore in a text. -/
def markedWords : Text → List Text
  | [] => []
  | c :: cs =>
    if (ofString ":_").isPrefixOf (c :: cs) && !(leadingWord cs.tail).isEmpty then
      leadingWord cs.tail :: markedWords cs
    else markedWords cs

/-- What a line assigns to: the text in front of its first ` = `. -/
def assigned? : Text → Option Text
  | [] => none
  | c :: cs =>
    if (ofString " = ").isPrefixOf (c :: cs) then some [] else (assigned? cs).map (c :: ·)

variable {c : CodePoint} {w xs ys : Text}

/-- The characters of words are ASCII characters. -/
theorem toNat_lt_of_isWordChar (h : c.isWordChar = true) : c.toNat < 128 := by
  cases c with
  | surrogate n => cases h
  | char c =>
    change (((decide ('A'.val ≤ c.val ∧ c.val ≤ 'Z'.val) ||
      decide ('a'.val ≤ c.val) && decide (c.val ≤ 'z'.val)) ||
      decide ('0'.val ≤ c.val) && decide (c.val ≤ '9'.val)) || c == '_') = true at h
    simp only [Bool.or_eq_true, Bool.and_eq_true, decide_eq_true_eq, UInt32.le_iff_toNat_le,
      beq_iff_eq] at h
    change ((65 ≤ c.toNat ∧ c.toNat ≤ 90 ∨ 97 ≤ c.toNat ∧ c.toNat ≤ 122) ∨
      48 ≤ c.toNat ∧ c.toNat ≤ 57) ∨ c = '_' at h
    change c.toNat < 128
    rcases h with h | rfl
    · omega
    · decide

/-- The upper case of a character of words is made of such characters. -/
theorem isWordChar_upper (h : c.isWordChar = true) : ∀ d ∈ upper c, d.isWordChar = true := by
  have hall : ∀ n < 128, (CodePoint.ofNat n).isWordChar = true →
      ∀ d ∈ upper (CodePoint.ofNat n), d.isWordChar = true := by
    decide +kernel
  have hc := hall c.toNat (toNat_lt_of_isWordChar h)
  rw [CodePoint.ofNat_toNat] at hc
  exact hc h

/-- A word whose first character is in upper case is made of the characters of words. -/
theorem IsWord.isWordChar_upperFirst (h : w.IsWord) :
    ∀ d ∈ Names.upperFirst w, d.isWordChar = true := by
  obtain ⟨hne, hchars⟩ := h
  cases w with
  | nil => exact absurd rfl hne
  | cons c cs =>
    obtain ⟨hc, hcs⟩ := List.forall_mem_cons.1 hchars
    intro d hd
    rcases List.mem_append.1 hd with hd | hd
    · exact isWordChar_upper hc d hd
    · exact hcs d hd

/-- A character that is none of words is in no text of such characters. -/
theorem not_mem_of_isWordChar {d : CodePoint} (hd : d.isWordChar = false)
    (h : ∀ c ∈ xs, c.isWordChar = true) : d ∉ xs := by
  intro hmem
  rw [h d hmem] at hd
  cases hd

/-- A word is read to its end. -/
theorem leadingWord_append (h : w.IsWord) (hys : ∀ c ∈ ys.head?, c.isWordChar = false) :
    leadingWord (w ++ ys) = w := by
  have hrest : leadingWord ys = [] := by
    cases ys with
    | nil => rfl
    | cons y ys => exact List.takeWhile_cons_of_neg (by rw [hys y rfl]; exact Bool.false_ne_true)
  rw [leadingWord, List.takeWhile_append_of_pos h.2]
  exact (congrArg (w ++ ·) hrest).trans (List.append_nil w)

/-- A mark does not stand where another character does. -/
theorem isPrefixOf_cons_of_ne {d : CodePoint} (h : c ≠ d) :
    (c :: xs).isPrefixOf (d :: ys) = false := by
  rw [List.isPrefixOf_cons_cons, beq_eq_false_iff_ne.2 h, Bool.false_and]

/-- Text without a colon has no marked words. -/
theorem markedWords_append (h : .char ':' ∉ xs) (ys : Text) :
    markedWords (xs ++ ys) = markedWords ys := by
  induction xs with
  | nil => rfl
  | cons x xs ih =>
    rw [List.mem_cons, not_or] at h
    have hmark : (ofString ":_").isPrefixOf (x :: (xs ++ ys)) = false :=
      isPrefixOf_cons_of_ne h.1
    rw [List.cons_append, markedWords, hmark, Bool.false_and, if_neg Bool.false_ne_true, ih h.2]

/-- A marked word is read to its end, and then the words behind it. -/
theorem markedWords_mark (h : w.IsWord) (hys : ∀ c ∈ ys.head?, c.isWordChar = false) :
    markedWords (":_" ++ w ++ ys) = w :: markedWords ys := by
  have hword := leadingWord_append h hys
  have hne : w.isEmpty = false := by
    rw [← Bool.not_eq_true, List.isEmpty_iff]
    exact h.1
  have hcolon : CodePoint.char ':' ∉ ofString "_" ++ w := by
    rw [List.mem_append, not_or]
    exact ⟨by decide, not_mem_of_isWordChar rfl h.2⟩
  have hrest : markedWords (ofString "_" ++ w ++ ys) = markedWords ys :=
    markedWords_append hcolon ys
  have htail : (ofString "_" ++ w ++ ys).tail = w ++ ys := rfl
  have hmark : (ofString ":_").isPrefixOf (.char ':' :: (ofString "_" ++ w ++ ys)) = true := by
    rw [List.isPrefixOf_iff_prefix]
    exact ⟨w ++ ys, rfl⟩
  calc markedWords (":_" ++ w ++ ys)
      = markedWords (.char ':' :: (ofString "_" ++ w ++ ys)) := rfl
    _ = w :: markedWords ys := by
        rw [markedWords, htail, hword, hmark, hne, hrest]
        rfl

example : markedWords "[[A alloc] initWithName:_name x:_2 y: _y]" = (["name", "2"] : List Text) := by
  decide

/-- A line assigns to the text in front of its first ` = `. -/
theorem assigned?_append (h : .char ' ' ∉ xs) (ys : Text) :
    assigned? (xs ++ " = " ++ ys) = some xs := by
  induction xs with
  | nil => rfl
  | cons x xs ih =>
    rw [List.mem_cons, not_or] at h
    have hmark : (ofString " = ").isPrefixOf (x :: (xs ++ " = " ++ ys)) = false :=
      isPrefixOf_cons_of_ne h.1
    rw [List.cons_append, List.cons_append, assigned?, hmark, if_neg Bool.false_ne_true, ih h.2]
    rfl

end Text

end ValueBuilder
