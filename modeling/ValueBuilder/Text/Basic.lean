/-!
# Text

A text is a list of code points. Nearly every code point is a character. The others are the
surrogates, of which UTF-16 makes pairs. JSON can spell half of a pair, so a name that comes from a
description may hold one by itself, and every operation on names has to let it pass.

A `String` holds characters only. It stands for the text of its characters wherever a text is asked
for.
-/

namespace ValueBuilder

/-- A code point. -/
inductive CodePoint where
  /-- A character. -/
  | char (c : Char)
  /-- A surrogate by itself, counted from the first one. -/
  | surrogate (n : Fin 0x800)
  deriving DecidableEq, Repr

instance : Coe Char CodePoint := ⟨.char⟩

namespace CodePoint

/-- The number of a code point. -/
def toNat : CodePoint → Nat
  | .char c => c.toNat
  | .surrogate n => 0xD800 + n

/-- The code point of a number. -/
def ofNat (n : Nat) : CodePoint :=
  if h : 0xD800 ≤ n ∧ n < 0xE000 then .surrogate ⟨n - 0xD800, by omega⟩ else .char (Char.ofNat n)

/-- The character to show for a code point; a surrogate shows as the replacement character. -/
def toChar : CodePoint → Char
  | .char c => c
  | .surrogate _ => '\ufffd'

/-- Every number of a code point is that of the code point made from it. -/
theorem toNat_ofNat {n : Nat} (h : n < 0x110000) : (ofNat n).toNat = n := by
  unfold ofNat
  split
  · simp only [toNat]
    omega
  · next hs =>
    have hv : n.isValidChar := by
      simp only [Nat.isValidChar]
      omega
    rw [toNat, Char.ofNat, dif_pos hv]
    rfl

/-- A code point is made from its number. -/
theorem ofNat_toNat (c : CodePoint) : ofNat c.toNat = c := by
  cases c with
  | char c =>
    have hv : c.toNat < 0xD800 ∨ 0xDFFF < c.toNat ∧ c.toNat < 0x110000 := c.valid
    have hs : ¬ (0xD800 ≤ c.toNat ∧ c.toNat < 0xE000) := by omega
    simp [ofNat, toNat, hs]
  | surrogate n =>
    have hs : 0xD800 ≤ 0xD800 + n.val ∧ 0xD800 + n.val < 0xE000 := by omega
    simp [ofNat, toNat, hs]

end CodePoint

/-- A text. -/
abbrev Text := List CodePoint

namespace Text

/-- The text of a string. -/
def ofString (s : String) : Text := s.toList.map .char

/-- A text as a string, with the replacement character in place of each surrogate. -/
def toStringLossy (t : Text) : String := String.ofList (t.map CodePoint.toChar)

/-- A string comes back from its text. -/
@[simp]
theorem toStringLossy_ofString (s : String) : (ofString s).toStringLossy = s := by
  have h : CodePoint.toChar ∘ CodePoint.char = id := rfl
  simp [toStringLossy, ofString, h]

/-- The text of two strings in a row. -/
@[simp]
theorem ofString_append (s t : String) : ofString (s ++ t) = ofString s ++ ofString t := by
  simp [ofString]

end Text

instance : Coe String Text := ⟨Text.ofString⟩

end ValueBuilder
