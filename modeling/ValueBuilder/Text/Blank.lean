import ValueBuilder.Text.Basic
import ValueBuilder.Text.Run

/-!
# Blanks

The characters that separate words: the separators of Unicode, the line ends and the four
information separators of ASCII. A zero-width space is none of them. `strip` removes them at both
ends of a text and touches nothing else.
-/

namespace ValueBuilder.Text

/-- The code points of blanks. -/
def blankRuns : List Run :=
  [⟨0x0009, 0x000D, 1⟩, ⟨0x001C, 0x0020, 1⟩, ⟨0x0085, 0x0085, 1⟩, ⟨0x00A0, 0x00A0, 1⟩,
   ⟨0x1680, 0x1680, 1⟩, ⟨0x2000, 0x200A, 1⟩, ⟨0x2028, 0x2029, 1⟩, ⟨0x202F, 0x202F, 1⟩,
   ⟨0x205F, 0x205F, 1⟩, ⟨0x3000, 0x3000, 1⟩]

/-- A Boolean test for a blank. -/
def isBlank (c : CodePoint) : Bool := Run.covers blankRuns c.toNat

/-- A text without the blanks at its end. -/
def stripRight (s : Text) : Text := (s.reverse.dropWhile isBlank).reverse

/-- A text without the blanks at its two ends. -/
def strip (s : Text) : Text := stripRight (s.dropWhile isBlank)

example : strip " \u2003NSString *\n" = "NSString *" := by decide

end ValueBuilder.Text
