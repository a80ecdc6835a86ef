import ValueBuilder.Text.Basic
import ValueBuilder.Text.Digit
import ValueBuilder.Text.Printable

/-!
# Quoted text

A text between quotation marks, as messages show it. The marks are single unless the text has a
single mark and no double one. Inside, the mark in use and the backslash take a backslash, line
ends and the tab have escapes of one letter, and every other unprintable code point is written in
hexadecimal with two, four or eight digits, the fewest that hold it. A surrogate is unprintable, so
what comes out is a string.
-/

namespace ValueBuilder.Text

/-- The quotation mark around a text. -/
def quotationMark (s : Text) : Char :=
  if s.contains '\'' && !s.contains '"' then '"' else '\''

/-- An unprintable code point in hexadecimal. -/
def hexEscape (n : Nat) : List Char :=
  if n < 0x100 then '\\' :: 'x' :: hex 2 n
  else if n < 0x10000 then '\\' :: 'u' :: hex 4 n
  else '\\' :: 'U' :: hex 8 n

/-- A code point of a text between the given marks. -/
def quotedPoint (mark : Char) : CodePoint → List Char
  | .char c =>
    if c = mark ∨ c = '\\' then ['\\', c]
    else if c = '\n' then ['\\', 'n']
    else if c = '\r' then ['\\', 'r']
    else if c = '\t' then ['\\', 't']
    else if isPrintable c then [c]
    else hexEscape c.toNat
  | .surrogate n => hexEscape (CodePoint.surrogate n).toNat

/-- A text between quotation marks. -/
def quoted (s : Text) : String :=
  let mark := quotationMark s
  String.ofList (mark :: (s.flatMap (quotedPoint mark) ++ [mark]))

example : quoted "s.json" = "'s.json'" := by decide
example : quoted "it's" = "\"it's\"" := by decide
example : quoted "a\n\u2028é" = "'a\\n\\u2028é'" := by decide +kernel
example : quoted [.surrogate 0, 'a'] = "'\\ud800a'" := by decide +kernel

end ValueBuilder.Text
