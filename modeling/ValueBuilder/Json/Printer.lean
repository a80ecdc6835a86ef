import ValueBuilder.Binary64.Shortest
import ValueBuilder.Json.Basic
import ValueBuilder.Text.Digit

/-!
# Writing JSON

JSON text in ASCII. Inside a text the quotation mark and the backslash are escaped, line ends, the
tab, backspace and form feed have escapes of one letter, and every other character outside the
visible ones of ASCII is written as its UTF-16 units in hexadecimal. A `Layout` says what stands
between the parts: nothing but punctuation, or a line for each item, indented by two spaces a level.

`Json.depth` says how many levels down a value is written.
-/

namespace ValueBuilder.Json

/-- JSON spells infinity out. -/
def jsonNumber : Binary64.NumberStyle where
  infinity := "Infinity"
  notANumber := "NaN"

/-- One UTF-16 unit in hexadecimal. -/
def unitEscape (n : Nat) : List Char := '\\' :: 'u' :: Text.hex 4 n

/-- A character inside a text. -/
def escapedChar (c : Char) : List Char :=
  if c = '"' ∨ c = '\\' then ['\\', c]
  else if ' ' ≤ c ∧ c ≤ '~' then [c]
  else if c = '\n' then ['\\', 'n']
  else if c = '\r' then ['\\', 'r']
  else if c = '\t' then ['\\', 't']
  else if c.toNat = 0x08 then ['\\', 'b']
  else if c.toNat = 0x0C then ['\\', 'f']
  else if c.toNat < 0x10000 then unitEscape c.toNat
  else
    let n := c.toNat - 0x10000
    unitEscape (0xD800 + n / 0x400) ++ unitEscape (0xDC00 + n % 0x400)

/-- A code point inside a text; a surrogate by itself is one unit. -/
def escapedPoint : CodePoint → List Char
  | .char c => escapedChar c
  | .surrogate n => unitEscape (0xD800 + n)

/-- A text between quotation marks. -/
def escaped (s : Text) : String := String.ofList ('"' :: (s.flatMap escapedPoint ++ ['"']))

example : escaped [.surrogate 0x3D, 'é'] = "\"\\ud83d\\u00e9\"" := by decide

/-- What stands between the parts of a value. -/
inductive Layout where
  /-- Punctuation alone. -/
  | compact
  /-- A line for each item, indented by two spaces a level. -/
  | indented
  deriving DecidableEq, Repr

/-- The start of a line at a level. -/
def Layout.line : Layout → Nat → String
  | .compact, _ => ""
  | .indented, depth => String.ofList ('\n' :: List.replicate (2 * depth) ' ')

/-- What stands between a name and its value. -/
def Layout.colon : Layout → String
  | .compact => ":"
  | .indented => ": "

mutual

/-- A value at a level. -/
def print (layout : Layout) (depth : Nat) : Json → String
  | .null => "null"
  | .bool true => "true"
  | .bool false => "false"
  | .int n => toString n
  | .float x => jsonNumber.text x
  | .text s => escaped s
  | .list [] => "[]"
  | .list (x :: xs) =>
    "[" ++ layout.line (depth + 1) ++ print layout (depth + 1) x ++
      printItems layout (depth + 1) xs ++ layout.line depth ++ "]"
  | .object [] => "\x7b\x7d"
  | .object ((k, v) :: ms) =>
    "\x7b" ++ layout.line (depth + 1) ++ escaped k ++ layout.colon ++ print layout (depth + 1) v ++
      printMembers layout (depth + 1) ms ++ layout.line depth ++ "\x7d"

/-- The items after the first, each behind a comma. -/
def printItems (layout : Layout) (depth : Nat) : List Json → String
  | [] => ""
  | x :: xs => "," ++ layout.line depth ++ print layout depth x ++ printItems layout depth xs

/-- The members after the first, each behind a comma. -/
def printMembers (layout : Layout) (depth : Nat) : List (Text × Json) → String
  | [] => ""
  | (k, v) :: ms =>
    "," ++ layout.line depth ++ escaped k ++ layout.colon ++ print layout depth v ++
      printMembers layout depth ms

end

/-- A value on one line. -/
def compress (j : Json) : String := j.print .compact 0

/-- A value with a line for each item. -/
def pretty (j : Json) : String := j.print .indented 0

mutual

/-- The levels down to which a value is written. A list or an object is one level above what is in
it. Fractions are written one level further down than all other values without parts. -/
def depth : Json → Nat
  | .float _ => 1
  | .list (x :: xs) => max x.depth (depthItems xs) + 1
  | .object ((_, v) :: ms) => max v.depth (depthMembers ms) + 1
  | _ => 0

/-- The greatest depth of some items. -/
def depthItems : List Json → Nat
  | [] => 0
  | x :: xs => max x.depth (depthItems xs)

/-- The greatest depth of the values of some members. -/
def depthMembers : List (Text × Json) → Nat
  | [] => 0
  | (_, v) :: ms => max v.depth (depthMembers ms)

end

example : depth (.list [.list [], .object [("a", .list [.null])]]) = 3 := by decide

end ValueBuilder.Json
