import ValueBuilder.Binary64.Shortest
import ValueBuilder.Json.Basic
import ValueBuilder.Text.Quoted

/-!
# Values in messages and in generated code

`Json.literal` is a value as a message shows it: texts are quoted, lists stand in square brackets
and objects in braces, each with a comma and a space between neighbours. `Json.display` is a value
as generated code holds it: a text stands for itself, and any other value is written as in a
message.
-/

namespace ValueBuilder.Json

/-- Messages write the least and the greatest numbers with an exponent, and infinity in small
letters. -/
def literalNumber : Binary64.NumberStyle where
  infinity := "inf"
  notANumber := "nan"

mutual

/-- A value as a message shows it. -/
def literal : Json → String
  | .null => "None"
  | .bool true => "True"
  | .bool false => "False"
  | .int n => toString n
  | .float x => literalNumber.text x
  | .text s => Text.quoted s
  | .list xs => "[" ++ literalItems xs ++ "]"
  | .object ms => "\x7b" ++ literalMembers ms ++ "\x7d"

/-- The items of a list, with commas between them. -/
def literalItems : List Json → String
  | [] => ""
  | [x] => literal x
  | x :: y :: xs => literal x ++ ", " ++ literalItems (y :: xs)

/-- The members of an object, with commas between them. -/
def literalMembers : List (Text × Json) → String
  | [] => ""
  | [(k, v)] => Text.quoted k ++ ": " ++ literal v
  | (k, v) :: m :: ms => Text.quoted k ++ ": " ++ literal v ++ ", " ++ literalMembers (m :: ms)

end

/-- A value as generated code holds it. -/
def display : Json → Text
  | .text s => s
  | j => j.literal

/-- A text stands for itself. -/
@[simp]
theorem display_text (s : Text) : (Json.text s).display = s := rfl

example : literal (.list [.null, .bool true, .int (-3), .text "a"]) = "[None, True, -3, 'a']" := by
  decide +kernel

end ValueBuilder.Json
