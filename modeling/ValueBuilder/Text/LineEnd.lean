/-!
# Line ends

Texts come with line feeds, with carriage returns, or with both at the end of a line. `unifyLines`
leaves line feeds only.
-/

namespace ValueBuilder.Text

/-- A text whose lines all end with a line feed. -/
def unifyLines : List Char → List Char
  | [] => []
  | '\r' :: '\n' :: cs => '\n' :: unifyLines cs
  | '\r' :: cs => '\n' :: unifyLines cs
  | c :: cs => c :: unifyLines cs

end ValueBuilder.Text
