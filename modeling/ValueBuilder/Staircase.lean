import ValueBuilder.Names

/-!
# The staircase of nested sends

A builder is seeded by sending it one message per attribute, each to the result of the one before.
The expression is laid out as a staircase: the first line opens every bracket and calls the fresh
factory, and each further line is one send, closes one bracket, and stands one column further to
the left, under the bracket that it closes.

```
return [[[PersonBuilder person]
         withName:existingPerson.name]
        withAge:existingPerson.age];
```
-/

namespace ValueBuilder.Staircase

/-- So many spaces, and none for a negative number. -/
def spaces (count : Int) : Text := List.replicate count.toNat ' '

/-- What the first line starts with. -/
def opening : Text := "return "

/-- The brackets of a number of sends. -/
def brackets (count : Nat) : Text := List.replicate count '['

/-- The send that takes over one attribute of the seed, with its closing bracket. -/
def send (seed name : Text) : Text :=
  Names.setterKeyword name ++ ":" ++ seed ++ "." ++ name ++ "]"

/-- The sends, the first one behind so many spaces and each further one behind one space less. -/
def sends (seed : Text) (margin : Int) : List Text → List Text
  | [] => []
  | name :: names => (spaces margin ++ send seed name) :: sends seed (margin - 1) names

/-- The lines with a semicolon at the end of the last one. -/
def terminated : List Text → List Text
  | [] => []
  | [line] => [line ++ ";"]
  | line :: next :: lines => line :: terminated (next :: lines)

/-- The lines of the expression that seeds a builder. -/
def lines (factory seed : Text) (names : List Text) : List Text :=
  terminated ((opening ++ brackets names.length ++ factory) ::
    sends seed (opening.length + names.length) names)

/-- There is one line per send. -/
@[simp]
theorem length_sends (seed : Text) (margin : Int) (names : List Text) :
    (sends seed margin names).length = names.length := by
  induction names generalizing margin with
  | nil => rfl
  | cons n ns ih => simp [sends, ih]

/-- The semicolon adds no line. -/
@[simp]
theorem length_terminated (ls : List Text) : (terminated ls).length = ls.length := by
  fun_induction terminated ls with
  | case1 => rfl
  | case2 => rfl
  | case3 l n ls ih => simp [ih]

/-- The expression takes one line for the factory and one for each send. -/
theorem length_lines (factory seed : Text) (names : List Text) :
    (lines factory seed names).length = names.length + 1 := by
  simp [lines]

example : lines "[P p]" "e" ["name", "age"] =
    (["return [[[P p]", "         withName:e.name]", "        withAge:e.age];"] : List Text) := by
  decide

end ValueBuilder.Staircase
