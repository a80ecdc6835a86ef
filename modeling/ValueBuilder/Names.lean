import ValueBuilder.Text.CaseMap
import ValueBuilder.Text.LetterCase

/-!
# Names in generated code

Every name in a builder comes from the name of its value type or from the name of an attribute.
Class names often start with a few capitals that stand for a library, as in `RMPerson`. Keywords
and variables are formed from the name without them (`stem`): the leading run of capitals goes,
up to the one that starts the word. A name in capitals throughout has no word to tell from its
prefix and is kept (`withoutPrefix`).

Characters are of any script: a capital has the property Uppercase, and a first character changes
case by its full mapping, which may spell it with several characters. A surrogate has no case.
-/

namespace ValueBuilder.Names

/-- A text with its first character replaced. -/
def mapFirst (f : CodePoint → Text) : Text → Text
  | [] => []
  | c :: cs => f c ++ cs

/-- A name with its first character in upper case. -/
def upperFirst (s : Text) : Text := mapFirst Text.upper s

/-- A name with its first character in lower case. -/
def lowerFirst (s : Text) : Text := mapFirst Text.lower s

/-- What is left of a name from the last capital of its leading run of capitals on; a name that does
not start with two capitals is left whole. -/
def fromWord : Text → Text
  | c :: d :: cs =>
    if Text.isUppercase c && Text.isUppercase d then fromWord (d :: cs) else c :: d :: cs
  | cs => cs

/-- A class name without the prefix that stands for its library: its leading capitals go, unless
it has no other letters with case. -/
def withoutPrefix (s : Text) : Text :=
  if Text.isAllCapitals (fromWord s) then s else fromWord s

/-- The name of a value in keywords: the class name without its prefix, in lower case at first. -/
def stem (typeName : Text) : Text := lowerFirst (withoutPrefix typeName)

/-- The name of the builder class. -/
def builder (typeName : Text) : Text := typeName ++ "Builder"

/-- The name of the value that a builder is seeded with. -/
def seedArgument (typeName : Text) : Text := "existing" ++ upperFirst (stem typeName)

/-- The keyword of the factory that takes an existing value. -/
def seedKeyword (typeName : Text) : Text :=
  stem typeName ++ "FromExisting" ++ upperFirst (stem typeName)

/-- The reference to a value: a pointer to its class. -/
def pointer (typeName : Text) : Text := typeName ++ " *"

/-- The keyword of the method that sets an attribute. -/
def setterKeyword (name : Text) : Text := "with" ++ upperFirst name

/-- The variable that holds an attribute. -/
def instanceVariable (name : Text) : Text := "_" ++ name

/-- What is left is an end of the name. -/
theorem fromWord_suffix (s : Text) : fromWord s <:+ s := by
  fun_induction fromWord s with
  | case1 c d cs _ ih => exact ih.trans (List.suffix_cons c _)
  | case2 => exact List.suffix_rfl
  | case3 => exact List.suffix_rfl

/-- A name without its prefix is an end of the name. -/
theorem withoutPrefix_suffix (s : Text) : withoutPrefix s <:+ s := by
  unfold withoutPrefix
  split
  · exact List.suffix_rfl
  · exact fromWord_suffix s

example : stem "RMPerson" = "person" := by decide
example : stem "URL" = "uRL" := by decide
example : seedKeyword "Person" = "personFromExistingPerson" := by decide

end ValueBuilder.Names
