import ValueBuilder.Binary64.Basic
import ValueBuilder.Text.Basic

/-!
# JSON values

A JSON value as a specification carries it. Whole numbers and fractions stay apart, since messages
name them differently, and the members of an object keep the order in which they were written.
A member counts as given only if its value says something: null, false, zero and everything empty
count as not given.
-/

namespace ValueBuilder

/-- A JSON value. -/
inductive Json where
  /-- The value of a member that says nothing. -/
  | null
  /-- A truth value. -/
  | bool (value : Bool)
  /-- A number that was written without a fraction and without an exponent. -/
  | int (value : Int)
  /-- Any other number. -/
  | float (value : Binary64)
  /-- A text. -/
  | text (value : Text)
  /-- A list of values. -/
  | list (items : List Json)
  /-- Named members, in the order of their first mention. -/
  | object (members : List (Text × Json))
  deriving Inhabited, Repr

namespace Json

mutual

/-- Decides whether two values are the same. -/
def decEq (j k : Json) : Decidable (j = k) :=
  if h : j.ctorIdx = k.ctorIdx then
    match j, k, h with
    | .null, .null, _ => isTrue rfl
    | .bool a, .bool b, _ => decidable_of_iff (a = b) (by simp)
    | .int a, .int b, _ => decidable_of_iff (a = b) (by simp)
    | .float a, .float b, _ => decidable_of_iff (a = b) (by simp)
    | .text a, .text b, _ => decidable_of_iff (a = b) (by simp)
    | .list xs, .list ys, _ => @decidable_of_iff _ (xs = ys) (by simp) (decEqItems xs ys)
    | .object ms, .object ns, _ => @decidable_of_iff _ (ms = ns) (by simp) (decEqMembers ms ns)
  else isFalse fun e => h (congrArg Json.ctorIdx e)

/-- Decides whether two lists of values are the same. -/
def decEqItems : (xs ys : List Json) → Decidable (xs = ys)
  | [], [] => isTrue rfl
  | [], _ :: _ => isFalse (by simp)
  | _ :: _, [] => isFalse (by simp)
  | x :: xs, y :: ys =>
    @decidable_of_iff _ (x = y ∧ xs = ys) (by simp)
      (@instDecidableAnd _ _ (decEq x y) (decEqItems xs ys))

/-- Decides whether two lists of members are the same. -/
def decEqMembers : (ms ns : List (Text × Json)) → Decidable (ms = ns)
  | [], [] => isTrue rfl
  | [], _ :: _ => isFalse (by simp)
  | _ :: _, [] => isFalse (by simp)
  | (k, v) :: ms, (l, w) :: ns =>
    @decidable_of_iff _ (k = l ∧ v = w ∧ ms = ns) (by simp [and_assoc])
      (@instDecidableAnd _ _ _ (@instDecidableAnd _ _ (decEq v w) (decEqMembers ms ns)))

end

instance : DecidableEq Json := decEq

/-- The word for the kind of a value. -/
def kind : Json → Text
  | .null => "NoneType"
  | .bool _ => "bool"
  | .int _ => "int"
  | .float _ => "float"
  | .text _ => "str"
  | .list _ => "list"
  | .object _ => "dict"

/-- A Boolean test that a value says something. -/
def isGiven : Json → Bool
  | .null => false
  | .bool b => b
  | .int n => n != 0
  | .float x => !x.isZero
  | .text s => !s.isEmpty
  | .list xs => !xs.isEmpty
  | .object ms => !ms.isEmpty

/-- A Boolean test that a value is made of other values. -/
def isCompound : Json → Bool
  | .list _ => true
  | .object _ => true
  | _ => false

/-- A value if it says something, and otherwise another one. -/
def orElse (j other : Json) : Json := if j.isGiven then j else other

/-- The text of a value that is one. -/
def text? : Json → Option Text
  | .text s => some s
  | _ => none

/-- A Boolean test that a value is one of some texts. -/
def isOneOf (texts : List Text) (j : Json) : Bool := j.text?.any texts.contains

/-- The text of a value that is one and is not empty. -/
def givenText? (j : Json) : Option Text := j.text?.filter (!·.isEmpty)

/-- A text or null. -/
def ofText? : Option Text → Json
  | some s => .text s
  | none => .null

/-- The value of the member `key`, if there is such a member. -/
def member? (key : Text) (members : List (Text × Json)) : Option Json := members.lookup key

/-- The value of the member `key`, or another value if there is no such member. -/
def memberD (key : Text) (other : Json) (members : List (Text × Json)) : Json :=
  (member? key members).getD other

/-- Sets a member: a new value for a name takes the place of the old one, a new name comes last. -/
def setMember (key : Text) (value : Json) : List (Text × Json) → List (Text × Json)
  | [] => [(key, value)]
  | (k, v) :: ms => if k = key then (key, value) :: ms else (k, v) :: setMember key value ms

/-- A value that is a text says something unless the text is empty. -/
@[simp]
theorem isGiven_text (s : Text) : (Json.text s).isGiven = !s.isEmpty := rfl

/-- A value that says something is kept. -/
theorem orElse_of_isGiven {j : Json} (h : j.isGiven = true) (other : Json) :
    j.orElse other = j := by
  simp [orElse, h]

/-- A value that says nothing is replaced. -/
theorem orElse_of_not_isGiven {j : Json} (h : j.isGiven = false) (other : Json) :
    j.orElse other = other := by
  simp [orElse, h]

end Json

end ValueBuilder
