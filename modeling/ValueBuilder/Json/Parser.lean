import ValueBuilder.Json.Basic
import ValueBuilder.Text.Digit

/-!
# Reading JSON

A reader of JSON text that says exactly where a text goes wrong. Each function takes what is left of
the text and returns a value with the rest. A text that goes wrong stops the reader with a problem
and with what was left at the offending place, from which `Json.parse` computes the place itself.

Beyond the standard the words `NaN`, `Infinity` and `-Infinity` are numbers, and of several members
with one name the last value stands at the place of the first. A number takes as many characters as
make one, so what follows a complete number is judged on its own.

How far lists and objects may stand inside of each other is not for the reader to say. It asks
before it enters a level, and where it may not it stops, whatever stands behind the bracket.
-/

namespace ValueBuilder.Json

/-- What is wrong with a text. -/
inductive Problem where
  /-- No value starts here. -/
  | noValue
  /-- A member does not start with its name. -/
  | noName
  /-- No colon follows the name of a member. -/
  | noColon
  /-- Neither a comma nor the closing bracket follows a value. -/
  | noComma
  /-- Something follows the value. -/
  | extraData
  /-- A text is not closed; the place is its opening mark. -/
  | unterminated
  /-- A control character stands inside a text. -/
  | controlCharacter
  /-- No escape starts with the character after the backslash. -/
  | invalidEscape
  /-- The character code of an escape is broken; the place is the letter in front of it. -/
  | invalidCode
  /-- The text starts with a byte order mark. -/
  | byteOrderMark
  /-- A whole number has more digits than are read. -/
  | tooManyDigits (count : Nat)
  /-- The reader may not enter a level. -/
  | tooDeep
  deriving DecidableEq, Repr

/-- Where the reader stopped. -/
structure Stop where
  /-- What is wrong. -/
  problem : Problem
  /-- What was left of the text at the offending place. -/
  rest : List Char
  deriving DecidableEq, Repr

/-- The space and the line ends that may stand between the parts of a value. -/
def isSpace (c : Char) : Bool := c = ' ' || c = '\t' || c = '\n' || c = '\r'

/-- What is left after spaces. -/
def skipSpace (s : List Char) : List Char := s.dropWhile isSpace

/-- The character that an escape of one letter stands for. -/
def escape? : Char → Option Char
  | '"' => some '"'
  | '\\' => some '\\'
  | '/' => some '/'
  | 'b' => some '\x08'
  | 'f' => some '\x0c'
  | 'n' => some '\n'
  | 'r' => some '\r'
  | 't' => some '\t'
  | _ => none

/-- The number that four hexadecimal digits spell. -/
def code? (a b c d : Char) : Option Nat := do
  let a ← Text.hexValue? a
  let b ← Text.hexValue? b
  let c ← Text.hexValue? c
  let d ← Text.hexValue? d
  return ((a * 16 + b) * 16 + c) * 16 + d

/-- The first half of a pair of UTF-16 units. -/
def isLeadingUnit (n : Nat) : Bool := 0xD800 ≤ n && n < 0xDC00

/-- The second half of a pair of UTF-16 units. -/
def isTrailingUnit (n : Nat) : Bool := 0xDC00 ≤ n && n < 0xE000

/-- Adds a UTF-16 unit to the text so far, which is in reverse. The two halves of a pair join, and
a half that finds no other half stays a surrogate. -/
def pushUnit (n : Nat) : Text → Text
  | c :: done =>
    if isLeadingUnit c.toNat && isTrailingUnit n then
      .ofNat (0x10000 + (c.toNat - 0xD800) * 0x400 + (n - 0xDC00)) :: done
    else .ofNat n :: c :: done
  | [] => [.ofNat n]

example : pushUnit 0xDE42 (pushUnit 0xD83D (pushUnit 0xD83D [])) =
    [.char '🙂', .surrogate 0x3D] := by decide

/-- Reads a text after its opening mark; `whole` starts with that mark, and the text so far is in
reverse. -/
def readText (whole : List Char) : Text → List Char → Except Stop (Text × List Char)
  | _, [] => .error ⟨.unterminated, whole⟩
  | done, '"' :: rest => .ok (done.reverse, rest)
  | _, ['\\'] => .error ⟨.unterminated, whole⟩
  | done, '\\' :: 'u' :: a :: b :: c :: d :: e :: rest =>
    match code? a b c d with
    | some n => readText whole (pushUnit n done) (e :: rest)
    | none => .error ⟨.invalidCode, 'u' :: a :: b :: c :: d :: e :: rest⟩
  | _, '\\' :: 'u' :: rest => .error ⟨.invalidCode, 'u' :: rest⟩
  | done, '\\' :: c :: rest =>
    match escape? c with
    | some d => readText whole (d :: done) rest
    | none => .error ⟨.invalidEscape, '\\' :: c :: rest⟩
  | done, c :: rest =>
    if c.toNat < 0x20 then .error ⟨.controlCharacter, c :: rest⟩
    else readText whole (c :: done) rest

/-- The number that decimal digits spell. -/
def ofDigits (digits : List Char) : Nat :=
  digits.foldl (fun n c => 10 * n + (c.toNat - 0x30)) 0

/-- The digits at the start of a text, and what is left. -/
def spanDigits (s : List Char) : List Char × List Char :=
  (s.takeWhile Char.isDigit, s.dropWhile Char.isDigit)

/-- The digits of a fraction, if a point and at least one digit follow. -/
def readFraction : List Char → Option (List Char × List Char)
  | '.' :: rest =>
    let (digits, rest) := spanDigits rest
    if digits.isEmpty then none else some (digits, rest)
  | _ => none

/-- An exponent, if its letter, perhaps a sign, and at least one digit follow. -/
def readExponent : List Char → Option (Int × List Char)
  | c :: rest =>
    if c = 'e' ∨ c = 'E' then
      let (negative, rest) :=
        match rest with
        | '-' :: rest => (true, rest)
        | '+' :: rest => (false, rest)
        | rest => (false, rest)
      let (digits, rest) := spanDigits rest
      let value : Int := ofDigits digits
      if digits.isEmpty then none else some (if negative then -value else value, rest)
    else none
  | [] => none

/-- Whole numbers of more digits are refused. -/
def greatestLength : Nat := 4300

/-- Reads a number; `whole` starts with its sign, if it has one. -/
def readNumber (whole : List Char) : Except Stop (Json × List Char) :=
  let (negative, rest) :=
    match whole with
    | '-' :: rest => (true, rest)
    | rest => (false, rest)
  let (digits, rest) :=
    match rest with
    | '0' :: rest => (['0'], rest)
    | rest => spanDigits rest
  if digits.isEmpty then .error ⟨.noValue, whole⟩
  else
    match readFraction rest, readExponent rest with
    | some (fraction, rest), _ =>
      let (exponent, rest) := (readExponent rest).getD (0, rest)
      .ok (.float (.ofDecimal negative (ofDigits (digits ++ fraction))
        (exponent - fraction.length)), rest)
    | none, some (exponent, rest) =>
      .ok (.float (.ofDecimal negative (ofDigits digits) exponent), rest)
    | none, none =>
      if greatestLength < digits.length then .error ⟨.tooManyDigits digits.length, whole⟩
      else
        let value : Int := ofDigits digits
        .ok (.int (if negative then -value else value), rest)

/-- What is left after a word, if the text starts with it. -/
def afterWord? (word : String) (s : List Char) : Option (List Char) :=
  if word.toList.isPrefixOf s then some (s.drop word.length) else none

/-- The values that are words. -/
def words : List (String × Json) :=
  [("null", .null), ("true", .bool true), ("false", .bool false), ("NaN", .float .nan),
   ("Infinity", .float (.infinite false)), ("-Infinity", .float (.infinite true))]

/-- Reads a value that is a word. -/
def readWord? (s : List Char) : Option (Json × List Char) :=
  words.findSome? fun (word, value) => (afterWord? word s).map (value, ·)

/-- A level that the reader enters. -/
inductive Level where
  /-- That of the items of a list. -/
  | list
  /-- That of the members of an object. -/
  | object
  /-- That of a word that is looked up. -/
  | word
  deriving DecidableEq, Repr

section Levels

variable (reads : List Level → Bool)

/-- Reads a value that is a word or a number. A word for a number is looked up, one level further
in. -/
def readScalar (levels : List Level) (s : List Char) : Except Stop (Json × List Char) :=
  match readWord? s with
  | some (.float x, rest) =>
    if reads (.word :: levels) then .ok (.float x, rest) else .error ⟨.tooDeep, s⟩
  | some reading => .ok reading
  | none => readNumber s

mutual

/-- Reads a value inside of some levels. Every second step takes a character, and `fuel` counts the
steps. -/
def readValue (levels : List Level) : Nat → List Char → Except Stop (Json × List Char)
  | 0, s => .error ⟨.noValue, s⟩
  | fuel + 1, s =>
    match s with
    | '"' :: rest => do
      let (value, rest) ← readText s [] rest
      return (.text value, rest)
    | '{' :: rest =>
      if reads (.object :: levels) then
        match skipSpace rest with
        | '}' :: rest => .ok (.object [], rest)
        | rest => readMembers (.object :: levels) fuel [] rest
      else .error ⟨.tooDeep, s⟩
    | '[' :: rest =>
      if reads (.list :: levels) then
        match skipSpace rest with
        | ']' :: rest => .ok (.list [], rest)
        | rest => readItems (.list :: levels) fuel [] rest
      else .error ⟨.tooDeep, s⟩
    | s => readScalar reads levels s

/-- Reads the items of a list from the next one on, with those before it in reverse. -/
def readItems (levels : List Level) : Nat → List Json → List Char → Except Stop (Json × List Char)
  | 0, _, s => .error ⟨.noValue, s⟩
  | fuel + 1, done, s => do
    let (item, rest) ← readValue levels fuel s
    match skipSpace rest with
    | ']' :: rest => return (.list (item :: done).reverse, rest)
    | ',' :: rest => readItems levels fuel (item :: done) (skipSpace rest)
    | rest => throw ⟨.noComma, rest⟩

/-- Reads the members of an object from the name of the next one on. -/
def readMembers (levels : List Level) :
    Nat → List (Text × Json) → List Char → Except Stop (Json × List Char)
  | 0, _, s => .error ⟨.noName, s⟩
  | fuel + 1, done, s =>
    match s with
    | '"' :: rest => do
      let (name, rest) ← readText s [] rest
      match skipSpace rest with
      | ':' :: rest => do
        let (value, rest) ← readValue levels fuel (skipSpace rest)
        let done := setMember name value done
        match skipSpace rest with
        | '}' :: rest => return (.object done, rest)
        | ',' :: rest => readMembers levels fuel done (skipSpace rest)
        | rest => throw ⟨.noComma, rest⟩
      | rest => throw ⟨.noColon, rest⟩
    | s => .error ⟨.noName, s⟩

end

/-- Reads a whole text. -/
def readDocument (s : List Char) : Except Stop Json :=
  if s.head? = some '\ufeff' then .error ⟨.byteOrderMark, s⟩
  else do
    let (value, rest) ← readValue reads [] (2 * s.length + 2) (skipSpace s)
    match skipSpace rest with
    | [] => return value
    | rest => throw ⟨.extraData, rest⟩

end Levels

/-- The place where a text goes wrong, and what is wrong there. -/
structure ParseFault where
  /-- What is wrong. -/
  problem : Problem
  /-- The number of characters before the place. -/
  offset : Nat
  /-- The line of the place, from one. -/
  line : Nat
  /-- The place in its line, from one. -/
  column : Nat
  deriving DecidableEq, Repr

/-- A place from the text before it. -/
def ParseFault.after (problem : Problem) (before : List Char) : ParseFault where
  problem := problem
  offset := before.length
  line := before.count '\n' + 1
  column := (before.reverse.takeWhile (· != '\n')).length + 1

/-- The value that a text spells. The reader enters the levels that `reads` lets it, the innermost
one first. -/
def parse (s : List Char) (reads : List Level → Bool := fun _ => true) : Except ParseFault Json :=
  match readDocument reads s with
  | .ok value => .ok value
  | .error stop => .error (.after stop.problem (s.take (s.length - stop.rest.length)))

/-- The words for a problem. -/
def Problem.message : Problem → String
  | .noValue => "Expecting value"
  | .noName => "Expecting property name enclosed in double quotes"
  | .noColon => "Expecting ':' delimiter"
  | .noComma => "Expecting ',' delimiter"
  | .extraData => "Extra data"
  | .unterminated => "Unterminated string starting at"
  | .controlCharacter => "Invalid control character at"
  | .invalidEscape => "Invalid \\escape"
  | .invalidCode => "Invalid \\uXXXX escape"
  | .byteOrderMark => "Unexpected UTF-8 BOM (decode using utf-8-sig)"
  | .tooManyDigits count =>
    "Exceeds the limit (" ++ toString greatestLength ++
      " digits) for integer string conversion: value has " ++ toString count ++
      " digits; use sys.set_int_max_str_digits() to increase the limit"
  | .tooDeep => "Too many levels"

/-- The message for a text that goes wrong. A number of too many digits has no place. -/
def ParseFault.message (f : ParseFault) : String :=
  match f.problem with
  | .tooManyDigits _ => f.problem.message
  | _ =>
    f.problem.message ++ ": line " ++ toString f.line ++ " column " ++ toString f.column ++
      " (char " ++ toString f.offset ++ ")"

end ValueBuilder.Json
