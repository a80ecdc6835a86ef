import ValueBuilder.Text.Basic
import ValueBuilder.Text.Digit

/-!
# UTF-8

Reading bytes as text, one byte at a time. Between characters the reader stands at `none`. Inside a
character it keeps what the bytes so far have said (`Partial`), with the range that the next byte
has to lie in. The first byte that no character allows there ends the reading: the fault names the
bytes of the broken character that were good so far.

The other way round every text has bytes, unless there are surrogates in it (`refusal?`).
-/

namespace ValueBuilder.Text.Utf8

/-- Why bytes are no text. -/
inductive Reason where
  /-- No character starts with the byte. -/
  | invalidStart
  /-- The character does not go on with the next byte. -/
  | invalidContinuation
  /-- The bytes end inside the character. -/
  | unexpectedEnd
  deriving DecidableEq, Repr

/-- Where bytes stop being text. -/
structure Fault where
  /-- The position of the first byte of the broken character. -/
  start : Nat
  /-- That byte. -/
  lead : UInt8
  /-- How many bytes of the character were good, and one for a byte that starts none. -/
  width : Nat
  /-- Why the character is broken. -/
  reason : Reason
  deriving DecidableEq, Repr

/-- A character whose bytes are not all read. -/
structure Partial where
  /-- The position of its first byte. -/
  start : Nat
  /-- Its first byte. -/
  lead : UInt8
  /-- The bytes that it still needs after the next one. -/
  owed : Nat
  /-- The least value of the next byte. -/
  least : Nat
  /-- The greatest value of the next byte. -/
  greatest : Nat
  /-- The bits of the code point that are known. -/
  bits : Nat
  deriving DecidableEq, Repr

/-- What the first byte of a longer character says: how many bytes follow the next one, the range
of the next one, and the first bits. The ranges leave out spellings that are longer than necessary,
surrogates, and code points beyond the last. -/
def begun? (start : Nat) (b : UInt8) : Option Partial :=
  let n := b.toNat
  if 0xC2 ≤ n ∧ n ≤ 0xDF then some ⟨start, b, 0, 0x80, 0xBF, n - 0xC0⟩
  else if n = 0xE0 then some ⟨start, b, 1, 0xA0, 0xBF, 0⟩
  else if n = 0xED then some ⟨start, b, 1, 0x80, 0x9F, n - 0xE0⟩
  else if 0xE1 ≤ n ∧ n ≤ 0xEF then some ⟨start, b, 1, 0x80, 0xBF, n - 0xE0⟩
  else if n = 0xF0 then some ⟨start, b, 2, 0x90, 0xBF, 0⟩
  else if 0xF1 ≤ n ∧ n ≤ 0xF3 then some ⟨start, b, 2, 0x80, 0xBF, n - 0xF0⟩
  else if n = 0xF4 then some ⟨start, b, 2, 0x80, 0x8F, n - 0xF0⟩
  else none

/-- Reads the bytes from a position on, with the characters read so far in reverse. -/
def scan (position : Nat) : Option Partial → List Char → List UInt8 → Except Fault (List Char)
  | none, done, [] => .ok done.reverse
  | some p, _, [] => .error ⟨p.start, p.lead, position - p.start, .unexpectedEnd⟩
  | none, done, b :: bs =>
    if b.toNat < 0x80 then scan (position + 1) none (Char.ofNat b.toNat :: done) bs
    else
      match begun? position b with
      | some p => scan (position + 1) (some p) done bs
      | none => .error ⟨position, b, 1, .invalidStart⟩
  | some p, done, b :: bs =>
    if p.least ≤ b.toNat ∧ b.toNat ≤ p.greatest then
      let bits := p.bits * 64 + (b.toNat - 0x80)
      match p.owed with
      | 0 => scan (position + 1) none (Char.ofNat bits :: done) bs
      | owed + 1 =>
        scan (position + 1) (some ⟨p.start, p.lead, owed, 0x80, 0xBF, bits⟩) done bs
    else .error ⟨p.start, p.lead, position - p.start, .invalidContinuation⟩

/-- The text that bytes spell. -/
def decode (bytes : List UInt8) : Except Fault (List Char) := scan 0 none [] bytes

/-- The words for a reason. -/
def Reason.message : Reason → String
  | .invalidStart => "invalid start byte"
  | .invalidContinuation => "invalid continuation byte"
  | .unexpectedEnd => "unexpected end of data"

/-- The message for a fault: one bad byte is shown, of several the positions are given. -/
def Fault.message (f : Fault) : String :=
  let place :=
    if f.width = 1 then
      "byte 0x" ++ String.ofList (hex 2 f.lead.toNat) ++ " in position " ++ toString f.start
    else
      "bytes in position " ++ toString f.start ++ "-" ++ toString (f.start + f.width - 1)
  "'utf-8' codec can't decode " ++ place ++ ": " ++ f.reason.message

/-- A Boolean test that a code point is a surrogate. -/
def isSurrogate : CodePoint → Bool
  | .char _ => false
  | .surrogate _ => true

/-- The message for a text without bytes, which names the first surrogates in it. -/
def refusal? (t : Text) : Option String :=
  let start := (t.takeWhile (!isSurrogate ·)).length
  match t.dropWhile (!isSurrogate ·) with
  | [] => none
  | c :: rest =>
    let width := (rest.takeWhile isSurrogate).length + 1
    let place :=
      if width = 1 then
        "character '\\u" ++ String.ofList (hex 4 c.toNat) ++ "' in position " ++ toString start
      else
        "characters in position " ++ toString start ++ "-" ++ toString (start + width - 1)
    some ("'utf-8' codec can't encode " ++ place ++ ": surrogates not allowed")

/-- A text for a stream that takes everything: surrogates are written as escapes. -/
def escaped (t : Text) : String :=
  String.ofList (t.flatMap fun
    | .char c => [c]
    | .surrogate n => '\\' :: 'u' :: hex 4 (CodePoint.surrogate n).toNat)

example : decode [0xC3, 0xA9, 0x21] = .ok ['é', '!'] := rfl
example : decode [0x22, 0xE2, 0x82, 0x22] = .error ⟨1, 0xE2, 2, .invalidContinuation⟩ := rfl
example : decode [0xC3] = .error ⟨0, 0xC3, 1, .unexpectedEnd⟩ := rfl
example : refusal? ['a', .surrogate 0] =
    some "'utf-8' codec can't encode character '\\ud800' in position 1: surrogates not allowed" :=
  by decide

end ValueBuilder.Text.Utf8
