import ValueBuilder.Json.Parser
import ValueBuilder.Json.Printer
import ValueBuilder.Text.Utf8

/-!
# Hosts

What a run needs of the process that it is in. The reader and the printer of JSON go one level down
for each list or object, and how many levels there are is for the process to say: it may count them,
or it may measure its stack. And the output is a stream of bytes, which need not have bytes for
every code point.
-/

namespace ValueBuilder.Command

/-- What a run needs of the process that it is in. Unless something else is said there is no
limit. -/
structure Host where
  /-- The reader may enter the first of some levels, of which the innermost one comes first. -/
  reads : List Json.Level → Bool := fun _ => true
  /-- The printer gets to the end of a value. -/
  prints : Json → Bool := fun _ => true
  /-- What the output has against a text, if it does not take it. -/
  refusal? : Text → Option Text := fun _ => none

/-- A host that counts levels: so many for the reader, and so many for the printer. -/
def Host.counting (reading printing : Nat) (refusal? : Text → Option Text) : Host where
  reads levels := levels.length ≤ reading
  prints j := j.depth ≤ printing
  refusal? := refusal?

/-- A host that counts levels and whose output is in UTF-8. -/
def Host.utf8 (reading printing : Nat) : Host :=
  .counting reading printing fun text => (Text.Utf8.refusal? text).map Text.ofString

end ValueBuilder.Command
