import ValueBuilder.Command.Files
import ValueBuilder.Command.Host
import ValueBuilder.Command.Usage
import ValueBuilder.Preview
import ValueBuilder.Summary
import ValueBuilder.Text.LineEnd
import ValueBuilder.Text.Utf8
import ValueBuilder.ValueType.OfJson
import ValueBuilder.ValueType.Trace

/-!
# Running the command

The command as a function from its arguments, the files it may read and the host that it runs on to
what it prints and how it ends. A description is loaded in steps that can fail one after the other:
the bytes of the file, their text, the JSON value, the value type. Nothing is printed before
everything has succeeded, and a text is printed as a whole or not at all.

A run that fails reports why and ends with a status. So does one whose text the output does not
take. Only two failures break a run off without a report (`Abort`): a JSON value that is nested too
deep to be read or to be printed, and a description that leaves no way to generate code.
-/

namespace ValueBuilder.Command

open ObjC (CodeFile)

/-- Why a description is not loaded. -/
inductive LoadFault where
  /-- The file is not read. -/
  | file (f : FileFault)
  /-- Its bytes are no text. -/
  | encoding (f : Text.Utf8.Fault)
  /-- Its text is no JSON. -/
  | json (f : Json.ParseFault)
  /-- The JSON value describes no value type. -/
  | description (f : DescriptionFault)

/-- The message for a description that is not loaded. -/
def LoadFault.message (p : Path) : LoadFault → Text
  | .file f => f.message p
  | .encoding f => f.message
  | .json f => f.message
  | .description f => f.message

/-- The JSON value that the bytes of a file spell. -/
def jsonOfBytes (host : Host) (bytes : List UInt8) : Except LoadFault Json := do
  let text ← (Text.Utf8.decode bytes).mapError .encoding
  (Json.parse (Text.unifyLines text) host.reads).mapError .json

/-- The value type that a file describes. -/
def load (reader : Reader) (host : Host) (p : Path) : Except LoadFault ValueType := do
  let bytes ← (reader p).mapError .file
  let json ← jsonOfBytes host bytes
  (ValueType.ofJson json).mapError .description

/-- What a subcommand shows of a file. -/
def Subcommand.show (c : Subcommand) (f : CodeFile) : Except Fault Text :=
  match c with
  | .header => .ok f.header
  | .implementation => f.implementation
  | .describe => do return (← f.summary).toJson.pretty ++ "\n"

/-- Why a run breaks off. -/
inductive Abort where
  /-- A JSON value is nested too deep. -/
  | tooDeep
  /-- No code is generated for the description. -/
  | generation (f : Fault)
  deriving DecidableEq, Repr

/-- A Boolean test that the host gets to the end of what a subcommand shows of a file. Only a
summary is nested. -/
def Subcommand.isPrintable (host : Host) (c : Subcommand) (f : CodeFile) : Bool :=
  match c, f.summary with
  | .describe, .ok s => host.prints s.toJson
  | _, _ => true

/-- What a subcommand makes of a value type. -/
def Subcommand.output (host : Host) (c : Subcommand) (v : ValueType) : Except Abort Text := do
  let f ← (v.builderFile .standard).mapError .generation
  let text ← (c.show f).mapError .generation
  if c.isPrintable host f then return text else throw .tooDeep

/-- How a run ends. -/
inductive Ending where
  /-- With a status for the caller. -/
  | exit (code : Nat)
  /-- In the middle, for a reason that the program does not report. -/
  | aborted (a : Abort)
  deriving DecidableEq, Repr

/-- What a run prints, and how it ends. -/
structure Outcome where
  /-- How it ends. -/
  ending : Ending
  /-- What it prints. -/
  stdout : Text := []
  /-- What it reports besides. The stream of reports takes every text. -/
  stderr : Text := []
  deriving DecidableEq, Repr

/-- The log of a run. -/
def log (verbose : Bool) (events : List Event) : Text :=
  if verbose then events.flatMap Event.line else []

/-- The report of a failure. -/
def complaint (message : Text) : Text := programName ++ ": " ++ message ++ "\n"

/-- How a run ends that does not load its description. -/
def LoadFault.outcome (p : Path) : LoadFault → Outcome
  | .json ⟨.tooDeep, _, _, _⟩ => { ending := .aborted .tooDeep }
  | f => { ending := .exit 2, stderr := complaint (f.message p) }

/-- How a run ends that prints a text. A log stands in front of all that it reports. -/
def printed (host : Host) (text log : Text) : Outcome :=
  match host.refusal? text with
  | none => { ending := .exit 0, stdout := text, stderr := log }
  | some message => { ending := .exit 2, stderr := log ++ complaint message }

/-- Runs a subcommand on a file. -/
def runSubcommand (verbose : Bool) (c : Subcommand) (path : String) (reader : Reader)
    (host : Host) : Outcome :=
  let p := Path.ofString path
  match load reader host p with
  | .error f => f.outcome p
  | .ok v =>
    let report := log verbose (.loaded v.typeName path :: v.buildTrace .standard)
    match c.output host v with
    | .ok text => printed host text report
    | .error a => { ending := .aborted a, stderr := report }

/-- Runs the command. -/
def run (argv : List String) (reader : Reader) (host : Host := {}) : Outcome :=
  match parse argv with
  | .error f => { ending := .exit 2, stderr := f.text }
  | .ok (.help scope) => { ending := .exit 0, stdout := scope.help }
  | .ok (.run verbose c path) => runSubcommand verbose c path reader host

end ValueBuilder.Command
