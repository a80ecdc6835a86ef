import ValueBuilder.Text.Digit
import ValueBuilder.Text.Quoted

/-!
# Arguments of the command

The command line is a list of words: options of the program, a subcommand, and what the subcommand
takes. `Arguments.parse` finds out what is asked for.

First every word is read on its own (`readWord`). A word that starts with a dash is an option, an
unknown one, or an operand after all: a single dash, a negative number, or a word with a space in
it. Long options may be shortened as long as one of them is meant. Short options may stand in one
word, which has to hold nothing else (`cluster`). After a word of two dashes all words are operands.

Then the words are taken from left to right. A request for help ends the reading. Words that belong
nowhere are kept until the end, and only then refused.
-/

namespace ValueBuilder.Command

/-- What to show of a builder. -/
inductive Subcommand where
  /-- Its header. -/
  | header
  /-- Its implementation. -/
  | implementation
  /-- Its summary. -/
  | describe
  deriving DecidableEq, Repr

/-- All subcommands. -/
def Subcommand.all : List Subcommand := [.header, .implementation, .describe]

/-- The name of a subcommand. -/
def Subcommand.name : Subcommand → String
  | .header => "header"
  | .implementation => "implementation"
  | .describe => "describe"

/-- The subcommand of a name. -/
def Subcommand.ofName? (name : String) : Option Subcommand :=
  Subcommand.all.find? fun c => c.name == name

/-- What an option asks for. -/
inductive Flag where
  /-- To be told how the command is used. -/
  | help
  /-- To be told what happens. -/
  | verbose
  deriving DecidableEq, Repr

/-- Where words are read. -/
inductive Scope where
  /-- In front of the subcommand. -/
  | program
  /-- Behind a subcommand. -/
  | subcommand (c : Subcommand)
  deriving DecidableEq, Repr

/-- The options of a scope by their spellings. -/
def Scope.options : Scope → List (String × Flag)
  | .program =>
    [("-h", .help), ("--help", .help), ("-v", .verbose), ("--verbose", .verbose)]
  | .subcommand _ => [("-h", .help), ("--help", .help)]

/-- An option with all its spellings. -/
def Flag.name : Flag → String
  | .help => "-h/--help"
  | .verbose => "-v/--verbose"

/-- How a word is read. -/
inductive Word where
  /-- An operand. -/
  | operand (text : String)
  /-- The word after which all words are operands. -/
  | separator
  /-- An option that is none of the scope. -/
  | unknown (text : String)
  /-- An option by itself. -/
  | flag (f : Flag)
  /-- A short option and the text behind it in its word, less an equals sign that joins the two. -/
  | short (f : Flag) (tail : String)
  /-- A long option with a value after an equals sign. -/
  | long (f : Flag) (value : String)
  deriving DecidableEq, Repr

/-- Why a command line is refused. -/
inductive Refusal where
  /-- An operand is missing. -/
  | missing (name : String)
  /-- There is no such subcommand. -/
  | invalidChoice (text : String)
  /-- Words belong nowhere. -/
  | unrecognized (texts : List String)
  /-- An option takes no value. -/
  | ignoredValue (f : Flag) (value : String)
  /-- A shortened option may mean several ones. -/
  | ambiguous (text : String) (candidates : List String)
  deriving DecidableEq, Repr

/-- A refusal in its scope. -/
structure UsageFault where
  /-- Where the words were read. -/
  scope : Scope
  /-- Why they are refused. -/
  refusal : Refusal
  deriving DecidableEq, Repr

/-- What a command line asks for. -/
inductive Request where
  /-- How the command is used. -/
  | help (scope : Scope)
  /-- A subcommand on a file. -/
  | run (verbose : Bool) (c : Subcommand) (path : String)
  deriving DecidableEq, Repr

/-- A Boolean test for a nonempty text of decimal digits. -/
def isNumeral (s : List Char) : Bool := !s.isEmpty && s.all Text.isDecimal

/-- A Boolean test for a negative number: a dash and digits, perhaps with a point before the last
ones. A line end behind the number does not count. -/
def isNegativeNumber : List Char → Bool
  | '-' :: s =>
    let s := if s.getLast? = some '\n' then s.dropLast else s
    let fraction := s.dropWhile Text.isDecimal
    isNumeral s || (fraction.head? = some '.' && isNumeral (fraction.drop 1))
  | _ => false

/-- A text before its first equals sign and, if there is one, after it. -/
def splitValue (s : List Char) : List Char × Option (List Char) :=
  match s.dropWhile (· != '=') with
  | [] => (s, none)
  | _ :: value => (s.takeWhile (· != '='), some value)

namespace Scope

/-- The option of a spelling. -/
def flag? (scope : Scope) (s : List Char) : Option Flag := scope.options.lookup (String.ofList s)

/-- The spellings that start with a text. -/
def candidates (scope : Scope) (s : List Char) : List (String × Flag) :=
  scope.options.filter fun o => s.isPrefixOf o.1.toList

/-- An option with the value behind its equals sign, if there is one. -/
def withValue (f : Flag) (isLong : Bool) : Option (List Char) → Word
  | none => .flag f
  | some value =>
    if isLong then .long f (String.ofList value) else .short f (String.ofList value)

/-- How a word is read that starts with a dash and is no option of the scope. -/
def readOther (s : List Char) : Word :=
  if isNegativeNumber s || s.contains ' ' then .operand (String.ofList s)
  else .unknown (String.ofList s)

/-- Reads a word that starts with two dashes: an option in full or shortened. -/
def readLong (scope : Scope) (s : List Char) : Except Refusal Word :=
  let (name, value) := splitValue s
  match scope.flag? name with
  | some f => .ok (withValue f true value)
  | none =>
    match scope.candidates name with
    | [] => .ok (readOther s)
    | [(_, f)] => .ok (withValue f true value)
    | several => .error (.ambiguous (String.ofList s) (several.map (·.1)))

/-- Reads a word that starts with one dash: a short option, perhaps with more text behind it. -/
def readShort (scope : Scope) (s : List Char) : Word :=
  let (name, value) := splitValue s
  match scope.flag? name with
  | some f => withValue f false value
  | none =>
    match scope.flag? (s.take 2) with
    | some f => .short f (String.ofList (s.drop 2))
    | none => readOther s

/-- Reads a word by itself. -/
def readWord (scope : Scope) (text : String) : Except Refusal Word :=
  match text.toList with
  | ['-', '-'] => .ok .separator
  | '-' :: '-' :: s => scope.readLong ('-' :: '-' :: s)
  | '-' :: c :: s => .ok (scope.readShort ('-' :: c :: s))
  | _ => .ok (.operand text)

/-- Reads all words; those after two dashes are operands. -/
def readWords (scope : Scope) : List String → Except Refusal (List Word)
  | [] => .ok []
  | text :: texts => do
    match ← scope.readWord text with
    | .separator => return .separator :: texts.map .operand
    | word => return word :: (← scope.readWords texts)

/-- A short option and the text behind it in its word, read as further short options. No option
takes a value, so a text that does not go on with an option is refused as a value of the last one,
and so is an empty text. -/
def cluster (scope : Scope) (f : Flag) : List Char → Except Refusal (List Flag)
  | [] => .error (.ignoredValue f "")
  | c :: tail =>
    match scope.flag? ['-', c] with
    | none => .error (.ignoredValue f (String.ofList (c :: tail)))
    | some next =>
      if tail.isEmpty then .ok [f, next]
      else (scope.cluster next tail).map (f :: ·)

/-- The options that a word gives, in order. A word that is no option of the scope gives none. -/
def flags (scope : Scope) : Word → Except Refusal (List Flag)
  | .operand _ | .separator | .unknown _ => .ok []
  | .flag f => .ok [f]
  | .short f tail => scope.cluster f tail.toList
  | .long f value => .error (.ignoredValue f value)

end Scope

/-- What a subcommand found: a request for help, or its operand with the words that belong
nowhere. -/
inductive Operands where
  /-- A request for help. -/
  | help
  /-- The operand, and the words that belong nowhere. -/
  | found (path : String) (surplus : List String)
  deriving DecidableEq, Repr

/-- Takes the words behind a subcommand. The first operand is the one it needs; a separator next to
that operand belongs to it. -/
def takeOperands (scope : Scope) (path : Option String) (surplus : List String) :
    List Word → Except Refusal Operands
  | [] =>
    match path with
    | some path => .ok (.found path surplus)
    | none => .error (.missing "spec")
  | .separator :: .operand text :: words =>
    match path with
    | none => takeOperands scope (some text) surplus words
    | some _ => takeOperands scope path (surplus ++ ["--", text]) words
  | .separator :: words => takeOperands scope path (surplus ++ ["--"]) words
  | .operand text :: .separator :: words =>
    match path with
    | none => takeOperands scope (some text) surplus words
    | some _ => takeOperands scope path (surplus ++ [text, "--"]) words
  | .operand text :: words =>
    match path with
    | none => takeOperands scope (some text) surplus words
    | some _ => takeOperands scope path (surplus ++ [text]) words
  | .unknown text :: words => takeOperands scope path (surplus ++ [text]) words
  | word :: words => do
    let flags ← scope.flags word
    if flags.contains .help then return .help
    else takeOperands scope path surplus words

/-- The name of the subcommand in messages. -/
def subcommandPlace : String :=
  "\x7b" ++ ",".intercalate (Subcommand.all.map Subcommand.name) ++ "\x7d"

/-- What stands in front of a subcommand: whether events are reported, and the words that belong
nowhere; then the subcommand with the words behind it, unless help was asked for. -/
structure Front where
  /-- Events are reported. -/
  verbose : Bool
  /-- The words that belong nowhere. -/
  surplus : List String
  /-- The subcommand, or a request for help. -/
  subcommand : Option Subcommand
  /-- How many words stand in front of the words behind the subcommand. -/
  width : Nat
  deriving DecidableEq, Repr

/-- Takes the words up to the subcommand; `width` words are taken already. -/
def takeFront (verbose : Bool) (surplus : List String) (width : Nat) :
    List Word → Except Refusal Front
  | [] => .error (.missing subcommandPlace)
  | [.separator] => .error (.missing subcommandPlace)
  | .separator :: _ => .error (.invalidChoice "--")
  | .operand text :: _ =>
    match Subcommand.ofName? text with
    | some c => .ok ⟨verbose, surplus, some c, width + 1⟩
    | none => .error (.invalidChoice text)
  | .unknown text :: words => takeFront verbose (surplus ++ [text]) (width + 1) words
  | word :: words => do
    let flags ← Scope.program.flags word
    if flags.contains .help then return ⟨verbose, surplus, none, width + 1⟩
    else takeFront (verbose || flags.contains .verbose) surplus (width + 1) words

/-- A result whose refusal belongs to a scope. -/
def Scope.blame {α : Type} (scope : Scope) (r : Except Refusal α) : Except UsageFault α :=
  r.mapError (UsageFault.mk scope)

/-- What a command line asks for. -/
def parse (argv : List String) : Except UsageFault Request := do
  let front ← Scope.program.blame (Scope.program.readWords argv >>= takeFront false [] 0)
  match front.subcommand with
  | none => return .help .program
  | some c =>
    let scope := Scope.subcommand c
    let words ← scope.blame (scope.readWords (argv.drop front.width))
    match ← scope.blame (takeOperands scope none [] words) with
    | .help => return .help scope
    | .found path surplus =>
      match front.surplus ++ surplus with
      | [] => return .run front.verbose c path
      | texts => throw ⟨.program, .unrecognized texts⟩

/-- The words for a refusal. -/
def Refusal.message : Refusal → String
  | .missing name => "the following arguments are required: " ++ name
  | .invalidChoice text =>
    "argument " ++ subcommandPlace ++ ": invalid choice: " ++ Text.quoted text ++
      " (choose from " ++ ", ".intercalate (Subcommand.all.map fun c => Text.quoted c.name) ++ ")"
  | .unrecognized texts => "unrecognized arguments: " ++ " ".intercalate texts
  | .ignoredValue f value =>
    "argument " ++ f.name ++ ": ignored explicit argument " ++ Text.quoted value
  | .ambiguous text candidates =>
    "ambiguous option: " ++ text ++ " could match " ++ ", ".intercalate candidates

end ValueBuilder.Command
