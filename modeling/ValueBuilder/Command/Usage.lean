import ValueBuilder.Command.Arguments

/-!
# How the command is used

The texts that tell how to use the command: a usage line, which also stands above a refusal, and the
help of the program and of each subcommand.
-/

namespace ValueBuilder.Command

/-- The name of the program. -/
def programName : String := "mkbuilder"

/-- The command that a scope belongs to. -/
def Scope.command : Scope → String
  | .program => programName
  | .subcommand c => programName ++ " " ++ c.name

/-- What a scope takes, in short. -/
def Scope.synopsis : Scope → String
  | .program => "[-h] [-v] " ++ subcommandPlace ++ " ..."
  | .subcommand _ => "[-h] spec"

/-- The usage line of a scope. -/
def Scope.usage (scope : Scope) : String :=
  "usage: " ++ scope.command ++ " " ++ scope.synopsis ++ "\n"

/-- The help of a scope. -/
def Scope.help (scope : Scope) : String :=
  scope.usage ++ "\n" ++
    match scope with
    | .program =>
      "positional arguments:\n" ++
      "  " ++ subcommandPlace ++ "\n" ++
      "    header              Print the builder's header preview\n" ++
      "    implementation      Print the builder's implementation preview\n" ++
      "    describe            Summarize the builder descriptor as JSON\n" ++
      "\n" ++
      "options:\n" ++
      "  -h, --help            show this help message and exit\n" ++
      "  -v, --verbose         Enable debug logging\n"
    | .subcommand _ =>
      "positional arguments:\n" ++
      "  spec        Value type description (JSON)\n" ++
      "\n" ++
      "options:\n" ++
      "  -h, --help  show this help message and exit\n"

/-- The text that answers a command line that is refused. -/
def UsageFault.text (f : UsageFault) : String :=
  f.scope.usage ++ f.scope.command ++ ": error: " ++ f.refusal.message ++ "\n"

end ValueBuilder.Command
