import LoxScan.CommandLine.Flag
import LoxScan.Text.Quoted

/-!
# Usage of the command line

## Main Definitions

* `UsageError` — what can be wrong with arguments
* `UsageError.message` — how it is told
* `usageLine`, `helpText`, `versionText` — what the command says about itself
-/

namespace LoxScan

/-- The name of the command. -/
def commandName : String := "loxlex"

/-- The version of the program. -/
def programVersion : String := "0.1.0"

/-- The arguments of the command at a glance. -/
def usageLine : String := s!"usage: {commandName} [-h] [--json] [-v] [--version] [file]\n"

/-- What the command does and how it is used. -/
def helpText : String :=
  usageLine ++
  "\n" ++
  "Scan Lox source and print its tokens.\n" ++
  "\n" ++
  "positional arguments:\n" ++
  "  file           source file to scan ('-' or omitted reads stdin)\n" ++
  "\n" ++
  "options:\n" ++
  "  -h, --help     show this help message and exit\n" ++
  "  --json         print tokens as a JSON array\n" ++
  "  -v, --verbose  enable debug logging\n" ++
  "  --version      show program's version number and exit\n"

/-- The name and the version of the program. -/
def versionText : String := s!"{commandName} {programVersion}\n"

/-- What can be wrong with the arguments of the command. -/
inductive UsageError where
  /-- An argument abbreviates several flag names. -/
  | ambiguous (argument : String) (candidates : List String)
  /-- A flag has been given a value. -/
  | unexpectedValue (flag : Flag) (value : List Char)
  /-- Arguments that are no flags and that nothing is to be done with. -/
  | unrecognized (arguments : List String)
deriving DecidableEq, Repr

/-- How a usage error is told. -/
def UsageError.message : UsageError → String
  | ambiguous argument candidates =>
    "ambiguous option: " ++ argument ++ " could match " ++ ", ".intercalate candidates
  | unexpectedValue flag value =>
    "argument " ++ flag.title ++ ": ignored explicit argument " ++ String.ofList (quoted value)
  | unrecognized arguments => "unrecognized arguments: " ++ " ".intercalate arguments

end LoxScan
