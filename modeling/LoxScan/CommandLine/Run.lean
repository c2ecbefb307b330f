import LoxScan.CommandLine.Directory
import LoxScan.CommandLine.Dump
import LoxScan.Text.Newline
import LoxScan.Text.Utf8

/-!
# Running the command

From arguments and input to an outcome.

## Main Definitions

* `StandardInput` — what comes in on the standard input
* `Options.source` — the source text that a request asks to dump
* `Request.run` — the outcome of a request
* `runCommand` — the outcome of the command for given arguments
-/

namespace LoxScan

/-- What comes in on the standard input. -/
inductive StandardInput where
  | bytes (bytes : List UInt8)
  /-- Text that has been decoded already. -/
  | text (characters : List Char)
  /-- Nothing, for the system does not let it be read. -/
  | unreadable (failure : OpenFailure)

/-- The text that comes in.  Line endings stay as they are. -/
def StandardInput.decode : StandardInput → Except ReadFailure (List Char)
  | bytes content => .ok (decodeUtf8 content)
  | text characters => .ok characters
  | unreadable failure => .error (.cannotOpen failure)

/-- The text of a file.  Every line ending becomes a line feed. -/
def decodeFile (bytes : List UInt8) : List Char := normalizeNewlines (decodeUtf8 bytes)

/-- The source text to dump: that of a file, or the standard input. -/
def Options.source (options : Options) (input : StandardInput)
    (readFile : String → Except ReadFailure (List UInt8)) : Except ReadFailure (List Char) :=
  if options.file = standardInputName then input.decode
  else (readFile options.file).map decodeFile

/-- The outcome when wrong arguments are given. -/
def usageOutcome (failure : UsageError) : CommandOutcome :=
  { status := .wrongUsage
    output := []
    errorOutput := (usageLine ++ commandName ++ ": error: " ++ failure.message ++ "\n").toList }

/-- The outcome when the system does not let a file or the standard input be read. -/
def unreadableOutcome (file : String) (failure : OpenFailure) : CommandOutcome :=
  { status := .noInput
    output := []
    errorOutput :=
      (commandName ++ ": cannot read " ++ file ++ ": " ++ failure.reason ++ "\n").toList }

/-- The command has been given a file name that no system call can take. -/
inductive InvalidName where
  | embeddedNul
deriving DecidableEq, Repr

/-- The text of an invalid name's error. -/
def InvalidName.message : InvalidName → String
  | embeddedNul => "embedded null byte"

/-- The outcome of a request. -/
def Request.run (request : Request) (input : StandardInput)
    (readFile : String → Except ReadFailure (List UInt8)) : Except InvalidName CommandOutcome :=
  match request with
  | .help => .ok { status := .success, output := helpText.toList, errorOutput := [] }
  | .version => .ok { status := .success, output := versionText.toList, errorOutput := [] }
  | .dump options =>
    match options.source input readFile with
    | .ok source => .ok (LoxScan.dump options source)
    | .error (.cannotOpen failure) => .ok (unreadableOutcome options.file failure)
    | .error .embeddedNul => .error .embeddedNul

/-- The outcome of the command for given arguments. -/
def runCommand (arguments : List String) (input : StandardInput)
    (readFile : String → Except ReadFailure (List UInt8)) : Except InvalidName CommandOutcome :=
  match Request.ofArguments arguments with
  | .error failure => .ok (usageOutcome failure)
  | .ok request => request.run input readFile

end LoxScan
