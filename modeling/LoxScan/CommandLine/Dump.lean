import LoxScan.CommandLine.Request
import LoxScan.Observation
import LoxScan.Token.Rendering

/-!
# Dumping a source

What the command writes for a source text: its tokens on the standard output,
its errors on the standard error output.

## Main Definitions

* `CommandOutcome` — exit status and outputs of the command
* `plainDump`, `jsonDump` — the tokens as text
* `dump` — the outcome for a source text
-/

namespace LoxScan

/-- The exit statuses of the command. -/
inductive ExitStatus where
  /-- The source has no errors, or nothing was scanned. -/
  | success
  /-- The arguments are wrong. -/
  | wrongUsage
  /-- The source has errors. -/
  | faultySource
  /-- The source cannot be read. -/
  | noInput
deriving DecidableEq, Repr

/-- The number that the system is given as an exit status. -/
def ExitStatus.code : ExitStatus → Nat
  | success => 0
  | wrongUsage => 2
  | faultySource => 65
  | noInput => 66

/-- What a run of the command leaves behind. -/
structure CommandOutcome where
  status : ExitStatus
  output : List Char
  errorOutput : List Char
deriving DecidableEq, Repr

/-- Text as a line. -/
def asLine (text : List Char) : List Char := text ++ ['\n']

/-- The tokens of a scan, one behind the other, each followed by a line feed. -/
def plainDump (tokens : List Token) : List Char :=
  tokens.flatMap fun token => asLine token.write

/-- The tokens of a scan as a JSON array. -/
def jsonDump (tokens : List Token) : List Char :=
  asLine ((JsonValue.array (tokens.map Token.toJson)).write JsonLayout.indentedAscii 0)

/-- The log record that tells how many errors a file has. -/
def errorCountLog (count : Nat) (file : String) : LogRecord :=
  { level := .debug, logger := commandLogger, message := s!"{count} lexical errors in {file}" }

/-- The outcome for a source text, which a new scanner delivers the tokens of while a
collector of its own keeps the errors.  The errors that it has kept in the end are shown, and
they decide the exit status.  The log is shown if the options ask for it: what the scan logs
before the errors, and how many errors there are behind them. -/
def dump (options : Options) (source : List Char) : CommandOutcome :=
  let scanned := (ObservedDrive.collecting options.sourceFile source).step .scanTokens
  let errors := scanned.after.errors
  let shown (records : List LogRecord) : List Char :=
    if options.verbose then records.flatMap fun record => asLine record.line.toList else []
  let output := if options.json then jsonDump scanned.tokens else plainDump scanned.tokens
  let errorLines := errors.flatMap fun error =>
    asLine (formatError error.line error.message).toList
  if scanned.after.hadError then
    { status := .faultySource
      output := output
      errorOutput := shown scanned.log ++ errorLines
        ++ shown [errorCountLog errors.length options.file] }
  else
    { status := .success
      output := output
      errorOutput := shown scanned.log ++ errorLines }

end LoxScan
