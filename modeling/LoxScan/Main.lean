import LoxScan.CommandLine.Run

/-!
# The command

Reads what the arguments ask for from the system and writes the outcome.  What
is read and written is decided by `Request.ofArguments` and `Request.run`.
-/

namespace LoxScan

/-- The failure that a system error number stands for. -/
def openFailureOfCode (code : UInt32) (details : String) : OpenFailure :=
  if code = 20 then .notDirectory
  else if code = 21 then .isDirectory
  else if code = 36 then .nameTooLong
  else .other details

/-- Why the system did not let a file be read. -/
def openFailureOf : IO.Error → OpenFailure
  | .noFileOrDirectory _ _ _ => .notFound
  | .inappropriateType _ code details => openFailureOfCode code details
  | .invalidArgument _ code details => openFailureOfCode code details
  | .permissionDenied _ _ details => .other details
  | failure => .other (toString failure)

/-- What a file holds. -/
def readSystemFile (file : String) : IO (Except ReadFailure (List UInt8)) := do
  try
    let bytes ← IO.FS.readBinFile file
    return .ok bytes.toList
  catch failure => return .error (.cannotOpen (openFailureOf failure))

/-- What comes in on the standard input. -/
def readSystemInput : IO StandardInput := do
  try
    let bytes ← (← IO.getStdin).readBinToEnd
    return .bytes bytes.toList
  catch failure => return .unreadable (openFailureOf failure)

/-- The outcome of the command, with the input that it asks for taken from the system. -/
def runOnSystem (arguments : List String) : IO (Except InvalidName CommandOutcome) := do
  match Request.ofArguments arguments with
  | .ok (.dump options) =>
    if options.file = standardInputName then
      let input ← readSystemInput
      return runCommand arguments input fun _ => .error (.cannotOpen .notFound)
    else
      let content ← readSystemFile options.file
      return runCommand arguments (.bytes []) fun _ => content
  | _ => return runCommand arguments (.bytes []) fun _ => .error (.cannotOpen .notFound)

end LoxScan

/-- Run the command and return its exit status. -/
def main (arguments : List String) : IO UInt32 := do
  match ← LoxScan.runOnSystem arguments with
  | .error failure =>
    IO.eprintln failure.message
    return 1
  | .ok outcome =>
    IO.print (String.ofList outcome.output)
    IO.eprint (String.ofList outcome.errorOutput)
    return UInt32.ofNat outcome.status.code
