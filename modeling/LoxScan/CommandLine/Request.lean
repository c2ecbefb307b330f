import LoxScan.CommandLine.Argument

/-!
# Requests

What the arguments of the command ask for.

## Main Definitions

* `Options`, `Request` — what can be asked for
* `Options.sourceFile` — the file that a dump is about, if it is about one
* `joinedFlags` — the flags that a flag with text joined to it stands for
* `Request.ofArguments` — the request that arguments make, or what is wrong with them

## Design Notes

Arguments take effect from left to right.  Help and version end the reading of
arguments at once, whatever stands behind them; surplus arguments are told only
at the end.  Flags that are bundled in one argument take effect only if all of
them are flags.
-/

namespace LoxScan

/-- How a source is to be dumped. -/
structure Options where
  file : String
  json : Bool
  verbose : Bool
deriving DecidableEq, Repr

/-- The file name that stands for the standard input. -/
def standardInputName : String := "-"

/-- The file that errors are in, unless they are in the standard input. -/
def Options.sourceFile (options : Options) : Option String :=
  if options.file = standardInputName then none else some options.file

/-- What is asked for: help, the version, or a dump. -/
inductive Request where
  | help
  | version
  | dump (options : Options)
deriving DecidableEq, Repr

/-- The flags that letters behind a one-letter flag stand for, that flag first.  A
letter that names no flag makes itself and all that is behind it an unexpected
value of the flag before it. -/
def bundledFlags (flag : Flag) : List Char → Except UsageError (List Flag)
  | [] => .ok [flag]
  | letter :: rest =>
    match flagNames.lookup (String.ofList ['-', letter]) with
    | none => .error (.unexpectedValue flag (letter :: rest))
    | some next => (bundledFlags next rest).map (flag :: ·)

/-- The flags that a flag with text joined to it stands for.  No flag takes a value. -/
def joinedFlags (flag : Flag) : JoinedText → Except UsageError (List Flag)
  | .nothing => .ok [flag]
  | .value value => .error (.unexpectedValue flag value)
  | .letters letters => bundledFlags flag letters

/-- What has been read of the arguments: the file, whether the argument just
read is it, the flags, and the arguments that nothing is to be done with. -/
structure ArgumentReading where
  file : Option String
  fileJustRead : Bool
  json : Bool
  verbose : Bool
  surplus : List String
deriving DecidableEq, Repr

namespace ArgumentReading

/-- Nothing has been read. -/
def initial : ArgumentReading :=
  { file := none, fileJustRead := false, json := false, verbose := false, surplus := [] }

/-- An argument that nothing is to be done with. -/
def addSurplus (reading : ArgumentReading) (text : String) : ArgumentReading :=
  { reading with fileJustRead := false, surplus := reading.surplus ++ [text] }

/-- The first operand is the file; further ones are surplus. -/
def addOperand (reading : ArgumentReading) (text : String) : ArgumentReading :=
  match reading.file with
  | none => { reading with file := some text, fileJustRead := true }
  | some _ => reading.addSurplus text

/-- The separator belongs to the file: right behind it, or before it while it is
still to come.  Elsewhere it is surplus. -/
def addSeparator (reading : ArgumentReading) : ArgumentReading :=
  if reading.file.isNone || reading.fileJustRead then { reading with fileJustRead := false }
  else reading.addSurplus "--"

/-- The effect of flags in order: a request that ends the reading, or what has
been read with them. -/
def addFlags (reading : ArgumentReading) : List Flag → Request ⊕ ArgumentReading
  | [] => .inr reading
  | .help :: _ => .inl .help
  | .version :: _ => .inl .version
  | .json :: rest => addFlags { reading with json := true, fileJustRead := false } rest
  | .verbose :: rest => addFlags { reading with verbose := true, fileJustRead := false } rest

/-- The request that has been read when no arguments are left. -/
def finish (reading : ArgumentReading) : Except UsageError Request :=
  if reading.surplus = [] then
    .ok (.dump
      { file := reading.file.getD "-", json := reading.json, verbose := reading.verbose })
  else .error (.unrecognized reading.surplus)

/-- Read the remaining arguments. -/
def read (reading : ArgumentReading) : List Argument → Except UsageError Request
  | [] => reading.finish
  | .operand text :: rest => (reading.addOperand text).read rest
  | .separator :: rest => reading.addSeparator.read rest
  | .unknown text :: rest => (reading.addSurplus text).read rest
  | .flag flag joined :: rest =>
    match joinedFlags flag joined with
    | .error failure => .error failure
    | .ok flags =>
      match reading.addFlags flags with
      | .inl request => .ok request
      | .inr next => next.read rest

end ArgumentReading

/-- The request that the arguments of the command make. -/
def Request.ofArguments (arguments : List String) : Except UsageError Request :=
  match Argument.classifyAll arguments with
  | .error failure => .error failure
  | .ok classified => ArgumentReading.initial.read classified

end LoxScan
