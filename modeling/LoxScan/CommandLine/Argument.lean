import LoxScan.CommandLine.Usage
import LoxScan.Text.DecimalDigit

/-!
# Arguments of the command line

Which arguments are flags and which are operands.

## Main Definitions

* `JoinedText` — what an argument holds besides the name of a flag
* `joinedByEquals` — what a flag gets from the text behind an equals sign
* `Argument` — an argument that has been classified
* `Argument.classify` — the class of an argument before the separator
* `Argument.classifyAll` — the classes of all arguments

## Design Notes

All arguments are classified before any flag takes effect, so an ambiguous
abbreviation is an error wherever it stands.
-/

namespace LoxScan

/-- What an argument holds besides the name of a flag. -/
inductive JoinedText where
  | nothing
  /-- The value behind an equals sign. -/
  | value (text : List Char)
  /-- The letters behind the name of a one-letter flag, each of which is to be a
  one-letter flag itself. -/
  | letters (text : List Char)
deriving DecidableEq, Repr

/-- A classified argument. -/
inductive Argument where
  /-- An argument that is not a flag. -/
  | operand (text : String)
  /-- The two dashes behind which no argument is a flag. -/
  | separator
  /-- A flag, and the text that is joined to its name. -/
  | flag (flag : Flag) (joined : JoinedText)
  /-- An argument that looks like a flag and is none. -/
  | unknown (text : String)
deriving DecidableEq, Repr

/-- A text up to its first equals sign, and what is behind the sign. -/
def splitAtEquals (text : List Char) : List Char × JoinedText :=
  (text.takeWhile (· ≠ '='),
    match text.dropWhile (· ≠ '=') with
    | [] => .nothing
    | _ :: value => .value value)

/-- What a flag gets from the text behind an equals sign.  An equals sign behind a
one-letter name may be left out, so text there stands for letters. -/
def joinedByEquals (name value : List Char) : JoinedText :=
  if isOneLetterName name && value ≠ [] then .letters value else .value value

/-- A dash and a number: digits, or a point with digits behind it and possibly
before it.  A line feed may end the text. -/
def isNegativeNumber (text : List Char) : Bool :=
  match text with
  | '-' :: rest =>
    let body := if rest.getLast? = some '\n' then rest.dropLast else rest
    match body.dropWhile isDecimalDigit with
    | [] => body ≠ []
    | '.' :: fraction => fraction ≠ [] && fraction.all isDecimalDigit
    | _ => false
  | _ => false

namespace Argument

/-- The flag names that an argument can stand for, with what is joined to them.

Behind two dashes an argument stands for every name that it begins.  Behind one
dash the first letter names a flag, and more letters are joined to it. -/
def candidates (text : List Char) : List (String × Argument) :=
  if text[1]? = some '-' then
    let (before, joined) := splitAtEquals text
    flagNames.filterMap fun (name, asked) =>
      if before.isPrefixOf name.toList then some (name, .flag asked joined) else none
  else
    flagNames.filterMap fun (name, asked) =>
      if name.toList = text.take 2 then some (name, .flag asked (.letters (text.drop 2))) else none

/-- The class of an argument that has a dash in front and is no flag name. -/
def classifyDashed (text : String) : Except UsageError Argument :=
  match candidates text.toList with
  | [(_, argument)] => .ok argument
  | [] =>
    if isNegativeNumber text.toList || ' ' ∈ text.toList then .ok (.operand text)
    else .ok (.unknown text)
  | several => .error (.ambiguous text (several.map (·.1)))

/-- The class of an argument before the separator. -/
def classify (text : String) : Except UsageError Argument :=
  if text.toList.head? ≠ some '-' then .ok (.operand text)
  else
    match flagNames.lookup text with
    | some asked => .ok (.flag asked .nothing)
    | none =>
      if text = "-" then .ok (.operand text)
      else
        match splitAtEquals text.toList with
        | (before, .value value) =>
          match flagNames.lookup (String.ofList before) with
          | some asked => .ok (.flag asked (joinedByEquals before value))
          | none => classifyDashed text
        | _ => classifyDashed text

/-- The classes of all arguments.  Behind the first separator everything is an operand. -/
def classifyAll : List String → Except UsageError (List Argument)
  | [] => .ok []
  | text :: rest =>
    if text = "--" then .ok (.separator :: rest.map .operand)
    else
      match classify text with
      | .error failure => .error failure
      | .ok argument => (classifyAll rest).map (argument :: ·)

end Argument

end LoxScan
