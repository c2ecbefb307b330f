/-!
# Lexical faults

What can be wrong with source text.  A fault never ends a scan.

## Main Definitions

* `Fault` — the two faults
* `Fault.message`, `Fault.ofMessage?` — the message that a fault is reported with, and back
* `Report` — a fault found on a line
-/

namespace LoxScan

/-- The faults that source text can have. -/
inductive Fault where
  /-- A character that begins no token and separates none. -/
  | unexpectedCharacter
  /-- A string without a closing mark. -/
  | unterminatedString
deriving DecidableEq, Repr

namespace Fault

/-- All faults. -/
def all : List Fault := [unexpectedCharacter, unterminatedString]

/-- The name under which a fault is written out. -/
def name : Fault → String
  | unexpectedCharacter => "UNEXPECTED_CHARACTER"
  | unterminatedString => "UNTERMINATED_STRING"

/-- The message that a fault is reported with. -/
def message : Fault → String
  | unexpectedCharacter => "Unexpected character."
  | unterminatedString => "Unterminated string."

/-- The fault that is reported with a given message. -/
def ofMessage? (text : String) : Option Fault := all.find? (·.message = text)

end Fault

/-- A fault found on a line. -/
structure Report where
  line : Int
  fault : Fault
deriving DecidableEq, Repr

/-- The same report a number of lines further down. -/
def Report.shiftLine (report : Report) (lines : Int) : Report :=
  { report with line := report.line + lines }

end LoxScan
