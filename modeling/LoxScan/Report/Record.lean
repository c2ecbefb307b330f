import LoxScan.Report.Fault

/-!
# Error records

What is kept of a reported error, and the failure of a scan that refuses source
text with errors.

## Main Definitions

* `ErrorRecord` — message, line and file of a reported error
* `ErrorRecord.describe` — the one-line text of a record
* `ScanFailure` — all errors of a refused scan
* `formatError` — an error as it is shown to a user
-/

namespace LoxScan

/-- An error as it is shown to a user. -/
def formatError (line : Int) (message : String) : String :=
  s!"[line {line}] Error: {message}"

/-- What is kept of a reported error.  Records are equal when all three parts are. -/
structure ErrorRecord where
  message : String
  line : Int
  sourceFile : Option String
deriving DecidableEq, Repr

namespace ErrorRecord

/-- The fault that was reported, if the message is that of one. -/
def fault? (record : ErrorRecord) : Option Fault := Fault.ofMessage? record.message

/-- Where the error is: the line, behind the name of the file if there is one. -/
def location (record : ErrorRecord) : String :=
  match record.sourceFile with
  | none => s!"{record.line}"
  | some file => if file = "" then s!"{record.line}" else s!"{file}:{record.line}"

/-- The one-line text of a record. -/
def describe (record : ErrorRecord) : String :=
  record.location ++ " " ++ record.message

/-- The number of different records in a list. -/
def countDistinct (records : List ErrorRecord) : Nat := records.eraseDups.length

end ErrorRecord

/-- The record that is kept of a report on a scan of a file. -/
def Report.toRecord (report : Report) (sourceFile : Option String) : ErrorRecord :=
  { message := report.fault.message, line := report.line, sourceFile := sourceFile }

/-- The failure of a scan that refuses errors, with every error of that scan. -/
structure ScanFailure where
  errors : List ErrorRecord
deriving DecidableEq, Repr

/-- The text of a failure: how many errors there are, and each of them. -/
def ScanFailure.message (failure : ScanFailure) : String :=
  let count := failure.errors.length
  let noun := if count = 1 then "error" else "errors"
  s!"{count} lexical {noun}: " ++ "; ".intercalate (failure.errors.map ErrorRecord.describe)

end LoxScan
