import LoxScan.Drive
import LoxScan.Report.Reporter

/-!
# Observing a scan

What the notices of a scan do when a reporter watches it: faults go to the
reporter, and the beginning and the end of a scan go into the log.

## Main Definitions

* `Notice.effects` — the effects of one notice
* `noticeEffects` — the effects of several notices, in order
* `ObservedDrive` — a driven scanner whose faults go to a reporter
-/

namespace LoxScan

/-- A record that a scanner writes into the log. -/
def scannerLog (message : String) : LogRecord :=
  { level := .debug, logger := scannerLogger, message := message }

/-- What a notice does when a reporter watches the scan. -/
def Notice.effects (reporter : Reporter) : Notice → List Effect
  | .started characters => [.log (scannerLog s!"Scanning {characters} characters")]
  | .report made => reporter.effects made.line made.fault.message
  | .finished tokens lines => [.log (scannerLog s!"Scanned {tokens} tokens over {lines} lines")]

/-- What several notices do, in order. -/
def noticeEffects (reporter : Reporter) (notices : List Notice) : List Effect :=
  notices.flatMap (Notice.effects reporter)

/-- A driven scanner, the reporter of its faults, and what collectors hold. -/
structure ObservedDrive where
  drive : Drive
  reporter : Reporter
  collections : Collections

/-- What a step of an observed drive brings about. -/
structure ObservedOutcome where
  answer : Except CursorError DriveAnswer
  log : List LogRecord
  after : ObservedDrive

/-- The tokens that a step of an observed drive delivers. -/
def ObservedOutcome.tokens (outcome : ObservedOutcome) : List Token :=
  match outcome.answer with
  | .ok (.tokens tokens) => tokens
  | _ => []

namespace ObservedDrive

/-- A new scanner whose faults go to a new collector of errors in a file. -/
def collecting (sourceFile : Option String) (source : List Char) : ObservedDrive :=
  { drive := Drive.ofSource source, reporter := .collector 0 sourceFile, collections := [[]] }

/-- A new scanner whose faults go into the log. -/
def logging (source : List Char) : ObservedDrive :=
  { drive := Drive.ofSource source, reporter := .logging none, collections := [[]] }

/-- The errors that have been collected so far. -/
def errors (observed : ObservedDrive) : List ErrorRecord := observed.collections.errorsAt 0

/-- An error has been collected. -/
def hadError (observed : ObservedDrive) : Bool := !observed.errors.isEmpty

/-- The effect of one step. -/
def step (observed : ObservedDrive) (step : DriveStep) : ObservedOutcome :=
  let outcome := observed.drive.step step
  let effects := noticeEffects observed.reporter outcome.notices
  { answer := outcome.answer
    log := logRecords effects
    after :=
      { observed with
        drive := outcome.drive
        collections := observed.collections.applyAll effects } }

/-- The outcomes of several steps, one after the other. -/
def run (observed : ObservedDrive) : List DriveStep → List ObservedOutcome
  | [] => []
  | step :: rest =>
    let outcome := observed.step step
    outcome :: outcome.after.run rest

end ObservedDrive

end LoxScan
