import LoxScan.Registry
import LoxScan.Scanner

/-!
# Driving a scanner

One scanner with any number of named token streams on it, driven step by step in
any order.

## Main Definitions

* `Drive` — a scanner and the streams that have been opened on it
* `DriveStep` — what can be done with them
* `Drive.step` — the effect of one step
* `Drive.run` — the effect of several steps
-/

namespace LoxScan

/-- A scanner and the streams that have been opened on it, by name. -/
structure Drive where
  scanner : Scanner
  streams : Registry Stream

/-- The steps in which a scanner is driven. -/
inductive DriveStep where
  /-- Open a stream under a name; a stream that had the name is abandoned. -/
  | openStream (name : String)
  /-- Ask a stream for one token. -/
  | next (name : String)
  /-- Ask a stream for all of its tokens. -/
  | drain (name : String)
  /-- End a stream. -/
  | close (name : String)
  /-- Drain a new stream that has no name. -/
  | scanTokens
  /-- Look at the character at the cursor. -/
  | peek
  /-- Look at the character behind it. -/
  | peekNext
  /-- Read one character. -/
  | advance
  /-- Read one character if it is the expected text. -/
  | accept (expected : List Char)
deriving DecidableEq, Repr

/-- What a step answers. -/
inductive DriveAnswer where
  | done
  /-- A token, or none if the stream has no more. -/
  | delivered (token : Option Token)
  | tokens (tokens : List Token)
  /-- A character, or none past the end of the source. -/
  | character (found : Option Char)
  | accepted (success : Bool)
deriving DecidableEq

/-- What a step brings about: its answer, what was told meanwhile, and the state
it leaves behind. -/
structure DriveOutcome where
  answer : Except CursorError DriveAnswer
  notices : List Notice
  drive : Drive

namespace Drive

/-- A new scanner on a source text, without streams. -/
def ofSource (source : List Char) : Drive :=
  { scanner := Scanner.ofSource source, streams := [] }

/-- The stream with a given name; one that was never opened has nothing to deliver. -/
def stream (drive : Drive) (name : String) : Stream :=
  (drive.streams.find? name).getD .finished

/-- The effect of one step. -/
def step (drive : Drive) : DriveStep → DriveOutcome
  | .openStream name =>
    { answer := .ok .done
      notices := []
      drive := { drive with streams := drive.streams.assign name .fresh } }
  | .next name =>
    let delivery := (drive.stream name).next drive.scanner
    { answer := .ok (.delivered delivery.token)
      notices := delivery.notices
      drive :=
        { scanner := delivery.scanner
          streams := drive.streams.assign name delivery.stream } }
  | .drain name =>
    let drained := (drive.stream name).drain drive.scanner
    { answer := .ok (.tokens drained.tokens)
      notices := drained.notices
      drive := { scanner := drained.scanner, streams := drive.streams.assign name .finished } }
  | .close name =>
    { answer := .ok .done
      notices := []
      drive := { drive with streams := drive.streams.assign name .finished } }
  | .scanTokens =>
    let drained := drive.scanner.scanTokens
    { answer := .ok (.tokens drained.tokens)
      notices := drained.notices
      drive := { drive with scanner := drained.scanner } }
  | .peek =>
    { answer := .ok (.character drive.scanner.peek), notices := [], drive := drive }
  | .peekNext =>
    { answer := .ok (.character drive.scanner.peekNext), notices := [], drive := drive }
  | .advance =>
    match drive.scanner.advance with
    | .error failure => { answer := .error failure, notices := [], drive := drive }
    | .ok (c, scanner) =>
      { answer := .ok (.character (some c))
        notices := []
        drive := { drive with scanner := scanner } }
  | .accept expected =>
    let (success, scanner) := drive.scanner.accept expected
    { answer := .ok (.accepted success)
      notices := []
      drive := { drive with scanner := scanner } }

/-- The outcomes of several steps, one after the other. -/
def run (drive : Drive) : List DriveStep → List DriveOutcome
  | [] => []
  | step :: rest =>
    let outcome := drive.step step
    outcome :: outcome.drive.run rest

/-- The state after several steps. -/
def runState (drive : Drive) : List DriveStep → Drive
  | [] => drive
  | step :: rest => (drive.step step).drive.runState rest

@[simp] theorem runState_cons (drive : Drive) (step : DriveStep) (rest : List DriveStep) :
    drive.runState (step :: rest) = (drive.step step).drive.runState rest := rfl

theorem runState_append (drive : Drive) (first second : List DriveStep) :
    drive.runState (first ++ second) = (drive.runState first).runState second := by
  induction first generalizing drive with
  | nil => rfl
  | cons step rest ih => exact ih (drive.step step).drive

end Drive

end LoxScan
