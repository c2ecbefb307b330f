import LoxScan.Report.Log
import LoxScan.Report.Record

/-!
# Reporters

Where errors go: into a collector, into the log, or to several reporters one
after the other.

## Main Definitions

* `Reporter` — a collector, a logging reporter, or a tee of reporters
* `Effect` — what reporting does: a record kept in a collector, or a log record
* `Reporter.effects` — what a reporter does with one error
* `Collections` — the errors held by all collectors
-/

namespace LoxScan

/-- A destination of errors.  A collector is known by its slot; the file that a
collector or a logging reporter was made for goes into its records. -/
inductive Reporter where
  | collector (slot : Nat) (sourceFile : Option String)
  | logging (sourceFile : Option String)
  | tee (targets : List Reporter)

/-- What happens when something is reported or logged. -/
inductive Effect where
  | collect (slot : Nat) (record : ErrorRecord)
  | log (record : LogRecord)
deriving DecidableEq, Repr

/-- The log record of an error, which names the file if there is one. -/
def errorLog (sourceFile : Option String) (line : Int) (message : String) : LogRecord :=
  let text := formatError line message
  { level := .warning
    logger := reporterLogger
    message := match sourceFile with
      | none => text
      | some file => if file = "" then text else file ++ ": " ++ text }

mutual

/-- What a reporter does with one error; a tee passes it to its targets in order. -/
def Reporter.effects (line : Int) (message : String) : Reporter → List Effect
  | .collector slot sourceFile => [.collect slot ⟨message, line, sourceFile⟩]
  | .logging sourceFile => [.log (errorLog sourceFile line message)]
  | .tee targets => Reporter.teeEffects line message targets

/-- What several reporters do with one error, one after the other. -/
def Reporter.teeEffects (line : Int) (message : String) : List Reporter → List Effect
  | [] => []
  | target :: rest => target.effects line message ++ Reporter.teeEffects line message rest

end

/-- A tee does what its targets do, in order. -/
theorem Reporter.effects_tee (line : Int) (message : String) (targets : List Reporter) :
    (Reporter.tee targets).effects line message
      = targets.flatMap (Reporter.effects line message) := by
  rw [Reporter.effects]
  induction targets with
  | nil => rfl
  | cons target rest ih => rw [Reporter.teeEffects, ih, List.flatMap_cons]

/-! ## Collections -/

/-- The errors held by all collectors, by slot. -/
abbrev Collections := List (List ErrorRecord)

namespace Collections

/-- The errors that the collector at a slot holds. -/
def errorsAt (collections : Collections) (slot : Nat) : List ErrorRecord :=
  (collections[slot]?).getD []

/-- One effect on the collectors. -/
def apply (collections : Collections) : Effect → Collections
  | .collect slot record => collections.modify slot (· ++ [record])
  | .log _ => collections

/-- Several effects on the collectors, in order. -/
def applyAll (collections : Collections) (effects : List Effect) : Collections :=
  effects.foldl apply collections

/-- Forget the errors that the collector at a slot holds. -/
def clear (collections : Collections) (slot : Nat) : Collections :=
  collections.modify slot (fun _ => [])

end Collections

/-- The log record of an effect, if it has one. -/
def Effect.logRecord? : Effect → Option LogRecord
  | .collect _ _ => none
  | .log record => some record

/-- The log records among some effects. -/
def logRecords (effects : List Effect) : List LogRecord :=
  effects.filterMap Effect.logRecord?

end LoxScan
