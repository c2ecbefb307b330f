import LoxScan.Observation
import LoxScan.Registry
import LoxScan.Session.Config
import LoxScan.Session.Metrics

/-!
# Sessions

A session keeps the reporters, the accumulators and the open contexts that a
program works with, together with what is current in the thread that runs.

## Main Definitions

* `Session` — the state of a session
* `Session.scan` — a scan under the current configuration
* `Session.enterProfile`, `Session.exitProfile` — contexts that measure scans
* `Session.addReporter`, `Session.addAccumulator` — new reporters and accumulators
* `ReporterDesign`, `ConfigChoice` — what a new reporter or configuration is to be
* `SessionFailure` — why a step of a session fails

## Design Notes

A context with a configuration returns by setting the one that was current when it was
entered, in whatever thread it is left.  A measuring context belongs to its thread
instead: what it returns to is known there alone, and leaving it in another thread fails.

The lemmas at the end say which parts of a session each operation can change.
-/

namespace LoxScan

/-- What a measuring context returns to: the accumulator that was current when it was
entered, in the thread in which it was entered. -/
structure SavedAccumulator where
  thread : Nat
  accumulator : Option Nat
deriving DecidableEq, Repr

/-- The state of a session. -/
structure Session where
  reporters : Registry Reporter
  collections : Collections
  accumulators : List Metrics
  accumulatorNames : Registry Nat
  /-- The configurations to return to, by the name of the context that returns to them. -/
  savedConfigs : Registry ScanConfig
  /-- The accumulators to return to, by the name of the context that returns to them. -/
  savedAccumulators : Registry SavedAccumulator
  ambient : Ambient
  /-- The number of threads that have begun. -/
  threadCount : Nat

/-- What a new reporter is to be; a tee is made of reporters known by name. -/
inductive ReporterDesign where
  | collector (sourceFile : Option String)
  | logging (sourceFile : Option String)
  | tee (targets : List String)
deriving DecidableEq, Repr

/-- What a configuration is to be; its reporter is known by name. -/
structure ConfigChoice where
  reporter : Option String
  refuseErrors : Bool
deriving DecidableEq, Repr

/-- Why a step of a session fails. -/
inductive SessionFailure where
  /-- A scan refuses its errors. -/
  | refused (failure : ScanFailure)
  /-- A measuring context is left in another thread than the one it was entered in. -/
  | foreignContext
deriving DecidableEq, Repr

/-- The text of a failure.  That of a foreign context goes on to say which one it is, by
the addresses of the objects. -/
def SessionFailure.message : SessionFailure → String
  | .refused failure => failure.message
  | .foreignContext => "was created in a different Context"

/-- A value or a failure, what was logged meanwhile, and the session afterwards. -/
structure SessionRun (ε α : Type) where
  answer : Except ε α
  log : List LogRecord
  session : Session

namespace SessionRun

variable {ε ε' α β : Type}

/-- A step that answers without logging anything. -/
def quiet (answer : α) (session : Session) : SessionRun ε α :=
  { answer := .ok answer, log := [], session := session }

/-- The run with another answer. -/
def map (f : α → β) (run : SessionRun ε α) : SessionRun ε β :=
  { answer := run.answer.map f, log := run.log, session := run.session }

/-- The run with another failure. -/
def mapFailure (f : ε → ε') (run : SessionRun ε α) : SessionRun ε' α :=
  { answer := run.answer.mapError f, log := run.log, session := run.session }

/-- The run with another session afterwards. -/
def restore (run : SessionRun ε α) (f : Session → Session) : SessionRun ε α :=
  { run with session := f run.session }

end SessionRun

namespace Session

/-- A session in which nothing has happened. -/
def initial : Session where
  reporters := []
  collections := []
  accumulators := []
  accumulatorNames := []
  savedConfigs := []
  savedAccumulators := []
  ambient := Ambient.ofThread 0
  threadCount := 1

/-- The session in a new thread, which begins with nothing set. -/
def beginThread (s : Session) : Session :=
  { s with ambient := Ambient.ofThread s.threadCount, threadCount := s.threadCount + 1 }

/-! ## Reporters -/

/-- The session with a new reporter.  A collector starts out empty in a slot of its own. -/
def addReporter (s : Session) (name : String) (design : ReporterDesign) : Session :=
  match design with
  | .collector sourceFile =>
    { s with
      reporters := s.reporters.assign name (.collector s.collections.length sourceFile)
      collections := s.collections ++ [[]] }
  | .logging sourceFile => { s with reporters := s.reporters.assign name (.logging sourceFile) }
  | .tee targets =>
    { s with reporters := s.reporters.assign name (.tee (targets.filterMap s.reporters.find?)) }

/-- The session after some effects. -/
def perform (s : Session) (effects : List Effect) : Session :=
  { s with collections := s.collections.applyAll effects }

/-- The session after an error has gone to a named reporter, and what was logged. -/
def report (s : Session) (name : String) (line : Int) (message : String) :
    SessionRun SessionFailure Unit :=
  let effects := match s.reporters.find? name with
    | none => []
    | some reporter => reporter.effects line message
  { answer := .ok (), log := logRecords effects, session := s.perform effects }

/-- The errors that a named collector holds. -/
def errorsOf (s : Session) (name : String) : List ErrorRecord :=
  match s.reporters.find? name with
  | some (.collector slot _) => s.collections.errorsAt slot
  | _ => []

/-- The session after a named collector has forgotten its errors. -/
def clear (s : Session) (name : String) : Session :=
  match s.reporters.find? name with
  | some (.collector slot _) => { s with collections := s.collections.clear slot }
  | _ => s

/-! ## Configurations -/

/-- The configuration that a choice describes. -/
def configOf (s : Session) (choice : ConfigChoice) : ScanConfig where
  reporter := choice.reporter.bind fun name =>
    (s.reporters.find? name).map fun reporter => { name := name, reporter := reporter }
  refuseErrors := choice.refuseErrors

/-- The session with another current configuration. -/
def setConfig (s : Session) (config : ScanConfig) : Session :=
  { s with ambient := { s.ambient with config := config } }

/-- The session after a context with another configuration has been entered. -/
def enterConfig (s : Session) (name : String) (config : ScanConfig) : Session :=
  { s with savedConfigs := s.savedConfigs.assign name s.ambient.config }.setConfig config

/-- The session after a context has been left: the configuration is the one that
was current when that context was entered.  A context is left once. -/
def exitConfig (s : Session) (name : String) : Session :=
  match s.savedConfigs.find? name with
  | none => s
  | some config => { s with savedConfigs := s.savedConfigs.forget name }.setConfig config

/-! ## Accumulators -/

/-- The session with another current accumulator, or with none. -/
def setAccumulator (s : Session) (accumulator : Option Nat) : Session :=
  { s with ambient := { s.ambient with accumulator := accumulator } }

/-- The session with a new accumulator under a name. -/
def addAccumulator (s : Session) (name : String) : Session :=
  { s with
    accumulators := s.accumulators ++ [Metrics.zero]
    accumulatorNames := s.accumulatorNames.assign name s.accumulators.length }

/-- The session with a new accumulator under a name, which becomes the current one. -/
def beginProfile (s : Session) (name : String) : Session :=
  (s.addAccumulator name).setAccumulator (some s.accumulators.length)

/-- The session after a measuring context has been entered. -/
def enterProfile (s : Session) (name : String) : Session :=
  { s with
    savedAccumulators :=
      s.savedAccumulators.assign name ⟨s.ambient.thread, s.ambient.accumulator⟩ }.beginProfile name

/-- The session after a measuring context has been left: the accumulator is the one that
was current when that context was entered.  A context is left once.  In another thread
than its own it cannot be left: it is gone then, and the current accumulator stays. -/
def exitProfile (s : Session) (name : String) : SessionRun SessionFailure Unit :=
  match s.savedAccumulators.find? name with
  | none => .quiet () s
  | some saved =>
    let left := { s with savedAccumulators := s.savedAccumulators.forget name }
    if saved.thread = s.ambient.thread then .quiet () (left.setAccumulator saved.accumulator)
    else { answer := .error .foreignContext, log := [], session := left }

/-- The totals of the current accumulator. -/
def currentMetrics (s : Session) : Option Metrics :=
  s.ambient.accumulator.bind fun handle => s.accumulators[handle]?

/-- The totals of a named accumulator. -/
def metricsOf (s : Session) (name : String) : Option Metrics :=
  (s.accumulatorNames.find? name).bind fun handle => s.accumulators[handle]?

/-- The session after an accumulator has recorded a scan. -/
def recordAt (s : Session) (handle : Option Nat) (sourceLength tokenCount errorCount : Int) :
    Session :=
  match handle with
  | none => s
  | some handle =>
    { s with
      accumulators :=
        s.accumulators.modify handle (·.record sourceLength tokenCount errorCount) }

/-! ## Scanning -/

/-- The reporter of a scan: the one it is given, else the configured one, else the log. -/
def reporterFor (s : Session) (given : Option Reporter) (sourceFile : Option String) : Reporter :=
  match given with
  | some reporter => reporter
  | none =>
    match s.ambient.config.reporter with
    | some named => named.reporter
    | none => .logging sourceFile

/-- A scan under the current configuration.

Every error goes to the reporter of the scan.  Afterwards the current
accumulator records the scan, and only then the scan fails if it has errors and
the configuration refuses them; the failure carries this scan's errors alone. -/
def scan (s : Session) (source : List Char) (given : Option Reporter)
    (sourceFile : Option String) : SessionRun ScanFailure (List Token) :=
  let found := LoxScan.scan source
  let effects := noticeEffects (s.reporterFor given sourceFile) (found.notices source)
  let errors := found.reports.map (·.toRecord sourceFile)
  { answer :=
      if s.ambient.config.refuseErrors ∧ errors ≠ [] then .error { errors := errors }
      else .ok found.tokens
    log := logRecords effects
    session :=
      (s.perform effects).recordAt s.ambient.accumulator source.length found.tokens.length
        errors.length }

/-! ## What each operation leaves as it is -/

/-- A new reporter may come with a new collector. -/
theorem addReporter_eq (s : Session) (name : String) (design : ReporterDesign) :
    s.addReporter name design =
      { s with
        reporters := (s.addReporter name design).reporters
        collections := (s.addReporter name design).collections } := by
  cases design <;> rfl

/-- Clearing changes only what collectors hold. -/
theorem clear_eq (s : Session) (name : String) :
    s.clear name = { s with collections := (s.clear name).collections } := by
  rw [clear]
  split <;> rfl

/-- Leaving a context changes only the configuration. -/
theorem exitConfig_eq (s : Session) (name : String) :
    s.exitConfig name =
      { s with
        savedConfigs := (s.exitConfig name).savedConfigs
        ambient := { s.ambient with config := (s.exitConfig name).ambient.config } } := by
  rw [exitConfig]
  cases s.savedConfigs.find? name <;> rfl

/-- Leaving a measuring context changes only which accumulator is the current one. -/
theorem exitProfile_eq (s : Session) (name : String) :
    (s.exitProfile name).session =
      { s with
        savedAccumulators := (s.exitProfile name).session.savedAccumulators
        ambient :=
          { s.ambient with accumulator := (s.exitProfile name).session.ambient.accumulator } } := by
  rw [exitProfile]
  cases s.savedAccumulators.find? name with
  | none => rfl
  | some saved =>
    by_cases own : saved.thread = s.ambient.thread
    · simp only [own, if_true]
      rfl
    · simp only [own, if_false]

/-- Recording changes only what accumulators hold. -/
theorem recordAt_eq (s : Session) (handle : Option Nat)
    (sourceLength tokenCount errorCount : Int) :
    s.recordAt handle sourceLength tokenCount errorCount =
      { s with
        accumulators := (s.recordAt handle sourceLength tokenCount errorCount).accumulators } := by
  cases handle <;> rfl

/-- A scan changes only what collectors and accumulators hold. -/
theorem session_scan (s : Session) (source : List Char) (given : Option Reporter)
    (sourceFile : Option String) :
    (s.scan source given sourceFile).session =
      { s with
        collections := (s.scan source given sourceFile).session.collections
        accumulators := (s.scan source given sourceFile).session.accumulators } := by
  rw [scan, recordAt_eq]
  rfl

end Session

end LoxScan
