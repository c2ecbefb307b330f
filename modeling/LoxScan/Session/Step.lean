import LoxScan.Session.Basic

/-!
# Steps of a session

What a program does in a session, with blocks that have a configuration or an
accumulator of their own, and with threads.

## Main Definitions

* `SessionStep` — the steps
* `SessionAnswer` — what they answer
* `SessionStep.run` — the effect of one step
* `SessionStep.runBlock` — the effect of the steps of a block, up to the first failure
* `SessionStep.runEach` — the effect of independent steps, failures included
-/

namespace LoxScan

/-- The steps of a session. -/
inductive SessionStep where
  | makeReporter (name : String) (design : ReporterDesign)
  | report (name : String) (line : Int) (message : String)
  | errors (name : String)
  | clear (name : String)
  | setConfig (choice : ConfigChoice)
  | resetConfig
  | getConfig
  | enterConfig (name : String) (choice : ConfigChoice)
  | exitConfig (name : String)
  | enterProfile (name : String)
  | exitProfile (name : String)
  /-- Run steps with a configuration of their own, and return to the one before. -/
  | withConfig (choice : ConfigChoice) (body : List SessionStep)
  /-- Run steps with an accumulator of their own, and return to the one before. -/
  | withProfile (name : String) (body : List SessionStep)
  | accumulator
  | metrics (name : String)
  | newAccumulator (name : String)
  | record (name : String) (sourceLength tokenCount errorCount : Int)
  | scan (source : List Char) (reporter : Option String) (sourceFile : Option String)
  /-- Run steps in a thread, which begins with nothing set. -/
  | thread (body : List SessionStep)

/-- What a step answers. -/
inductive SessionAnswer where
  | done
  | config (config : ScanConfig)
  | metrics (metrics : Option Metrics)
  | errors (records : List ErrorRecord)
  | tokens (tokens : List Token)
  /-- The answers of the steps of a block. -/
  | block (answers : List SessionAnswer)
  /-- The answers and the logs of the steps of a thread. -/
  | thread (outcomes : List (Except SessionFailure SessionAnswer × List LogRecord))

/-- The answer that tells the current configuration. -/
def Session.tellConfig (s : Session) : SessionRun SessionFailure SessionAnswer :=
  .quiet (.config s.ambient.config) s

/-- The answer that tells the totals of the current accumulator. -/
def Session.tellMetrics (s : Session) : SessionRun SessionFailure SessionAnswer :=
  .quiet (.metrics s.currentMetrics) s

/-- The answer that tells the totals of a named accumulator. -/
def Session.tellMetricsOf (s : Session) (name : String) : SessionRun SessionFailure SessionAnswer :=
  .quiet (.metrics (s.metricsOf name)) s

namespace SessionStep

mutual

/-- The effect of one step. -/
def run : SessionStep → Session → SessionRun SessionFailure SessionAnswer
  | .makeReporter name design, s => .quiet .done (s.addReporter name design)
  | .report name line message, s => (s.report name line message).map fun _ => .done
  | .errors name, s => .quiet (.errors (s.errorsOf name)) s
  | .clear name, s => .quiet .done (s.clear name)
  | .setConfig choice, s => (s.setConfig (s.configOf choice)).tellConfig
  | .resetConfig, s => (s.setConfig ScanConfig.initial).tellConfig
  | .getConfig, s => s.tellConfig
  | .enterConfig name choice, s => (s.enterConfig name (s.configOf choice)).tellConfig
  | .exitConfig name, s => (s.exitConfig name).tellConfig
  | .enterProfile name, s => (s.enterProfile name).tellMetrics
  | .exitProfile name, s =>
    let left := s.exitProfile name
    left.map fun _ => .metrics left.session.currentMetrics
  | .withConfig choice body, s =>
    ((runBlock body (s.setConfig (s.configOf choice))).map .block).restore
      (·.setConfig s.ambient.config)
  | .withProfile name body, s =>
    ((runBlock body (s.beginProfile name)).map .block).restore
      (·.setAccumulator s.ambient.accumulator)
  | .accumulator, s => s.tellMetrics
  | .metrics name, s => s.tellMetricsOf name
  | .newAccumulator name, s => (s.addAccumulator name).tellMetricsOf name
  | .record name sourceLength tokenCount errorCount, s =>
    (s.recordAt (s.accumulatorNames.find? name) sourceLength tokenCount errorCount).tellMetricsOf
      name
  | .scan source reporter sourceFile, s =>
    ((s.scan source (reporter.bind s.reporters.find?) sourceFile).mapFailure .refused).map .tokens
  | .thread body, s =>
    let ended := runEach body s.beginThread
    .quiet (.thread ended.1) { ended.2 with ambient := s.ambient }

/-- The effect of the steps of a block: the first failure ends the block. -/
def runBlock : List SessionStep → Session → SessionRun SessionFailure (List SessionAnswer)
  | [], s => .quiet [] s
  | step :: rest, s =>
    let first := run step s
    match first.answer with
    | .error failure => { answer := .error failure, log := first.log, session := first.session }
    | .ok answer =>
      let remaining := runBlock rest first.session
      { answer := remaining.answer.map (answer :: ·)
        log := first.log ++ remaining.log
        session := remaining.session }

/-- The effect of independent steps: the answer and the log of each, and the
session afterwards. -/
def runEach : List SessionStep → Session →
    List (Except SessionFailure SessionAnswer × List LogRecord) × Session
  | [], s => ([], s)
  | step :: rest, s =>
    let first := run step s
    let remaining := runEach rest first.session
    ((first.answer, first.log) :: remaining.1, remaining.2)

end

end SessionStep

end LoxScan
