import LoxScan.CommandLine.Run
import LoxScan.Proofs.EndToEnd

/-!
# The command and its collector

The command does not go through a session.  It has a scanner of its own that reports to a
collector of its own, and it shows what that collector holds when all tokens have been delivered.
These are the errors of the scan of the text, each once and in order, so the outcome can be told
from the scan alone (`dump_eq`).

## Main Definitions

* `logLines` — what a command that shows the log writes of it
-/

namespace LoxScan

/-! ## What the collector holds -/

/-- A collector keeps each report once. -/
theorem Reporter.recordsAt_sendAll_collector (slot : Nat) (sourceFile : Option String)
    (reports : List Report) :
    recordsAt slot ((collector slot sourceFile).sendAll reports) =
      reports.map fun report => report.toRecord sourceFile := by
  rw [recordsAt_sendAll, List.map_eq_flatMap]
  refine List.flatMap_congr ?_
  intro report _
  simp [effects, recordsAt, Effect.recordAt?, Report.toRecord]

/-- A collector logs nothing. -/
theorem Reporter.logRecords_sendAll_collector (slot : Nat) (sourceFile : Option String)
    (reports : List Report) : logRecords ((collector slot sourceFile).sendAll reports) = [] := by
  rw [logRecords_sendAll, List.flatMap_eq_nil_iff]
  intro report _
  rfl

namespace ObservedDrive

variable (sourceFile : Option String) (source : List Char)

/-- The scanner of the command delivers the tokens of the scan. -/
theorem tokens_collecting :
    ((collecting sourceFile source).step .scanTokens).tokens = (scan source).tokens :=
  (Scanner.scanTokens_ofSource source).1

/-- **The collector of the command holds the errors of the scan** when it is over. -/
theorem errors_collecting :
    ((collecting sourceFile source).step .scanTokens).after.errors =
      (scan source).reports.map fun report => report.toRecord sourceFile := by
  show (Collections.applyAll [[]] (noticeEffects (.collector 0 sourceFile)
    (Scanner.ofSource source).scanTokens.notices)).errorsAt 0 = _
  rw [(Scanner.scanTokens_ofSource source).2, applyAll_noticeEffects,
    Collections.errorsAt_applyAll _ (by decide), Reporter.recordsAt_sendAll_collector]
  rfl

/-- It holds one if the scan has made a report. -/
theorem hadError_collecting :
    ((collecting sourceFile source).step .scanTokens).after.hadError =
      !(scan source).reports.isEmpty := by
  rw [hadError, errors_collecting, List.isEmpty_map]

/-- Only the two messages of the scan itself are logged. -/
theorem log_collecting :
    ((collecting sourceFile source).step .scanTokens).log =
      [startLog source, finishLog source] := by
  show logRecords (noticeEffects (.collector 0 sourceFile)
    (Scanner.ofSource source).scanTokens.notices) = _
  rw [(Scanner.scanTokens_ofSource source).2, noticeEffects_notices, List.cons_append,
    ← List.singleton_append, logRecords_append, logRecords_append,
    Reporter.logRecords_sendAll_collector]
  rfl

end ObservedDrive

/-! ## The outcome -/

/-- What the command writes of some log records, if it has been asked to show the log. -/
def logLines (verbose : Bool) (records : List LogRecord) : List Char :=
  if verbose then records.flatMap fun record => asLine record.line.toList else []

/-- **The outcome for a source text, told from its scan.** -/
theorem dump_eq (options : Options) (source : List Char) :
    dump options source =
      { status := if (scan source).reports = [] then .success else .faultySource
        output :=
          if options.json then jsonDump (scan source).tokens else plainDump (scan source).tokens
        errorOutput :=
          logLines options.verbose [startLog source, finishLog source]
            ++ ((scan source).reports.flatMap fun report =>
              asLine (formatError report.line report.fault.message).toList)
            ++ if (scan source).reports = [] then []
              else logLines options.verbose
                [errorCountLog (scan source).reports.length options.file] } := by
  simp only [dump, ObservedDrive.tokens_collecting, ObservedDrive.errors_collecting,
    ObservedDrive.hadError_collecting, ObservedDrive.log_collecting, List.flatMap_map,
    List.length_map]
  by_cases clean : (scan source).reports = []
  · simp [clean, logLines]
  · simp [clean, logLines, Report.toRecord]

/-- The output of a dump. -/
theorem output_dump (options : Options) (source : List Char) :
    (dump options source).output =
      if options.json then jsonDump (scan source).tokens else plainDump (scan source).tokens := by
  rw [dump_eq]

/-- **The outcome of a dump that shows no log.** -/
theorem dump_of_quiet {options : Options} (quiet : options.verbose = false)
    (source : List Char) :
    dump options source =
      { status := if (scan source).reports = [] then .success else .faultySource
        output :=
          if options.json then jsonDump (scan source).tokens else plainDump (scan source).tokens
        errorOutput := (scan source).reports.flatMap fun report =>
          asLine (formatError report.line report.fault.message).toList } := by
  have silent : ∀ records, logLines options.verbose records = [] := by
    intro records
    rw [quiet]
    rfl
  simp only [dump_eq, silent, List.nil_append, ite_self, List.append_nil]

/-- The outcome for a request to dump a source that can be read. -/
theorem runCommand_of_readable {arguments : List String} {options : Options}
    {input : StandardInput} {readFile : String → Except ReadFailure (List UInt8)}
    {source : List Char} (asked : Request.ofArguments arguments = .ok (.dump options))
    (readable : options.source input readFile = .ok source) :
    runCommand arguments input readFile = .ok (dump options source) := by
  rw [runCommand, asked]
  simp only [Request.run, readable]

end LoxScan
