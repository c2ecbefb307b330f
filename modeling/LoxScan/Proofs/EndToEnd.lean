import LoxScan.Proofs.Interleaving
import LoxScan.Proofs.Routing
import LoxScan.Session.Step

/-!
# A scan from end to end

A scan in a session is the scan of its source, whatever is configured.  What is configured
decides who is told about it: one reporter, which is sent every report in order, and the
current accumulator, which records the scan.  Whether the scan fails is decided last, and by
the reports of this scan alone.

The errors of the scan are those in a collector of its own, which the scanner reports to right
after it has reported to the reporter of the scan (`Session.watchedScan`).  What other collectors
hold therefore makes no difference, even if the reporter of the scan is one of them.

## Main Definitions

* `Reporter.sendAll` — what a reporter does with several reports
* `Session.watchedScan` — a scan that takes its errors from a collector of its own
* `Session.Scanned` — what a scan brings about
-/

namespace LoxScan

/-! ## Reports to a reporter -/

/-- What a reporter does with several reports, one after the other. -/
def Reporter.sendAll (reporter : Reporter) (reports : List Report) : List Effect :=
  reports.flatMap fun report => reporter.effects report.line report.fault.message

/-- What is logged when a scan of a source begins. -/
def startLog (source : List Char) : LogRecord where
  level := .debug
  logger := "loxlex.lexer.core"
  message := s!"Scanning {source.length} characters"

/-- What is logged when a scan of a source has come to the end. -/
def finishLog (source : List Char) : LogRecord where
  level := .debug
  logger := "loxlex.lexer.core"
  message := s!"Scanned {(scan source).tokens.length} tokens over {lineTotal source} lines"

/-- A scan sends its reports to its reporter, between two messages of its own. -/
theorem noticeEffects_notices (reporter : Reporter) (source : List Char) :
    noticeEffects reporter ((scan source).notices source) =
      .log (startLog source) :: reporter.sendAll (scan source).reports ++
        [.log (finishLog source)] := by
  simp only [noticeEffects, Scan.notices, List.flatMap_append, List.flatMap_cons,
    List.flatMap_nil, List.flatMap_map, Notice.effects, List.append_nil, lineAfter_one_items]
  rfl

/-- What is logged is what is logged by the parts. -/
theorem logRecords_append (first second : List Effect) :
    logRecords (first ++ second) = logRecords first ++ logRecords second :=
  List.filterMap_append

theorem recordsAt_append (slot : Nat) (first second : List Effect) :
    recordsAt slot (first ++ second) = recordsAt slot first ++ recordsAt slot second :=
  List.filterMap_append

namespace Reporter

theorem logRecords_sendAll (reporter : Reporter) (reports : List Report) :
    logRecords (reporter.sendAll reports) =
      reports.flatMap fun report =>
        logRecords (reporter.effects report.line report.fault.message) :=
  List.filterMap_flatMap

theorem recordsAt_sendAll (reporter : Reporter) (slot : Nat) (reports : List Report) :
    recordsAt slot (reporter.sendAll reports) =
      reports.flatMap fun report =>
        recordsAt slot (reporter.effects report.line report.fault.message) :=
  List.filterMap_flatMap

/-- Nothing comes to a collector to which there is no path. -/
theorem recordsAt_sendAll_of_unreachable {reporter : Reporter} {slot : Nat}
    (unreachable : reporter.pathsTo slot = ∅) (reports : List Report) :
    recordsAt slot (reporter.sendAll reports) = [] := by
  rw [recordsAt_sendAll, List.flatMap_eq_nil_iff]
  intro report _
  exact recordsAt_effects_of_unreachable unreachable _ _

end Reporter

/-- The messages of a scan itself are for no collector. -/
theorem recordsAt_noticeEffects (slot : Nat) (reporter : Reporter) (source : List Char) :
    recordsAt slot (noticeEffects reporter ((scan source).notices source)) =
      recordsAt slot (reporter.sendAll (scan source).reports) := by
  rw [noticeEffects_notices, List.cons_append, ← List.singleton_append, recordsAt_append,
    recordsAt_append]
  exact List.append_nil _

/-- Collectors hold after a scan what they hold after its reports. -/
theorem applyAll_noticeEffects (held : Collections) (reporter : Reporter) (source : List Char) :
    held.applyAll (noticeEffects reporter ((scan source).notices source)) =
      held.applyAll (reporter.sendAll (scan source).reports) := by
  refine Collections.ext_errorsAt (by simp) ?_
  intro slot inside
  rw [Collections.length_applyAll] at inside
  rw [held.errorsAt_applyAll inside, held.errorsAt_applyAll inside, recordsAt_noticeEffects]

/-! ## The collector of a scan -/

namespace Session

/-- A new scanner of a source, which reports to the reporter of a scan and then to a new
collector. -/
def watch (s : Session) (source : List Char) (given : Option Reporter)
    (sourceFile : Option String) : ObservedDrive where
  drive := Drive.ofSource source
  reporter := .tee [s.reporterFor given sourceFile, .collector s.collections.length sourceFile]
  collections := s.collections ++ [[]]

/-- **A scan that takes its errors from a collector of its own.**  The collector is new, and
it is gone when the scan is over. -/
def watchedScan (s : Session) (source : List Char) (given : Option Reporter)
    (sourceFile : Option String) : SessionRun ScanFailure (List Token) :=
  let outcome := (s.watch source given sourceFile).step .scanTokens
  let errors := outcome.after.collections.errorsAt s.collections.length
  { answer :=
      if s.ambient.config.refuseErrors ∧ errors ≠ [] then .error { errors := errors }
      else .ok outcome.tokens
    log := outcome.log
    session :=
      { s with collections := outcome.after.collections.take s.collections.length }.recordAt
        s.ambient.accumulator source.length outcome.tokens.length errors.length }

end Session

namespace Reporter

variable (reporter : Reporter) (slot : Nat) (sourceFile : Option String)

/-- A tee of a reporter and a collector keeps the error after the reporter has been told. -/
theorem effects_tee_collector (line : Int) (message : String) :
    (tee [reporter, .collector slot sourceFile]).effects line message =
      reporter.effects line message ++ [.collect slot ⟨message, line, sourceFile⟩] := by
  rw [effects_tee, List.flatMap_cons, List.flatMap_singleton]
  rfl

/-- A collector beside a reporter changes nothing about what is logged. -/
theorem logRecords_sendAll_tee (reports : List Report) :
    logRecords ((tee [reporter, .collector slot sourceFile]).sendAll reports) =
      logRecords (reporter.sendAll reports) := by
  rw [logRecords_sendAll, logRecords_sendAll]
  refine List.flatMap_congr ?_
  intro report _
  rw [effects_tee_collector, logRecords_append]
  exact List.append_nil _

variable {slot}

/-- A collector beside a reporter changes nothing about the other collectors. -/
theorem recordsAt_sendAll_tee_of_ne {other : Nat} (differ : other ≠ slot)
    (reports : List Report) :
    recordsAt other ((tee [reporter, .collector slot sourceFile]).sendAll reports) =
      recordsAt other (reporter.sendAll reports) := by
  rw [recordsAt_sendAll, recordsAt_sendAll]
  refine List.flatMap_congr ?_
  intro report _
  have nothing : recordsAt other
      [.collect slot ⟨report.fault.message, report.line, sourceFile⟩] = [] := by
    simp [recordsAt, Effect.recordAt?, differ.symm]
  rw [effects_tee_collector, recordsAt_append, nothing, List.append_nil]

variable {reporter}

/-- **A collector beside a reporter that has no path to it** keeps each report once. -/
theorem recordsAt_sendAll_tee (unreachable : reporter.pathsTo slot = ∅)
    (reports : List Report) :
    recordsAt slot ((tee [reporter, .collector slot sourceFile]).sendAll reports) =
      reports.map fun report => report.toRecord sourceFile := by
  rw [recordsAt_sendAll, List.map_eq_flatMap]
  refine List.flatMap_congr ?_
  intro report _
  have kept : recordsAt slot
      [.collect slot ⟨report.fault.message, report.line, sourceFile⟩] =
        [report.toRecord sourceFile] := by
    simp [recordsAt, Effect.recordAt?, Report.toRecord]
  rw [effects_tee_collector, recordsAt_append, kept,
    recordsAt_effects_of_unreachable unreachable, List.nil_append]

end Reporter

namespace Session

variable (s : Session) (source : List Char) (given : Option Reporter) (sourceFile : Option String)

/-- What a scanner delivers makes no difference to who watches it. -/
theorem tokens_watch :
    ((s.watch source given sourceFile).step .scanTokens).tokens = (LoxScan.scan source).tokens :=
  (Scanner.scanTokens_ofSource source).1

theorem log_watch :
    ((s.watch source given sourceFile).step .scanTokens).log =
      logRecords (noticeEffects (s.reporterFor given sourceFile)
        ((LoxScan.scan source).notices source)) := by
  show logRecords (noticeEffects (.tee _) (Scanner.ofSource source).scanTokens.notices) = _
  rw [(Scanner.scanTokens_ofSource source).2, noticeEffects_notices, noticeEffects_notices,
    List.cons_append, List.cons_append, ← List.singleton_append, logRecords_append,
    logRecords_append, Reporter.logRecords_sendAll_tee, ← logRecords_append, ← logRecords_append]
  rfl

variable {s given sourceFile}

/-- **The collectors of a session hold what the reporter of a scan sends them**, and the new
one holds the errors of the scan. -/
theorem collections_watch
    (unreachable : (s.reporterFor given sourceFile).pathsTo s.collections.length = ∅) :
    ((s.watch source given sourceFile).step .scanTokens).after.collections =
      s.collections.applyAll (noticeEffects (s.reporterFor given sourceFile)
          ((LoxScan.scan source).notices source)) ++
        [(LoxScan.scan source).reports.map fun report => report.toRecord sourceFile] := by
  show (s.collections ++ [[]] : Collections).applyAll
    (noticeEffects (.tee _) (Scanner.ofSource source).scanTokens.notices) = _
  rw [(Scanner.scanTokens_ofSource source).2, applyAll_noticeEffects, applyAll_noticeEffects]
  refine Collections.ext_errorsAt (by simp) ?_
  intro slot inside
  rw [Collections.length_applyAll] at inside
  rw [Collections.errorsAt_applyAll _ inside]
  rw [List.length_append, List.length_singleton] at inside
  by_cases old : slot < s.collections.length
  · -- the new collector is none of the session's
    rw [Collections.errorsAt_append_of_lt _ old,
      Collections.errorsAt_append_of_lt _ (by rwa [Collections.length_applyAll]),
      Collections.errorsAt_applyAll _ old,
      Reporter.recordsAt_sendAll_tee_of_ne _ _ (Nat.ne_of_lt old)]
  · obtain rfl : slot = s.collections.length := by omega
    have length : (s.collections.applyAll ((s.reporterFor given sourceFile).sendAll
        (LoxScan.scan source).reports)).length = s.collections.length :=
      Collections.length_applyAll _ _
    rw [Collections.errorsAt_concat, Reporter.recordsAt_sendAll_tee _ unreachable,
      List.nil_append]
    conv_rhs => rw [← length]
    exact (Collections.errorsAt_concat _ _).symm

/-- **A scan is what a scan with a collector of its own is**, unless the reporter of the scan
has a path to a collector that the session does not have. -/
theorem watchedScan_eq_scan
    (unreachable : (s.reporterFor given sourceFile).pathsTo s.collections.length = ∅) :
    s.watchedScan source given sourceFile = s.scan source given sourceFile := by
  have length : (s.collections.applyAll (noticeEffects (s.reporterFor given sourceFile)
      ((LoxScan.scan source).notices source))).length = s.collections.length :=
    Collections.length_applyAll _ _
  have errors : ((s.watch source given sourceFile).step .scanTokens).after.collections.errorsAt
      s.collections.length =
        (LoxScan.scan source).reports.map fun report => report.toRecord sourceFile := by
    rw [collections_watch source unreachable, ← length]
    exact Collections.errorsAt_concat _ _
  have others : ((s.watch source given sourceFile).step .scanTokens).after.collections.take
      s.collections.length = s.collections.applyAll (noticeEffects
        (s.reporterFor given sourceFile) ((LoxScan.scan source).notices source)) := by
    rw [collections_watch source unreachable, ← length, List.take_left]
  simp only [watchedScan, errors, others, tokens_watch, log_watch]
  rfl

/-! ## The whole scan -/

/-- **What a scan brings about** that is given a reporter, where `tokens` and `reports` are
what a scanner of the source delivers and reports when nobody else uses it. -/
structure Scanned (s : Session) (source : List Char) (sourceFile : Option String)
    (reporter : Reporter) (tokens : List Token) (reports : List Report)
    (run : SessionRun ScanFailure (List Token)) : Prop where
  /-- It returns the tokens, unless errors are refused and it made a report. -/
  returns_iff : ∀ found, run.answer = .ok found ↔
    found = tokens ∧ (s.ambient.config.refuseErrors = true → reports = [])
  /-- It fails with all of its reports, if errors are refused and it made one. -/
  fails_iff : ∀ failure, run.answer = .error failure ↔
    failure.errors = reports.map (fun report => report.toRecord sourceFile) ∧
      s.ambient.config.refuseErrors = true ∧ reports ≠ []
  /-- The reporter has been sent the reports, one after the other. -/
  collections_eq : run.session.collections =
    reports.foldl (fun held report =>
      held.applyAll (reporter.effects report.line report.fault.message)) s.collections
  /-- It has logged them in between two messages of the scan itself. -/
  log_eq : run.log =
    startLog source :: (reports.flatMap fun report =>
      logRecords (reporter.effects report.line report.fault.message)) ++ [finishLog source]
  /-- A collector to which the reporter has no path has been sent nothing. -/
  unreached : ∀ slot, reporter.pathsTo slot = ∅ →
    run.session.collections.errorsAt slot = s.collections.errorsAt slot
  /-- The current accumulator has recorded the scan, also if it fails. -/
  recorded : ∀ handle, s.ambient.accumulator = some handle →
    run.session.accumulators[handle]? = s.accumulators[handle]?.map fun metrics =>
      { sourceLength := metrics.sourceLength + source.length
        tokenCount := metrics.tokenCount + tokens.length
        errorCount := metrics.errorCount + reports.length
        scanCalls := metrics.scanCalls + 1 }
  /-- No other accumulator has. -/
  unrecorded : ∀ handle, s.ambient.accumulator ≠ some handle →
    run.session.accumulators[handle]? = s.accumulators[handle]?
  /-- Nothing else has changed. -/
  session_eq : run.session =
    { s with
      collections := run.session.collections
      accumulators := run.session.accumulators }

/-- The reporter of a scan is the one that it is given, else the configured one, else the log. -/
theorem reporterFor_eq (s : Session) (given : Option Reporter) (sourceFile : Option String) :
    s.reporterFor given sourceFile =
      given.getD ((s.ambient.config.reporter.map NamedReporter.reporter).getD
        (.logging sourceFile)) := by
  cases given with
  | some reporter => rfl
  | none =>
    rw [reporterFor, Option.getD_none]
    cases s.ambient.config.reporter <;> rfl

/-- What a reporter is sent is sent report by report. -/
theorem applyAll_sendAll (held : Collections) (reporter : Reporter) (reports : List Report) :
    held.applyAll (reporter.sendAll reports) =
      reports.foldl (fun held report =>
        held.applyAll (reporter.effects report.line report.fault.message)) held :=
  List.foldl_flatMap

/-- Recording a scan changes the totals of one accumulator. -/
theorem accumulators_recordAt (s : Session) (accumulator : Option Nat)
    (sourceLength tokenCount errorCount : Int) (handle : Nat) :
    (s.recordAt accumulator sourceLength tokenCount errorCount).accumulators[handle]? =
      if accumulator = some handle then
        s.accumulators[handle]?.map fun metrics =>
          metrics.record sourceLength tokenCount errorCount
      else s.accumulators[handle]? := by
  cases accumulator with
  | none => rfl
  | some current =>
    by_cases same : current = handle
    · simp [recordAt, same]
    · simp [recordAt, same]

/-- The current configuration makes no difference to a record. -/
theorem recordAt_setConfig (s : Session) (config : ScanConfig) (accumulator : Option Nat)
    (sourceLength tokenCount errorCount : Int) :
    (s.setConfig config).recordAt accumulator sourceLength tokenCount errorCount =
      (s.recordAt accumulator sourceLength tokenCount errorCount).setConfig config := by
  cases accumulator <;> rfl

/-- Whether a scan fails is decided by its reports. -/
theorem answer_scan (s : Session) (source : List Char) (given : Option Reporter)
    (sourceFile : Option String) :
    (s.scan source given sourceFile).answer =
      if s.ambient.config.refuseErrors = true ∧ (LoxScan.scan source).reports ≠ [] then
        .error ⟨(LoxScan.scan source).reports.map fun report => report.toRecord sourceFile⟩
      else .ok (LoxScan.scan source).tokens := by
  simp only [scan, ne_eq, List.map_eq_nil_iff]

/-- **Every scan is such a scan.** -/
theorem scanned_scan (s : Session) (source : List Char) (given : Option Reporter)
    (sourceFile : Option String) :
    s.Scanned source sourceFile (s.reporterFor given sourceFile)
      (LoxScan.scan source).tokens (LoxScan.scan source).reports
      (s.scan source given sourceFile) where
  returns_iff := by
    intro found
    rw [answer_scan]
    split
    · next refused => simp [refused.1, refused.2]
    · next accepted =>
      have clean : s.ambient.config.refuseErrors = true → (LoxScan.scan source).reports = [] := by
        intro refuses
        exact not_not.mp fun made => accepted ⟨refuses, made⟩
      rw [Except.ok.injEq]
      exact ⟨fun same => ⟨same.symm, clean⟩, fun same => same.1.symm⟩
  fails_iff := by
    rintro ⟨errors⟩
    rw [answer_scan]
    split
    · next refused =>
      rw [Except.error.injEq, ScanFailure.mk.injEq]
      exact ⟨fun same => ⟨same.symm, refused⟩, fun same => same.1.symm⟩
    · next accepted => simp only [reduceCtorEq, accepted, and_false]
  collections_eq := by
    rw [← applyAll_sendAll, ← applyAll_noticeEffects, scan, recordAt_eq]
    rfl
  log_eq := by
    show logRecords (noticeEffects _ _) = _
    rw [noticeEffects_notices, List.cons_append, ← List.singleton_append, logRecords_append,
      logRecords_append, Reporter.logRecords_sendAll]
    rfl
  unreached := by
    intro slot unreachable
    have nothing := Reporter.recordsAt_sendAll_of_unreachable unreachable
      (LoxScan.scan source).reports
    rw [← recordsAt_noticeEffects] at nothing
    rw [scan, recordAt_eq]
    exact Collections.errorsAt_applyAll_of_nil _ nothing
  recorded := by
    intro handle current
    rw [scan, accumulators_recordAt, if_pos current, List.length_map]
    rfl
  unrecorded := by
    intro handle other
    rw [scan, accumulators_recordAt, if_neg other]
    rfl
  session_eq := s.session_scan source given sourceFile

end Session

/-- **A scan in a session, from end to end.**  It returns what a scanner of the source delivers
that nobody else uses; the one reporter that is selected is sent what this scanner reports,
and no other one is; the current accumulator records the scan, whether or not it fails; and it
fails exactly if errors are refused and this scan itself has made a report, with all of its
reports.  A reporter that is configured makes no difference to a scan that is given one, and
the errors of a scan are those that a collector of its own holds when it is over. -/
theorem scan_endToEnd (s : Session) (source : List Char) (given : Option Reporter)
    (sourceFile : Option String) :
    s.Scanned source sourceFile
        (given.getD ((s.ambient.config.reporter.map NamedReporter.reporter).getD
          (.logging sourceFile)))
        (Scanner.ofSource source).scanTokens.tokens
        ((Scanner.ofSource source).scanTokens.notices.filterMap Notice.report?)
        (s.scan source given sourceFile) ∧
      (∀ (reporter : Reporter) (config : ScanConfig),
        config.refuseErrors = s.ambient.config.refuseErrors →
          (s.setConfig config).scan source (some reporter) sourceFile =
            (s.scan source (some reporter) sourceFile).restore (·.setConfig config)) ∧
      ((s.reporterFor given sourceFile).pathsTo s.collections.length = ∅ →
        s.watchedScan source given sourceFile = s.scan source given sourceFile) := by
  refine ⟨?_, ?_, Session.watchedScan_eq_scan source⟩
  · rw [Scanner.reports_scanTokens_ofSource, (Scanner.scanTokens_ofSource source).1,
      ← Session.reporterFor_eq]
    exact s.scanned_scan source given sourceFile
  · intro reporter config same
    have answer : (s.setConfig config).ambient.config.refuseErrors =
        s.ambient.config.refuseErrors := same
    rw [Session.scan, Session.scan, answer]
    show _ = SessionRun.mk _ _ _
    congr 1
    exact Session.recordAt_setConfig (s.perform _) config _ _ _ _

/-- A scan that is refused has been recorded, and the collector that it was given has kept its
only error behind one that was there before.  The failure does not tell of that one. -/
theorem scan_endToEnd_refused :
    let before : Session :=
      { Session.initial with
        collections := [[⟨"m", 7, none⟩]]
        accumulators := [Metrics.zero]
        ambient := ⟨⟨none, true⟩, some 0, 0⟩ }
    let run := before.scan "@".toList (some (.collector 0 none)) (some "f")
    run.answer = .error ⟨[⟨"Unexpected character.", 1, some "f"⟩]⟩ ∧
      run.session.collections = [[⟨"m", 7, none⟩, ⟨"Unexpected character.", 1, none⟩]] ∧
      run.session.accumulators[0]? = some ⟨1, 1, 1, 1⟩ := by
  intro before run
  have outcome := (scan_endToEnd before "@".toList (some (.collector 0 none)) (some "f")).1
  have reports : (Scanner.ofSource "@".toList).scanTokens.notices.filterMap Notice.report? =
      [⟨1, .unexpectedCharacter⟩] := by
    decide +kernel
  have tokens : (Scanner.ofSource "@".toList).scanTokens.tokens = [Token.endOfInput 1] := by
    decide +kernel
  rw [reports, tokens] at outcome
  refine ⟨?_, ?_, ?_⟩
  · exact (outcome.fails_iff _).mpr ⟨rfl, rfl, by simp⟩
  · exact outcome.collections_eq.trans rfl
  · exact (outcome.recorded 0 rfl).trans rfl

end LoxScan
