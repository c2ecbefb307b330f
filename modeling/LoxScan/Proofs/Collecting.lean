import LoxScan.Proofs.EndToEnd
import LoxScan.Proofs.Moments
import Mathlib.Data.List.DropRight

/-!
# What collectors hold during a session

Reports go to reporters by name, by being the reporter of a scan, and by being the configured
one; and a reporter may be a tee of tees in which one collector occurs many times.  What a
collector holds is all the same a matter of counting: every report that was sent to some
reporter is in it once for each path from there to the collector, and the reports come in the
order in which they were sent (`Moment.arrivals`).

That no report gets lost on the way rests on one more invariant.  Collectors are known by
their slots, and every reporter that a session can send anything to, be it in the registry, in
the current configuration or in one that a context will return to, has only collectors that
the session has made (`Session.KnowsOnly`).

## Main Definitions

* `Moment.sent` — the reports that are sent in a step, and the reporters that they go to
* `Moment.arrivals`, `arrivalsSince` — what arrives at a collector, and since it was cleared
* `collectorFiles` — the files of all collectors that have been made
* `Session.KnowsOnly` — a session whose reporters lead to its own collectors
-/

namespace LoxScan

/-! ## What is sent -/

/-- A report and the reporter that it is sent to. -/
structure SentReport where
  reporter : Reporter
  line : Int
  message : String

namespace SentReport

/-- What the reporter does with the report. -/
def effects (sent : SentReport) : List Effect :=
  sent.reporter.effects sent.line sent.message

/-- **What arrives at a collector**: the report, once for each path from the reporter. -/
noncomputable def arrivals (slot : Nat) (sent : SentReport) : List (Int × String) :=
  List.replicate (sent.reporter.pathsTo slot).ncard (sent.line, sent.message)

end SentReport

namespace Moment

/-- **The reports that are sent in a step.**  A report by hand goes to the reporter of a name,
and those of a scan go to the reporter that it is given by name, else to the configured one,
else into the log. -/
def sent (moment : Moment) : List SentReport :=
  match moment.step with
  | .report name line message =>
    (moment.session.reporters.find? name).toList.map fun reporter => ⟨reporter, line, message⟩
  | .scan source name sourceFile =>
    (scan source).reports.map fun report =>
      ⟨(name.bind moment.session.reporters.find?).getD
          ((moment.session.ambient.config.reporter.map NamedReporter.reporter).getD
            (.logging sourceFile)),
        report.line, report.fault.message⟩
  | _ => []

/-- The collector that is cleared in a step, if one is. -/
def cleared? (moment : Moment) : Option Nat :=
  match moment.step with
  | .clear name =>
    match moment.session.reporters.find? name with
    | some (.collector slot _) => some slot
    | _ => none
  | _ => none

/-- The file of the collector that is made in a step, if one is. -/
def newCollector? (moment : Moment) : Option (Option String) :=
  match moment.step with
  | .makeReporter _ (.collector sourceFile) => some sourceFile
  | _ => none

/-- What arrives at a collector in a step. -/
noncomputable def arrivals (slot : Nat) (moment : Moment) : List (Int × String) :=
  moment.sent.flatMap (SentReport.arrivals slot)

end Moment

/-- **What has arrived at a collector since it was last cleared**, in order. -/
noncomputable def arrivalsSince (slot : Nat) (past : List Moment) : List (Int × String) :=
  (past.rtakeWhile fun moment => moment.cleared? ≠ some slot).flatMap (Moment.arrivals slot)

/-- The files of the collectors that have been made, slot by slot. -/
def collectorFiles (past : List Moment) : List (Option String) :=
  past.filterMap Moment.newCollector?

/-- The record of an error that a collector with a given file keeps. -/
def arrivalRecord (sourceFile : Option String) (arrival : Int × String) : ErrorRecord :=
  ⟨arrival.2, arrival.1, sourceFile⟩

theorem collectorFiles_concat (past : List Moment) (moment : Moment) :
    collectorFiles (past ++ [moment]) =
      collectorFiles past ++ moment.newCollector?.toList := by
  rw [collectorFiles, List.filterMap_append, List.filterMap_cons]
  cases moment.newCollector? <;> rfl

/-- A step clears a collector, or something more arrives at it. -/
theorem arrivalsSince_concat (slot : Nat) (past : List Moment) (moment : Moment) :
    arrivalsSince slot (past ++ [moment]) =
      if moment.cleared? = some slot then []
      else arrivalsSince slot past ++ moment.arrivals slot := by
  rw [arrivalsSince, arrivalsSince]
  split
  · next cleared =>
    rw [List.rtakeWhile_concat_neg _ _ _ (by simpa using cleared)]
    rfl
  · next kept =>
    rw [List.rtakeWhile_concat_pos _ _ _ (by simpa using kept), List.flatMap_append,
      List.flatMap_singleton]

/-! ## Reporters of a session -/

/-- The collectors of a configuration are among those whose files are given. -/
def ScanConfig.Among (files : List (Option String)) (config : ScanConfig) : Prop :=
  ∀ named, config.reporter = some named → named.reporter.Among files

/-- **A session has made collectors for the given files, and its reporters lead only to them.** -/
structure Session.KnowsOnly (s : Session) (files : List (Option String)) : Prop where
  length_eq : s.collections.length = files.length
  reporters : ∀ entry ∈ s.reporters, entry.2.Among files
  config : s.ambient.config.Among files
  savedConfigs : ∀ entry ∈ s.savedConfigs, entry.2.Among files

namespace Reporter.Among

variable {files : List (Option String)} {reporter : Reporter} {slot : Nat}

/-- More collectors change nothing about those that a reporter has. -/
theorem append (among : reporter.Among files) (more : List (Option String)) :
    reporter.Among (files ++ more) := by
  intro path slot sourceFile reached
  have present := among path slot sourceFile reached
  rwa [List.getElem?_append_left (List.getElem?_eq_some_iff.mp present).1]

/-- There is no path to a collector that has not been made. -/
theorem pathsTo_eq_empty (among : reporter.Among files) (outside : files.length ≤ slot) :
    reporter.pathsTo slot = ∅ := by
  rw [Set.eq_empty_iff_forall_notMem]
  rintro path ⟨sourceFile, reached⟩
  have present := among path slot sourceFile reached
  rw [List.getElem?_eq_none outside] at present
  cases present

end Reporter.Among

/-- A logging reporter has no collectors. -/
theorem Reporter.among_logging (files : List (Option String)) (sourceFile : Option String) :
    (Reporter.logging sourceFile).Among files := by
  intro path slot sourceFile' reached
  cases path with
  | nil => cases reached
  | cons => cases reached

/-- A collector that has just been made is the last one. -/
theorem Reporter.among_collector (files : List (Option String)) (sourceFile : Option String) :
    (Reporter.collector files.length sourceFile).Among (files ++ [sourceFile]) := by
  intro path slot sourceFile' reached
  cases path with
  | nil =>
    cases reached
    exact List.getElem?_concat_length
  | cons => cases reached

/-- The collectors of a tee are those of its targets. -/
theorem Reporter.among_tee {files : List (Option String)} {targets : List Reporter}
    (among : ∀ target ∈ targets, target.Among files) : (Reporter.tee targets).Among files := by
  intro path slot sourceFile reached
  obtain ⟨index, rest, target, rfl, present, further⟩ :=
    (Reporter.follow?_tee_eq_some_iff (fun _ => by simp)).mp reached
  exact among target (List.mem_of_getElem? present) rest slot sourceFile further

/-! ## One step -/

/-- What a step does to the collectors: it makes a new one, clears one, or sends reports. -/
def Moment.applyTo (moment : Moment) (held : Collections) : Collections :=
  match moment.newCollector?, moment.cleared? with
  | some _, _ => held ++ [[]]
  | none, some slot => held.clear slot
  | none, none => held.applyAll (moment.sent.flatMap SentReport.effects)

/-- A step makes one more collector or none. -/
theorem Moment.length_applyTo (moment : Moment) (held : Collections) :
    (moment.applyTo held).length = held.length + moment.newCollector?.toList.length := by
  rw [applyTo]
  cases moment.newCollector? with
  | some sourceFile => exact List.length_append
  | none =>
    cases moment.cleared? with
    | some slot => exact List.length_modify ..
    | none => exact Collections.length_applyAll _ _

/-- **What has happened to the collectors when a step has begun.** -/
theorem SessionStep.collections_opening (step : SessionStep) (s : Session) :
    (step.opening s).collections = Moment.applyTo ⟨step, s⟩ s.collections := by
  cases step with
  | makeReporter name design => cases design <;> rfl
  | report name line message =>
    simp only [opening, run, Session.report, SessionRun.map, Session.perform, Moment.applyTo,
      Moment.newCollector?, Moment.cleared?, Moment.sent]
    cases s.reporters.find? name with
    | none => rfl
    | some reporter => simp [SentReport.effects]
  | clear name =>
    simp only [opening, run, SessionRun.quiet, Session.clear, Moment.applyTo,
      Moment.newCollector?, Moment.cleared?, Moment.sent]
    cases s.reporters.find? name with
    | none => rfl
    | some reporter => cases reporter <;> rfl
  | scan source name sourceFile =>
    simp only [opening, run, SessionRun.map, SessionRun.mapFailure, Session.scan, Moment.applyTo,
      Moment.newCollector?, Moment.cleared?, Moment.sent, List.flatMap_map,
      ← Session.reporterFor_eq]
    rw [Session.recordAt_eq]
    exact applyAll_noticeEffects _ _ _
  | exitConfig name =>
    simp only [opening, run]
    rw [Session.exitConfig_eq]
    rfl
  | exitProfile name =>
    simp only [opening, run, SessionRun.map]
    rw [Session.exitProfile_eq]
    rfl
  | record name =>
    simp only [opening, run]
    rw [Session.recordAt_eq]
    rfl
  | errors | setConfig | resetConfig | getConfig | enterConfig | enterProfile | withConfig
  | withProfile | accumulator | metrics | newAccumulator | thread => rfl

namespace Session.KnowsOnly

variable {s t : Session} {files : List (Option String)}

/-- A reporter that is found by its name leads to the session's collectors. -/
theorem among_of_find? (knows : s.KnowsOnly files) {name : String} {reporter : Reporter}
    (found : s.reporters.find? name = some reporter) : reporter.Among files :=
  knows.reporters (name, reporter) (mem_of_lookup found)

/-- The reporter of a scan leads to the session's collectors. -/
theorem among_reporterFor (knows : s.KnowsOnly files) {given : Option Reporter}
    (among : ∀ reporter, given = some reporter → reporter.Among files)
    (sourceFile : Option String) : (s.reporterFor given sourceFile).Among files := by
  cases given with
  | some reporter => exact among reporter rfl
  | none =>
    rw [reporterFor]
    cases configured : s.ambient.config.reporter with
    | none => exact Reporter.among_logging files sourceFile
    | some named => exact knows.config named configured

/-- A configuration that names a reporter leads to the session's collectors. -/
theorem among_configOf (knows : s.KnowsOnly files) (choice : ConfigChoice) :
    (s.configOf choice).Among files := by
  intro named chosen
  simp only [configOf, Option.bind_eq_some_iff, Option.map_eq_some_iff] at chosen
  obtain ⟨name, -, reporter, found, rfl⟩ := chosen
  exact knows.among_of_find? found

/-- What a step sends goes to reporters that lead to the session's collectors. -/
theorem among_sent (knows : s.KnowsOnly files) {step : SessionStep} {sent : SentReport}
    (mem : sent ∈ Moment.sent ⟨step, s⟩) : sent.reporter.Among files := by
  cases step with
  | report name line message =>
    obtain ⟨reporter, found, rfl⟩ := List.mem_map.mp mem
    exact knows.among_of_find? (Option.mem_toList.mp found)
  | scan source name sourceFile =>
    obtain ⟨report, -, rfl⟩ := List.mem_map.mp mem
    rw [← reporterFor_eq]
    refine knows.among_reporterFor ?_ sourceFile
    intro reporter found
    obtain ⟨name, -, found⟩ := Option.bind_eq_some_iff.mp found
    exact knows.among_of_find? found
  | makeReporter | errors | clear | setConfig | resetConfig | getConfig | enterConfig
  | exitConfig | enterProfile | exitProfile | withConfig | withProfile | accumulator | metrics
  | newAccumulator | record | thread => exact (List.not_mem_nil mem).elim

/-- A session with the same reporters and as many collectors. -/
theorem of_reporters_eq (knows : s.KnowsOnly files) (reporters : t.reporters = s.reporters)
    (length : t.collections.length = s.collections.length)
    (config : t.ambient.config.Among files)
    (savedConfigs : ∀ entry ∈ t.savedConfigs, entry.2.Among files) : t.KnowsOnly files where
  length_eq := length.trans knows.length_eq
  reporters := by
    rw [reporters]
    exact knows.reporters
  config := config
  savedConfigs := savedConfigs

/-- A session with one more reporter. -/
theorem addReporter (knows : s.KnowsOnly files) (name : String) (design : ReporterDesign) :
    (s.addReporter name design).KnowsOnly
      (files ++ (Moment.newCollector? ⟨.makeReporter name design, s⟩).toList) := by
  have assigned : ∀ (reporter : Reporter) (files : List (Option String)),
      reporter.Among files → (∀ entry ∈ s.reporters, entry.2.Among files) →
        ∀ entry ∈ s.reporters.assign name reporter, entry.2.Among files := by
    intro reporter files among others
    exact List.forall_mem_cons.mpr ⟨among, others⟩
  cases design with
  | collector sourceFile =>
    refine ⟨?_, ?_, ?_, ?_⟩
    · show (s.collections ++ [[]]).length = (files ++ [sourceFile]).length
      rw [List.length_append, List.length_append, knows.length_eq]
      rfl
    · refine assigned _ _ ?_ fun entry mem => (knows.reporters entry mem).append _
      rw [knows.length_eq]
      exact Reporter.among_collector files sourceFile
    · exact fun named configured => (knows.config named configured).append _
    · exact fun entry mem named saved => (knows.savedConfigs entry mem named saved).append _
  | logging sourceFile =>
    have same : files ++ (Moment.newCollector?
        ⟨.makeReporter name (.logging sourceFile), s⟩).toList = files := List.append_nil _
    rw [same]
    exact
      { knows with
        reporters := assigned _ _ (Reporter.among_logging files sourceFile) knows.reporters }
  | tee targets =>
    have same : files ++ (Moment.newCollector?
        ⟨.makeReporter name (.tee targets), s⟩).toList = files := List.append_nil _
    rw [same]
    refine { knows with reporters := assigned _ _ (Reporter.among_tee ?_) knows.reporters }
    intro target mem
    obtain ⟨_, -, found⟩ := List.mem_filterMap.mp mem
    exact knows.among_of_find? found

/-- Apart from `makeReporter`, no step makes a collector or a reporter. -/
theorem opening_of_ne (knows : s.KnowsOnly files) {step : SessionStep}
    (other : ∀ name design, step ≠ .makeReporter name design) :
    (step.opening s).KnowsOnly files := by
  have unconfigured : ScanConfig.initial.Among files := by
    intro named configured
    cases configured
  have length : (step.opening s).collections.length =
      s.collections.length + (Moment.newCollector? ⟨step, s⟩).toList.length := by
    rw [step.collections_opening, Moment.length_applyTo]
  cases step with
  | makeReporter name design => exact absurd rfl (other name design)
  | setConfig choice | withConfig choice =>
    exact knows.of_reporters_eq rfl length (knows.among_configOf choice) knows.savedConfigs
  | resetConfig | thread =>
    exact knows.of_reporters_eq rfl length unconfigured knows.savedConfigs
  | enterConfig name choice =>
    refine knows.of_reporters_eq rfl length (knows.among_configOf choice) ?_
    exact List.forall_mem_cons.mpr ⟨knows.config, knows.savedConfigs⟩
  | exitConfig name =>
    simp only [SessionStep.opening, SessionStep.run, exitConfig]
    cases saved : s.savedConfigs.find? name with
    | none => exact knows
    | some config =>
      refine knows.of_reporters_eq rfl rfl (knows.savedConfigs _ (mem_of_lookup saved)) ?_
      intro entry mem
      exact knows.savedConfigs entry (List.mem_of_mem_filter mem)
  | exitProfile name =>
    simp only [SessionStep.opening, SessionStep.run, SessionRun.map]
    rw [exitProfile_eq]
    exact knows.of_reporters_eq rfl rfl knows.config knows.savedConfigs
  | clear name =>
    simp only [SessionStep.opening, SessionStep.run] at length ⊢
    rw [clear_eq] at length ⊢
    exact knows.of_reporters_eq rfl length knows.config knows.savedConfigs
  | record name =>
    simp only [SessionStep.opening, SessionStep.run]
    rw [recordAt_eq]
    exact knows.of_reporters_eq rfl rfl knows.config knows.savedConfigs
  | scan source name sourceFile =>
    simp only [SessionStep.opening, SessionStep.run, SessionRun.map, SessionRun.mapFailure]
      at length ⊢
    rw [session_scan] at length ⊢
    exact knows.of_reporters_eq rfl length knows.config knows.savedConfigs
  | report | errors | getConfig | enterProfile | withProfile | accumulator | metrics
  | newAccumulator =>
    exact knows.of_reporters_eq rfl length knows.config knows.savedConfigs

/-- **A step leads to no collectors but those that the session has made by then.** -/
theorem opening (knows : s.KnowsOnly files) (step : SessionStep) :
    (step.opening s).KnowsOnly (files ++ (Moment.newCollector? ⟨step, s⟩).toList) := by
  by_cases makes : ∃ name design, step = .makeReporter name design
  · obtain ⟨name, design, rfl⟩ := makes
    exact knows.addReporter name design
  · have other : ∀ name design, step ≠ .makeReporter name design := by
      rintro name design rfl
      exact makes ⟨name, design, rfl⟩
    have none_new : Moment.newCollector? ⟨step, s⟩ = none := by
      rw [Moment.newCollector?]
      split
      · next same => exact absurd same (other _ _)
      · rfl
    rw [none_new, Option.toList_none, List.append_nil]
    exact knows.opening_of_ne other

end Session.KnowsOnly

/-! ## Arrivals -/

namespace Moment

variable {moment : Moment} {files : List (Option String)} {slot : Nat}

/-- Nothing is sent in a step that makes a collector, and nothing is cleared. -/
theorem of_newCollector {sourceFile : Option String}
    (made : moment.newCollector? = some sourceFile) :
    moment.sent = [] ∧ moment.cleared? = none := by
  obtain ⟨step, s⟩ := moment
  cases step with
  | makeReporter => exact ⟨rfl, rfl⟩
  | _ => cases made

/-- Nothing is sent in a step that clears a collector. -/
theorem sent_of_cleared (cleared : moment.cleared? = some slot) : moment.sent = [] := by
  obtain ⟨step, s⟩ := moment
  cases step with
  | clear => rfl
  | _ => cases cleared

/-- **What some reports add to a collector** is what arrives there. -/
theorem recordsAt_sent {reports : List SentReport}
    (among : ∀ sent ∈ reports, sent.reporter.Among files) :
    recordsAt slot (reports.flatMap SentReport.effects) =
      (reports.flatMap (SentReport.arrivals slot)).map (arrivalRecord files[slot]?.join) := by
  rw [recordsAt, List.filterMap_flatMap, List.map_flatMap]
  refine List.flatMap_congr ?_
  intro sent mem
  rw [SentReport.arrivals, List.map_replicate]
  exact Reporter.recordsAt_effects (among sent mem) sent.line sent.message

/-- Nothing arrives at a collector that has not been made. -/
theorem arrivals_of_outside {reports : List SentReport}
    (among : ∀ sent ∈ reports, sent.reporter.Among files) (outside : files.length ≤ slot) :
    reports.flatMap (SentReport.arrivals slot) = [] := by
  rw [List.flatMap_eq_nil_iff]
  intro sent mem
  rw [SentReport.arrivals, (among sent mem).pathsTo_eq_empty outside, Set.ncard_empty]
  rfl

/-- **What a collector holds after some reports** have been sent. -/
theorem errorsAt_applyAll_sent {held : Collections} (length : held.length = files.length)
    {reports : List SentReport} (among : ∀ sent ∈ reports, sent.reporter.Among files)
    (slot : Nat) :
    (held.applyAll (reports.flatMap SentReport.effects)).errorsAt slot =
      held.errorsAt slot ++
        (reports.flatMap (SentReport.arrivals slot)).map (arrivalRecord files[slot]?.join) := by
  by_cases inside : slot < held.length
  · rw [held.errorsAt_applyAll inside, recordsAt_sent among]
  · have outside := Nat.le_of_not_lt inside
    rw [arrivals_of_outside among (length ▸ outside), held.errorsAt_of_length_le outside]
    exact Collections.errorsAt_of_length_le _ (by rwa [Collections.length_applyAll])

/-- **What a collector holds after a step**: nothing if it is cleared, and else what it held
before and what arrives. -/
theorem errorsAt_applyTo {held : Collections} (length : held.length = files.length)
    (among : ∀ sent ∈ moment.sent, sent.reporter.Among files) (slot : Nat) :
    (moment.applyTo held).errorsAt slot =
      if moment.cleared? = some slot then []
      else held.errorsAt slot ++ (moment.arrivals slot).map (arrivalRecord files[slot]?.join) := by
  rw [applyTo]
  cases made : moment.newCollector? with
  | some sourceFile =>
    obtain ⟨nothing, kept⟩ := of_newCollector made
    have none_arrive : moment.arrivals slot = [] := by
      rw [arrivals, nothing]
      rfl
    rw [kept, if_neg nofun, none_arrive, List.map_nil, List.append_nil]
    -- the new collector holds nothing, and there was none in its place
    rcases Nat.lt_trichotomy slot held.length with inside | rfl | outside
    · exact held.errorsAt_append_of_lt inside _
    · exact (held.errorsAt_concat []).trans (held.errorsAt_of_length_le Nat.le.refl).symm
    · rw [held.errorsAt_of_length_le (Nat.le_of_lt outside)]
      exact Collections.errorsAt_of_length_le _ (by rwa [List.length_append])
  | none =>
    cases cleared : moment.cleared? with
    | some place =>
      simp only [arrivals, sent_of_cleared cleared, List.flatMap_nil, List.map_nil,
        List.append_nil, Option.some.injEq]
      by_cases same : place = slot
      · rw [if_pos same]
        by_cases inside : slot < held.length
        · simp [Collections.clear, Collections.errorsAt, same, inside]
        · simp [Collections.clear, Collections.errorsAt, same, Nat.le_of_not_lt inside]
      · simp [Collections.clear, Collections.errorsAt, same]
    | none =>
      rw [if_neg nofun]
      exact errorsAt_applyAll_sent length among slot

end Moment

/-! ## The whole session -/

/-- **The collectors of a session hold what has arrived at them**, each with its own file. -/
structure Session.Collects (now : Session) (past : List Moment) : Prop where
  knows : now.KnowsOnly (collectorFiles past)
  errorsAt_eq : ∀ slot, now.collections.errorsAt slot =
    (arrivalsSince slot past).map (arrivalRecord (collectorFiles past)[slot]?.join)

namespace Session.Collects

variable {s : Session} {past : List Moment}

/-- Nothing has arrived at a collector that has not been made. -/
theorem arrivalsSince_of_outside (collects : s.Collects past) {slot : Nat}
    (outside : (collectorFiles past).length ≤ slot) : arrivalsSince slot past = [] := by
  have nothing := collects.errorsAt_eq slot
  rw [s.collections.errorsAt_of_length_le (collects.knows.length_eq ▸ outside)] at nothing
  exact List.map_eq_nil_iff.mp nothing.symm

/-- **One more step.** -/
theorem step (collects : s.Collects past) (step : SessionStep) :
    (step.opening s).Collects (past ++ [⟨step, s⟩]) where
  knows := by
    rw [collectorFiles_concat]
    exact collects.knows.opening step
  errorsAt_eq := by
    intro slot
    have among : ∀ sent ∈ Moment.sent ⟨step, s⟩, sent.reporter.Among (collectorFiles past) := by
      intro sent mem
      exact collects.knows.among_sent mem
    rw [step.collections_opening, Moment.errorsAt_applyTo collects.knows.length_eq among,
      arrivalsSince_concat, collectorFiles_concat, collects.errorsAt_eq]
    split
    · rfl
    · rw [← List.map_append]
      -- the file of a collector stays what it was when the collector was made
      by_cases inside : slot < (collectorFiles past).length
      · rw [List.getElem?_append_left inside]
      · have outside := Nat.le_of_not_lt inside
        have none_arrive : Moment.arrivals slot ⟨step, s⟩ = [] :=
          Moment.arrivals_of_outside among outside
        rw [collects.arrivalsSince_of_outside outside, none_arrive]
        rfl

/-- **Whatever can be the case during a session**, its collectors hold what has arrived. -/
theorem of_timeline (timeline : Timeline past s) : s.Collects past := by
  induction timeline with
  | initial =>
    refine ⟨⟨rfl, nofun, ?_, nofun⟩, fun _ => rfl⟩
    intro named configured
    cases configured
  | step step _ ih => exact ih.step step
  | restoreConfig _ _ before ih | restoreAmbient _ _ before ih =>
    -- what was configured before the block had been made before the block
    refine ⟨{ ih.knows with config := ?_ }, ih.errorsAt_eq⟩
    intro named configured
    rw [collectorFiles, List.filterMap_append]
    exact (before.knows.config named configured).append _
  | restoreAccumulator _ _ _ ih => exact ⟨{ ih.knows with }, ih.errorsAt_eq⟩

end Session.Collects

/-- A scan depends on what its reporter does, and on nothing else about it. -/
theorem Session.scan_congr (s : Session) {reporter other : Reporter}
    (same : ∀ line message, reporter.effects line message = other.effects line message)
    (source : List Char) (sourceFile : Option String) :
    s.scan source (some reporter) sourceFile = s.scan source (some other) sourceFile := by
  have effects : noticeEffects reporter ((LoxScan.scan source).notices source) =
      noticeEffects other ((LoxScan.scan source).notices source) := by
    rw [noticeEffects_notices, noticeEffects_notices, Reporter.sendAll, Reporter.sendAll]
    simp only [same]
  simp only [scan, reporterFor, effects]

/-- What a logging reporter writes about an error: a warning that says the line and the message,
behind the name of the file that the reporter was made for unless that is empty. -/
theorem errorLog_eq (sourceFile : Option String) (line : Int) (message : String) :
    errorLog sourceFile line message =
      { level := .warning
        logger := "loxlex.reporting"
        message := (if sourceFile.getD "" = "" then "" else sourceFile.getD "" ++ ": ") ++
          s!"[line {line}] Error: {message}" } := by
  cases sourceFile with
  | none =>
    rw [Option.getD_none, if_pos rfl, String.empty_append]
    rfl
  | some file =>
    rw [Option.getD_some, errorLog]
    by_cases unnamed : file = ""
    · simp only [unnamed, if_true, String.empty_append]
      rfl
    · simp only [unnamed, if_false]
      rfl

/-- **Reports are neither lost nor doubled nor misdirected.**  At every time during a session,
each collector holds what has arrived at it since it was last cleared, in order and with its
own file: each report that was sent to some reporter, once for each path from that reporter to
the collector.  This is so also while the reports of a step are being sent.  Of a report by
hand and of each report of a scan, every logging reporter warns once for each path to it, in
the order of the paths.  So a tee of tees does what the flat tee of their targets does. -/
theorem errors_eq_arrivals {now : Session} {steps : List SessionStep} {past : List Moment}
    (during : now.During steps past) :
    now.collections.length = (collectorFiles past).length ∧
      (∀ slot, now.collections.errorsAt slot =
        (arrivalsSince slot past).map (arrivalRecord (collectorFiles past)[slot]?.join)) ∧
      (∀ (step : SessionStep) (sent : Nat) (slot : Nat),
        (now.collections.applyAll
            (((Moment.sent ⟨step, now⟩).take sent).flatMap SentReport.effects)).errorsAt slot =
          (arrivalsSince slot past ++
              ((Moment.sent ⟨step, now⟩).take sent).flatMap (SentReport.arrivals slot)).map
            (arrivalRecord (collectorFiles past)[slot]?.join)) ∧
      (∀ name line message reporter, now.reporters.find? name = some reporter →
        ∃ loggers, reporter.WarnsAlong loggers ∧
          ((SessionStep.report name line message).run now).log =
            loggers.map fun logger =>
              { level := .warning
                logger := "loxlex.reporting"
                message := (if logger.2.getD "" = "" then "" else logger.2.getD "" ++ ": ") ++
                  s!"[line {line}] Error: {message}" }) ∧
      (∀ source name sourceFile, ∃ loggers,
        ((name.bind now.reporters.find?).getD
            ((now.ambient.config.reporter.map NamedReporter.reporter).getD
              (.logging sourceFile))).WarnsAlong loggers ∧
          ((SessionStep.scan source name sourceFile).run now).log =
            startLog source :: ((scan source).reports.flatMap fun report =>
                loggers.map fun logger =>
                  { level := .warning
                    logger := "loxlex.reporting"
                    message := (if logger.2.getD "" = "" then "" else logger.2.getD "" ++ ": ") ++
                      s!"[line {report.line}] Error: {report.fault.message}" }) ++
              [finishLog source]) ∧
      ∀ groups : List (List Reporter),
        (∀ line message, (Reporter.tee (groups.map .tee)).effects line message =
          (Reporter.tee groups.flatten).effects line message) ∧
        ∀ source sourceFile, now.scan source (some (.tee (groups.map .tee))) sourceFile =
          now.scan source (some (.tee groups.flatten)) sourceFile := by
  have collects := Session.Collects.of_timeline during.timeline
  refine ⟨collects.knows.length_eq, collects.errorsAt_eq, ?_, ?_, ?_, ?_⟩
  · intro step sent slot
    have among : ∀ report ∈ (Moment.sent ⟨step, now⟩).take sent,
        report.reporter.Among (collectorFiles past) := by
      intro report mem
      exact collects.knows.among_sent (List.mem_of_mem_take mem)
    rw [Moment.errorsAt_applyAll_sent collects.knows.length_eq among, collects.errorsAt_eq,
      List.map_append]
  · intro name line message reporter found
    refine ⟨reporter.loggers, reporter.warnsAlong_loggers, ?_⟩
    simp only [← errorLog_eq]
    rw [← reporter.logRecords_effects]
    simp only [SessionStep.run, SessionRun.map, Session.report, found]
  · intro source name sourceFile
    rw [← Session.reporterFor_eq]
    refine ⟨_, Reporter.warnsAlong_loggers _, ?_⟩
    have log := (now.scanned_scan source (name.bind now.reporters.find?) sourceFile).log_eq
    simp only [Reporter.logRecords_effects, errorLog_eq] at log
    exact log
  · intro groups
    have same := Reporter.effects_tee_tees groups
    exact ⟨same, fun source sourceFile => now.scan_congr same source sourceFile⟩

/-- A tee of a tee and a collector keeps an error three times.  What was there before the
collector was cleared is gone, a scan that fails in a block has been reported twice, and the
step behind it has not been done.  Two logging reporters warn in the order of their paths, and
one of them says a file. -/
theorem errors_eq_arrivals_shared :
    let steps : List SessionStep :=
      [.makeReporter "c" (.collector (some "f")), .makeReporter "g" (.logging (some "g")),
        .makeReporter "n" (.logging none), .makeReporter "t" (.tee ["c", "g", "c"]),
        .makeReporter "u" (.tee ["t", "n", "c"]), .report "c" 1 "old", .clear "c",
        .report "u" 4 "m",
        .withConfig ⟨some "t", true⟩ [.scan "@".toList none none, .report "c" 9 "never"]]
    (arrivalsSince 0 (SessionStep.eachMoments steps Session.initial)).map
        (arrivalRecord (some "f")) =
      [⟨"m", 4, some "f"⟩, ⟨"m", 4, some "f"⟩, ⟨"m", 4, some "f"⟩,
        ⟨"Unexpected character.", 1, some "f"⟩, ⟨"Unexpected character.", 1, some "f"⟩] ∧
      ((SessionStep.report "u" 4 "m").run (SessionStep.runEach steps Session.initial).2).log =
        [⟨.warning, "loxlex.reporting", "g: [line 4] Error: m"⟩,
          ⟨.warning, "loxlex.reporting", "[line 4] Error: m"⟩] := by
  intro steps
  have errors := (errors_eq_arrivals (.inr ⟨rfl, rfl⟩ : Session.During
    (SessionStep.runEach steps Session.initial).2 steps
    (SessionStep.eachMoments steps Session.initial))).2.1 0
  refine ⟨Eq.trans ?_ (errors.symm.trans ?_), ?_⟩
  · rfl
  · decide +kernel
  · decide +kernel

end LoxScan
