import LoxScan.Proofs.Moments
import LoxScan.Proofs.Trace
import Mathlib.Algebra.BigOperators.Group.List.Basic
import Mathlib.Algebra.Ring.Int.Defs
import Mathlib.Data.List.Perm.Basic

/-!
# What accumulators hold during a session

An accumulator adds up what it is told: the figures of every scan for which it is the current
accumulator, and those that it is given by hand.  Contexts may be entered and left in any order,
a scan may fail, and a thread begins without an accumulator; at every time each accumulator
holds the sums over its own recordings all the same (`Session.Accounts`).

The figures of a scan are not arbitrary.  An item of a source takes up a part of the source of
its own and means at most one token or one report, so that tokens and errors together are no
more than the characters and the end of the input.

## Main Definitions

* `Recording` — what an accumulator is told, and its figures
* `total` — the sums over some recordings
* `Moment.recording?`, `recordings` — the recording that is made in a step, and those that an
  accumulator has been told
* `opened` — the number of accumulators that have been made
* `Session.MeasuresWithin` — a session that uses only accumulators that have been made
* `Session.Accounts` — a session whose accumulators hold the sums over their recordings
-/

namespace LoxScan

/-! ## Recordings -/

/-- What an accumulator is told: that a source has been scanned, or figures by hand. -/
inductive Recording where
  | scan (source : List Char)
  | figures (sourceLength tokenCount errorCount : Int)

namespace Recording

/-- The characters of a recording: the length of the source, or the number that was given. -/
def sourceLength : Recording → Int
  | .scan source => source.length
  | .figures sourceLength _ _ => sourceLength

/-- The tokens of a recording: those that a scanner of the source delivers when nobody else uses
it, the one at the end of the input included, or the number that was given. -/
def tokenCount : Recording → Int
  | .scan source => (Scanner.ofSource source).scanTokens.tokens.length
  | .figures _ tokenCount _ => tokenCount

/-- The errors of a recording: the reports that this scanner makes, or the number that was
given. -/
def errorCount : Recording → Int
  | .scan source =>
    ((Scanner.ofSource source).scanTokens.notices.filterMap Notice.report?).length
  | .figures _ _ errorCount => errorCount

end Recording

/-- **The sums over some recordings**, each of which counts as one call. -/
def total (recordings : List Recording) : Metrics where
  sourceLength := (recordings.map Recording.sourceLength).sum
  tokenCount := (recordings.map Recording.tokenCount).sum
  errorCount := (recordings.map Recording.errorCount).sum
  scanCalls := recordings.length

/-- The totals of two lists of recordings taken together. -/
def Metrics.add (a b : Metrics) : Metrics where
  sourceLength := a.sourceLength + b.sourceLength
  tokenCount := a.tokenCount + b.tokenCount
  errorCount := a.errorCount + b.errorCount
  scanCalls := a.scanCalls + b.scanCalls

theorem total_append (first second : List Recording) :
    total (first ++ second) = (total first).add (total second) := by
  simp only [total, Metrics.add, List.map_append, List.sum_append, List.length_append,
    Int.natCast_add]

/-- The sums after one more recording. -/
theorem total_concat (earlier : List Recording) (recording : Recording) :
    total (earlier ++ [recording]) =
      (total earlier).record recording.sourceLength recording.tokenCount
        recording.errorCount := by
  rw [total_append]
  simp [total, Metrics.add, Metrics.record]

/-- The sums over several lists of recordings add up to the sums over all of them. -/
theorem total_flatMap (handles : List Nat) (made : Nat → List Recording) :
    total (handles.flatMap made) =
      (handles.map fun handle => total (made handle)).foldr Metrics.add Metrics.zero := by
  induction handles with
  | nil => rfl
  | cons handle rest ih => rw [List.flatMap_cons, total_append, ih, List.map_cons, List.foldr_cons]

/-- Adding up metrics is adding up their figures. -/
theorem foldr_add_eq (held : List Metrics) :
    held.foldr Metrics.add Metrics.zero =
      { sourceLength := (held.map Metrics.sourceLength).sum
        tokenCount := (held.map Metrics.tokenCount).sum
        errorCount := (held.map Metrics.errorCount).sum
        scanCalls := (held.map Metrics.scanCalls).sum } := by
  induction held with
  | nil => rfl
  | cons first rest ih =>
    rw [List.foldr_cons, ih]
    simp only [Metrics.add, List.map_cons, List.sum_cons]

/-- The order of recordings makes no difference to their sums. -/
theorem total_perm {first second : List Recording} (perm : first.Perm second) :
    total first = total second := by
  simp only [total, (perm.map _).sum_eq, perm.length_eq]

/-! ## Figures of scans -/

/-- An event is a token or a report. -/
theorem length_tokens_add_length_reports (events : List ScanEvent) :
    (events.filterMap ScanEvent.token?).length + (events.filterMap ScanEvent.report?).length =
      events.length := by
  induction events with
  | nil => rfl
  | cons event rest ih =>
    cases event with
    | token found =>
      simp only [List.filterMap_cons, ScanEvent.token?, ScanEvent.report?, List.length_cons]
      omega
    | report made =>
      simp only [List.filterMap_cons, ScanEvent.token?, ScanEvent.report?, List.length_cons]
      omega

/-- **There are no more events than characters**: no item is empty, and an item means at most
one event. -/
theorem length_eventsFrom_items_le (source : List Char) (line : Int) :
    (eventsFrom line (items source)).length ≤ source.length := by
  fun_induction items source generalizing line with
  | case1 => exact Nat.le.refl
  | case2 c rest ih =>
    have shorter := Item.cut_rest_length_le c rest
    have behind := ih (line + (Item.cut c rest).1.lineBreaks)
    have one : ∀ event : Option ScanEvent, event.toList.length ≤ 1 := by
      intro event
      cases event <;> simp
    have first := one ((Item.cut c rest).1.event? (line + (Item.cut c rest).1.lineBreaks))
    rw [eventsFrom_cons, List.length_append, List.length_cons]
    omega

/-- Figures that scans can have: every scan has a token, and its other tokens and its errors
are no more than the characters of its source. -/
structure Metrics.Possible (metrics : Metrics) : Prop where
  scanCalls_le : metrics.scanCalls ≤ metrics.tokenCount
  events_le : metrics.tokenCount + metrics.errorCount ≤ metrics.sourceLength + metrics.scanCalls

theorem Metrics.Possible.add {a b : Metrics} (first : a.Possible) (second : b.Possible) :
    (a.add b).Possible where
  scanCalls_le := Int.add_le_add first.scanCalls_le second.scanCalls_le
  events_le := by
    have := first.events_le
    have := second.events_le
    simp only [Metrics.add]
    omega

/-- The figures of a scan are such figures. -/
theorem possible_total_scan (source : List Char) : (total [.scan source]).Possible := by
  have events := length_tokens_add_length_reports (eventsFrom 1 (items source))
  have few := length_eventsFrom_items_le source 1
  have tokens : (Scanner.ofSource source).scanTokens.tokens.length =
      ((eventsFrom 1 (items source)).filterMap ScanEvent.token?).length + 1 := by
    rw [(Scanner.scanTokens_ofSource source).1, tokens_scan, List.length_append,
      List.length_singleton]
  have reports : (Scanner.ofSource source).scanTokens.notices.filterMap Notice.report? =
      (eventsFrom 1 (items source)).filterMap ScanEvent.report? :=
    Scanner.reports_scanTokens_ofSource source
  constructor
  · simp only [total, List.map_singleton, List.sum_singleton, Recording.tokenCount, tokens,
      List.length_singleton]
    omega
  · simp only [total, List.map_singleton, List.sum_singleton, Recording.tokenCount, tokens,
      Recording.errorCount, reports, Recording.sourceLength, List.length_singleton]
    omega

/-- So are the sums over scans. -/
theorem possible_total {made : List Recording}
    (scans : ∀ recording ∈ made, ∃ source, recording = .scan source) :
    (total made).Possible := by
  induction made with
  | nil => exact ⟨Int.le_refl 0, Int.le_refl 0⟩
  | cons recording rest ih =>
    obtain ⟨⟨source, rfl⟩, others⟩ := List.forall_mem_cons.mp scans
    rw [← List.singleton_append, total_append]
    exact (possible_total_scan source).add (ih others)

/-! ## Recordings of a session -/

/-- **The recording that is made in a step**, if one is, and the accumulator that is told.  A
scan is told to the current accumulator, and figures by hand to the accumulator of a name. -/
def Moment.recording? (moment : Moment) : Option (Nat × Recording) :=
  match moment.step with
  | .scan source _ _ =>
    moment.session.ambient.accumulator.map fun handle => (handle, .scan source)
  | .record name sourceLength tokenCount errorCount =>
    (moment.session.accumulatorNames.find? name).map fun handle =>
      (handle, .figures sourceLength tokenCount errorCount)
  | _ => none

/-- An accumulator is made in a step. -/
def Moment.opens (moment : Moment) : Bool :=
  match moment.step with
  | .enterProfile _ | .withProfile .. | .newAccumulator _ => true
  | _ => false

/-- The recordings of one accumulator among recordings of several. -/
def ofHandle (handle : Nat) (entries : List (Nat × Recording)) : List Recording :=
  (entries.filter fun entry => entry.1 = handle).map Prod.snd

/-- **The recordings that an accumulator has been told**, in order. -/
def recordings (handle : Nat) (past : List Moment) : List Recording :=
  ofHandle handle (past.filterMap Moment.recording?)

/-- The number of accumulators that have been made. -/
def opened (past : List Moment) : Nat := past.countP Moment.opens

theorem opened_le_append (past later : List Moment) : opened past ≤ opened (past ++ later) := by
  rw [opened, opened, List.countP_append]
  exact Nat.le_add_right _ _

theorem opened_concat (past : List Moment) (moment : Moment) :
    opened (past ++ [moment]) = opened past + if moment.opens then 1 else 0 := by
  rw [opened, List.countP_append, List.countP_singleton]
  rfl

theorem recordings_concat (handle : Nat) (past : List Moment) (moment : Moment) :
    recordings handle (past ++ [moment]) =
      recordings handle past ++ ofHandle handle moment.recording?.toList := by
  rw [recordings, List.filterMap_append, ofHandle, List.filter_append, List.map_append,
    List.filterMap_cons]
  cases moment.recording? <;> rfl

/-- Nothing is recorded in a step that makes an accumulator. -/
theorem Moment.recording?_of_opens {moment : Moment} (opens : moment.opens = true) :
    moment.recording? = none := by
  obtain ⟨step, s⟩ := moment
  cases step with
  | scan | record => cases opens
  | _ => rfl

/-- The recordings of the first so many accumulators, one accumulator after the other, are those
that were made on any of them. -/
theorem perm_flatMap_ofHandle (count : Nat) (entries : List (Nat × Recording)) :
    ((List.range count).flatMap fun handle => ofHandle handle entries).Perm
      ((entries.filter fun entry => entry.1 < count).map Prod.snd) := by
  induction count with
  | zero => simp
  | succ count ih =>
    have parts : ((entries.filter fun entry => entry.1 < count) ++
        entries.filter fun entry => entry.1 = count).Perm
        (entries.filter fun entry => entry.1 < count + 1) := by
      convert List.filter_append_perm (fun entry : Nat × Recording => entry.1 < count)
        (entries.filter fun entry => entry.1 < count + 1) using 2
      · rw [List.filter_filter]
        refine List.filter_congr fun entry _ => ?_
        grind
      · rw [List.filter_filter]
        refine List.filter_congr fun entry _ => ?_
        grind
    rw [List.range_succ, List.flatMap_append, List.flatMap_singleton]
    refine (ih.append_right _).trans ?_
    rw [ofHandle, ← List.map_append]
    exact parts.map _

/-! ## Accumulators of a session -/

/-- **A session uses only the first so many accumulators.** -/
structure Session.MeasuresWithin (s : Session) (count : Nat) : Prop where
  current : ∀ handle, s.ambient.accumulator = some handle → handle < count
  named : ∀ entry ∈ s.accumulatorNames, entry.2 < count
  saved : ∀ entry ∈ s.savedAccumulators, ∀ handle, entry.2.accumulator = some handle →
    handle < count

namespace Session.MeasuresWithin

variable {s : Session} {count more : Nat}

theorem mono (within : s.MeasuresWithin count) (le : count ≤ more) : s.MeasuresWithin more where
  current := fun handle current => Nat.lt_of_lt_of_le (within.current handle current) le
  named := fun entry mem => Nat.lt_of_lt_of_le (within.named entry mem) le
  saved := fun entry mem handle saved =>
    Nat.lt_of_lt_of_le (within.saved entry mem handle saved) le

/-- The accumulator that is told something in a step has been made. -/
theorem recording?_lt (within : s.MeasuresWithin count) {step : SessionStep}
    {entry : Nat × Recording} (made : Moment.recording? ⟨step, s⟩ = some entry) :
    entry.1 < count := by
  cases step with
  | scan source =>
    obtain ⟨handle, current, rfl⟩ := Option.map_eq_some_iff.mp made
    exact within.current handle current
  | record name =>
    obtain ⟨handle, found, rfl⟩ := Option.map_eq_some_iff.mp made
    exact within.named (name, handle) (mem_of_lookup found)
  | _ => cases made

/-- The session after a new accumulator has been made. -/
theorem addAccumulator (within : s.MeasuresWithin s.accumulators.length) (name : String) :
    (s.addAccumulator name).MeasuresWithin (s.accumulators.length + 1) := by
  have before := within.mono (Nat.le_succ _)
  refine ⟨before.current, ?_, before.saved⟩
  exact List.forall_mem_cons.mpr ⟨Nat.lt_succ_self _, before.named⟩

/-- The session after another accumulator has become current. -/
theorem setAccumulator (within : s.MeasuresWithin count) {accumulator : Option Nat}
    (inside : ∀ handle, accumulator = some handle → handle < count) :
    (s.setAccumulator accumulator).MeasuresWithin count :=
  ⟨inside, within.named, within.saved⟩

/-- The session after a new accumulator has been made the current one. -/
theorem beginProfile (within : s.MeasuresWithin s.accumulators.length) (name : String) :
    (s.beginProfile name).MeasuresWithin (s.accumulators.length + 1) := by
  refine (within.addAccumulator name).setAccumulator ?_
  intro handle current
  cases current
  exact Nat.lt_succ_self _

/-- **A step leads to no accumulators but those that have been made by then.** -/
theorem opening (within : s.MeasuresWithin s.accumulators.length) (step : SessionStep) :
    (step.opening s).MeasuresWithin
      (s.accumulators.length + if Moment.opens ⟨step, s⟩ then 1 else 0) := by
  cases step with
  | newAccumulator name => exact within.addAccumulator name
  | withProfile name body => exact within.beginProfile name
  | enterProfile name =>
    obtain ⟨current, named, saved⟩ := within.beginProfile name
    refine ⟨current, named, ?_⟩
    -- what the context will return to is the accumulator that is current before it
    refine List.forall_mem_cons.mpr ⟨?_, saved⟩
    exact (within.mono (Nat.le_succ _)).current
  | exitProfile name =>
    simp only [SessionStep.opening, SessionStep.run, SessionRun.map, Session.exitProfile]
    cases found : s.savedAccumulators.find? name with
    | none => exact within
    | some saved =>
      have left : ∀ entry ∈ s.savedAccumulators.forget name, ∀ handle,
          entry.2.accumulator = some handle → handle < s.accumulators.length :=
        fun entry mem => within.saved entry (List.mem_of_mem_filter mem)
      by_cases own : saved.thread = s.ambient.thread
      · simp only [own, if_true]
        exact ⟨within.saved _ (mem_of_lookup found), within.named, left⟩
      · simp only [own, if_false]
        exact ⟨within.current, within.named, left⟩
  | thread body =>
    refine ⟨?_, within.named, within.saved⟩
    intro handle current
    cases current
  | exitConfig name =>
    simp only [SessionStep.opening, SessionStep.run]
    rw [exitConfig_eq]
    exact ⟨within.current, within.named, within.saved⟩
  | makeReporter name design =>
    simp only [SessionStep.opening, SessionStep.run]
    rw [addReporter_eq]
    exact ⟨within.current, within.named, within.saved⟩
  | clear name =>
    simp only [SessionStep.opening, SessionStep.run]
    rw [clear_eq]
    exact ⟨within.current, within.named, within.saved⟩
  | record name =>
    simp only [SessionStep.opening, SessionStep.run]
    rw [recordAt_eq]
    exact ⟨within.current, within.named, within.saved⟩
  | scan source name sourceFile =>
    simp only [SessionStep.opening, SessionStep.run, SessionRun.map, SessionRun.mapFailure]
    rw [session_scan]
    exact ⟨within.current, within.named, within.saved⟩
  | report | errors | setConfig | resetConfig | getConfig | enterConfig | withConfig
  | accumulator | metrics => exact ⟨within.current, within.named, within.saved⟩

end Session.MeasuresWithin

/-- What a step does to the accumulators: it tells one of them something, or it makes a new one,
which is empty. -/
def Moment.accumulate (moment : Moment) (accumulators : List Metrics) : List Metrics :=
  match moment.recording? with
  | some (handle, recording) =>
    accumulators.modify handle
      (·.record recording.sourceLength recording.tokenCount recording.errorCount)
  | none => if moment.opens then accumulators ++ [Metrics.zero] else accumulators

/-- **What has happened to the accumulators when a step has begun.** -/
theorem SessionStep.accumulators_opening (step : SessionStep) (s : Session) :
    (step.opening s).accumulators = Moment.accumulate ⟨step, s⟩ s.accumulators := by
  cases step with
  | scan source name sourceFile =>
    obtain ⟨tokens, -⟩ := Scanner.scanTokens_ofSource source
    have reports := Scanner.reports_scanTokens_ofSource source
    simp only [opening, run, SessionRun.map, SessionRun.mapFailure, Session.scan,
      Moment.accumulate, Moment.recording?, List.length_map, ← tokens, ← reports]
    cases s.ambient.accumulator <;> rfl
  | record name =>
    simp only [opening, run, Moment.accumulate, Moment.recording?]
    cases s.accumulatorNames.find? name <;> rfl
  | exitConfig name =>
    simp only [opening, run]
    rw [Session.exitConfig_eq]
    rfl
  | exitProfile name =>
    simp only [opening, run, SessionRun.map]
    rw [Session.exitProfile_eq]
    rfl
  | makeReporter name design =>
    simp only [opening, run]
    rw [Session.addReporter_eq]
    rfl
  | clear name =>
    simp only [opening, run]
    rw [Session.clear_eq]
    rfl
  | report | errors | setConfig | resetConfig | getConfig | enterConfig | enterProfile
  | withConfig | withProfile | accumulator | metrics | newAccumulator | thread => rfl

/-! ## The whole session -/

/-- The sums over what each accumulator has been told. -/
def totals (past : List Moment) : List Metrics :=
  (List.range (opened past)).map fun handle => total (recordings handle past)

/-- An accumulator that is told something adds it to its own sums, and no other one does. -/
theorem modify_totals (entry : Nat × Recording) (past : List Moment) :
    ((totals past).modify entry.1
        (·.record entry.2.sourceLength entry.2.tokenCount entry.2.errorCount)) =
      (List.range (opened past)).map fun handle =>
        total (recordings handle past ++ ofHandle handle [entry]) := by
  apply List.ext_getElem?
  intro handle
  rw [totals, List.getElem?_modify, List.getElem?_map, List.getElem?_map]
  cases present : (List.range (opened past))[handle]? with
  | none => rfl
  | some same =>
    obtain ⟨inside, rfl⟩ := List.getElem?_eq_some_iff.mp present
    rw [List.getElem_range]
    by_cases told : entry.1 = handle
    · simp [ofHandle, told, total_concat]
    · simp [ofHandle, told]

/-- **The sums after one more step** are what the step makes of the sums before it. -/
theorem totals_concat {past : List Moment} (moment : Moment)
    (unused : recordings (opened past) past = []) :
    totals (past ++ [moment]) = moment.accumulate (totals past) := by
  rw [totals, opened_concat, Moment.accumulate]
  cases made : moment.recording? with
  | some entry =>
    have opens : moment.opens = false := by
      by_contra opens
      rw [moment.recording?_of_opens (eq_true_of_ne_false opens)] at made
      cases made
    have entries : ∀ handle, recordings handle (past ++ [moment]) =
        recordings handle past ++ ofHandle handle [entry] := by
      intro handle
      rw [recordings_concat, made]
      rfl
    simp only [entries, opens, Bool.false_eq_true, if_false, Nat.add_zero]
    exact (modify_totals entry past).symm
  | none =>
    have entries : ∀ handle, recordings handle (past ++ [moment]) = recordings handle past := by
      intro handle
      rw [recordings_concat, made]
      exact List.append_nil _
    simp only [entries]
    by_cases opens : moment.opens
    · -- nobody has told the new accumulator anything under the handle that it gets
      rw [if_pos opens, if_pos opens, List.range_succ, List.map_append, List.map_singleton, unused]
      rfl
    · rw [if_neg opens, if_neg opens]
      rfl

/-- **The accumulators of a session hold the sums over their recordings.** -/
structure Session.Accounts (now : Session) (past : List Moment) : Prop where
  within : now.MeasuresWithin (opened past)
  recorded : ∀ entry ∈ past.filterMap Moment.recording?, entry.1 < opened past
  accumulators_eq : now.accumulators = totals past

namespace Session.Accounts

variable {s : Session} {past : List Moment}

theorem length_eq (accounts : s.Accounts past) : s.accumulators.length = opened past := by
  rw [accounts.accumulators_eq, totals, List.length_map, List.length_range]

/-- An accumulator that has not been made has been told nothing. -/
theorem recordings_of_outside (accounts : s.Accounts past) {handle : Nat}
    (outside : opened past ≤ handle) : recordings handle past = [] := by
  rw [recordings, ofHandle, List.map_eq_nil_iff, List.filter_eq_nil_iff]
  intro entry mem
  have inside := accounts.recorded entry mem
  simp only [decide_eq_true_eq]
  omega

/-- What one accumulator holds. -/
theorem getElem?_accumulators (accounts : s.Accounts past) {handle : Nat}
    (inside : handle < opened past) :
    s.accumulators[handle]? = some (total (recordings handle past)) := by
  rw [accounts.accumulators_eq, totals, List.getElem?_map, List.getElem?_range inside]
  rfl

/-- **One more step.** -/
theorem step (accounts : s.Accounts past) (step : SessionStep) :
    (step.opening s).Accounts (past ++ [⟨step, s⟩]) where
  within := by
    have within := accounts.within
    rw [opened_concat, ← accounts.length_eq]
    rw [← accounts.length_eq] at within
    exact within.opening step
  recorded := by
    intro entry mem
    rw [List.filterMap_append, List.mem_append] at mem
    refine Nat.lt_of_lt_of_le ?_ (opened_le_append past _)
    rcases mem with earlier | last
    · exact accounts.recorded entry earlier
    · obtain ⟨moment, member, made⟩ := List.mem_filterMap.mp last
      obtain rfl := List.mem_singleton.mp member
      exact accounts.within.recording?_lt made
  accumulators_eq := by
    rw [step.accumulators_opening, accounts.accumulators_eq,
      totals_concat _ (accounts.recordings_of_outside Nat.le.refl)]

/-- **Each recording is one of exactly one accumulator.** -/
theorem perm_recordings (accounts : s.Accounts past) :
    ((List.range (opened past)).flatMap fun handle => recordings handle past).Perm
      (past.filterMap fun moment => moment.recording?.map Prod.snd) := by
  have parts := perm_flatMap_ofHandle (opened past) (past.filterMap Moment.recording?)
  have all : (past.filterMap Moment.recording?).filter (fun entry => entry.1 < opened past) =
      past.filterMap Moment.recording? := by
    rw [List.filter_eq_self]
    intro entry mem
    exact decide_eq_true (accounts.recorded entry mem)
  rw [all, List.map_filterMap] at parts
  exact parts

/-- **Whatever can be the case during a session**, its accumulators hold their sums. -/
theorem of_timeline (timeline : Session.Timeline past s) : s.Accounts past := by
  induction timeline with
  | initial => exact ⟨⟨nofun, nofun, nofun⟩, nofun, rfl⟩
  | step step _ ih => exact ih.step step
  | restoreConfig _ _ _ ih =>
    exact ⟨⟨ih.within.current, ih.within.named, ih.within.saved⟩, ih.recorded,
      ih.accumulators_eq⟩
  | restoreAccumulator _ _ before ih =>
    -- what was current before the block had been made before the block
    refine ⟨ih.within.setAccumulator ?_, ih.recorded, ih.accumulators_eq⟩
    exact (before.within.mono (opened_le_append _ _)).current
  | restoreAmbient _ _ before ih =>
    -- and so had what was current before the thread
    exact ⟨⟨(before.within.mono (opened_le_append _ _)).current, ih.within.named,
      ih.within.saved⟩, ih.recorded, ih.accumulators_eq⟩

end Session.Accounts

/-- **Accumulators hold the sums over their recordings.**  At every time during a session, each
accumulator holds, component by component, the sums over the scans for which it was the current
accumulator and over the figures that it was given by hand, whether or not the scans failed.
So does the current accumulator, and so does an accumulator that is asked for by its name.  No
recording is lost and none is in two accumulators, so that all of them together hold the sums
over all recordings; and accumulators of any two sessions that have been told the same in
another order hold the same.  If an accumulator has been told of scans only, then it has no more
calls than tokens, and its tokens and errors are no more than its characters and its calls. -/
theorem accumulators_eq_totals {now : Session} {steps : List SessionStep} {past : List Moment}
    (during : now.During steps past) :
    now.accumulators =
        ((List.range (opened past)).map fun handle => total (recordings handle past)) ∧
      (now.currentMetrics =
        now.ambient.accumulator.map fun handle => total (recordings handle past)) ∧
      (∀ name, now.metricsOf name =
        (now.accumulatorNames.find? name).map fun handle => total (recordings handle past)) ∧
      ((List.range (opened past)).flatMap fun handle => recordings handle past).Perm
        (past.filterMap fun moment => moment.recording?.map Prod.snd) ∧
      ({ sourceLength := (now.accumulators.map Metrics.sourceLength).sum
         tokenCount := (now.accumulators.map Metrics.tokenCount).sum
         errorCount := (now.accumulators.map Metrics.errorCount).sum
         scanCalls := (now.accumulators.map Metrics.scanCalls).sum } : Metrics) =
        total (past.filterMap fun moment => moment.recording?.map Prod.snd) ∧
      (∀ {later : Session} {others : List SessionStep} {before : List Moment},
        later.During others before → ∀ handle other, handle < opened past →
          other < opened before → (recordings handle past).Perm (recordings other before) →
            now.accumulators[handle]? = later.accumulators[other]?) ∧
      ∀ handle metrics, now.accumulators[handle]? = some metrics →
        (∀ recording ∈ recordings handle past, ∃ source, recording = .scan source) →
          metrics.scanCalls ≤ metrics.tokenCount ∧
            metrics.tokenCount + metrics.errorCount ≤
              metrics.sourceLength + metrics.scanCalls := by
  have accounts := Session.Accounts.of_timeline during.timeline
  -- current and named accumulators have been made, so that none of them is asked for in vain
  refine ⟨accounts.accumulators_eq, ?_, ?_, accounts.perm_recordings, ?_, ?_, ?_⟩
  · rw [Session.currentMetrics]
    cases current : now.ambient.accumulator with
    | none => rfl
    | some handle => exact accounts.getElem?_accumulators (accounts.within.current handle current)
  · intro name
    rw [Session.metricsOf]
    cases found : now.accumulatorNames.find? name with
    | none => rfl
    | some handle =>
      exact accounts.getElem?_accumulators
        (accounts.within.named (name, handle) (mem_of_lookup found))
  · rw [← foldr_add_eq, accounts.accumulators_eq, totals, ← total_flatMap,
      total_perm accounts.perm_recordings]
  · intro later others before during' handle other inside inside' perm
    have accounts' := Session.Accounts.of_timeline during'.timeline
    rw [accounts.getElem?_accumulators inside, accounts'.getElem?_accumulators inside',
      total_perm perm]
  · intro handle metrics present scans
    have inside := (List.getElem?_eq_some_iff.mp present).1
    rw [accounts.length_eq] at inside
    rw [accounts.getElem?_accumulators inside] at present
    cases present
    have possible := possible_total scans
    exact ⟨possible.scanCalls_le, possible.events_le⟩

/-- Three accumulators.  The first one is told of one scan and is given figures by hand.  In the
second one a scan fails, and the scan behind it is not made.  The third one is made in a thread,
which begins without any.  It cannot be left outside of the thread, so that the next scan is
one more of the first accumulator; after that one has been left, nothing is told of a scan. -/
theorem accumulators_eq_totals_three :
    let steps : List SessionStep :=
      [.enterProfile "p", .scan "1 @".toList none none,
        .withProfile "q" [.withConfig ⟨none, true⟩ [.scan "@".toList none none,
          .scan "2".toList none none]],
        .thread [.scan "3".toList none none, .enterProfile "r", .scan "4".toList none none],
        .exitProfile "r", .scan "56".toList none none, .record "p" 10 2 1, .exitProfile "p",
        .scan "7".toList none none]
    let past := SessionStep.eachMoments steps Session.initial
    ((List.range (opened past)).map fun handle => total (recordings handle past)) =
      [⟨15, 6, 2, 3⟩, ⟨1, 1, 1, 1⟩, ⟨1, 2, 0, 1⟩] := by
  intro steps past
  have during : Session.During (SessionStep.runEach steps Session.initial).2 steps past :=
    .inr ⟨rfl, rfl⟩
  exact (accumulators_eq_totals during).1.symm.trans (by decide +kernel)

end LoxScan
