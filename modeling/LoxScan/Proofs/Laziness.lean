import LoxScan.Proofs.EndToEnd
import LoxScan.Proofs.LoneStream

/-!
# A lone stream reads no further than it must

A stream that nothing interferes with delivers one token each time it is asked, and until then it
reads only the items in front of the token.  Their reports are made on the way, and no other ones:
what is behind the token has not been read yet.  The same goes for the log, in which the end of a
scan is written down when the stream gets to it.

## Main Definitions

* `Notice.record?` — the record that a scanner writes into the log with a notice
-/

namespace LoxScan

/-! ## The log -/

/-- The record that a scanner writes into the log with a notice. -/
def Notice.record? : Notice → Option LogRecord
  | .started characters =>
    some
      { level := .debug
        logger := "loxlex.lexer.core"
        message := s!"Scanning {characters} characters" }
  | .report _ => none
  | .finished tokens lines =>
    some
      { level := .debug
        logger := "loxlex.lexer.core"
        message := s!"Scanned {tokens} tokens over {lines} lines" }

theorem filterMap_record?_report (reports : List Report) :
    (reports.map Notice.report).filterMap Notice.record? = [] := by
  simp [List.filterMap_map, Function.comp_def, Notice.record?]

theorem filterMap_report?_report (reports : List Report) :
    (reports.map Notice.report).filterMap Notice.report? = reports := by
  simp [List.filterMap_map, Function.comp_def, Notice.report?]

/-- A reporter only warns. -/
theorem Reporter.filter_debug_effects (reporter : Reporter) (line : Int) (message : String) :
    (logRecords (reporter.effects line message)).filter (fun record => record.level = .debug) =
      [] := by
  rw [reporter.logRecords_effects, List.filter_eq_nil_iff]
  intro record mem
  obtain ⟨logger, -, rfl⟩ := List.mem_map.mp mem
  simp [errorLog]

/-- **The debug records of a scan are those of the scanner.** -/
theorem filter_debug_noticeEffects (reporter : Reporter) (notices : List Notice) :
    (logRecords (noticeEffects reporter notices)).filter (fun record => record.level = .debug) =
      notices.filterMap Notice.record? := by
  induction notices with
  | nil => rfl
  | cons notice rest ih =>
    have split : noticeEffects reporter (notice :: rest) =
        notice.effects reporter ++ noticeEffects reporter rest := List.flatMap_cons
    rw [split, logRecords_append, List.filter_append, ih]
    cases notice with
    | started | finished => rfl
    | report made =>
      rw [Notice.effects, Reporter.filter_debug_effects]
      rfl

/-- What is logged while a scanner is driven. -/
theorem ObservedDrive.log_run (observed : ObservedDrive) (steps : List DriveStep) :
    (observed.run steps).flatMap ObservedOutcome.log =
      logRecords (noticeEffects observed.reporter (observed.drive.told steps)) := by
  induction steps generalizing observed with
  | nil => rfl
  | cons step rest ih =>
    have told : noticeEffects observed.reporter (observed.drive.told (step :: rest)) =
        noticeEffects observed.reporter (observed.drive.step step).notices ++
          noticeEffects observed.reporter ((observed.drive.step step).drive.told rest) :=
      List.flatMap_append
    rw [run, List.flatMap_cons, ih, told, logRecords_append]
    rfl

/-! ## Laziness -/

/-- **A lone stream reads no further than it must.**  After a new scanner was asked for some of
the tokens of its source on its only stream, these tokens have been delivered, one each time.
Unless the last one marks the end, the reports that were made are those of the items in front of
its place, what stands between the beginning of the last item and the cursor is the token's text,
and this token alone is pending.  If it does mark the end, then all reports were made, the cursor
stands behind the last character, and nothing is pending.  Whoever watches the scan, the number of
tokens and the number of lines are logged when the end is delivered, and not before. -/
theorem askedAlone_lazy (source : List Char) (name : String) (k : Nat) (positive : 0 < k)
    (within : k ≤ (Scanner.ofSource source).scanTokens.tokens.length) :
    (Drive.ofSource source).deliveredTo name (DriveStep.openAndAsk name k) =
        (Scanner.ofSource source).scanTokens.tokens.take k ∧
      (k < (Scanner.ofSource source).scanTokens.tokens.length →
        ∃ place token,
          ((occurrences source).filter fun occurrence => occurrence.event.token?.isSome)[k - 1]? =
              some place ∧
            place.event = .token token ∧
            (Scanner.ofSource source).scanTokens.tokens[k - 1]? = some token ∧
            (Drive.ofSource source).reportsMade (DriveStep.openAndAsk name k) =
              ((occurrences source).filter fun occurrence =>
                occurrence.stop ≤ place.start).filterMap
                  (fun occurrence => occurrence.event.report?) ∧
            (Drive.askedAlone source name k).scanner.start = place.start ∧
            (Drive.askedAlone source name k).scanner.current = place.stop ∧
            (source.take (Drive.askedAlone source name k).scanner.current).drop
              (Drive.askedAlone source name k).scanner.start = token.lexeme ∧
            (Drive.askedAlone source name k).scanner.pending = [token]) ∧
      (k = (Scanner.ofSource source).scanTokens.tokens.length →
        (Drive.ofSource source).reportsMade (DriveStep.openAndAsk name k) =
            (Scanner.ofSource source).scanTokens.notices.filterMap Notice.report? ∧
          (Drive.askedAlone source name k).scanner.start = source.length ∧
          (Drive.askedAlone source name k).scanner.current = source.length ∧
          (Drive.askedAlone source name k).scanner.pending = []) ∧
      ∀ (reporter : Reporter) (collections : Collections),
        (((ObservedDrive.mk (Drive.ofSource source) reporter collections).run
            (DriveStep.openAndAsk name k)).flatMap ObservedOutcome.log).filter
              (fun record => record.level = .debug) =
          { level := .debug
            logger := "loxlex.lexer.core"
            message := s!"Scanning {source.length} characters" } ::
              if k = (Scanner.ofSource source).scanTokens.tokens.length then
                [{ level := .debug
                   logger := "loxlex.lexer.core"
                   message := s!"Scanned {k} tokens over {lineTotal source} lines" }]
              else [] := by
  -- the reports and the debug records are read off what has been told
  have reports : (Drive.ofSource source).reportsMade (DriveStep.openAndAsk name k) =
      ((Drive.ofSource source).told (DriveStep.openAndAsk name k)).filterMap Notice.report? := rfl
  have debug : ∀ (reporter : Reporter) (collections : Collections),
      (((ObservedDrive.mk (Drive.ofSource source) reporter collections).run
          (DriveStep.openAndAsk name k)).flatMap ObservedOutcome.log).filter
            (fun record => record.level = .debug) =
        ((Drive.ofSource source).told (DriveStep.openAndAsk name k)).filterMap Notice.record? := by
    intro reporter collections
    rw [ObservedDrive.log_run, filter_debug_noticeEffects]
  obtain ⟨before, place, token, stopped⟩ | ended :=
    Drive.hasStopped_or_hasEnded source name positive within
  · have short := stopped.passed.lt_length
    rw [stopped.told_eq] at debug reports
    refine ⟨stopped.passed.delivered_eq_take, fun _ => ⟨place, token, stopped.place_eq,
      stopped.event_eq, stopped.token_eq, ?_, stopped.start_eq, stopped.current_eq, ?_,
      stopped.pending_eq⟩, fun all => absurd all (Nat.ne_of_lt short), ?_⟩
    · rw [reports, filter_stop_le_start stopped.occurrences_eq, List.filterMap_cons,
        filterMap_report?_report]
      rfl
    · rw [stopped.start_eq, stopped.current_eq]
      exact stopped.lexeme_eq.symm
    · intro reporter collections
      rw [debug, if_neg (Nat.ne_of_lt short), List.filterMap_cons, filterMap_record?_report]
      rfl
  · refine ⟨?_, fun short => absurd ended.length_eq (Nat.ne_of_gt short), fun _ => ⟨?_,
      ended.start_eq, ended.current_eq, ended.pending_eq⟩, ?_⟩
    · rw [ended.delivered_eq, List.take_of_length_le (Nat.le_of_eq ended.length_eq)]
    · rw [reports, ended.told_eq, List.filterMap_append, List.filterMap_cons,
        filterMap_report?_report, filterMap_report?_occurrences]
      exact List.append_nil _
    · intro reporter collections
      rw [debug, if_pos ended.length_eq.symm, ended.told_eq, List.filterMap_append,
        List.filterMap_cons, filterMap_record?_report]
      rfl

/-- A stream that is asked for one token stops behind it: the second fault, which is on the next
line, is not reported before the second token is asked for.  The third token is the end. -/
theorem askedAlone_lazy_two_lines :
    (Drive.ofSource "@ab\n#c".toList).reportsMade (DriveStep.openAndAsk "x" 1) =
        [⟨1, .unexpectedCharacter⟩] ∧
      (Drive.askedAlone "@ab\n#c".toList "x" 1).scanner.start = 1 ∧
      (Drive.askedAlone "@ab\n#c".toList "x" 1).scanner.current = 3 ∧
      (Drive.ofSource "@ab\n#c".toList).reportsMade (DriveStep.openAndAsk "x" 3) =
        [⟨1, .unexpectedCharacter⟩, ⟨2, .unexpectedCharacter⟩] ∧
      (((ObservedDrive.logging "@ab\n#c".toList).run (DriveStep.openAndAsk "x" 3)).flatMap
          ObservedOutcome.log).filter (fun record => record.level = .debug) =
        [⟨.debug, "loxlex.lexer.core", "Scanning 6 characters"⟩,
          ⟨.debug, "loxlex.lexer.core", "Scanned 3 tokens over 2 lines"⟩] := by
  obtain ⟨-, stopped, -, -⟩ :=
    askedAlone_lazy "@ab\n#c".toList "x" 1 (by decide) (by decide +kernel)
  obtain ⟨-, -, ended, logged⟩ :=
    askedAlone_lazy "@ab\n#c".toList "x" 3 (by decide) (by decide +kernel)
  obtain ⟨place, token, placed, -, -, reports, start, current, -, -⟩ :=
    stopped (by decide +kernel)
  have found : ((occurrences "@ab\n#c".toList).filter fun occurrence =>
      occurrence.event.token?.isSome)[1 - 1]? =
        some ⟨1, 3, .token ⟨.identifier, "ab".toList, none, 1⟩⟩ := by
    decide +kernel
  obtain rfl := Option.some.inj (placed.symm.trans found)
  refine ⟨reports.trans (by decide +kernel), start, current, ?_, ?_⟩
  · exact (ended (by decide +kernel)).1.trans (by decide +kernel)
  · refine (logged _ _).trans ?_
    rw [if_pos (by decide +kernel)]
    decide +kernel

end LoxScan
