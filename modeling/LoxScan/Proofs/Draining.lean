import LoxScan.Proofs.Chunks
import LoxScan.Proofs.LoneStream

/-!
# What draining a stream delivers

A scanner that has been driven in any way, also by moving its cursor by hand, is still a
scanner on a part of its source: the text that is to be read is what is behind the cursor.
Draining a stream on it delivers what is left of the pending tokens in front of the stream,
and then what scanning the rest of the source as a source of its own delivers, on lines that
are further down.

What is left of the pending tokens depends on the stream.  A suspended one goes on at its
index.  One that has not begun delivers all of them with the first item that it reads, be it
only a blank, and so none of them if there is nothing left to read.

## Main Definitions

* `Scanner.OnSource` — a scanner stands at some place of a source
* `Stream.leftover` — the pending tokens that draining a stream delivers
* `DrainsTo` — the answer, the reports and the state that draining a stream brings about
-/

namespace LoxScan

/-! ## The cursor -/

/-- **A scanner stands at some place of a source**: what is to be read is what is behind its
cursor. -/
structure Scanner.OnSource (s : Scanner) (source : List Char) : Prop where
  rest_eq : s.rest = source.drop s.current
  current_le : s.current ≤ source.length

namespace Scanner.OnSource

variable {s t : Scanner} {source : List Char}

theorem sourceLength_eq (h : s.OnSource source) : s.sourceLength = source.length := by
  rw [sourceLength, h.rest_eq, List.length_drop]
  have := h.current_le
  omega

/-- Only behind the last character is there nothing left to read. -/
theorem rest_eq_nil_iff (h : s.OnSource source) : s.rest = [] ↔ s.current = source.length := by
  rw [h.rest_eq, List.drop_eq_nil_iff]
  have := h.current_le
  omega

/-- Moving the cursor over what is in front of it. -/
theorem move (h : s.OnSource source) (text : List Char) {after : List Char}
    (split : s.rest = text ++ after) (current : t.current = s.current + text.length)
    (rest : t.rest = after) : t.OnSource source where
  rest_eq := by
    have behind := congrArg (List.drop text.length) h.rest_eq
    rw [split, List.drop_left, List.drop_drop] at behind
    rw [rest, current, behind]
  current_le := by
    have length := congrArg List.length h.rest_eq
    rw [split, List.length_append, List.length_drop] at length
    have := h.current_le
    omega

/-- What streams do to a scanner leaves it on its source. -/
theorem readsOn (h : s.OnSource source) (reads : s.ReadsOn t) : t.OnSource source := by
  induction reads with
  | done => exact h
  | @item s t c after rest _ ih =>
    exact ih (h.move _ (rest.trans (Item.cut_append c after).symm) rfl rfl)
  | clear _ ih | mark _ ih => exact ih ⟨h.rest_eq, h.current_le⟩

end Scanner.OnSource

namespace Drive

/-- Every step leaves the scanner on its source. -/
theorem onSource_step {source : List Char} {drive : Drive} (h : drive.scanner.OnSource source)
    (step : DriveStep) : (drive.step step).drive.scanner.OnSource source := by
  cases byHand : step.byHand with
  | false => exact h.readsOn (drive.readsOn_step byHand)
  | true =>
    cases step with
    | advance =>
      rw [Drive.step, Scanner.advance]
      cases rest : drive.scanner.rest with
      | nil => exact h
      | cons c after => exact h.move [c] rest rfl rfl
    | accept expected =>
      rw [Drive.step, Scanner.accept]
      cases rest : drive.scanner.rest with
      | nil => exact h
      | cons c after =>
        by_cases same : expected = [c]
        · simp only [if_pos same]
          exact h.move [c] rest rfl rfl
        · simp only [if_neg same]
          exact h
    | openStream | next | drain | close | scanTokens | peek | peekNext => cases byHand

/-- **However it is driven, a scanner stays on its source.** -/
theorem onSource_run {source : List Char} {drive : Drive} (h : drive.scanner.OnSource source)
    (steps : List DriveStep) : (drive.runState steps).scanner.OnSource source := by
  induction steps generalizing drive with
  | nil => exact h
  | cons step rest ih => exact ih (onSource_step h step)

end Drive

/-! ## Tokens and reports -/

/-- **The pending tokens that draining a stream delivers**: those from its index on, or, if it
has not begun, all of them unless there is nothing left to read. -/
def Stream.leftover (stream : Stream) (s : Scanner) : List Token :=
  match stream with
  | .fresh => if s.current < s.sourceLength then s.pending else []
  | .suspended index _ => s.pending.drop index
  | .finished => []

namespace Scanner

/-- The tokens of what a scanner has to offer. -/
theorem filterMap_token?_prospect (s : Scanner) (count : Nat) :
    (s.prospect count).filterMap Signal.token? = (scanFrom s.line s.rest).tokens := by
  rw [prospect, List.filterMap_append, filterMap_token?_ofEvent, tokens_scanFrom]
  rfl

/-- The reports of what a scanner has to offer. -/
theorem filterMap_report?_prospect (s : Scanner) (count : Nat) :
    ((s.prospect count).filterMap Signal.notice?).filterMap Notice.report? =
      (scanFrom s.line s.rest).reports := by
  rw [prospect, List.filterMap_append, filterMap_notice?_ofEvent, List.filterMap_append,
    List.filterMap_map]
  show List.filterMap some _ ++ [] = _
  rw [List.filterMap_some, List.append_nil]
  rfl

/-- The reports of a text are the report of its first item, if it is faulty, and those of the
text behind the item. -/
theorem reports_scanFrom_readItem {s : Scanner} {c : Char} {after : List Char}
    (rest : s.rest = c :: after) :
    (scanFrom s.line s.rest).reports =
      (s.readItem c after).2.filterMap Notice.report? ++
        (scanFrom (s.readItem c after).1.line (s.readItem c after).1.rest).reports := by
  rw [filterMap_report?_readItem, rest, scanFrom, items_cons, filterMap_report?_eventsFrom_cons]
  rfl

/-- At the end of the source a stream that seeks a token gets the one that marks it. -/
theorem seek_of_nil {s : Scanner} (ended : s.rest = []) (count : Nat) :
    s.seek count =
      { scanner := { s with start := s.current }
        stream := .finished
        token := some (Token.endOfInput s.line)
        notices := [.finished (count + 1) s.line] } := by
  rw [seek]
  split
  · rfl
  · next begun =>
    rw [begun] at ended
    cases ended

/-- In front of a text a stream that seeks a token reads an item and goes on if none is pending
then. -/
theorem seek_of_cons {s : Scanner} {c : Char} {after : List Char} (rest : s.rest = c :: after)
    (count : Nat) :
    s.seek count =
      match (s.readItem c after).1.pending with
      | [] => ((s.readItem c after).1.seek count).after (s.readItem c after).2
      | token :: more =>
        { scanner := (s.readItem c after).1
          stream := .suspended 1 (count + (more.length + 1))
          token := some token
          notices := (s.readItem c after).2 } := by
  rw [seek]
  split
  · next ended =>
    rw [ended] at rest
    cases rest
  · next begun =>
    obtain ⟨rfl, rfl⟩ := List.cons.inj (begun.symm.trans rest)
    rfl

end Scanner

/-- **The trace of a stream that begins at the end of the source.** -/
theorem Stream.trace_fresh_of_nil {s : Scanner} (ended : s.rest = []) :
    Stream.fresh.trace s =
      [.told (.started s.sourceLength), .told (.finished 1 s.line),
        .delivered (Token.endOfInput s.line)] := by
  rw [trace_eq, next, Delivery.trace_after, Scanner.seek_of_nil ended, Delivery.trace]
  simp only [Stream.trace_eq, Stream.next]
  rfl

/-- **The trace of a stream that begins in front of a text**: what reading the first item tells,
all tokens that are pending then, and what the scanner has to offer behind the item. -/
theorem Stream.trace_fresh_of_cons {s : Scanner} {c : Char} {after : List Char}
    (rest : s.rest = c :: after) :
    Stream.fresh.trace s =
      .told (.started s.sourceLength) :: (s.readItem c after).2.map .told ++
        (s.readItem c after).1.pending.map .delivered ++
          (s.readItem c after).1.prospect (s.readItem c after).1.pending.length := by
  rw [trace_eq, next, Delivery.trace_after, Scanner.seek_of_cons rest]
  cases pending : (s.readItem c after).1.pending with
  | nil =>
    rw [Delivery.trace_after, Scanner.trace_seek_of_shorter _ 0 pending
      fun t _ index count => Stream.trace_suspended t index count]
    simp
  | cons token more =>
    rw [Delivery.trace]
    simp only [Stream.trace_suspended, pending]
    simp

/-- **What draining a stream delivers and reports.** -/
theorem Stream.drain_eq_leftover {stream : Stream} (s : Scanner) (unfinished : stream ≠ .finished) :
    (stream.drain s).tokens = stream.leftover s ++ (scanFrom s.line s.rest).tokens ∧
      (stream.drain s).notices.filterMap Notice.report? = (scanFrom s.line s.rest).reports := by
  obtain ⟨tokens, notices⟩ := Stream.drain_eq_trace stream s
  rw [tokens, notices]
  cases stream with
  | fresh =>
    rw [leftover, Scanner.sourceLength]
    cases rest : s.rest with
    | nil =>
      rw [trace_fresh_of_nil rest, if_neg (by simp)]
      simp [scanFrom, Signal.token?, Signal.notice?, Notice.report?, List.filterMap_cons]
    | cons c after =>
      rw [trace_fresh_of_cons rest, ← rest, Scanner.tokens_scanFrom_readItem rest,
        Scanner.reports_scanFrom_readItem rest, if_pos (by simp [rest])]
      simp only [List.filterMap_append, List.filterMap_cons, Signal.token?, Signal.notice?,
        Notice.report?, filterMap_token?_told, filterMap_notice?_told, filterMap_token?_delivered,
        filterMap_notice?_delivered, Scanner.filterMap_token?_prospect,
        Scanner.filterMap_report?_prospect, List.nil_append, List.append_nil, and_true]
      exact List.append_assoc _ _ _
  | suspended index count =>
    simp only [trace_suspended, List.filterMap_append, filterMap_token?_delivered,
      filterMap_notice?_delivered, Scanner.filterMap_token?_prospect,
      Scanner.filterMap_report?_prospect]
    exact ⟨rfl, rfl⟩
  | finished => exact absurd rfl unfinished

/-! ## What draining leaves behind -/

/-- **A scanner at the end of its source**, where a stream has finished. -/
structure Scanner.Ended (s : Scanner) : Prop where
  rest_eq : s.rest = []
  start_eq : s.start = s.current

/-- A stream that seeks a token finishes at the end of the source, where only tokens that were
pending there before are still pending, or it is suspended. -/
theorem Scanner.seek_cases (s : Scanner) (count : Nat) :
    ((s.seek count).stream = .finished ∧ (s.seek count).scanner.Ended ∧
        (s.seek count).scanner.pending = if s.rest = [] then s.pending else []) ∨
      ((∃ index count', (s.seek count).stream = .suspended index count') ∧ s.rest ≠ []) := by
  fun_induction Scanner.seek s count with
  | case1 s ended => exact .inl ⟨rfl, ⟨ended, rfl⟩, (if_pos ended).symm⟩
  | case2 s c after rest read none_pending ih =>
    have begun : s.rest ≠ [] := by simp [rest]
    rcases ih with ⟨finished, ended, pending⟩ | ⟨suspended, -⟩
    · refine .inl ⟨finished, ended, ?_⟩
      rw [none_pending, ite_self] at pending
      rw [if_neg begun]
      exact pending
    · exact .inr ⟨suspended, begun⟩
  | case3 s c after rest read token more some_pending =>
    exact .inr ⟨⟨_, _, rfl⟩, by simp [rest]⟩

/-- A stream that is asked for a token finishes at the end of the source, or is suspended. -/
theorem Stream.next_cases {stream : Stream} (s : Scanner) (unfinished : stream ≠ .finished) :
    ((stream.next s).stream = .finished ∧ (stream.next s).scanner.Ended ∧
        (stream.next s).scanner.pending =
          if stream = .fresh ∧ s.rest = [] then s.pending else []) ∨
      ((∃ index count, (stream.next s).stream = .suspended index count) ∧
        ¬ (stream = .fresh ∧ s.rest = [])) := by
  cases stream with
  | fresh =>
    rcases s.seek_cases 0 with ⟨finished, ended, pending⟩ | ⟨suspended, begun⟩
    · exact .inl ⟨finished, ended, pending.trans (if_congr (and_iff_right rfl).symm rfl rfl)⟩
    · exact .inr ⟨suspended, fun both => begun both.2⟩
  | suspended index count =>
    have begun : ¬ (Stream.suspended index count = .fresh ∧ s.rest = []) := by
      rintro ⟨⟨⟩, -⟩
    rw [next]
    split
    · exact .inr ⟨⟨_, _, rfl⟩, begun⟩
    · rcases Scanner.seek_cases { s with pending := [] } count with
        ⟨finished, ended, pending⟩ | ⟨suspended, -⟩
      · rw [ite_self] at pending
        exact .inl ⟨finished, ended, by rw [pending, if_neg begun]⟩
      · exact .inr ⟨suspended, begun⟩
  | finished => exact absurd rfl unfinished

/-- Draining a stream that has finished does nothing. -/
theorem Stream.drain_finished (s : Scanner) :
    Stream.finished.drain s = { scanner := s, tokens := [], notices := [] } := by
  rw [drain]
  rfl

/-- **Draining a stream leaves the scanner at the end of its source**, and without pending
tokens, unless the stream had not begun and there was nothing left to read. -/
theorem Stream.ended_drain {stream : Stream} (s : Scanner) (unfinished : stream ≠ .finished) :
    (stream.drain s).scanner.Ended ∧
      (stream.drain s).scanner.pending =
        if stream = .fresh ∧ s.rest = [] then s.pending else [] := by
  fun_induction Stream.drain stream s with
  | case1 stream s delivery stop =>
    obtain ⟨token, found, -⟩ := Stream.exists_token_next s unfinished
    rw [show (stream.next s).token = none from stop] at found
    cases found
  | case2 stream s delivery token found remaining ih =>
    rcases Stream.next_cases s unfinished with
      ⟨finished, ended, pending⟩ | ⟨⟨index, count, suspended⟩, begun⟩
    · have same : remaining.scanner = (stream.next s).scanner := by
        show (Stream.drain delivery.stream delivery.scanner).scanner = _
        rw [show delivery.stream = .finished from finished, drain_finished]
      rw [same]
      exact ⟨ended, pending⟩
    · replace suspended : delivery.stream = .suspended index count := suspended
      obtain ⟨ended, pending⟩ := ih (by simp [suspended])
      rw [if_neg (by simp [suspended])] at pending
      rw [if_neg begun]
      exact ⟨ended, pending⟩

/-! ## The exact content of a drain -/

/-- **The exact content of a drain.**  Draining a stream on a scanner answers with what is left
of the pending tokens and then with the tokens of the rest of the source as a source of its own,
on lines that are as much further down as the scanner's line is behind the first one; it makes
the reports of that source on lines that are further down as well; and it leaves the scanner
at the end of the source, without pending tokens unless the stream had not begun and there was
nothing left to read. -/
structure DrainsTo (source : List Char) (stream : Stream) (s : Scanner) (outcome : DriveOutcome) :
    Prop where
  answer_eq : outcome.answer = .ok (.tokens (stream.leftover s ++
    (Scanner.ofSource (source.drop s.current)).scanTokens.tokens.map
      fun token => token.shiftLine (s.line - 1)))
  reports_eq : outcome.notices.filterMap Notice.report? =
    ((Scanner.ofSource (source.drop s.current)).scanTokens.notices.filterMap Notice.report?).map
      fun report => report.shiftLine (s.line - 1)
  start_eq : outcome.drive.scanner.start = source.length
  current_eq : outcome.drive.scanner.current = source.length
  pending_eq : outcome.drive.scanner.pending =
    if stream = .fresh ∧ s.current = source.length then s.pending else []

/-- A step that drains a stream on a scanner that stands on a source. -/
theorem drainsTo_of_onSource {source : List Char} {stream : Stream} {s : Scanner}
    {outcome : DriveOutcome} (h : s.OnSource source) (unfinished : stream ≠ .finished)
    (answer : outcome.answer = .ok (.tokens (stream.drain s).tokens))
    (notices : outcome.notices = (stream.drain s).notices)
    (scanner : outcome.drive.scanner = (stream.drain s).scanner) :
    DrainsTo source stream s outcome := by
  obtain ⟨tokens, reports⟩ := Stream.drain_eq_leftover s unfinished
  obtain ⟨⟨rest, start⟩, pending⟩ := Stream.ended_drain s unfinished
  have current : (stream.drain s).scanner.current = source.length :=
    (h.readsOn (Scanner.readsOn_drain stream s)).rest_eq_nil_iff.mp rest
  have rescan : scanFrom s.line s.rest = (scan (source.drop s.current)).shiftLine (s.line - 1) := by
    rw [h.rest_eq, scanFrom_eq_shiftLine]
  refine ⟨?_, ?_, ?_, ?_, ?_⟩
  · rw [answer, tokens, rescan, (Scanner.scanTokens_ofSource _).1]
    rfl
  · rw [notices, reports, rescan, Scanner.reports_scanTokens_ofSource]
    rfl
  · rw [scanner, start, current]
  · rw [scanner, current]
  · rw [scanner, pending]
    exact if_congr (and_congr_right fun _ => h.rest_eq_nil_iff) rfl rfl

/-! ## A lone stream -/

/-- **A new stream behind a lone one** delivers its last token again exactly if anything is left
to read, and then the other ones. -/
theorem Drive.scanTokens_askedAlone (source : List Char) (name : String) {k : Nat}
    (positive : 0 < k) (short : k < (Scanner.ofSource source).scanTokens.tokens.length) :
    (askedAlone source name k).scanner.scanTokens.tokens =
      if (askedAlone source name k).scanner.current <
          (askedAlone source name k).scanner.sourceLength then
        (Scanner.ofSource source).scanTokens.tokens.drop (k - 1)
      else (Scanner.ofSource source).scanTokens.tokens.drop k := by
  obtain ⟨before, place, token, stopped⟩ | ended :=
    hasStopped_or_hasEnded source name positive (Nat.le_of_lt short)
  · have split : (Scanner.ofSource source).scanTokens.tokens.drop (k - 1) =
        token :: (Scanner.ofSource source).scanTokens.tokens.drop k := by
      obtain ⟨inside, same⟩ := List.getElem?_eq_some_iff.mp stopped.token_eq
      rw [List.drop_eq_getElem_cons inside, same, Nat.sub_add_cancel positive]
    have unfinished : Stream.fresh ≠ .finished := nofun
    rw [Scanner.scanTokens, (Stream.drain_eq_leftover _ unfinished).1, Stream.leftover,
      stopped.passed.tokens_scanFrom, stopped.pending_eq, split]
    split <;> rfl
  · exact absurd ended.length_eq (Nat.ne_of_gt short)

/-- **Draining is exact at every state that can be reached.**  After any steps on one scanner,
draining a stream that has not finished delivers what is left of the pending tokens and then
what scanning the rest of the source delivers, and so does draining one that has no name, which
has not begun.  In particular, after a lone stream has delivered some tokens but not the one
that marks the end, a new stream delivers the last of them again exactly if anything is left
to read, and then the other ones. -/
theorem drain_exact (source : List Char) :
    (∀ steps : List DriveStep,
      ((Drive.ofSource source).runState steps).scanner.sourceLength = source.length ∧
        (∀ name : String, ((Drive.ofSource source).runState steps).stream name ≠ .finished →
          DrainsTo source (((Drive.ofSource source).runState steps).stream name)
            ((Drive.ofSource source).runState steps).scanner
            (((Drive.ofSource source).runState steps).step (.drain name))) ∧
        DrainsTo source .fresh ((Drive.ofSource source).runState steps).scanner
          (((Drive.ofSource source).runState steps).step .scanTokens)) ∧
      ∀ (name : String) (k : Nat), 0 < k →
        k < (Scanner.ofSource source).scanTokens.tokens.length →
          ((Drive.askedAlone source name k).step .scanTokens).answer =
            .ok (.tokens
              (if (Drive.askedAlone source name k).scanner.current < source.length then
                (Scanner.ofSource source).scanTokens.tokens.drop (k - 1)
              else (Scanner.ofSource source).scanTokens.tokens.drop k)) := by
  have place : ∀ steps, ((Drive.ofSource source).runState steps).scanner.OnSource source :=
    fun steps => Drive.onSource_run ⟨rfl, Nat.zero_le _⟩ steps
  constructor
  · intro steps
    refine ⟨(place steps).sourceLength_eq, fun name unfinished => ?_, ?_⟩
    · exact drainsTo_of_onSource (place steps) unfinished rfl rfl rfl
    · exact drainsTo_of_onSource (place steps) nofun rfl rfl rfl
  · intro name k positive short
    have tokens := Drive.scanTokens_askedAlone source name positive short
    rw [Drive.askedAlone, (place _).sourceLength_eq] at tokens
    exact congrArg (fun tokens => Except.ok (DriveAnswer.tokens tokens)) tokens

/-- A stream that was suspended when another one read on, and the cursor was moved over the
minus sign by hand, delivers what it has not delivered of the pending tokens, and then the rest.
A new stream behind one that was asked for a single token delivers this token again. -/
theorem drain_exact_of_two_streams :
    (∃ tokens : List Token,
      (((Drive.ofSource ";+-*".toList).runState
          [.openStream "x", .next "x", .openStream "y", .next "y", .advance]).step
            (.drain "x")).answer = .ok (.tokens tokens) ∧
        tokens.map Token.lexeme = [['+'], ['*'], []]) ∧
      ((Drive.askedAlone "+;".toList "x" 1).step .scanTokens).answer =
        .ok (.tokens (Scanner.ofSource "+;".toList).scanTokens.tokens) := by
  have drained := ((drain_exact ";+-*".toList).1
    [.openStream "x", .next "x", .openStream "y", .next "y", .advance]).2.1 "x" (by decide +kernel)
  have again := (drain_exact "+;".toList).2 "x" 1 (by decide) (by decide +kernel)
  rw [if_pos (by decide +kernel)] at again
  exact ⟨⟨_, drained.answer_eq, by decide +kernel⟩, again⟩

end LoxScan
