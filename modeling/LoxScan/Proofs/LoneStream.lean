import LoxScan.Proofs.Delivery

/-!
# A stream that is alone on its scanner

A stream that nothing interferes with reads the items of the source one after the other and
delivers one token each time it is asked.  Asking it has two outcomes.  Either it passes some
events that are reports, stops right behind the next token, and this token alone is pending
(`Delivery.StopsAt`); or all events that are left are reports, and it comes to the end
(`Delivery.ComesToEnd`).

What a lone stream has passed when it has been asked for a number of tokens (`Drive.HasPassed`)
therefore grows by one step of this kind at a time: it has stopped at a token
(`Drive.HasStopped`) until it has delivered all tokens (`Drive.HasEnded`).

## Main Definitions

* `Scanner.ahead` — what occurs in the text that a scanner still has to read
* `Delivery.StopsAt`, `Delivery.ComesToEnd` — the two outcomes of asking for a token
* `Drive.askedAlone` — a new scanner after a lone stream was asked for a number of tokens
* `Drive.HasPassed` — what a lone stream has passed, delivered and told
* `Drive.HasStopped`, `Drive.HasEnded` — where a lone stream stands
-/

namespace LoxScan

/-! ## What is ahead of a scanner -/

namespace Scanner

/-- What occurs in the text that a scanner still has to read. -/
def ahead (s : Scanner) : List Occurrence := occurrencesFrom s.current s.line (items s.rest)

theorem ahead_of_nil {s : Scanner} (ended : s.rest = []) : s.ahead = [] := by
  rw [ahead, ended, items_nil]
  rfl

theorem ahead_of_cons {s : Scanner} {c : Char} {after : List Char} (rest : s.rest = c :: after) :
    s.ahead =
      (((Item.cut c after).1.event? (s.line + (Item.cut c after).1.lineBreaks)).map
          (Occurrence.mk s.current (s.readItem c after).1.current)).toList ++
        (s.readItem c after).1.ahead := by
  rw [ahead, rest, items_cons, occurrencesFrom_cons]
  rfl

/-- **Reading an item without pending tokens** makes the next event pending, if it is a token, and
otherwise tells it, if it is a report. -/
theorem readItem_cases {s : Scanner} {c : Char} {after : List Char} (rest : s.rest = c :: after)
    (clear : s.pending = []) :
    (∃ token,
      s.ahead = ⟨(s.readItem c after).1.start, (s.readItem c after).1.current, .token token⟩ ::
          (s.readItem c after).1.ahead ∧
        (s.readItem c after).1.pending = [token] ∧ (s.readItem c after).2 = []) ∨
      ∃ silent : List Occurrence, s.ahead = silent ++ (s.readItem c after).1.ahead ∧
        silent.filterMap (fun occurrence => occurrence.event.token?) = [] ∧
        (s.readItem c after).1.pending = [] ∧
        (s.readItem c after).2 =
          (silent.filterMap fun occurrence => occurrence.event.report?).map .report := by
  have ahead := ahead_of_cons rest
  have pending : (s.readItem c after).1.pending =
      ((Item.cut c after).1.token? (s.line + (Item.cut c after).1.lineBreaks)).toList := by
    rw [readItem, clear, List.nil_append]
  have told : (s.readItem c after).2 =
      (((Item.cut c after).1.report? (s.line + (Item.cut c after).1.lineBreaks)).map
        Notice.report).toList := rfl
  rw [Item.token?] at pending
  rw [Item.report?] at told
  cases found : (Item.cut c after).1.event? (s.line + (Item.cut c after).1.lineBreaks) with
  | none =>
    rw [found] at ahead pending told
    exact .inr ⟨[], ahead, rfl, pending, told⟩
  | some event =>
    rw [found] at ahead pending told
    cases event with
    | token token => exact .inl ⟨token, ahead, pending, told⟩
    | report report => exact .inr ⟨[_], ahead, rfl, pending, told⟩

/-- The tokens of the text that a scanner still has to read. -/
theorem tokens_scanFrom_eq_ahead (s : Scanner) :
    (scanFrom s.line s.rest).tokens =
      (s.ahead.filterMap fun occurrence => occurrence.event.token?) ++
        [.endOfInput (s.line + (s.rest.count '\n' : Nat))] := by
  have events : (s.ahead.filterMap fun occurrence => occurrence.event.token?) =
      (eventsFrom s.line (items s.rest)).filterMap ScanEvent.token? := by
    rw [← map_event_occurrencesFrom s.current, List.filterMap_map]
    rfl
  rw [events, tokens_scanFrom]

/-- Reading on leaves the last line where it is. -/
theorem ReadsOn.line_add_count {s t : Scanner} (reads : s.ReadsOn t) :
    t.line + (t.rest.count '\n' : Nat) = s.line + (s.rest.count '\n' : Nat) := by
  induction reads with
  | done => rfl
  | item rest _ ih =>
    rw [ih, rest, Item.line_add_count_cut]
    rfl
  | clear _ ih | mark _ ih => exact ih

/-- Reading on changes nothing about the length of the source. -/
theorem ReadsOn.sourceLength_eq {s t : Scanner} (reads : s.ReadsOn t) :
    t.sourceLength = s.sourceLength := by
  induction reads with
  | done => rfl
  | @item s t c after rest _ ih => rw [ih, s.sourceLength_readItem rest]
  | clear _ ih | mark _ ih => exact ih

end Scanner

/-! ## Asking for one token -/

/-- **A delivery that stops at a token.**  The events in front of the token are reports, and they
are told; the scanner stands right behind the token, and this alone is pending. -/
structure Delivery.StopsAt (delivery : Delivery) (s : Scanner) (count : Nat)
    (before : List Occurrence) (token : Token) : Prop where
  ahead_eq : s.ahead = before ++
    ⟨delivery.scanner.start, delivery.scanner.current, .token token⟩ :: delivery.scanner.ahead
  silent : before.filterMap (fun occurrence => occurrence.event.token?) = []
  token_eq : delivery.token = some token
  stream_eq : delivery.stream = .suspended 1 (count + 1)
  pending_eq : delivery.scanner.pending = [token]
  notices_eq : delivery.notices =
    (before.filterMap fun occurrence => occurrence.event.report?).map .report

/-- **A delivery that comes to the end.**  All events that are left are reports, and they are told;
the scanner stands behind the source, nothing is pending, and the number of tokens and the number
of lines are told last. -/
structure Delivery.ComesToEnd (delivery : Delivery) (s : Scanner) (count : Nat) : Prop where
  silent : s.ahead.filterMap (fun occurrence => occurrence.event.token?) = []
  token_eq : delivery.token = some (.endOfInput (s.line + (s.rest.count '\n' : Nat)))
  start_eq : delivery.scanner.start = s.sourceLength
  current_eq : delivery.scanner.current = s.sourceLength
  pending_eq : delivery.scanner.pending = []
  notices_eq : delivery.notices =
    (s.ahead.filterMap fun occurrence => occurrence.event.report?).map .report ++
      [.finished (count + 1) (s.line + (s.rest.count '\n' : Nat))]

/-- Reports that are told before a delivery are events in front of its token. -/
theorem Delivery.StopsAt.after {delivery : Delivery} {s t : Scanner} {count : Nat}
    {before silent : List Occurrence} {token : Token}
    (stops : delivery.StopsAt t count before token)
    (ahead : s.ahead = silent ++ t.ahead)
    (noToken : silent.filterMap (fun occurrence => occurrence.event.token?) = []) :
    (delivery.after ((silent.filterMap fun occurrence => occurrence.event.report?).map
      .report)).StopsAt s count (silent ++ before) token where
  ahead_eq := by
    rw [ahead, stops.ahead_eq, List.append_assoc]
    rfl
  silent := by rw [List.filterMap_append, noToken, stops.silent, List.append_nil]
  token_eq := stops.token_eq
  stream_eq := stops.stream_eq
  pending_eq := stops.pending_eq
  notices_eq := by
    rw [List.filterMap_append, List.map_append, ← stops.notices_eq]
    rfl

/-- Reports that are told before a delivery are events in front of the end. -/
theorem Delivery.ComesToEnd.after {delivery : Delivery} {s t : Scanner} {count : Nat}
    {silent : List Occurrence} (ends : delivery.ComesToEnd t count)
    (ahead : s.ahead = silent ++ t.ahead)
    (noToken : silent.filterMap (fun occurrence => occurrence.event.token?) = [])
    (reads : s.ReadsOn t) :
    (delivery.after ((silent.filterMap fun occurrence => occurrence.event.report?).map
      .report)).ComesToEnd s count where
  silent := by rw [ahead, List.filterMap_append, noToken, ends.silent, List.append_nil]
  token_eq := ends.token_eq.trans (by rw [reads.line_add_count])
  start_eq := ends.start_eq.trans reads.sourceLength_eq
  current_eq := ends.current_eq.trans reads.sourceLength_eq
  pending_eq := ends.pending_eq
  notices_eq := by
    rw [ahead, List.filterMap_append, List.map_append, ← reads.line_add_count, List.append_assoc,
      ← ends.notices_eq]
    rfl

/-- **A stream that seeks a token where none is pending** stops at the next one or comes to the
end. -/
theorem Scanner.stopsAt_or_comesToEnd_seek {s : Scanner} (clear : s.pending = []) (count : Nat) :
    (∃ before token, (s.seek count).StopsAt s count before token) ∨
      (s.seek count).ComesToEnd s count := by
  fun_induction Scanner.seek s count with
  | case1 s ended =>
    refine .inr ⟨?_, ?_, ?_, ?_, clear, ?_⟩
    · rw [ahead_of_nil ended]
      rfl
    · simp [ended]
    · simp [sourceLength, ended]
    · simp [sourceLength, ended]
    · simp [ahead_of_nil ended, ended]
  | case2 s c after rest read none_pending ih =>
    have none_pending' : (s.readItem c after).1.pending = [] := none_pending
    rcases readItem_cases rest clear with ⟨token, -, pending, -⟩ | ⟨silent, ahead, noToken, -, told⟩
    · rw [none_pending'] at pending
      cases pending
    · rw [show read.2 = _ from told]
      rcases ih none_pending with ⟨before, token, stops⟩ | ends
      · exact .inl ⟨silent ++ before, token, stops.after ahead noToken⟩
      · exact .inr (ends.after ahead noToken (.item rest (.done _)))
  | case3 s c after rest read first more some_pending =>
    have some_pending' : (s.readItem c after).1.pending = first :: more := some_pending
    rcases readItem_cases rest clear with ⟨token, ahead, pending, told⟩ | ⟨_, -, -, pending, -⟩
    · rw [some_pending'] at pending
      obtain ⟨rfl, rfl⟩ := List.cons.inj pending
      exact .inl ⟨[], first, ahead, rfl, rfl, rfl, some_pending', told⟩
    · rw [some_pending'] at pending
      cases pending

/-! ## Asking a stream -/

/-- **A stream has delivered all tokens that are pending.** -/
def Stream.CaughtUp (stream : Stream) (s : Scanner) : Prop :=
  match stream with
  | .fresh => s.pending = []
  | .suspended index _ => s.pending[index]? = none
  | .finished => False

/-- What a stream tells first when it is asked. -/
def Stream.opening (stream : Stream) (s : Scanner) : List Notice :=
  match stream with
  | .fresh => [.started s.sourceLength]
  | .suspended .. | .finished => []

/-- The number of tokens that a stream has read. -/
def Stream.tokensRead : Stream → Nat
  | .suspended _ count => count
  | .fresh | .finished => 0

/-- A stream that has delivered all pending tokens clears them and seeks the next one. -/
theorem Stream.CaughtUp.next_eq {stream : Stream} {s : Scanner} (caughtUp : stream.CaughtUp s) :
    stream.next s =
      (Scanner.seek { s with pending := [] } stream.tokensRead).after (stream.opening s) := by
  cases stream with
  | fresh =>
    have clear : s.pending = [] := caughtUp
    show (s.seek 0).after _ = _
    rw [← clear]
    rfl
  | suspended index count =>
    rw [next, show s.pending[index]? = none from caughtUp]
    rfl
  | finished => cases caughtUp

/-! ## The place of a token -/

section Concat

variable {place : Occurrence} {token : Token}

theorem filterMap_token?_concat (event : place.event = .token token) (before : List Occurrence) :
    (before ++ [place]).filterMap (fun occurrence => occurrence.event.token?) =
      (before.filterMap fun occurrence => occurrence.event.token?) ++ [token] := by
  rw [List.filterMap_append, List.filterMap_cons, event]
  rfl

theorem filterMap_report?_concat (event : place.event = .token token) (before : List Occurrence) :
    (before ++ [place]).filterMap (fun occurrence => occurrence.event.report?) =
      before.filterMap fun occurrence => occurrence.event.report? := by
  rw [List.filterMap_append, List.filterMap_cons, event]
  exact List.append_nil _

end Concat

/-- **What occurs before an event** is what stops before it starts. -/
theorem filter_stop_le_start {source : List Char} {before behind : List Occurrence}
    {place : Occurrence} (split : occurrences source = before ++ place :: behind) :
    (occurrences source).filter (fun occurrence => decide (occurrence.stop ≤ place.start)) =
      before := by
  have ordered := pairwise_occurrences source
  rw [split, List.pairwise_append, List.pairwise_cons] at ordered
  have present : ∀ occurrence ∈ before, occurrence.stop ≤ place.start :=
    fun occurrence mem => ordered.2.2 occurrence mem place List.mem_cons_self
  have absent : ∀ occurrence ∈ place :: behind, ¬ occurrence.stop ≤ place.start := by
    intro occurrence mem
    have proper : ∀ other ∈ place :: behind, other.start < other.stop := by
      intro other among
      have inSource : other ∈ occurrences source := by
        rw [split]
        exact List.mem_append_right _ among
      obtain ⟨_, _, _, located⟩ := exists_at_of_mem_occurrences inSource
      exact located.start_lt_stop
    have first := proper place List.mem_cons_self
    have own := proper occurrence mem
    rcases List.mem_cons.mp mem with rfl | later
    · omega
    · have := ordered.2.1.1 occurrence later
      omega
  rw [split, List.filter_append, List.filter_eq_self.mpr (by simpa using present),
    List.filter_eq_nil_iff.mpr (by simpa using absent), List.append_nil]

/-- **The index of a token** among all tokens is the number of tokens in front of it. -/
theorem getElem?_filter_isSome {before behind : List Occurrence} {place : Occurrence}
    {token : Token} (event : place.event = .token token) :
    ((before ++ place :: behind).filter fun occurrence => occurrence.event.token?.isSome)[
        (before.filterMap fun occurrence => occurrence.event.token?).length]? = some place := by
  have length := congrArg List.length (map_event_filter_isSome before)
  rw [List.length_map, List.length_map] at length
  rw [← length, List.filter_append, List.getElem?_append_right (Nat.le_refl _), Nat.sub_self,
    List.filter_cons_of_pos (by rw [event]; rfl)]
  rfl

/-! ## A lone stream -/

/-- The steps in which a stream is opened and asked for a number of tokens. -/
def DriveStep.openAndAsk (name : String) (k : Nat) : List DriveStep :=
  .openStream name :: List.replicate k (.next name)

theorem DriveStep.openAndAsk_succ (name : String) (k : Nat) :
    openAndAsk name (k + 1) = openAndAsk name k ++ [.next name] := by
  rw [openAndAsk, List.replicate_succ', ← List.cons_append]
  rfl

namespace Drive

/-- What is told in some steps, in order. -/
def told (drive : Drive) (steps : List DriveStep) : List Notice :=
  (drive.run steps).flatMap DriveOutcome.notices

theorem told_append (drive : Drive) (first second : List DriveStep) :
    drive.told (first ++ second) = drive.told first ++ (drive.runState first).told second := by
  induction first generalizing drive with
  | nil => rfl
  | cons step rest ih =>
    show (drive.step step).notices ++ (drive.step step).drive.told (rest ++ second) = _
    rw [ih, ← List.append_assoc]
    rfl

theorem deliveredTo_append (drive : Drive) (name : String) (first second : List DriveStep) :
    drive.deliveredTo name (first ++ second) =
      drive.deliveredTo name first ++ (drive.runState first).deliveredTo name second := by
  induction first generalizing drive with
  | nil => rfl
  | cons step rest ih =>
    rw [List.cons_append, deliveredTo_cons, ih, deliveredTo_cons, List.append_assoc]
    rfl

/-- A new scanner on a source after a lone stream on it was asked for a number of tokens. -/
def askedAlone (source : List Char) (name : String) (k : Nat) : Drive :=
  (ofSource source).runState (.openStream name :: List.replicate k (.next name))

theorem askedAlone_eq (source : List Char) (name : String) (k : Nat) :
    askedAlone source name k = (ofSource source).runState (DriveStep.openAndAsk name k) := rfl

theorem askedAlone_succ (source : List Char) (name : String) (k : Nat) :
    askedAlone source name (k + 1) = ((askedAlone source name k).step (.next name)).drive := by
  rw [askedAlone_eq, DriveStep.openAndAsk_succ, runState_append]
  rfl

/-- Asking a lone stream reads on. -/
theorem readsOn_askedAlone (source : List Char) (name : String) (k : Nat) :
    (Scanner.ofSource source).ReadsOn (askedAlone source name k).scanner := by
  rw [askedAlone_eq]
  refine (ofSource source).readsOn_run (DriveStep.openAndAsk name k) ?_
  simp [DriveStep.openAndAsk, DriveStep.byHand]

/-- No line is behind the last line of the source, however many tokens were asked for. -/
theorem line_askedAlone (source : List Char) (name : String) (k : Nat) :
    (askedAlone source name k).scanner.line +
        ((askedAlone source name k).scanner.rest.count '\n' : Nat) = lineTotal source :=
  (readsOn_askedAlone source name k).line_add_count

theorem sourceLength_askedAlone (source : List Char) (name : String) (k : Nat) :
    (askedAlone source name k).scanner.sourceLength = source.length :=
  (readsOn_askedAlone source name k).sourceLength_eq.trans (Nat.zero_add _)

/-- **A lone stream has passed some events** when it has been asked for a number of tokens: they
are the first ones of the source, so many of them are tokens, and these have been delivered; the
reports among them are all that has been told, but for the beginning. -/
structure HasPassed (source : List Char) (name : String) (k : Nat) (passed : List Occurrence) :
    Prop where
  occurrences_eq : occurrences source = passed ++ (askedAlone source name k).scanner.ahead
  length_eq : (passed.filterMap fun occurrence => occurrence.event.token?).length = k
  delivered_eq : (ofSource source).deliveredTo name (DriveStep.openAndAsk name k) =
    passed.filterMap fun occurrence => occurrence.event.token?
  told_eq : (ofSource source).told (DriveStep.openAndAsk name k) ++
      ((askedAlone source name k).stream name).opening (askedAlone source name k).scanner =
    .started source.length ::
      (passed.filterMap fun occurrence => occurrence.event.report?).map .report
  caughtUp : ((askedAlone source name k).stream name).CaughtUp (askedAlone source name k).scanner
  tokensRead_eq : ((askedAlone source name k).stream name).tokensRead = k

/-- **A lone stream has stopped at its last token**: the cursor stands where the token ends, the
last item read began where the token begins, and the token alone is pending. -/
structure HasStopped (source : List Char) (name : String) (k : Nat) (before : List Occurrence)
    (place : Occurrence) (token : Token) : Prop where
  passed : HasPassed source name k (before ++ [place])
  event_eq : place.event = .token token
  start_eq : (askedAlone source name k).scanner.start = place.start
  current_eq : (askedAlone source name k).scanner.current = place.stop
  pending_eq : (askedAlone source name k).scanner.pending = [token]
  opening_eq : ((askedAlone source name k).stream name).opening
    (askedAlone source name k).scanner = []

/-- **A lone stream has come to the end**: it has delivered all tokens and told all reports, and
then the number of tokens and the number of lines. -/
structure HasEnded (source : List Char) (name : String) (k : Nat) : Prop where
  length_eq : (Scanner.ofSource source).scanTokens.tokens.length = k
  delivered_eq : (ofSource source).deliveredTo name (DriveStep.openAndAsk name k) =
    (Scanner.ofSource source).scanTokens.tokens
  told_eq : (ofSource source).told (DriveStep.openAndAsk name k) =
    .started source.length ::
      ((occurrences source).filterMap fun occurrence => occurrence.event.report?).map .report ++
        [.finished k (lineTotal source)]
  start_eq : (askedAlone source name k).scanner.start = source.length
  current_eq : (askedAlone source name k).scanner.current = source.length
  pending_eq : (askedAlone source name k).scanner.pending = []

variable {source : List Char} {name : String} {k : Nat} {before passed : List Occurrence}
  {place : Occurrence} {token : Token}

/-- A lone stream that has not been asked has passed nothing. -/
theorem hasPassed_zero : HasPassed source name 0 [] := by
  have fresh : (askedAlone source name 0).stream name = .fresh := stream_assign_self _ _ _ _
  refine ⟨rfl, rfl, rfl, ?_, ?_, ?_⟩
  · rw [fresh]
    exact congrArg (fun length => [Notice.started length]) (Nat.zero_add _)
  · rw [fresh]
    rfl
  · rw [fresh]
    rfl

/-- What seeking the next token brings about when a lone stream is asked once more. -/
def sought (source : List Char) (name : String) (k : Nat) : Delivery :=
  Scanner.seek { (askedAlone source name k).scanner with pending := [] } k

namespace HasPassed

theorem next_eq (h : HasPassed source name k passed) :
    ((askedAlone source name k).stream name).next (askedAlone source name k).scanner =
      (sought source name k).after
        (((askedAlone source name k).stream name).opening (askedAlone source name k).scanner) := by
  rw [h.caughtUp.next_eq, h.tokensRead_eq]
  rfl

theorem scanner_succ (h : HasPassed source name k passed) :
    (askedAlone source name (k + 1)).scanner = (sought source name k).scanner := by
  rw [askedAlone_succ]
  exact (congrArg Delivery.scanner h.next_eq).trans rfl

theorem stream_succ (h : HasPassed source name k passed) :
    (askedAlone source name (k + 1)).stream name = (sought source name k).stream := by
  rw [askedAlone_succ]
  exact (stream_assign_self _ _ _ _).trans ((congrArg Delivery.stream h.next_eq).trans rfl)

theorem delivered_succ (h : HasPassed source name k passed) :
    (ofSource source).deliveredTo name (DriveStep.openAndAsk name (k + 1)) =
      (passed.filterMap fun occurrence => occurrence.event.token?) ++
        (sought source name k).token.toList := by
  have asks : DriveStep.asks name (.next name) = true := decide_eq_true rfl
  have handed : (askedAlone source name k).handed name (.next name) =
      (sought source name k).token.toList := by
    rw [Drive.handed, if_pos asks]
    exact congrArg (fun delivery => delivery.token.toList) h.next_eq
  rw [DriveStep.openAndAsk_succ, deliveredTo_append, h.delivered_eq, ← handed]
  exact congrArg (_ ++ ·) (List.append_nil _)

theorem told_succ (h : HasPassed source name k passed) :
    (ofSource source).told (DriveStep.openAndAsk name (k + 1)) =
      .started source.length ::
        (passed.filterMap fun occurrence => occurrence.event.report?).map .report ++
          (sought source name k).notices := by
  have now : (askedAlone source name k).told [.next name] =
      ((askedAlone source name k).stream name).opening (askedAlone source name k).scanner ++
        (sought source name k).notices :=
    (List.append_nil _).trans (congrArg Delivery.notices h.next_eq)
  rw [← h.told_eq, List.append_assoc, ← now, DriveStep.openAndAsk_succ, told_append]
  rfl

/-- Asking once more, if it stops at a token, passes the events in front of it and the token. -/
theorem hasStopped (h : HasPassed source name k passed) {before : List Occurrence} {token : Token}
    (stops : (sought source name k).StopsAt (askedAlone source name k).scanner k before token) :
    HasStopped source name (k + 1) (passed ++ before)
      ⟨(askedAlone source name (k + 1)).scanner.start,
        (askedAlone source name (k + 1)).scanner.current, .token token⟩ token := by
  have pending : (askedAlone source name (k + 1)).scanner.pending = [token] := by
    rw [h.scanner_succ, stops.pending_eq]
  have stream : (askedAlone source name (k + 1)).stream name = .suspended 1 (k + 1) :=
    h.stream_succ.trans stops.stream_eq
  have opening : ((askedAlone source name (k + 1)).stream name).opening
      (askedAlone source name (k + 1)).scanner = [] := by
    rw [stream]
    rfl
  have tokens : (passed ++ before).filterMap (fun occurrence => occurrence.event.token?) =
      passed.filterMap fun occurrence => occurrence.event.token? := by
    rw [List.filterMap_append, stops.silent, List.append_nil]
  refine ⟨⟨?_, ?_, ?_, ?_, ?_, ?_⟩, rfl, rfl, rfl, pending, opening⟩
  · rw [h.occurrences_eq, stops.ahead_eq, h.scanner_succ, List.append_assoc, List.append_assoc]
    rfl
  · rw [filterMap_token?_concat rfl, tokens, List.length_append, h.length_eq]
    rfl
  · rw [filterMap_token?_concat rfl, tokens, h.delivered_succ, stops.token_eq]
    rfl
  · rw [opening, List.append_nil, h.told_succ, stops.notices_eq, filterMap_report?_concat rfl,
      List.filterMap_append, List.map_append]
    rfl
  · rw [stream, Stream.CaughtUp, pending]
    rfl
  · rw [stream]
    rfl

/-- Asking once more, if it comes to the end, leaves nothing that could be delivered or told. -/
theorem hasEnded (h : HasPassed source name k passed)
    (ends : (sought source name k).ComesToEnd (askedAlone source name k).scanner k) :
    HasEnded source name (k + 1) := by
  have lines := line_askedAlone source name k
  have solo : (Scanner.ofSource source).scanTokens.tokens =
      (passed.filterMap fun occurrence => occurrence.event.token?) ++
        [.endOfInput (lineTotal source)] := by
    rw [Scanner.tokens_scanTokens_ofSource, h.occurrences_eq, List.filterMap_append, ends.silent,
      List.append_nil]
  refine ⟨?_, ?_, ?_, ?_, ?_, ?_⟩
  · rw [solo, List.length_append, h.length_eq]
    rfl
  · rw [solo, h.delivered_succ, ends.token_eq, lines]
    rfl
  · rw [h.told_succ, ends.notices_eq, lines, h.occurrences_eq, List.filterMap_append,
      List.map_append, ← List.append_assoc]
    rfl
  · rw [h.scanner_succ, ends.start_eq, sourceLength_askedAlone]
  · rw [h.scanner_succ, ends.current_eq, sourceLength_askedAlone]
  · rw [h.scanner_succ, ends.pending_eq]

end HasPassed

/-- **A lone stream that is asked once more** stops at a token or comes to the end. -/
theorem HasPassed.hasStopped_or_hasEnded (h : HasPassed source name k passed) :
    (∃ before place token, HasStopped source name (k + 1) before place token) ∨
      HasEnded source name (k + 1) := by
  have clear : ({ (askedAlone source name k).scanner with pending := [] } : Scanner).pending = [] :=
    rfl
  rcases Scanner.stopsAt_or_comesToEnd_seek clear k with ⟨before, token, stops⟩ | ends
  · exact .inl ⟨_, _, token, h.hasStopped { stops with }⟩
  · exact .inr (h.hasEnded { ends with })

/-- A lone stream that has only passed some events has not delivered all tokens. -/
theorem HasPassed.lt_length (h : HasPassed source name k passed) :
    k < (Scanner.ofSource source).scanTokens.tokens.length := by
  rw [Scanner.tokens_scanTokens_ofSource, h.occurrences_eq, List.filterMap_append,
    List.length_append, List.length_append, h.length_eq, List.length_singleton]
  exact Nat.lt_succ_of_le (Nat.le_add_right _ _)

/-- **A lone stream passes events until it has delivered all tokens** but the one that marks the
end. -/
theorem exists_hasPassed (source : List Char) (name : String) {k : Nat}
    (short : k < (Scanner.ofSource source).scanTokens.tokens.length) :
    ∃ passed, HasPassed source name k passed := by
  induction k with
  | zero => exact ⟨[], hasPassed_zero⟩
  | succ k ih =>
    obtain ⟨passed, h⟩ := ih (Nat.lt_of_succ_lt short)
    rcases h.hasStopped_or_hasEnded with ⟨before, place, token, stopped⟩ | ended
    · exact ⟨_, stopped.passed⟩
    · exact absurd ended.length_eq (Nat.ne_of_gt short)

/-- **A lone stream that was asked for some of the tokens** has stopped at the last of them or has
come to the end. -/
theorem hasStopped_or_hasEnded (source : List Char) (name : String) {k : Nat} (positive : 0 < k)
    (within : k ≤ (Scanner.ofSource source).scanTokens.tokens.length) :
    (∃ before place token, HasStopped source name k before place token) ∨
      HasEnded source name k := by
  obtain ⟨k, rfl⟩ := Nat.exists_eq_add_one_of_ne_zero (Nat.ne_of_gt positive)
  obtain ⟨passed, h⟩ := exists_hasPassed source name within
  exact h.hasStopped_or_hasEnded

/-- The tokens of the source are those that a lone stream has delivered and those of the text that
it still has to read. -/
theorem HasPassed.tokens_eq (h : HasPassed source name k passed) :
    (Scanner.ofSource source).scanTokens.tokens =
      (passed.filterMap fun occurrence => occurrence.event.token?) ++
        (scanFrom (askedAlone source name k).scanner.line
          (askedAlone source name k).scanner.rest).tokens := by
  rw [Scanner.tokens_scanTokens_ofSource, h.occurrences_eq, List.filterMap_append,
    List.append_assoc, Scanner.tokens_scanFrom_eq_ahead, line_askedAlone]

/-- A lone stream that has passed some events has delivered the first tokens of the source. -/
theorem HasPassed.delivered_eq_take (h : HasPassed source name k passed) :
    (ofSource source).deliveredTo name (DriveStep.openAndAsk name k) =
      (Scanner.ofSource source).scanTokens.tokens.take k := by
  rw [h.delivered_eq, h.tokens_eq]
  exact (List.take_left' h.length_eq).symm

/-- The tokens of the text that a lone stream still has to read are the other ones. -/
theorem HasPassed.tokens_scanFrom (h : HasPassed source name k passed) :
    (scanFrom (askedAlone source name k).scanner.line
        (askedAlone source name k).scanner.rest).tokens =
      (Scanner.ofSource source).scanTokens.tokens.drop k := by
  rw [h.tokens_eq]
  exact (List.drop_left' h.length_eq).symm

namespace HasStopped

theorem occurrences_eq (h : HasStopped source name k before place token) :
    occurrences source = before ++ place :: (askedAlone source name k).scanner.ahead := by
  rw [h.passed.occurrences_eq, List.append_assoc]
  rfl

theorem told_eq (h : HasStopped source name k before place token) :
    (ofSource source).told (DriveStep.openAndAsk name k) =
      .started source.length ::
        (before.filterMap fun occurrence => occurrence.event.report?).map .report := by
  have told := h.passed.told_eq
  rwa [h.opening_eq, List.append_nil, filterMap_report?_concat h.event_eq] at told

/-- As many tokens as were asked for but one stand in front of the last one. -/
theorem length_eq (h : HasStopped source name k before place token) :
    (before.filterMap fun occurrence => occurrence.event.token?).length = k - 1 := by
  have length := h.passed.length_eq
  rw [filterMap_token?_concat h.event_eq, List.length_append, List.length_singleton] at length
  omega

/-- The last token is the one with that index. -/
theorem place_eq (h : HasStopped source name k before place token) :
    ((occurrences source).filter fun occurrence => occurrence.event.token?.isSome)[k - 1]? =
      some place := by
  rw [h.occurrences_eq, ← h.length_eq]
  exact getElem?_filter_isSome h.event_eq

theorem token_eq (h : HasStopped source name k before place token) :
    (Scanner.ofSource source).scanTokens.tokens[k - 1]? = some token := by
  rw [h.passed.tokens_eq, filterMap_token?_concat h.event_eq, List.append_assoc, ← h.length_eq,
    List.getElem?_append_right (Nat.le_refl _), Nat.sub_self]
  rfl

theorem lexeme_eq (h : HasStopped source name k before place token) :
    token.lexeme = (source.take place.stop).drop place.start := by
  have mem : place ∈ occurrences source := by
    rw [h.occurrences_eq]
    exact List.mem_append_right _ List.mem_cons_self
  obtain ⟨_, _, _, located⟩ := exists_at_of_mem_occurrences mem
  exact located.lexeme_eq h.event_eq

end HasStopped

end Drive

end LoxScan
