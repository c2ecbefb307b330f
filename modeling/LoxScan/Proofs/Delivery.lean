import LoxScan.Proofs.Interleaving

/-!
# What a single stream delivers

A suspended stream keeps an index into the pending tokens, which other streams clear and
fill again behind its back.  When it is resumed, its index may point into tokens that were
not there when it was suspended, or behind the last of them, and so it can miss tokens.
It cannot deliver a token twice, or tokens out of order.

What carries this is the *outlook* of a stream: the pending tokens from its index on and
then all tokens that have not been read yet.  A stream delivers a token by moving it out
of its outlook, and whatever another stream does, the outlook only loses tokens
(`Scanner.ReadsOn.outlook_sublist`).  So what a stream has delivered, followed by its
outlook, is at all times a sublist of the tokens of a lone stream.

## Main Definitions

* `Scanner.ReadsOn` — one scanner comes from another by what streams do to it
* `Stream.outlook` — the tokens that a stream can still deliver
* `DriveStep.asks` — the steps that ask a given stream for tokens
* `Drive.deliveredTo` — the tokens that a given stream delivers in some steps
* `OccurInOrder` — some of the tokens that a lone stream delivers, in their order
-/

namespace LoxScan

/-! ## What streams do to a scanner -/

namespace Scanner

/-- **One scanner comes from another by what streams do to it**: they read items, clear
the pending tokens, and take down where the cursor stands at the end. -/
inductive ReadsOn : Scanner → Scanner → Prop where
  | done (s : Scanner) : ReadsOn s s
  | item {s t : Scanner} {c : Char} {after : List Char} (rest : s.rest = c :: after)
      (further : ReadsOn (s.readItem c after).1 t) : ReadsOn s t
  | clear {s t : Scanner} (further : ReadsOn { s with pending := [] } t) : ReadsOn s t
  | mark {s t : Scanner} (further : ReadsOn { s with start := s.current } t) : ReadsOn s t

theorem ReadsOn.trans {s t u : Scanner} (first : ReadsOn s t) (second : ReadsOn t u) :
    ReadsOn s u := by
  induction first with
  | done => exact second
  | item rest _ ih => exact .item rest (ih second)
  | clear _ ih => exact .clear (ih second)
  | mark _ ih => exact .mark (ih second)

theorem readsOn_seek (s : Scanner) (count : Nat) : ReadsOn s (s.seek count).scanner := by
  fun_induction Scanner.seek s count with
  | case1 s ended => exact .mark (.done _)
  | case2 s c after rest read none_pending ih => exact .item rest ih
  | case3 s c after rest read token more some_pending => exact .item rest (.done _)

theorem readsOn_next (stream : Stream) (s : Scanner) : ReadsOn s (stream.next s).scanner := by
  cases stream with
  | fresh => exact readsOn_seek s 0
  | suspended index count =>
    rw [Stream.next]
    split
    · exact .done s
    · exact .clear (readsOn_seek _ count)
  | finished => exact .done s

theorem readsOn_drain (stream : Stream) (s : Scanner) : ReadsOn s (stream.drain s).scanner := by
  fun_induction Stream.drain stream s with
  | case1 stream s delivery stop => exact readsOn_next stream s
  | case2 stream s delivery token found remaining ih => exact (readsOn_next stream s).trans ih

end Scanner

/-- A step reads on unless it moves the cursor by hand. -/
theorem Drive.readsOn_step (drive : Drive) {step : DriveStep} (whole : step.byHand = false) :
    drive.scanner.ReadsOn (drive.step step).drive.scanner := by
  cases step with
  | openStream | close | peek | peekNext => exact .done _
  | next name => exact Scanner.readsOn_next (drive.stream name) drive.scanner
  | drain name => exact Scanner.readsOn_drain (drive.stream name) drive.scanner
  | scanTokens => exact Scanner.readsOn_drain .fresh drive.scanner
  | advance | accept => cases whole

/-- Several steps read on unless one of them moves the cursor by hand. -/
theorem Drive.readsOn_run (drive : Drive) (steps : List DriveStep)
    (whole : ∀ step ∈ steps, step.byHand = false) :
    drive.scanner.ReadsOn (drive.runState steps).scanner := by
  induction steps generalizing drive with
  | nil => exact .done _
  | cons step rest ih =>
    rw [List.forall_mem_cons] at whole
    exact (drive.readsOn_step whole.1).trans (ih _ whole.2)

/-! ## The outlook of a stream -/

/-- **The tokens that a stream can still deliver**: the pending ones from its index on, and
those of the text that is still to be read, the token that marks the end included. -/
def Stream.outlook (stream : Stream) (s : Scanner) : List Token :=
  match stream with
  | .fresh => s.pending ++ (scanFrom s.line s.rest).tokens
  | .suspended index _ => s.pending.drop index ++ (scanFrom s.line s.rest).tokens
  | .finished => []

/-- At the end of a text there is only the token that marks it. -/
theorem Scanner.tokens_scanFrom_of_nil {s : Scanner} (ended : s.rest = []) :
    (scanFrom s.line s.rest).tokens = [Token.endOfInput s.line] := by
  simp [scanFrom, ended]

/-- The tokens of a text are the token of its first item, if that is one, and those of the
text behind the item. -/
theorem Scanner.tokens_scanFrom_readItem {s : Scanner} {c : Char} {after : List Char}
    (rest : s.rest = c :: after) :
    (scanFrom s.line s.rest).tokens =
      ((Item.cut c after).1.token? (s.line + (Item.cut c after).1.lineBreaks)).toList ++
        (scanFrom (s.readItem c after).1.line (s.readItem c after).1.rest).tokens := by
  rw [rest, scanFrom, items_cons, filterMap_token?_eventsFrom_cons, lineAfter_cons,
    List.append_assoc]
  rfl

/-- **An outlook only loses tokens** by what streams do to the scanner. -/
theorem Scanner.ReadsOn.outlook_sublist {s t : Scanner} (reads : s.ReadsOn t)
    (stream : Stream) : (stream.outlook t).Sublist (stream.outlook s) := by
  induction reads with
  | done => exact .refl _
  | @item s _ c after rest _ ih =>
    refine ih.trans ?_
    cases stream with
    | fresh =>
      rw [Stream.outlook, Stream.outlook, Scanner.tokens_scanFrom_readItem rest,
        ← List.append_assoc]
      exact .refl _
    | suspended index =>
      -- a token behind the index is the last one of the outlook's pending tokens; one that
      -- is read before the index is lost to the stream
      rw [Stream.outlook, Stream.outlook, Scanner.tokens_scanFrom_readItem rest,
        ← List.append_assoc, Scanner.readItem, List.drop_append]
      exact ((List.Sublist.refl _).append (List.drop_sublist _ _)).append (.refl _)
    | finished => exact .refl _
  | clear _ ih =>
    refine ih.trans ?_
    cases stream with
    | fresh => exact List.sublist_append_right _ _
    | suspended index =>
      rw [Stream.outlook, Stream.outlook, List.drop_nil]
      exact List.sublist_append_right _ _
    | finished => exact .refl _
  | mark _ ih => exact ih

/-- **Seeking a token** moves it out of the outlook of a stream that has not begun. -/
theorem Scanner.outlook_seek (s : Scanner) (count : Nat) :
    ((s.seek count).token.toList ++ (s.seek count).stream.outlook (s.seek count).scanner).Sublist
      (Stream.fresh.outlook s) := by
  fun_induction Scanner.seek s count with
  | case1 s ended =>
    rw [Stream.outlook, Stream.outlook, tokens_scanFrom_of_nil ended]
    exact List.sublist_append_right _ _
  | case2 s c after rest read none_pending ih =>
    exact ih.trans ((ReadsOn.item rest (.done _)).outlook_sublist .fresh)
  | case3 s c after rest read token more some_pending =>
    have left : (Stream.suspended 1 (count + (more.length + 1))).outlook read.1 =
        more ++ (scanFrom read.1.line read.1.rest).tokens := by
      rw [Stream.outlook, some_pending]
      rfl
    have shorter : (Stream.fresh.outlook read.1).Sublist (Stream.fresh.outlook s) :=
      (ReadsOn.item rest (.done _)).outlook_sublist .fresh
    rw [Stream.outlook, some_pending] at shorter
    show (token :: Stream.outlook _ read.1).Sublist _
    rw [left]
    exact shorter

/-- **Asking a stream for one token** moves it out of its outlook. -/
theorem Stream.outlook_next (stream : Stream) (s : Scanner) :
    ((stream.next s).token.toList ++ (stream.next s).stream.outlook (stream.next s).scanner).Sublist
      (stream.outlook s) := by
  cases stream with
  | fresh => exact s.outlook_seek 0
  | suspended index count =>
    rw [next]
    split
    · next token present =>
      obtain ⟨inside, rfl⟩ := List.getElem?_eq_some_iff.mp present
      rw [outlook, outlook, List.drop_eq_getElem_cons inside]
      exact .refl _
    · refine (Scanner.outlook_seek _ count).trans ?_
      exact List.sublist_append_right _ _
  | finished => exact .refl _

/-- **What a drained stream delivers** is a sublist of its outlook. -/
theorem Stream.tokens_drain_sublist (stream : Stream) (s : Scanner) :
    (stream.drain s).tokens.Sublist (stream.outlook s) := by
  fun_induction Stream.drain stream s with
  | case1 stream s delivery stop => exact List.nil_sublist _
  | case2 stream s delivery token found remaining ih =>
    have asked := stream.outlook_next s
    rw [show (stream.next s).token = some token from found] at asked
    exact (ih.cons_cons token).trans asked

/-! ## Streams come to an end -/

/-- A stream that seeks a token gets one, and it has finished only if that is the one that
marks the end. -/
theorem Scanner.exists_token_seek (s : Scanner) (count : Nat) :
    ∃ token, (s.seek count).token = some token ∧
      ((s.seek count).stream = .finished → token.kind = .endOfInput) := by
  fun_induction Scanner.seek s count with
  | case1 s ended => exact ⟨_, rfl, fun _ => rfl⟩
  | case2 s c after rest read none_pending ih => exact ih
  | case3 s c after rest read token more some_pending =>
    refine ⟨token, rfl, ?_⟩
    rintro ⟨⟩

/-- **A stream that has not finished delivers a token** when it is asked, and it has
finished then only if that is the one that marks the end. -/
theorem Stream.exists_token_next {stream : Stream} (s : Scanner) (unfinished : stream ≠ .finished) :
    ∃ token, (stream.next s).token = some token ∧
      ((stream.next s).stream = .finished → token.kind = .endOfInput) := by
  cases stream with
  | fresh => exact s.exists_token_seek 0
  | suspended index count =>
    rw [next]
    split
    · refine ⟨_, rfl, ?_⟩
      rintro ⟨⟩
    · exact Scanner.exists_token_seek _ count
  | finished => exact absurd rfl unfinished

/-- **A stream that has not finished delivers the token that marks the end** when it is
drained. -/
theorem Stream.exists_end_drain {stream : Stream} (s : Scanner) (unfinished : stream ≠ .finished) :
    ∃ token ∈ (stream.drain s).tokens, token.kind = .endOfInput := by
  fun_induction Stream.drain stream s with
  | case1 stream s delivery stop =>
    obtain ⟨token, found, -⟩ := Stream.exists_token_next s unfinished
    rw [show (stream.next s).token = none from stop] at found
    cases found
  | case2 stream s delivery token found remaining ih =>
    obtain ⟨token', found', marksEnd⟩ := Stream.exists_token_next s unfinished
    obtain rfl : token = token' := Option.some.inj (found.symm.trans found')
    by_cases ended : (stream.next s).stream = .finished
    · exact ⟨token, List.mem_cons_self, marksEnd ended⟩
    · obtain ⟨last, mem, isEnd⟩ := ih ended
      exact ⟨last, List.mem_cons_of_mem _ mem, isEnd⟩

/-! ## Named streams -/

/-- The steps that ask the stream with a given name for tokens. -/
def DriveStep.asks (name : String) : DriveStep → Bool
  | .next other | .drain other => other = name
  | .openStream _ | .close _ | .scanTokens | .peek | .peekNext | .advance | .accept _ => false

namespace Drive

/-- The tokens that the stream with a given name delivers in a step. -/
def handed (drive : Drive) (name : String) (step : DriveStep) : List Token :=
  if step.asks name then (drive.step step).yielded else []

/-- The tokens that the stream with a given name delivers in some steps, in order. -/
def deliveredTo (drive : Drive) (name : String) : List DriveStep → List Token
  | [] => []
  | step :: rest => drive.handed name step ++ (drive.step step).drive.deliveredTo name rest

theorem deliveredTo_cons (drive : Drive) (name : String) (step : DriveStep)
    (rest : List DriveStep) :
    drive.deliveredTo name (step :: rest) =
      drive.handed name step ++ (drive.step step).drive.deliveredTo name rest := rfl

theorem stream_assign_self (t : Scanner) (streams : Registry Stream) (name : String)
    (stream : Stream) :
    Drive.stream { scanner := t, streams := streams.assign name stream } name = stream := by
  rw [Drive.stream, Registry.find?_assign_self]
  rfl

theorem stream_assign_of_ne (t : Scanner) (streams : Registry Stream) {name other : String}
    (stream : Stream) (differ : name ≠ other) :
    Drive.stream { scanner := t, streams := streams.assign other stream } name =
      Drive.stream { scanner := t, streams := streams } name := by
  rw [Drive.stream, Registry.find?_assign_of_ne streams stream differ]
  rfl

/-- A stream that was opened last has not begun. -/
theorem stream_runState_openStream (drive : Drive) (before : List DriveStep) (name : String) :
    (drive.runState (before ++ [.openStream name])).stream name = .fresh := by
  rw [runState_append]
  exact stream_assign_self _ _ _ _

/-- A step that neither asks, nor closes, nor opens a stream leaves it as it was. -/
theorem stream_step_of_other (drive : Drive) {name : String} {step : DriveStep}
    (unasked : step.asks name = false) (unclosed : step ≠ .close name)
    (kept : step ≠ .openStream name) :
    (drive.step step).drive.stream name = drive.stream name := by
  cases step with
  | openStream other =>
    refine stream_assign_of_ne _ _ _ ?_
    rintro rfl
    exact kept rfl
  | next other | drain other =>
    refine stream_assign_of_ne _ _ _ ?_
    rintro rfl
    simp [DriveStep.asks] at unasked
  | close other =>
    refine stream_assign_of_ne _ _ _ ?_
    rintro rfl
    exact unclosed rfl
  | scanTokens | peek | peekNext => rfl
  | advance =>
    rw [step]
    split <;> rfl
  | accept expected => rfl

/-- **What a stream delivers in a step moves out of its outlook**, and whatever else the
step does, the outlook only loses tokens. -/
theorem outlook_step (drive : Drive) (name : String) {step : DriveStep}
    (whole : step.byHand = false) (kept : step ≠ .openStream name) :
    (drive.handed name step ++
        ((drive.step step).drive.stream name).outlook (drive.step step).drive.scanner).Sublist
      ((drive.stream name).outlook drive.scanner) := by
  cases asked : step.asks name with
  | true =>
    rw [handed, if_pos asked]
    cases step with
    | next other =>
      obtain rfl : other = name := by simpa [DriveStep.asks] using asked
      rw [step, stream_assign_self]
      exact (drive.stream other).outlook_next drive.scanner
    | drain other =>
      obtain rfl : other = name := by simpa [DriveStep.asks] using asked
      rw [step, stream_assign_self]
      simpa [DriveOutcome.yielded, Stream.outlook] using
        (drive.stream other).tokens_drain_sublist drive.scanner
    | openStream | close | scanTokens | peek | peekNext | advance | accept => cases asked
  | false =>
    rw [handed, asked, if_neg (by decide), List.nil_append]
    by_cases closed : step = .close name
    · subst closed
      rw [step, stream_assign_self]
      exact List.nil_sublist _
    · rw [drive.stream_step_of_other asked closed kept]
      exact (drive.readsOn_step whole).outlook_sublist _

/-- **What a stream delivers in some steps, followed by its outlook then**, is a sublist of
its outlook before. -/
theorem outlook_run (drive : Drive) (name : String) (steps : List DriveStep)
    (whole : ∀ step ∈ steps, step.byHand = false) (kept : .openStream name ∉ steps) :
    (drive.deliveredTo name steps ++
        ((drive.runState steps).stream name).outlook (drive.runState steps).scanner).Sublist
      ((drive.stream name).outlook drive.scanner) := by
  induction steps generalizing drive with
  | nil => exact .refl _
  | cons step rest ih =>
    rw [List.forall_mem_cons] at whole
    rw [List.mem_cons, not_or] at kept
    rw [deliveredTo_cons, runState_cons, List.append_assoc]
    exact ((List.Sublist.refl _).append (ih _ whole.2 kept.2)).trans
      (drive.outlook_step name whole.1 (Ne.symm kept.1))

/-- The tokens that a stream delivers are among those that all streams yield. -/
theorem deliveredTo_subset (drive : Drive) (name : String) (steps : List DriveStep) :
    drive.deliveredTo name steps ⊆ (drive.run steps).flatMap DriveOutcome.yielded := by
  induction steps generalizing drive with
  | nil => exact List.Subset.refl _
  | cons step rest ih =>
    rw [deliveredTo_cons, run, List.flatMap_cons]
    refine List.append_subset.mpr ⟨?_, List.subset_append_of_subset_right _ (ih _)⟩
    rw [handed]
    split
    · exact List.subset_append_left _ _
    · exact List.nil_subset _

/-- **A stream that is asked** delivers the token that marks the end, or it is not drained,
delivers one token and has not finished. -/
theorem handed_of_asks (drive : Drive) {name : String} {step : DriveStep}
    (asked : step.asks name = true) (unfinished : drive.stream name ≠ .finished) :
    (∃ token ∈ drive.handed name step, token.kind = .endOfInput) ∨
      (step ≠ .drain name ∧ (drive.handed name step).length = 1 ∧
        (drive.step step).drive.stream name ≠ .finished) := by
  rw [handed, if_pos asked]
  cases step with
  | next other =>
    obtain rfl : other = name := by simpa [DriveStep.asks] using asked
    obtain ⟨token, found, marksEnd⟩ := Stream.exists_token_next drive.scanner unfinished
    have yielded : (drive.step (.next other)).yielded = [token] := by
      rw [step, DriveOutcome.yielded, found]
      rfl
    rw [yielded]
    by_cases ended : ((drive.stream other).next drive.scanner).stream = .finished
    · exact .inl ⟨token, List.mem_cons_self, marksEnd ended⟩
    · refine .inr ⟨by rintro ⟨⟩, rfl, ?_⟩
      rwa [step, stream_assign_self]
  | drain other =>
    obtain rfl : other = name := by simpa [DriveStep.asks] using asked
    exact .inl (Stream.exists_end_drain drive.scanner unfinished)
  | openStream | close | scanTokens | peek | peekNext | advance | accept => cases asked

/-- **A stream that is not closed delivers a token each time it is asked** until it has
delivered the one that marks the end, which it has if it was drained. -/
theorem exists_end_or_asked_le (drive : Drive) (name : String) (steps : List DriveStep)
    (kept : .openStream name ∉ steps) (unclosed : .close name ∉ steps)
    (unfinished : drive.stream name ≠ .finished) :
    (∃ token ∈ drive.deliveredTo name steps, token.kind = .endOfInput) ∨
      (.drain name ∉ steps ∧
        steps.countP (DriveStep.asks name) ≤ (drive.deliveredTo name steps).length) := by
  induction steps generalizing drive with
  | nil => exact .inr ⟨List.not_mem_nil, Nat.le_refl _⟩
  | cons step rest ih =>
    rw [List.mem_cons, not_or] at kept unclosed
    have later := ih (drive.step step).drive kept.2 unclosed.2
    rw [deliveredTo_cons, List.mem_cons, not_or]
    cases asked : step.asks name with
    | false =>
      have same := drive.stream_step_of_other asked (Ne.symm unclosed.1) (Ne.symm kept.1)
      rw [handed, asked, if_neg (by decide), List.nil_append,
        List.countP_cons_of_neg (by simp [asked])]
      rcases later (same ▸ unfinished) with ended | ⟨undrained, enough⟩
      · exact .inl ended
      · refine .inr ⟨⟨?_, undrained⟩, enough⟩
        rintro rfl
        simp [DriveStep.asks] at asked
    | true =>
      rcases drive.handed_of_asks asked unfinished with
        ⟨token, mem, marksEnd⟩ | ⟨notDrain, one, unended⟩
      · exact .inl ⟨token, List.mem_append_left _ mem, marksEnd⟩
      · rcases later unended with ⟨last, mem, isEnd⟩ | ⟨undrained, enough⟩
        · exact .inl ⟨last, List.mem_append_right _ mem, isEnd⟩
        · refine .inr ⟨⟨Ne.symm notDrain, undrained⟩, ?_⟩
          rw [List.countP_cons_of_pos asked, List.length_append, one]
          omega

end Drive

/-! ## The tokens of a lone stream -/

/-- **Some tokens of a source, in order**: they occur in it one behind the other, and a lone
stream delivers them in this order, in front of the token that marks the end. -/
structure OccurInOrder (source : List Char) (tokens : List Token) : Prop where
  exists_occurrences : ∃ found : List Occurrence, found.Sublist (occurrences source) ∧
    found.Pairwise (fun earlier later => earlier.start < later.start) ∧
    found.map Occurrence.event = tokens.map ScanEvent.token
  sublist : tokens.Sublist (Scanner.ofSource source).scanTokens.tokens.dropLast
  kind_ne : ∀ token ∈ tokens, token.kind ≠ .endOfInput

/-- No token that occurs in a source marks the end. -/
theorem kind_ne_endOfInput_of_occurs {source : List Char} {token : Token}
    (mem : token ∈ (occurrences source).filterMap (fun occurrence => occurrence.event.token?)) :
    token.kind ≠ .endOfInput := by
  obtain ⟨occurrence, present, found⟩ := List.mem_filterMap.mp mem
  obtain ⟨_, item, _, located⟩ := exists_at_of_mem_occurrences present
  have event := located.event_eq
  cases carried : occurrence.event with
  | token other =>
    rw [carried] at event found
    obtain rfl : other = token := Option.some.inj found
    exact Item.kind_ne_endOfInput located.wellFormed (Item.token?_of_event? event)
  | report made =>
    rw [carried] at found
    cases found

/-- The occurrences of tokens among some occurrences carry the tokens of these. -/
theorem map_event_filter_isSome (found : List Occurrence) :
    (found.filter fun occurrence => occurrence.event.token?.isSome).map Occurrence.event =
      (found.filterMap fun occurrence => occurrence.event.token?).map ScanEvent.token := by
  induction found with
  | nil => rfl
  | cons occurrence rest ih =>
    obtain ⟨start, stop, event⟩ := occurrence
    cases event with
    | token token => exact congrArg (ScanEvent.token token :: ·) ih
    | report made => exact ih

/-- Some of the tokens that occur in a source occur in order. -/
theorem occurInOrder_of_sublist {source : List Char} {tokens : List Token}
    (among : tokens.Sublist
      ((occurrences source).filterMap (fun occurrence => occurrence.event.token?))) :
    OccurInOrder source tokens := by
  have delivered : tokens.Sublist (Scanner.ofSource source).scanTokens.tokens.dropLast := by
    rwa [Scanner.tokens_scanTokens_ofSource, List.dropLast_concat]
  have plain : ∀ token ∈ tokens, token.kind ≠ .endOfInput :=
    fun token mem => kind_ne_endOfInput_of_occurs (among.subset mem)
  obtain ⟨chosen, chosenSublist, rfl⟩ := List.sublist_filterMap_iff.mp among
  have increasing : (occurrences source).Pairwise fun earlier later =>
      earlier.start < later.start := by
    refine (pairwise_occurrences source).imp_of_mem ?_
    intro earlier later mem _ before
    obtain ⟨_, _, _, located⟩ := exists_at_of_mem_occurrences mem
    exact Nat.lt_of_lt_of_le located.start_lt_stop before
  have foundSublist := (List.filter_sublist (p := fun occurrence : Occurrence =>
    occurrence.event.token?.isSome)).trans chosenSublist
  exact ⟨⟨_, foundSublist, increasing.sublist foundSublist, map_event_filter_isSome chosen⟩,
    delivered, plain⟩

/-- **A sublist of the tokens of a lone stream** is some tokens that occur in the source and
then nothing or the token that marks the end. -/
theorem exists_body_of_sublist {source : List Char} {tokens : List Token}
    (among : tokens.Sublist (Scanner.ofSource source).scanTokens.tokens) :
    ∃ body ending, tokens = body ++ ending ∧ OccurInOrder source body ∧
      (ending = [] ∨ ending = [Token.endOfInput (lineTotal source)]) := by
  rw [Scanner.tokens_scanTokens_ofSource, List.sublist_append_iff] at among
  obtain ⟨body, ending, rfl, bodySublist, endingSublist⟩ := among
  exact ⟨body, ending, rfl, occurInOrder_of_sublist bodySublist,
    List.sublist_singleton.mp endingSublist⟩

/-- If the token that marks the end is among such tokens, it is the last one of them. -/
theorem OccurInOrder.ending_eq {source : List Char} {body ending : List Token}
    (inOrder : OccurInOrder source body)
    (ends : ending = [] ∨ ending = [Token.endOfInput (lineTotal source)]) {token : Token}
    (mem : token ∈ body ++ ending) (marksEnd : token.kind = .endOfInput) :
    ending = [Token.endOfInput (lineTotal source)] := by
  refine ends.resolve_left ?_
  rintro rfl
  rw [List.append_nil] at mem
  exact inOrder.kind_ne token mem marksEnd

/-- A scanner that has come to the end stands behind the last character. -/
theorem Scanner.HasRead.current_eq_length {s : Scanner} {source : List Char} {read : List Item}
    {made : List Report} (h : s.HasRead source read made) (ended : s.rest = []) :
    s.current = source.length := by
  rw [h.current_eq, h.rest_eq_nil_iff.mp ended, flatMap_text_items]

/-! ## The whole life of a stream -/

namespace Drive

/-- No stream on a scanner that others have used has more before it than a lone one. -/
theorem outlook_fresh_sublist (source : List Char) (steps : List DriveStep)
    (whole : ∀ step ∈ steps, step.byHand = false) :
    (Stream.fresh.outlook ((ofSource source).runState steps).scanner).Sublist
      (Scanner.ofSource source).scanTokens.tokens := by
  rw [(Scanner.scanTokens_ofSource source).1]
  exact ((ofSource source).readsOn_run steps whole).outlook_sublist .fresh

/-- **What a stream delivers over its life** is a sublist of what a lone one does. -/
theorem deliveredTo_sublist (source : List Char) {before after : List DriveStep} {name : String}
    (whole : ∀ step ∈ before ++ after, step.byHand = false) (kept : .openStream name ∉ after) :
    (((ofSource source).runState (before ++ [.openStream name])).deliveredTo name after).Sublist
      (Scanner.ofSource source).scanTokens.tokens := by
  rw [List.forall_mem_append] at whole
  have life := outlook_run ((ofSource source).runState (before ++ [.openStream name])) name after
    whole.2 kept
  rw [stream_runState_openStream, runState_append] at life
  rw [runState_append]
  exact ((List.sublist_append_left _ _).trans life).trans
    (outlook_fresh_sublist source before whole.1)

/-- Streams yield the token that marks the end only when the cursor is behind the last
character. -/
theorem current_eq_length_of_yielded (source : List Char) {before after : List DriveStep}
    (whole : ∀ step ∈ before ++ after, step.byHand = false) {token : Token}
    (mem : token ∈ (((ofSource source).runState before).run after).flatMap DriveOutcome.yielded)
    (marksEnd : token.kind = .endOfInput) :
    ((ofSource source).runState (before ++ after)).scanner.current = source.length := by
  rw [List.forall_mem_append] at whole
  obtain ⟨read, between, -⟩ := (ofSource source).keeps_run source before whole.1 [] []
    (Scanner.hasRead_ofSource source)
  obtain ⟨more, behind, atEnd⟩ :=
    ((ofSource source).runState before).keeps_run source after whole.2 _ _ between
  rw [runState_append]
  exact behind.current_eq_length (atEnd token mem marksEnd)

/-- **A stream that is resumed often enough comes to the end**: it is not closed, and it is
drained, or asked as many times as a lone stream has tokens. -/
theorem exists_end_of_asked (source : List Char) {before after : List DriveStep} {name : String}
    (whole : ∀ step ∈ before ++ after, step.byHand = false) (kept : .openStream name ∉ after)
    (unclosed : .close name ∉ after)
    (asked : .drain name ∈ after ∨ (Scanner.ofSource source).scanTokens.tokens.length ≤
      after.countP (DriveStep.asks name)) :
    ∃ token ∈ ((ofSource source).runState (before ++ [.openStream name])).deliveredTo name after,
      token.kind = .endOfInput := by
  have unfinished :
      ((ofSource source).runState (before ++ [.openStream name])).stream name ≠ .finished := by
    rw [stream_runState_openStream]
    exact nofun
  rcases exists_end_or_asked_le _ name after kept unclosed unfinished with
    ended | ⟨undrained, enough⟩
  · exact ended
  · -- as many tokens as a lone stream has are all of them
    have among := deliveredTo_sublist source whole kept
    rw [among.eq_of_length_le (Nat.le_trans (asked.resolve_left undrained) enough),
      Scanner.tokens_scanTokens_ofSource]
    exact ⟨_, List.mem_append_right _ List.mem_cons_self, rfl⟩

/-- **A new stream that is drained** delivers tokens of the source in their order and then the
one that marks the end. -/
theorem exists_body_scanTokens (source : List Char) {steps : List DriveStep}
    (whole : ∀ step ∈ steps, step.byHand = false) :
    ∃ body : List Token,
      (((ofSource source).runState steps).step .scanTokens).answer =
          .ok (.tokens (body ++ [Token.endOfInput (lineTotal source)])) ∧
        OccurInOrder source body ∧
        ((ofSource source).runState (steps ++ [.scanTokens])).scanner.current = source.length := by
  have unfinished : Stream.fresh ≠ .finished := nofun
  have among :=
    (Stream.tokens_drain_sublist .fresh ((ofSource source).runState steps).scanner).trans
      (outlook_fresh_sublist source steps whole)
  obtain ⟨last, mem, marksEnd⟩ :=
    Stream.exists_end_drain ((ofSource source).runState steps).scanner unfinished
  obtain ⟨body, ending, delivered, inOrder, ends⟩ := exists_body_of_sublist among
  have ended := inOrder.ending_eq ends (delivered ▸ mem) marksEnd
  refine ⟨body, ?_, inOrder, ?_⟩
  · rw [← ended, ← delivered]
    rfl
  · have further : ∀ step ∈ steps ++ [.scanTokens], step.byHand = false := by
      simpa [DriveStep.byHand, or_imp, forall_and] using whole
    have yielded : last ∈
        (((ofSource source).runState steps).run [.scanTokens]).flatMap DriveOutcome.yielded := by
      rw [run, run, List.flatMap_singleton]
      exact mem
    exact current_eq_length_of_yielded source further yielded marksEnd

end Drive

/-- **What one stream delivers among others.**  Over its life, from when it is opened until
its name is used again, a stream delivers tokens that occur in the source, in their order
and none of them twice, and each as a lone stream delivers it.  Behind them it delivers at
most the token that marks the end, with the last line of the source.  The steps may stop
anywhere, also right behind the delivery of that token: the cursor is behind the last
character then.  The stream does deliver that token if it is drained, or asked as many times
as a lone stream has tokens, and not closed.  A stream that is drained without ever having
had a name delivers tokens of that kind, too, and always the one that marks the end. -/
theorem deliveredTo_of_streams (source : List Char) :
    (∀ (before after : List DriveStep) (name : String),
      (∀ step ∈ before ++ after, step.byHand = false) → .openStream name ∉ after →
        ∃ body ending : List Token,
          ((Drive.ofSource source).runState (before ++ [.openStream name])).deliveredTo name after =
              body ++ ending ∧
            OccurInOrder source body ∧
            (ending = [] ∨ ending = [Token.endOfInput (lineTotal source)] ∧
              ((Drive.ofSource source).runState
                (before ++ [.openStream name] ++ after)).scanner.current = source.length) ∧
            (.close name ∉ after →
              .drain name ∈ after ∨ (Scanner.ofSource source).scanTokens.tokens.length ≤
                after.countP (DriveStep.asks name) →
              ending = [Token.endOfInput (lineTotal source)])) ∧
      ∀ steps : List DriveStep, (∀ step ∈ steps, step.byHand = false) →
        ∃ body : List Token,
          (((Drive.ofSource source).runState steps).step .scanTokens).answer =
              .ok (.tokens (body ++ [Token.endOfInput (lineTotal source)])) ∧
            OccurInOrder source body ∧
            ((Drive.ofSource source).runState (steps ++ [.scanTokens])).scanner.current =
              source.length := by
  refine ⟨?_, fun steps whole => Drive.exists_body_scanTokens source whole⟩
  intro before after name whole kept
  obtain ⟨body, ending, delivered, inOrder, ends⟩ :=
    exists_body_of_sublist (Drive.deliveredTo_sublist source whole kept)
  refine ⟨body, ending, delivered, inOrder, ?_, ?_⟩
  · rcases ends with none | last
    · exact .inl none
    · refine .inr ⟨last, ?_⟩
      have opened : ∀ step ∈ before ++ [.openStream name] ++ after, step.byHand = false := by
        simpa [DriveStep.byHand, or_imp, forall_and] using whole
      have mem : Token.endOfInput (lineTotal source) ∈ ((Drive.ofSource source).runState
          (before ++ [.openStream name])).deliveredTo name after := by
        rw [delivered, last]
        exact List.mem_append_right _ List.mem_cons_self
      exact Drive.current_eq_length_of_yielded source opened
        (Drive.deliveredTo_subset _ name after mem) rfl
  · intro unclosed asked
    obtain ⟨token, mem, marksEnd⟩ := Drive.exists_end_of_asked source whole kept unclosed asked
    rw [delivered] at mem
    exact inOrder.ending_eq ends mem marksEnd

/-- A stream that is opened while another one is suspended delivers again what the other one
has delivered, misses the minus sign, which the other one reads and clears away, and comes to
the end. -/
theorem deliveredTo_of_two_streams :
    ∃ body : List Token,
      ((Drive.ofSource ";+-*".toList).runState
          [.openStream "y", .next "y", .openStream "x"]).deliveredTo "x"
            [.next "x", .next "y", .next "x", .next "y", .next "x", .drain "x"] =
          body ++ [Token.endOfInput 1] ∧
        body.map Token.lexeme = [[';'], ['+'], ['*']] ∧
        OccurInOrder ";+-*".toList body := by
  have resumed : DriveStep.drain "x" ∈ [.next "x", .next "y", .next "x", .next "y", .next "x",
      .drain "x"] := by
    decide
  obtain ⟨body, ending, delivered, inOrder, -, ends⟩ :=
    (deliveredTo_of_streams ";+-*".toList).1 [.openStream "y", .next "y"]
      [.next "x", .next "y", .next "x", .next "y", .next "x", .drain "x"] "x"
      (by decide) (by decide)
  rw [ends (by decide) (.inl resumed)] at delivered
  have lexemes : (((Drive.ofSource ";+-*".toList).runState
      ([.openStream "y", .next "y"] ++ [.openStream "x"])).deliveredTo "x"
        [.next "x", .next "y", .next "x", .next "y", .next "x", .drain "x"]).map Token.lexeme =
      [[';'], ['+'], ['*'], []] := by
    decide +kernel
  refine ⟨body, delivered, ?_, inOrder⟩
  rw [delivered, List.map_append] at lexemes
  exact (List.append_inj' lexemes rfl).1

end LoxScan
