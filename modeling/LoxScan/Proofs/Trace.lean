import LoxScan.Proofs.LineCount
import LoxScan.Scanner

/-!
# What a stream brings about

`Stream.drain` lists the tokens that a stream delivers apart from what is told
meanwhile.  A trace keeps both in the order in which they happen, and for a stream
that nothing interferes with it has a closed form: the events of the items that are
still to be read, one after the other, and then the end of the input.

## Main Definitions

* `Signal` — something told or delivered
* `Stream.trace` — what happens while a stream is asked for all of its tokens
* `Scanner.prospect` — what a scanner without pending tokens still has to offer
-/

namespace LoxScan

/-- Something that happens while a stream is asked for its tokens. -/
inductive Signal where
  | told (notice : Notice)
  | delivered (token : Token)
deriving DecidableEq

namespace Signal

/-- What happens when an event of a scan is found. -/
def ofEvent : ScanEvent → Signal
  | .token token => .delivered token
  | .report report => .told (.report report)

/-- The notice of a signal. -/
def notice? : Signal → Option Notice
  | .told notice => some notice
  | .delivered _ => none

/-- The token of a signal. -/
def token? : Signal → Option Token
  | .told _ => none
  | .delivered token => some token

/-- The event of a signal, where the beginning and the end of a stream are none. -/
def event? : Signal → Option ScanEvent
  | .told notice => notice.report?.map .report
  | .delivered token => some (.token token)

@[simp] theorem event?_ofEvent (event : ScanEvent) : (ofEvent event).event? = some event := by
  cases event <;> rfl

@[simp] theorem token?_ofEvent (event : ScanEvent) : (ofEvent event).token? = event.token? := by
  cases event <;> rfl

@[simp] theorem notice?_ofEvent (event : ScanEvent) :
    (ofEvent event).notice? = event.report?.map .report := by
  cases event <;> rfl

end Signal

/-- What happens while a stream is asked for all of its tokens, in order. -/
def Stream.trace (stream : Stream) (s : Scanner) : List Signal :=
  let delivery := stream.next s
  delivery.notices.map .told ++
    match _h : delivery.token with
    | none => []
    | some token => .delivered token :: delivery.stream.trace delivery.scanner
termination_by stream.remaining s
decreasing_by exact stream.remaining_next_lt s token _h

/-- What happens from a delivery on. -/
def Delivery.trace (delivery : Delivery) : List Signal :=
  delivery.notices.map .told ++
    match delivery.token with
    | none => []
    | some token => .delivered token :: delivery.stream.trace delivery.scanner

/-- A stream's trace begins with what asking it once brings about. -/
theorem Stream.trace_eq (stream : Stream) (s : Scanner) :
    stream.trace s = (stream.next s).trace := by
  rw [Stream.trace, Delivery.trace]
  split <;> simp_all

@[simp] theorem Delivery.trace_after (delivery : Delivery) (notices : List Notice) :
    (delivery.after notices).trace = notices.map .told ++ delivery.trace := by
  simp [Delivery.trace, Delivery.after]

theorem filterMap_token?_told (notices : List Notice) :
    (notices.map Signal.told).filterMap Signal.token? = [] := by
  simp [List.filterMap_map, Function.comp_def, Signal.token?]

theorem filterMap_notice?_told (notices : List Notice) :
    (notices.map Signal.told).filterMap Signal.notice? = notices := by
  simp [List.filterMap_map, Function.comp_def, Signal.notice?]

theorem filterMap_token?_delivered (tokens : List Token) :
    (tokens.map Signal.delivered).filterMap Signal.token? = tokens := by
  simp [List.filterMap_map, Function.comp_def, Signal.token?]

theorem filterMap_notice?_delivered (tokens : List Token) :
    (tokens.map Signal.delivered).filterMap Signal.notice? = [] := by
  simp [List.filterMap_map, Function.comp_def, Signal.notice?]

/-- Draining a stream is its trace, with what is told apart from what is delivered. -/
theorem Stream.drain_eq_trace (stream : Stream) (s : Scanner) :
    (stream.drain s).tokens = (stream.trace s).filterMap Signal.token? ∧
      (stream.drain s).notices = (stream.trace s).filterMap Signal.notice? := by
  fun_induction Stream.drain stream s with
  | case1 stream s delivery stop =>
    change (stream.next s).token = none at stop
    simp only [trace_eq, Delivery.trace, stop, List.append_nil, filterMap_token?_told,
      filterMap_notice?_told, delivery, and_self]
  | case2 stream s delivery token found remaining ih =>
    change (stream.next s).token = some token at found
    simp only [trace_eq stream, Delivery.trace, found, List.filterMap_append,
      filterMap_token?_told, filterMap_notice?_told, List.filterMap_cons, Signal.token?,
      Signal.notice?, List.nil_append, remaining, delivery, ih.1, ih.2, and_self]

/-! ## Reading an item -/

/-- Reading an item makes its report, if it is a faulty one. -/
theorem Scanner.filterMap_report?_readItem (s : Scanner) (c : Char) (after : List Char) :
    (s.readItem c after).2.filterMap Notice.report? =
      ((Item.cut c after).1.report? (s.line + (Item.cut c after).1.lineBreaks)).toList := by
  rw [readItem]
  cases (Item.cut c after).1.report? (s.line + (Item.cut c after).1.lineBreaks) <;> rfl

/-! ## The trace of a lone stream -/

namespace Scanner

/-- What a scanner without pending tokens still has to offer to a stream that has
read `count` tokens: the events of the text that is still to be read, and the end. -/
def prospect (s : Scanner) (count : Nat) : List Signal :=
  let events := eventsFrom s.line (items s.rest)
  events.map .ofEvent ++
    [.told (.finished (count + (events.filterMap ScanEvent.token?).length + 1)
        (s.line + s.rest.count '\n')),
      .delivered (Token.endOfInput (s.line + s.rest.count '\n'))]

theorem prospect_nil {s : Scanner} (h : s.rest = []) (count : Nat) :
    s.prospect count =
      [.told (.finished (count + 1) s.line), .delivered (Token.endOfInput s.line)] := by
  simp [prospect, h]

/-- **What a scanner has to offer is what reading its next item tells and makes
pending**, and then what it has to offer behind the item. -/
theorem prospect_cons {s : Scanner} {c : Char} {after : List Char} (h : s.rest = c :: after)
    (clear : s.pending = []) (count : Nat) :
    s.prospect count =
      (s.readItem c after).2.map .told ++ (s.readItem c after).1.pending.map .delivered ++
        (s.readItem c after).1.prospect (count + (s.readItem c after).1.pending.length) := by
  simp only [prospect, h, items_cons, eventsFrom_cons, readItem, Item.line_add_count_cut, clear,
    Item.token?, Item.report?]
  cases (Item.cut c after).1.event? (s.line + (Item.cut c after).1.lineBreaks) with
  | none => simp
  | some event =>
    cases event <;>
      simp [List.filterMap_cons, ScanEvent.token?, ScanEvent.report?, Signal.ofEvent,
        Nat.add_comm 1, Nat.add_assoc]

/-- Pending tokens make no difference to what a scanner has to offer. -/
@[simp] theorem prospect_clear (s : Scanner) (count : Nat) :
    ({ s with pending := [] } : Scanner).prospect count = s.prospect count := rfl

/-- Reading on without pending tokens, provided that suspended streams behave as
`Stream.trace_suspended` says wherever less text is left.  The proviso is the
hypothesis of that theorem's induction. -/
theorem trace_seek_of_shorter (s : Scanner) (count : Nat) (clear : s.pending = [])
    (shorter : ∀ t : Scanner, t.rest.length < s.rest.length → ∀ index count,
      (Stream.suspended index count).trace t =
        (t.pending.drop index).map .delivered ++ t.prospect count) :
    (s.seek count).trace = s.prospect count := by
  fun_induction Scanner.seek s count with
  | case1 s h =>
    rw [prospect_nil h, Delivery.trace]
    simp only [Stream.trace_eq, Stream.next]
    rfl
  | case2 s c after h read none_pending ih =>
    have below : read.1.rest.length < s.rest.length := by
      have := Item.cut_rest_length_le c after
      rw [h]
      exact Nat.lt_succ_of_le this
    have further := ih none_pending fun t less => shorter t (Nat.lt_trans less below)
    rw [Delivery.trace_after, further, prospect_cons h clear]
    simp only [read] at none_pending ⊢
    simp [none_pending]
  | case3 s c after h read token more some_pending =>
    have below : read.1.rest.length < s.rest.length := by
      have := Item.cut_rest_length_le c after
      rw [h]
      exact Nat.lt_succ_of_le this
    rw [Delivery.trace, prospect_cons h clear]
    simp only [shorter read.1 below]
    simp only [read] at some_pending ⊢
    simp [some_pending]

end Scanner

/-- **The trace of a suspended stream** is the pending tokens that it has not
delivered and then all that the scanner has to offer. -/
theorem Stream.trace_suspended (s : Scanner) (index count : Nat) :
    (Stream.suspended index count).trace s =
      (s.pending.drop index).map .delivered ++ s.prospect count := by
  induction left : s.rest.length using Nat.strongRecOn generalizing s index count with
  | ind n shorter =>
    subst left
    have resumed := Scanner.trace_seek_of_shorter { s with pending := [] } count rfl
      fun t less index count => shorter t.rest.length less t index count rfl
    rw [Scanner.prospect_clear] at resumed
    -- the pending tokens go one by one; behind the last of them the scanner reads on
    induction behind : s.pending.length - index generalizing index with
    | zero =>
      have gone : s.pending[index]? = none := List.getElem?_eq_none (by omega)
      have drained : s.pending.drop index = [] := List.drop_eq_nil_of_le (by omega)
      rw [trace_eq, next, gone, drained]
      exact resumed
    | succ k ih =>
      have inside : index < s.pending.length := by omega
      rw [trace_eq, next, List.getElem?_eq_getElem inside, List.drop_eq_getElem_cons inside,
        Delivery.trace]
      simp only [ih (index + 1) (by omega)]
      rfl

/-- **The trace of a stream on a scanner without pending tokens.** -/
theorem Stream.trace_fresh {s : Scanner} (clear : s.pending = []) :
    Stream.fresh.trace s = .told (.started s.sourceLength) :: s.prospect 0 := by
  have read := Scanner.trace_seek_of_shorter s 0 clear
    fun t _ index count => Stream.trace_suspended t index count
  rw [trace_eq, next, Delivery.trace_after, read]
  rfl

/-! ## Draining a new scanner -/

/-- The signals of some events carry their tokens. -/
theorem filterMap_token?_ofEvent (events : List ScanEvent) :
    (events.map Signal.ofEvent).filterMap Signal.token? = events.filterMap ScanEvent.token? := by
  rw [List.filterMap_map]
  congr 1
  funext event
  exact Signal.token?_ofEvent event

/-- The signals of some events carry their reports. -/
theorem filterMap_notice?_ofEvent (events : List ScanEvent) :
    (events.map Signal.ofEvent).filterMap Signal.notice? =
      (events.filterMap ScanEvent.report?).map .report := by
  rw [List.filterMap_map, List.map_filterMap]
  congr 1
  funext event
  exact Signal.notice?_ofEvent event

/-- **Draining a new scanner is scanning its source**: the tokens are those of the
scan, and its reports are told between the beginning and the end. -/
theorem Scanner.scanTokens_ofSource (source : List Char) :
    (Scanner.ofSource source).scanTokens.tokens = (scan source).tokens ∧
      (Scanner.ofSource source).scanTokens.notices = (scan source).notices source := by
  obtain ⟨tokens, notices⟩ := Stream.drain_eq_trace .fresh (Scanner.ofSource source)
  rw [Stream.trace_fresh rfl, prospect, ← List.cons_append] at tokens notices
  simp only [List.filterMap_cons, List.filterMap_append, filterMap_token?_ofEvent,
    filterMap_notice?_ofEvent, Signal.token?, Signal.notice?, List.filterMap_nil] at tokens notices
  refine ⟨tokens.trans ?_, notices.trans ?_⟩
  · simp [scan, scanFrom, ofSource]
  · simp [Scan.notices, scan, scanFrom, sourceLength, ofSource]

/-- The reports among what a scan tells are the reports of the scan. -/
@[simp] theorem Scan.filterMap_report?_notices (found : Scan) (source : List Char) :
    (found.notices source).filterMap Notice.report? = found.reports := by
  simp [Scan.notices, List.filterMap_cons, Notice.report?, List.filterMap_map, Function.comp_def]

/-- The reports of a lone stream are those of the scan. -/
theorem Scanner.reports_scanTokens_ofSource (source : List Char) :
    (ofSource source).scanTokens.notices.filterMap Notice.report? = (scan source).reports := by
  rw [(scanTokens_ofSource source).2, Scan.filterMap_report?_notices]

end LoxScan
