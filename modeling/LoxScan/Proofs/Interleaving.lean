import LoxScan.Drive
import LoxScan.Proofs.Occurrence

/-!
# Streams that share a scanner

Any number of streams can be open on one scanner, and each of them moves the cursor
that all of them share and fills or clears the pending tokens that all of them look
at.  Which token a stream delivers therefore depends on the others.  The scan itself
does not: whoever reads the next item, it is the same item, and its report is made
once, when it is read.

`Scanner.HasRead` is the invariant behind that.  It says nothing about which stream
read what, and of the pending tokens only that none of them marks the end, so it
survives every step of every stream.

## Main Definitions

* `Scanner.soloCursors` — where the cursor stands while a lone stream reads
* `Scanner.HasRead` — a scanner has read the first items of a source
* `Scanner.Keeps` — an operation takes one scanner to another without disturbing a scan
* `DriveStep.byHand` — the steps that move the cursor without reading an item
-/

namespace LoxScan

/-! ## The invariant -/

namespace Scanner

/-- **Where the cursor of a lone stream stands** before and after the items that it
reads.  Such a stream clears the pending tokens behind each item. -/
def soloCursors (s : Scanner) : List Nat :=
  match _h : s.rest with
  | [] => [s.current]
  | c :: after => s.current :: soloCursors { (s.readItem c after).1 with pending := [] }
termination_by s.rest.length
decreasing_by
  have := Item.cut_rest_length_le c after
  simp only [readItem_rest, _h, List.length_cons]
  omega

theorem soloCursors_cons {s : Scanner} {c : Char} {after : List Char} (h : s.rest = c :: after) :
    s.soloCursors = s.current :: soloCursors { (s.readItem c after).1 with pending := [] } := by
  rw [soloCursors]
  split
  · next ended => rw [ended] at h; cases h
  · next c' after' begun =>
    rw [begun] at h
    cases h
    rfl

/-- The cursor of a lone stream begins where the scanner stands. -/
theorem current_mem_soloCursors (s : Scanner) : s.current ∈ s.soloCursors := by
  rw [soloCursors]
  split <;> exact List.mem_cons_self

/-- Where the last item began makes no difference to where the cursor will stand. -/
theorem soloCursors_start (s : Scanner) (n : Nat) :
    soloCursors { s with start := n } = s.soloCursors := by
  rw [soloCursors, soloCursors]
  rfl

/-- **A scanner has read the first items of a source**, one after the other, and
the given reports were made meanwhile. -/
structure HasRead (s : Scanner) (source : List Char) (read : List Item) (made : List Report) :
    Prop where
  items_eq : items source = read ++ items s.rest
  current_eq : s.current = (read.flatMap Item.text).length
  line_eq : s.line = lineAfter 1 read
  made_eq : made = (eventsFrom 1 read).filterMap ScanEvent.report?
  pending_ne : ∀ token ∈ s.pending, token.kind ≠ .endOfInput
  cursors_suffix : soloCursors { s with pending := [] } <:+ (ofSource source).soloCursors

/-- **An operation takes one scanner to another** without disturbing the scan of a
source.  Whatever the first scanner has read, the second one has read some more items,
what was told meanwhile are the reports of these, and a token that marks the end was
yielded only if no text is left. -/
def Keeps (source : List Char) (s t : Scanner) (notices : List Notice) (yielded : List Token) :
    Prop :=
  ∀ read made, s.HasRead source read made →
    ∃ more, t.HasRead source (read ++ more) (made ++ notices.filterMap Notice.report?) ∧
      ∀ token ∈ yielded, token.kind = .endOfInput → t.rest = []

variable {s t u : Scanner} {source : List Char} {read more : List Item} {made : List Report}

/-- A new scanner has read nothing. -/
theorem hasRead_ofSource (source : List Char) : (ofSource source).HasRead source [] [] where
  items_eq := rfl
  current_eq := rfl
  line_eq := rfl
  made_eq := rfl
  pending_ne := fun _ mem => (List.not_mem_nil mem).elim
  cursors_suffix := List.suffix_rfl

namespace HasRead

/-- Clearing the pending tokens changes nothing about what has been read. -/
theorem clear (h : s.HasRead source read made) :
    HasRead { s with pending := [] } source read made :=
  { h with pending_ne := fun _ mem => (List.not_mem_nil mem).elim }

/-- **Reading an item** makes its report and keeps to the cursor of a lone stream. -/
theorem readItem (h : s.HasRead source read made) {c : Char} {after : List Char}
    (rest : s.rest = c :: after) :
    (s.readItem c after).1.HasRead source (read ++ [(Item.cut c after).1])
      (made ++ (s.readItem c after).2.filterMap Notice.report?) where
  items_eq := by
    rw [h.items_eq, rest, items_cons, List.append_assoc]
    rfl
  current_eq := by
    rw [List.flatMap_append, List.length_append, ← h.current_eq, List.flatMap_singleton]
    rfl
  line_eq := by
    rw [lineAfter_append, ← h.line_eq]
    rfl
  made_eq := by
    rw [eventsFrom_append, List.filterMap_append, ← h.made_eq, ← h.line_eq,
      filterMap_report?_eventsFrom_cons, filterMap_report?_readItem]
    exact (congrArg (made ++ ·) (List.append_nil _)).symm
  pending_ne := by
    intro token mem
    rcases List.mem_append.mp mem with earlier | new
    · exact h.pending_ne token earlier
    · exact Item.kind_ne_endOfInput (Item.wellFormed_cut c after) (Option.mem_toList.mp new)
  cursors_suffix := by
    have longer := h.cursors_suffix
    rw [soloCursors_cons (s := { s with pending := [] }) rest] at longer
    exact (List.suffix_cons _ _).trans longer

/-- What has been read is the beginning of the source. -/
theorem take_current (h : s.HasRead source read made) :
    source.take s.current = read.flatMap Item.text := by
  have whole := flatMap_text_items source
  rw [h.items_eq, List.flatMap_append] at whole
  rw [h.current_eq, ← whole, List.take_left]

/-- The line of the cursor is exact. -/
theorem line_eq_count (h : s.HasRead source read made) :
    s.line = 1 + ((source.take s.current).count '\n' : Nat) := by
  have wellFormed : ∀ item ∈ read, item.WellFormed := fun item mem =>
    wellFormed_of_mem_items (h.items_eq ▸ List.mem_append_left _ mem)
  rw [h.line_eq, lineAfter_eq wellFormed, h.take_current]

/-- Only a scanner that has read all items has come to the end of its source. -/
theorem rest_eq_nil_iff (h : s.HasRead source read made) :
    s.rest = [] ↔ read = items source := by
  constructor
  · intro ended
    rw [h.items_eq, ended, items_nil, List.append_nil]
  · intro all
    have none_left : items s.rest = [] := by simpa [all] using h.items_eq
    rw [← flatMap_text_items s.rest, none_left, List.flatMap_nil]

/-- A scanner that has come to the end stays there. -/
theorem rest_eq_nil_of_append (h : s.HasRead source read made) {made' : List Report}
    (further : t.HasRead source (read ++ more) made') (ended : s.rest = []) : t.rest = [] := by
  -- all items had been read, so none can have been read since
  have total := further.items_eq
  rw [h.rest_eq_nil_iff.mp ended, List.append_assoc] at total
  have none_left : more ++ items t.rest = [] := by simpa using total
  rw [← flatMap_text_items t.rest, (List.append_eq_nil_iff.mp none_left).2, List.flatMap_nil]

end HasRead

/-- An operation that reads no item and yields no token of the end, or does so only
at the end, keeps the scan. -/
theorem keeps_of_hasRead {yielded : List Token}
    (unmoved : ∀ {read made}, s.HasRead source read made → t.HasRead source read made ∧
      ∀ token ∈ yielded, token.kind = .endOfInput → t.rest = []) :
    Keeps source s t [] yielded := by
  intro read made h
  refine ⟨[], ?_, (unmoved h).2⟩
  rw [List.append_nil, List.filterMap_nil, List.append_nil]
  exact (unmoved h).1

/-- Doing nothing keeps the scan. -/
theorem keeps_rfl : Keeps source s s [] [] :=
  keeps_of_hasRead fun h => ⟨h, fun _ mem => (List.not_mem_nil mem).elim⟩

/-- **Two operations one after the other** keep the scan if each of them does. -/
theorem Keeps.trans {notices notices' : List Notice} {yielded yielded' : List Token}
    (first : Keeps source s t notices yielded) (second : Keeps source t u notices' yielded') :
    Keeps source s u (notices ++ notices') (yielded ++ yielded') := by
  intro read made h
  obtain ⟨more, between, marksEnd⟩ := first read made h
  obtain ⟨more', behind, marksEnd'⟩ := second _ _ between
  refine ⟨more ++ more', ?_, ?_⟩
  · rwa [List.filterMap_append, ← List.append_assoc, ← List.append_assoc]
  · intro token mem kind
    rcases List.mem_append.mp mem with earlier | later
    · exact between.rest_eq_nil_of_append behind (marksEnd token earlier kind)
    · exact marksEnd' token later kind

/-! ## Streams -/

/-- Clearing the pending tokens keeps the scan. -/
theorem keeps_clear (s : Scanner) : Keeps source s { s with pending := [] } [] [] :=
  keeps_of_hasRead fun h => ⟨h.clear, fun _ mem => (List.not_mem_nil mem).elim⟩

/-- **Reading an item keeps the scan**, also when a token that is pending then is
yielded. -/
theorem keeps_readItem {c : Char} {after : List Char} (rest : s.rest = c :: after)
    {yielded : List Token} (pending : yielded ⊆ (s.readItem c after).1.pending) :
    Keeps source s (s.readItem c after).1 (s.readItem c after).2 yielded := by
  intro read made h
  have behind := h.readItem rest
  refine ⟨_, behind, ?_⟩
  intro token mem marksEnd
  exact absurd marksEnd (behind.pending_ne token (pending mem))

/-- **Seeking a token keeps the scan.** -/
theorem keeps_seek (source : List Char) (s : Scanner) (count : Nat) :
    Keeps source s (s.seek count).scanner (s.seek count).notices (s.seek count).token.toList := by
  fun_induction Scanner.seek s count with
  | case1 s ended =>
    refine keeps_of_hasRead fun h => ⟨?_, fun _ _ _ => ended⟩
    exact
      { h with cursors_suffix := soloCursors_start { s with pending := [] } _ ▸ h.cursors_suffix }
  | case2 s c after rest read none_pending ih =>
    exact (keeps_readItem rest (List.nil_subset _)).trans ih
  | case3 s c after rest read token more some_pending =>
    -- the first pending token may be one that another stream has read
    refine keeps_readItem rest ?_
    rw [show (s.readItem c after).1.pending = token :: more from some_pending]
    exact List.cons_subset_cons token (List.nil_subset more)

/-- **Asking a stream for one token keeps the scan.** -/
theorem keeps_next (source : List Char) (stream : Stream) (s : Scanner) :
    Keeps source s (stream.next s).scanner (stream.next s).notices
      (stream.next s).token.toList := by
  cases stream with
  | fresh =>
    have began : Keeps source s s [.started s.sourceLength] [] := keeps_rfl
    exact began.trans (keeps_seek source s 0)
  | suspended index count =>
    rw [Stream.next]
    split
    · next token present =>
      refine keeps_of_hasRead fun h => ⟨h, ?_⟩
      intro token' mem marksEnd
      obtain rfl := List.mem_singleton.mp mem
      exact absurd marksEnd (h.pending_ne token' (List.mem_of_getElem? present))
    · exact s.keeps_clear.trans (keeps_seek source _ count)
  | finished => exact keeps_rfl

/-- **Asking a stream for all of its tokens keeps the scan.** -/
theorem keeps_drain (source : List Char) (stream : Stream) (s : Scanner) :
    Keeps source s (stream.drain s).scanner (stream.drain s).notices (stream.drain s).tokens := by
  fun_induction Stream.drain stream s with
  | case1 stream s delivery stop =>
    have asked := keeps_next source stream s
    rwa [show (stream.next s).token = none from stop] at asked
  | case2 stream s delivery token found remaining ih =>
    have asked := keeps_next source stream s
    rw [show (stream.next s).token = some token from found] at asked
    exact asked.trans ih

end Scanner

/-! ## Steps -/

/-- The steps that move the cursor without reading an item. -/
def DriveStep.byHand : DriveStep → Bool
  | .advance | .accept _ => true
  | .openStream _ | .next _ | .drain _ | .close _ | .scanTokens | .peek | .peekNext => false

/-- The tokens that streams yield in a step. -/
def DriveOutcome.yielded (outcome : DriveOutcome) : List Token :=
  match outcome.answer with
  | .ok (.delivered token) => token.toList
  | .ok (.tokens tokens) => tokens
  | _ => []

namespace Drive

/-- **A step keeps the scan** unless it moves the cursor by hand. -/
theorem keeps_step (source : List Char) (drive : Drive) {step : DriveStep}
    (whole : step.byHand = false) :
    Scanner.Keeps source drive.scanner (drive.step step).drive.scanner
      (drive.step step).notices (drive.step step).yielded := by
  cases step with
  | openStream | close | peek | peekNext => exact Scanner.keeps_rfl
  | next name => exact Scanner.keeps_next source (drive.stream name) drive.scanner
  | drain name => exact Scanner.keeps_drain source (drive.stream name) drive.scanner
  | scanTokens => exact Scanner.keeps_drain source .fresh drive.scanner
  | advance | accept => cases whole

/-- **Several steps keep the scan** unless one of them moves the cursor by hand. -/
theorem keeps_run (source : List Char) (drive : Drive) (steps : List DriveStep)
    (whole : ∀ step ∈ steps, step.byHand = false) :
    Scanner.Keeps source drive.scanner (drive.runState steps).scanner
      ((drive.run steps).flatMap DriveOutcome.notices)
      ((drive.run steps).flatMap DriveOutcome.yielded) := by
  induction steps generalizing drive with
  | nil => exact Scanner.keeps_rfl
  | cons step rest ih =>
    rw [List.forall_mem_cons] at whole
    exact (keeps_step source drive whole.1).trans (ih _ whole.2)

/-- The reports that are made in some steps, in order. -/
def reportsMade (drive : Drive) (steps : List DriveStep) : List Report :=
  ((drive.run steps).flatMap DriveOutcome.notices).filterMap Notice.report?

/-- The tokens that streams yield in some steps, in order. -/
def tokensYielded (drive : Drive) (steps : List DriveStep) : List Token :=
  (drive.run steps).flatMap DriveOutcome.yielded

end Drive

/-! ## The whole drive -/

/-- **Streams do not disturb the scan.**  After any steps on one scanner, of which none
moves the cursor by hand, the cursor is where it stands at some time while a lone stream
reads the source, the line is the line of the cursor, and the reports that were made are
those of a lone stream that occur up to the cursor.  So they are always the first of
them, and all of them once a stream has yielded the token that marks the end. -/
theorem reportsMade_eq_of_streams (source : List Char) (steps : List DriveStep)
    (whole : ∀ step ∈ steps, step.byHand = false) :
    ((Drive.ofSource source).runState steps).scanner.current ∈
        (Scanner.ofSource source).soloCursors ∧
      ((Drive.ofSource source).runState steps).scanner.line =
        1 + ((source.take ((Drive.ofSource source).runState steps).scanner.current).count
          '\n' : Nat) ∧
      (Drive.ofSource source).reportsMade steps =
        ((occurrences source).filter fun occurrence =>
            occurrence.stop ≤ ((Drive.ofSource source).runState steps).scanner.current).filterMap
          (fun occurrence => occurrence.event.report?) ∧
      (occurrences source).filterMap (fun occurrence => occurrence.event.report?) =
        (Scanner.ofSource source).scanTokens.notices.filterMap Notice.report? ∧
      (Drive.ofSource source).reportsMade steps <+:
        (Scanner.ofSource source).scanTokens.notices.filterMap Notice.report? ∧
      ∀ token ∈ (Drive.ofSource source).tokensYielded steps, token.kind = .endOfInput →
        (Drive.ofSource source).reportsMade steps =
          (Scanner.ofSource source).scanTokens.notices.filterMap Notice.report? := by
  obtain ⟨read, h, marksEnd⟩ := (Drive.ofSource source).keeps_run source steps whole [] []
    (Scanner.hasRead_ofSource source)
  rw [List.nil_append, List.nil_append] at h
  have solo := filterMap_report?_occurrences source
  have made : (Drive.ofSource source).reportsMade steps =
      (eventsFrom 1 read).filterMap ScanEvent.report? := h.made_eq
  refine ⟨h.cursors_suffix.subset (Scanner.current_mem_soloCursors _), ?_, ?_, solo, ?_, ?_⟩
  · exact h.line_eq_count
  · rw [made, h.current_eq, filter_occurrences h.items_eq, filterMap_report?_occurrencesFrom]
  · rw [made, ← solo, occurrences, filterMap_report?_occurrencesFrom, h.items_eq,
      eventsFrom_append, List.filterMap_append]
    exact List.prefix_append _ _
  · intro token mem isEnd
    have all := h.rest_eq_nil_iff.mp (marksEnd token mem isEnd)
    rw [made, ← solo, occurrences, filterMap_report?_occurrencesFrom, all]

/-- Two streams that take turns, one of which is closed before the other one comes to
the end, make both reports of the source, each of them once. -/
theorem reportsMade_of_two_streams :
    (Drive.ofSource "@ a\n#b c".toList).reportsMade
        [.openStream "x", .next "x", .openStream "y", .next "y", .next "x", .close "y",
          .drain "x"] =
      [⟨1, .unexpectedCharacter⟩, ⟨2, .unexpectedCharacter⟩] := by
  have all := (reportsMade_eq_of_streams "@ a\n#b c".toList
    [.openStream "x", .next "x", .openStream "y", .next "y", .next "x", .close "y", .drain "x"]
    (by decide)).2.2.2.2.2 (Token.endOfInput 2) (by decide +kernel) rfl
  rw [all]
  decide +kernel

end LoxScan
