import LoxScan.Proofs.Meaning
import LoxScan.Proofs.Trace

/-!
# Where events occur

The tokens and reports of a scan together with the parts of the source that they
are about.  An event belongs to the item that it was found for, so it occurs where
the item stands, and its line is the line on which the item ends.

Lines are counted at two places in a scan, once for line feeds that stand alone and
once for line feeds inside of strings.  `Occurrence.At` ties both to one number, the
line feeds in the source up to the end of the item, and whatever is to be said about
lines follows from that.

## Main Definitions

* `Occurrence` — an event and the part of the source that it is about
* `occurrences` — the events of a source, in order
* `Occurrence.At` — an event occurs at an item between two texts
-/

namespace LoxScan

/-- An event of a scan and the part of the source that it is about. -/
structure Occurrence where
  start : Nat
  stop : Nat
  event : ScanEvent
deriving DecidableEq

/-- The events of consecutive items, the first of which begins at a given offset on
a given line. -/
def occurrencesFrom (offset : Nat) (line : Int) : List Item → List Occurrence
  | [] => []
  | item :: rest =>
    let stop := offset + item.text.length
    let after := line + item.lineBreaks
    ((item.event? after).map (Occurrence.mk offset stop)).toList ++ occurrencesFrom stop after rest

/-- The events of a source and where they occur. -/
def occurrences (source : List Char) : List Occurrence := occurrencesFrom 0 1 (items source)

theorem occurrencesFrom_cons (offset : Nat) (line : Int) (item : Item) (rest : List Item) :
    occurrencesFrom offset line (item :: rest) =
      ((item.event? (line + item.lineBreaks)).map
          (Occurrence.mk offset (offset + item.text.length))).toList ++
        occurrencesFrom (offset + item.text.length) (line + item.lineBreaks) rest := rfl

/-- Leaving out where they occur leaves the events. -/
theorem map_event_occurrencesFrom (offset : Nat) (line : Int) (parts : List Item) :
    (occurrencesFrom offset line parts).map Occurrence.event = eventsFrom line parts := by
  induction parts generalizing offset line with
  | nil => rfl
  | cons item rest ih =>
    rw [occurrencesFrom_cons, eventsFrom_cons, List.map_append, ih]
    cases item.event? (line + item.lineBreaks) <;> rfl

/-- **An event occurs at an item between two texts**: it is the item's event, it is
about the item's text, and its line counts the line feeds up to the item's end. -/
structure Occurrence.At (occurrence : Occurrence) (source before : List Char) (item : Item)
    (after : List Char) : Prop where
  whole : before ++ item.text ++ after = source
  wellFormed : item.WellFormed
  stopsBefore : item.StopsBefore after
  start_eq : occurrence.start = before.length
  stop_eq : occurrence.stop = (before ++ item.text).length
  line_eq : occurrence.event.line = 1 + ((before ++ item.text).count '\n' : Nat)
  event_eq : item.event? occurrence.event.line = some occurrence.event

/-- Every event of a text behind another one occurs at an item of the whole. -/
theorem exists_at_of_mem_occurrencesFrom (rest before : List Char) {occurrence : Occurrence}
    (mem : occurrence ∈
      occurrencesFrom before.length (1 + (before.count '\n' : Nat)) (items rest)) :
    ∃ earlier item later, occurrence.At (before ++ rest) earlier item later := by
  fun_induction items rest generalizing before with
  | case1 => cases mem
  | case2 c rest ih =>
    have whole := Item.cut_append c rest
    have line : (1 + (before.count '\n' : Nat) : Int) + (Item.cut c rest).1.lineBreaks =
        1 + ((before ++ (Item.cut c rest).1.text).count '\n' : Nat) := by
      rw [List.count_append, Item.lineBreaks_cut]
      omega
    rw [occurrencesFrom_cons, line, ← List.length_append] at mem
    -- the first item stands between what is before it and what is left behind it
    rcases List.mem_append.mp mem with here | later
    · cases found : (Item.cut c rest).1.event?
          (1 + ((before ++ (Item.cut c rest).1.text).count '\n' : Nat)) with
      | none =>
        rw [found] at here
        cases here
      | some event =>
        rw [found] at here
        obtain rfl := List.mem_singleton.mp here
        have sameLine := Item.line_of_event? found
        refine ⟨before, (Item.cut c rest).1, (Item.cut c rest).2, ?_, Item.wellFormed_cut c rest,
          Item.stopsBefore_cut c rest, rfl, rfl, sameLine, ?_⟩
        · rw [List.append_assoc, whole]
        · rw [sameLine, found]
    · have further := ih (before ++ (Item.cut c rest).1.text) later
      rwa [List.append_assoc, whole] at further

/-- **Every event of a source occurs at an item of the source.** -/
theorem exists_at_of_mem_occurrences {source : List Char} {occurrence : Occurrence}
    (mem : occurrence ∈ occurrences source) :
    ∃ before item after, occurrence.At source before item after :=
  exists_at_of_mem_occurrencesFrom source [] mem

/-! ## Their order -/

/-- Events behind an offset occur behind it, and one after the other. -/
theorem pairwise_occurrencesFrom (offset : Nat) (line : Int) (parts : List Item) :
    (∀ occurrence ∈ occurrencesFrom offset line parts, offset ≤ occurrence.start) ∧
      (occurrencesFrom offset line parts).Pairwise fun earlier later =>
        earlier.stop ≤ later.start := by
  induction parts generalizing offset line with
  | nil => exact ⟨fun _ mem => (List.not_mem_nil mem).elim, .nil⟩
  | cons item rest ih =>
    obtain ⟨behind, ordered⟩ := ih (offset + item.text.length) (line + item.lineBreaks)
    rw [occurrencesFrom_cons]
    cases item.event? (line + item.lineBreaks) with
    | none =>
      refine ⟨fun occurrence mem => ?_, ordered⟩
      exact Nat.le_trans (Nat.le_add_right _ _) (behind occurrence mem)
    | some event =>
      refine ⟨fun occurrence mem => ?_, List.pairwise_cons.mpr ⟨behind, ordered⟩⟩
      rcases List.mem_cons.mp mem with rfl | mem
      · exact Nat.le_refl _
      · exact Nat.le_trans (Nat.le_add_right _ _) (behind occurrence mem)

/-- **Events occur one after the other**, without overlap. -/
theorem pairwise_occurrences (source : List Char) :
    (occurrences source).Pairwise fun earlier later => earlier.stop ≤ later.start :=
  (pairwise_occurrencesFrom 0 1 (items source)).2

namespace Occurrence.At

variable {occurrence : Occurrence} {source before after : List Char} {item : Item}

theorem take_stop (located : occurrence.At source before item after) :
    source.take occurrence.stop = before ++ item.text := by
  rw [located.stop_eq, ← located.whole, List.take_left]

/-- What stands where an event occurs is its item. -/
theorem text_eq (located : occurrence.At source before item after) :
    (source.take occurrence.stop).drop occurrence.start = item.text := by
  rw [located.take_stop, located.start_eq, List.drop_left]

theorem start_lt_stop (located : occurrence.At source before item after) :
    occurrence.start < occurrence.stop := by
  obtain ⟨c, tail, same⟩ := located.wellFormed.exists_cons
  rw [located.start_eq, located.stop_eq, List.length_append, same, List.length_cons]
  omega

theorem stop_le_length (located : occurrence.At source before item after) :
    occurrence.stop ≤ source.length := by
  rw [located.stop_eq, ← located.whole]
  exact (List.prefix_append _ after).length_le

/-- **The line of an event** counts the line feeds of the source up to its end. -/
theorem line_eq_count (located : occurrence.At source before item after) :
    occurrence.event.line = 1 + ((source.take occurrence.stop).count '\n' : Nat) := by
  rw [located.take_stop, located.line_eq]

/-- A token has the text that it occurs at. -/
theorem lexeme_eq (located : occurrence.At source before item after) {token : Token}
    (h : occurrence.event = .token token) :
    token.lexeme = (source.take occurrence.stop).drop occurrence.start := by
  have event := located.event_eq
  rw [h] at event
  rw [located.text_eq, Item.lexeme_of_token? (Item.token?_of_event? event)]

/-- A string ends with a quotation mark, and its line is the line of that mark. -/
theorem closing_mark (located : occurrence.At source before item after)
    (string : item.form = .string) :
    source[occurrence.stop - 1]? = some '"' ∧
      occurrence.event.line = 1 + ((source.take (occurrence.stop - 1)).count '\n' : Nat) := by
  obtain ⟨form, text⟩ := item
  obtain rfl : form = .string := string
  rcases located.wellFormed with lexeme | residue
  · cases lexeme with
    | @string inside unmarked =>
      have whole : before ++ '"' :: inside ++ '"' :: after = source := by
        rw [← located.whole]
        simp
      have stop : occurrence.stop - 1 = (before ++ '"' :: inside).length := by
        rw [located.stop_eq]
        simp
      have line := located.line_eq
      refine ⟨?_, line.trans ?_⟩
      · rw [stop, ← whole, List.getElem?_append_right (Nat.le_refl _), Nat.sub_self]
        rfl
      · rw [stop, ← whole, List.take_left]
        simp [List.count_append]
  · cases residue

/-- An open string ends with the source. -/
theorem stop_eq_length (located : occurrence.At source before item after)
    (openString : item.form = .openString) : occurrence.stop = source.length := by
  obtain ⟨form, text⟩ := item
  obtain rfl : form = .openString := openString
  obtain rfl : after = [] := located.stopsBefore
  rw [located.stop_eq, ← located.whole, List.append_nil]

/-- A stray character is one character. -/
theorem stop_eq_succ (located : occurrence.At source before item after)
    (stray : item.form = .strayCharacter) : occurrence.stop = occurrence.start + 1 := by
  obtain ⟨form, text⟩ := item
  obtain rfl : form = .strayCharacter := stray
  rcases located.wellFormed with lexeme | residue
  · cases lexeme
  · cases residue with
    | strayCharacter foreign =>
      rw [located.stop_eq, located.start_eq, List.length_append]
      rfl

end Occurrence.At

/-! ## The first items of a source -/

/-- What occurs in some items and in those behind them. -/
theorem occurrencesFrom_append (offset : Nat) (line : Int) (first second : List Item) :
    occurrencesFrom offset line (first ++ second) =
      occurrencesFrom offset line first ++
        occurrencesFrom (offset + (first.flatMap Item.text).length) (lineAfter line first)
          second := by
  induction first generalizing offset line with
  | nil => rfl
  | cons item rest ih =>
    have length : offset + item.text.length + (rest.flatMap Item.text).length =
        offset + ((item :: rest).flatMap Item.text).length := by
      rw [List.flatMap_cons, List.length_append]
      omega
    rw [List.cons_append, occurrencesFrom_cons, ih, length, lineAfter_cons,
      occurrencesFrom_cons, List.append_assoc]

/-- The events of some items and of those behind them. -/
theorem eventsFrom_append (line : Int) (first second : List Item) :
    eventsFrom line (first ++ second) =
      eventsFrom line first ++ eventsFrom (lineAfter line first) second := by
  rw [← map_event_occurrencesFrom 0, occurrencesFrom_append, List.map_append,
    map_event_occurrencesFrom, map_event_occurrencesFrom]

/-- What occurs in some items occurs before their end. -/
theorem stop_le_of_mem_occurrencesFrom (offset : Nat) (line : Int) (parts : List Item)
    {occurrence : Occurrence} (mem : occurrence ∈ occurrencesFrom offset line parts) :
    occurrence.stop ≤ offset + (parts.flatMap Item.text).length := by
  induction parts generalizing offset line with
  | nil => cases mem
  | cons item rest ih =>
    rw [List.flatMap_cons, List.length_append, ← Nat.add_assoc]
    rw [occurrencesFrom_cons] at mem
    rcases List.mem_append.mp mem with here | later
    · obtain ⟨event, -, rfl⟩ := Option.map_eq_some_iff.mp (Option.mem_toList.mp here)
      exact Nat.le_add_right _ _
    · exact ih _ _ later

/-- **The occurrences that end at or before the end of some first items are those in
the items.** -/
theorem filter_occurrences {source rest : List Char} {read : List Item}
    (whole : items source = read ++ items rest) :
    (occurrences source).filter (fun occurrence =>
        decide (occurrence.stop ≤ (read.flatMap Item.text).length)) =
      occurrencesFrom 0 1 read := by
  have present : ∀ occurrence ∈ occurrencesFrom 0 1 read,
      occurrence.stop ≤ (read.flatMap Item.text).length := by
    intro occurrence mem
    have inside := stop_le_of_mem_occurrencesFrom 0 1 read mem
    rwa [Nat.zero_add] at inside
  have absent : ∀ occurrence ∈
      occurrencesFrom (0 + (read.flatMap Item.text).length) (lineAfter 1 read) (items rest),
      ¬ occurrence.stop ≤ (read.flatMap Item.text).length := by
    intro occurrence mem
    have behind := (pairwise_occurrencesFrom _ _ _).1 occurrence mem
    have inSource : occurrence ∈ occurrences source := by
      rw [occurrences, whole, occurrencesFrom_append]
      exact List.mem_append_right _ mem
    obtain ⟨_, _, _, located⟩ := exists_at_of_mem_occurrences inSource
    have proper := located.start_lt_stop
    omega
  rw [occurrences, whole, occurrencesFrom_append, List.filter_append,
    List.filter_eq_self.mpr (by simpa using present),
    List.filter_eq_nil_iff.mpr (by simpa using absent), List.append_nil]

/-- The reports that occur in some items are the reports of their events. -/
theorem filterMap_report?_occurrencesFrom (offset : Nat) (line : Int) (parts : List Item) :
    (occurrencesFrom offset line parts).filterMap (fun occurrence => occurrence.event.report?) =
      (eventsFrom line parts).filterMap ScanEvent.report? := by
  rw [← map_event_occurrencesFrom offset, List.filterMap_map]
  rfl

/-! ## The history of a scan -/

/-- The tokens and the reports that draining a new stream brings about, in the order
in which they happen. -/
def Scanner.history (s : Scanner) : List ScanEvent :=
  (Stream.fresh.trace s).filterMap Signal.event?

/-- Draining a new stream delivers the tokens of the history and makes its reports. -/
theorem Scanner.scanTokens_eq_history (s : Scanner) :
    s.scanTokens.tokens = s.history.filterMap ScanEvent.token? ∧
      s.scanTokens.notices.filterMap Notice.report? = s.history.filterMap ScanEvent.report? := by
  obtain ⟨tokens, notices⟩ := Stream.drain_eq_trace .fresh s
  rw [scanTokens, tokens, notices, history, List.filterMap_filterMap, List.filterMap_filterMap,
    List.filterMap_filterMap]
  constructor
  · congr 1
    funext signal
    cases signal with
    | told notice => cases notice <;> rfl
    | delivered token => rfl
  · congr 1
    funext signal
    cases signal with
    | told notice => cases notice <;> rfl
    | delivered token => rfl

/-- The history of a new scanner is what occurs in its source, and the end. -/
theorem history_ofSource (source : List Char) :
    (Scanner.ofSource source).history =
      (occurrences source).map Occurrence.event ++
        [.token (Token.endOfInput (lineTotal source))] := by
  have events : ∀ found : List ScanEvent,
      (found.map Signal.ofEvent).filterMap Signal.event? = found := by
    intro found
    rw [List.filterMap_map]
    have same : Signal.event? ∘ Signal.ofEvent = some := by
      funext event
      exact Signal.event?_ofEvent event
    rw [same, List.filterMap_some]
  rw [Scanner.history, Stream.trace_fresh rfl, Scanner.prospect, ← List.cons_append,
    List.filterMap_append, List.filterMap_cons, events, occurrences, map_event_occurrencesFrom]
  rfl

/-- The reports that occur in a source are those of a lone stream. -/
theorem filterMap_report?_occurrences (source : List Char) :
    (occurrences source).filterMap (fun occurrence => occurrence.event.report?) =
      (Scanner.ofSource source).scanTokens.notices.filterMap Notice.report? := by
  rw [(Scanner.scanTokens_eq_history _).2, history_ofSource, List.filterMap_append,
    List.filterMap_map]
  exact (List.append_nil _).symm

/-- A lone stream delivers the tokens that occur in the source, and the one that marks the
end. -/
theorem Scanner.tokens_scanTokens_ofSource (source : List Char) :
    (ofSource source).scanTokens.tokens =
      (occurrences source).filterMap (fun occurrence => occurrence.event.token?) ++
        [Token.endOfInput (lineTotal source)] := by
  have found : (eventsFrom 1 (items source)).filterMap ScanEvent.token? =
      (occurrences source).filterMap (fun occurrence => occurrence.event.token?) := by
    rw [← map_event_occurrencesFrom 0, List.filterMap_map]
    rfl
  rw [(scanTokens_ofSource source).1, ← found, tokens_scan]

/-- An earlier offset has no more line feeds before it. -/
theorem count_take_le (source : List Char) {m n : Nat} (h : m ≤ n) :
    (source.take m).count '\n' ≤ (source.take n).count '\n' :=
  (List.take_sublist_take_left h).count_le '\n'

/-- **Lines never decrease** from one event to the next. -/
theorem pairwise_line_occurrences (source : List Char) :
    (occurrences source).Pairwise fun earlier later =>
      earlier.event.line ≤ later.event.line := by
  refine (pairwise_occurrences source).imp_of_mem ?_
  intro earlier later mem mem' before
  obtain ⟨_, _, _, located⟩ := exists_at_of_mem_occurrences mem
  obtain ⟨_, _, _, located'⟩ := exists_at_of_mem_occurrences mem'
  have fewer := count_take_le source (Nat.le_trans before (Nat.le_of_lt located'.start_lt_stop))
  rw [located.line_eq_count, located'.line_eq_count]
  omega

/-- No event is on a line behind the last one. -/
theorem line_le_lineTotal {source : List Char} {occurrence : Occurrence}
    (mem : occurrence ∈ occurrences source) : occurrence.event.line ≤ lineTotal source := by
  obtain ⟨_, _, _, located⟩ := exists_at_of_mem_occurrences mem
  have fewer := (List.take_sublist occurrence.stop source).count_le '\n'
  rw [located.line_eq_count, lineTotal]
  omega

/-- **Lines are exact.**  The tokens and the reports of a scan are those of its
history, which is what occurs in the source, one event after the other and without
overlap, and the token that marks the end.  Each token has the text that it occurs at,
and the line of each token and each report counts the line feeds of the source up to
its end; that of the last token counts all of them.  So lines never decrease, the line
of a string is that of its closing mark, and an open string is reported on the last
line. -/
theorem history_lines_exact (source : List Char) :
    ((Scanner.ofSource source).scanTokens.tokens =
          (Scanner.ofSource source).history.filterMap ScanEvent.token? ∧
        (Scanner.ofSource source).scanTokens.notices.filterMap Notice.report? =
          (Scanner.ofSource source).history.filterMap ScanEvent.report?) ∧
      (Scanner.ofSource source).history =
        (occurrences source).map Occurrence.event ++
          [.token (Token.endOfInput (1 + (source.count '\n' : Nat)))] ∧
      (occurrences source).Pairwise (fun earlier later => earlier.stop ≤ later.start) ∧
      (∀ occurrence ∈ occurrences source,
        occurrence.start < occurrence.stop ∧ occurrence.stop ≤ source.length ∧
          occurrence.event.line = 1 + ((source.take occurrence.stop).count '\n' : Nat) ∧
          (∀ token, occurrence.event = .token token →
            token.lexeme = (source.take occurrence.stop).drop occurrence.start)) ∧
      (Scanner.ofSource source).history.Pairwise (fun earlier later =>
        earlier.line ≤ later.line) ∧
      (∀ occurrence ∈ occurrences source, ∀ token, occurrence.event = .token token →
        token.kind = .string →
          source[occurrence.stop - 1]? = some '"' ∧
            token.line = 1 + ((source.take (occurrence.stop - 1)).count '\n' : Nat)) ∧
      ∀ occurrence ∈ occurrences source, ∀ report, occurrence.event = .report report →
        (report.fault = .unexpectedCharacter → occurrence.stop = occurrence.start + 1) ∧
          (report.fault = .unterminatedString →
            occurrence.stop = source.length ∧ report.line = lineTotal source) := by
  refine ⟨Scanner.scanTokens_eq_history _, history_ofSource source,
    pairwise_occurrences source, ?_, ?_, ?_, ?_⟩
  · intro occurrence mem
    obtain ⟨_, _, _, located⟩ := exists_at_of_mem_occurrences mem
    exact ⟨located.start_lt_stop, located.stop_le_length, located.line_eq_count,
      fun token found => located.lexeme_eq found⟩
  · rw [history_ofSource, List.pairwise_append]
    refine ⟨List.pairwise_map.mpr (pairwise_line_occurrences source),
      List.pairwise_singleton _ _, ?_⟩
    intro event mem last isLast
    obtain ⟨occurrence, present, rfl⟩ := List.mem_map.mp mem
    obtain rfl := List.mem_singleton.mp isLast
    exact line_le_lineTotal present
  · intro occurrence mem token found string
    obtain ⟨_, item, _, located⟩ := exists_at_of_mem_occurrences mem
    have event := located.event_eq
    rw [found] at event
    have form := Item.form_of_string located.wellFormed (Item.token?_of_event? event) string
    have closing := located.closing_mark form
    rwa [found] at closing
  · intro occurrence mem report found
    obtain ⟨_, item, _, located⟩ := exists_at_of_mem_occurrences mem
    have event := located.event_eq
    rw [found] at event
    have fault := Item.fault?_of_report event
    refine ⟨fun unexpected => ?_, fun unterminated => ?_⟩
    · rw [unexpected] at fault
      exact located.stop_eq_succ (ItemForm.eq_strayCharacter fault)
    · rw [unterminated] at fault
      have atEnd := located.stop_eq_length (ItemForm.eq_openString fault)
      have line := located.line_eq_count
      rw [found, atEnd, List.take_length] at line
      exact ⟨atEnd, line⟩

/-- A string of two lines that begins on the second line is on the third, where its
closing mark stands. -/
theorem history_lines_exact_string :
    (occurrences "a\n\"x\ny\"@".toList)[1]? =
        some ⟨2, 7, .token
          { kind := .string, lexeme := "\"x\ny\"".toList, literal := some (.text "x\ny".toList),
            line := 3 }⟩ ∧
      "a\n\"x\ny\"@".toList[6]? = some '"' ∧
      (3 : Int) = 1 + (("a\n\"x\ny\"@".toList.take 6).count '\n' : Nat) := by
  have found : (occurrences "a\n\"x\ny\"@".toList)[1]? =
      some ⟨2, 7, .token
        { kind := .string, lexeme := "\"x\ny\"".toList, literal := some (.text "x\ny".toList),
          line := 3 }⟩ := by
    decide +kernel
  have exactLines := (history_lines_exact "a\n\"x\ny\"@".toList).2.2.2.2.2.1
  exact ⟨found, exactLines _ (List.mem_of_getElem? found) _ rfl rfl⟩

end LoxScan
