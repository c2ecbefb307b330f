import LoxScan.Proofs.Occurrence

/-!
# Scanning in chunks

A source can be cut at a line break and scanned in two parts, unless the cut falls inside of
a string.  No other item goes on behind a line break, so those of the first part end where
they end when it is scanned alone, and what is behind the line break is scanned as if it
were a source of its own.  Only its lines are further down.

The line on which a scan begins makes no other difference to it (`scanFrom_add`).

## Main Definitions

* `ScanEvent.shiftLine`, `Scan.shiftLine` — an event and a scan a number of lines further down
-/

namespace LoxScan

/-! ## Lines further down -/

/-- The same event a number of lines further down. -/
def ScanEvent.shiftLine (event : ScanEvent) (lines : Int) : ScanEvent :=
  match event with
  | .token found => .token (found.shiftLine lines)
  | .report made => .report (made.shiftLine lines)

theorem ScanEvent.token?_shiftLine (event : ScanEvent) (lines : Int) :
    (event.shiftLine lines).token? = event.token?.map fun found => found.shiftLine lines := by
  cases event <;> rfl

theorem ScanEvent.report?_shiftLine (event : ScanEvent) (lines : Int) :
    (event.shiftLine lines).report? = event.report?.map fun made => made.shiftLine lines := by
  cases event <;> rfl

/-- What an item means further down is what it means, further down. -/
theorem Item.event?_add (item : Item) (line lines : Int) :
    item.event? (line + lines) = (item.event? line).map fun event => event.shiftLine lines := by
  obtain ⟨form, text⟩ := item
  cases form <;> rfl

/-- Items that begin further down have the same events, further down. -/
theorem eventsFrom_add (line lines : Int) (parts : List Item) :
    eventsFrom (line + lines) parts =
      (eventsFrom line parts).map fun event => event.shiftLine lines := by
  induction parts generalizing line with
  | nil => rfl
  | cons item rest ih =>
    rw [eventsFrom_cons, eventsFrom_cons, Int.add_right_comm, ih, Item.event?_add, List.map_append]
    cases item.event? (line + item.lineBreaks) <;> rfl

/-- The same scan a number of lines further down. -/
def Scan.shiftLine (found : Scan) (lines : Int) : Scan :=
  { tokens := found.tokens.map fun token => token.shiftLine lines
    reports := found.reports.map fun report => report.shiftLine lines }

theorem filterMap_token?_shiftLine (events : List ScanEvent) (lines : Int) :
    (events.map fun event => event.shiftLine lines).filterMap ScanEvent.token? =
      (events.filterMap ScanEvent.token?).map fun token => token.shiftLine lines := by
  rw [List.filterMap_map, List.map_filterMap]
  exact List.filterMap_congr fun event _ => event.token?_shiftLine lines

theorem filterMap_report?_shiftLine (events : List ScanEvent) (lines : Int) :
    (events.map fun event => event.shiftLine lines).filterMap ScanEvent.report? =
      (events.filterMap ScanEvent.report?).map fun report => report.shiftLine lines := by
  rw [List.filterMap_map, List.map_filterMap]
  exact List.filterMap_congr fun event _ => event.report?_shiftLine lines

/-- **A scan that begins further down** finds the same, further down. -/
theorem scanFrom_add (line lines : Int) (source : List Char) :
    scanFrom (line + lines) source = (scanFrom line source).shiftLine lines := by
  have last : lineAfter (line + lines) (items source) = lineAfter line (items source) + lines := by
    rw [lineAfter_items, lineAfter_items]
    exact Int.add_right_comm _ _ _
  simp only [scanFrom, Scan.shiftLine, eventsFrom_add, filterMap_token?_shiftLine,
    filterMap_report?_shiftLine, List.map_append, last]
  rfl

/-- A scan that begins on any line is the scan of the same text as a source, further down. -/
theorem scanFrom_eq_shiftLine (line : Int) (source : List Char) :
    scanFrom line source = (scan source).shiftLine (line - 1) := by
  rw [scan, ← scanFrom_add]
  congr 1
  omega

/-! ## Items in front of a line break -/

/-- **No item goes on behind a line break**, open strings apart: one that stops before a text
also stops before the text with a line break and anything else behind it. -/
theorem Item.StopsBefore.append_lineBreak {item : Item} {after : List Char}
    (stops : item.StopsBefore after) (closed : item.form ≠ .openString) (more : List Char) :
    item.StopsBefore (after ++ '\n' :: more) := by
  refine stops.of_seen ?_ ?_
  · intro c head
    cases after with
    | nil =>
      obtain rfl := Option.some.inj head
      exact .inr (stopsBefore_separator (.inr rfl) closed fun _ => rfl)
    | cons d rest => exact .inl head
  · intro _ _ c rest same
    match after, same with
    | [], same => exact absurd (List.cons.inj same).1 (by decide)
    | [d], same =>
      obtain rfl := (List.cons.inj (List.cons.inj same).2).1
      exact .inr rfl
    | d :: e :: behind, same =>
      obtain ⟨rfl, tail⟩ := List.cons.inj same
      obtain ⟨rfl, -⟩ := List.cons.inj tail
      exact .inl ⟨behind, rfl⟩

/-- **The items of two texts with a line break between them** are those of the one, the line
break, and those of the other, unless the first one ends in an open string. -/
theorem items_append_lineBreak (first second : List Char)
    (closed : ∀ item ∈ items first, item.form ≠ .openString) :
    items (first ++ '\n' :: second) = items first ++ ⟨.lineBreak, ['\n']⟩ :: items second := by
  fun_induction items first with
  | case1 =>
    rw [List.nil_append, items_cons, Item.cut_lineBreak]
    rfl
  | case2 c rest ih =>
    rw [List.forall_mem_cons] at closed
    have stops := (Item.stopsBefore_cut c rest).append_lineBreak closed.1 second
    rw [← Item.cut_append c rest, List.append_assoc,
      items_append (Item.wellFormed_cut c rest) stops, ih closed.2]
    rfl

/-- A scan that reports no unterminated string has no open string among its items. -/
theorem form_ne_openString_of_reports {source : List Char}
    (closed : ∀ report ∈ (Scanner.ofSource source).scanTokens.notices.filterMap Notice.report?,
      report.fault ≠ .unterminatedString) :
    ∀ item ∈ items source, item.form ≠ .openString := by
  intro item mem openString
  have reported : Fault.unterminatedString ∈ (items source).filterMap (·.form.fault?) :=
    List.mem_filterMap.mpr ⟨item, mem, by rw [openString]; rfl⟩
  rw [← map_fault_reports (items source) 1] at reported
  obtain ⟨report, made, unterminated⟩ := List.mem_map.mp reported
  refine closed report ?_ unterminated
  rw [Scanner.reports_scanTokens_ofSource]
  exact made

/-! ## Two chunks -/

/-- The events of two texts with a line break between them. -/
theorem eventsFrom_items_append_lineBreak (first second : List Char)
    (closed : ∀ item ∈ items first, item.form ≠ .openString) :
    eventsFrom 1 (items (first ++ '\n' :: second)) =
      eventsFrom 1 (items first) ++ eventsFrom (1 + lineTotal first) (items second) := by
  have line : lineAfter 1 (items first) + (Item.lineBreaks ⟨.lineBreak, ['\n']⟩ : Nat) =
      1 + lineTotal first := by
    rw [lineAfter_one_items]
    exact Int.add_comm _ _
  rw [items_append_lineBreak first second closed, eventsFrom_append, eventsFrom_cons, line]
  rfl

/-- **Scanning is a homomorphism at line breaks.**  If the scan of a first text reports no
unterminated string, the scan of the text, a line break and a second text delivers the tokens
of the first text but the one that marks its end, and then those of the second one, further
down by the line of the token that was left out; and it makes the reports of the first text
and then those of the second one, further down by as much. -/
theorem scanTokens_append_lineBreak (first second : List Char)
    (closed : ∀ report ∈ (Scanner.ofSource first).scanTokens.notices.filterMap Notice.report?,
      report.fault ≠ .unterminatedString) :
    ∃ (tokens : List Token) (last : Token),
      (Scanner.ofSource first).scanTokens.tokens = tokens ++ [last] ∧
        last.kind = .endOfInput ∧
        (Scanner.ofSource (first ++ '\n' :: second)).scanTokens.tokens =
          tokens ++ (Scanner.ofSource second).scanTokens.tokens.map
            (fun token => token.shiftLine last.line) ∧
        (Scanner.ofSource (first ++ '\n' :: second)).scanTokens.notices.filterMap Notice.report? =
          (Scanner.ofSource first).scanTokens.notices.filterMap Notice.report? ++
            ((Scanner.ofSource second).scanTokens.notices.filterMap Notice.report?).map
              (fun report => report.shiftLine last.line) := by
  have events :=
    eventsFrom_items_append_lineBreak first second (form_ne_openString_of_reports closed)
  have further := scanFrom_add 1 (lineTotal first) second
  have lines : lineTotal (first ++ '\n' :: second) =
      lineAfter (1 + lineTotal first) (items second) := by
    rw [lineAfter_items, lineTotal, lineTotal, List.count_append, List.count_cons_self]
    omega
  refine ⟨(eventsFrom 1 (items first)).filterMap ScanEvent.token?,
    Token.endOfInput (lineTotal first), ?_, rfl, ?_, ?_⟩
  · rw [(Scanner.scanTokens_ofSource first).1, tokens_scan]
  · rw [(Scanner.scanTokens_ofSource _).1, (Scanner.scanTokens_ofSource second).1, tokens_scan]
    refine Eq.trans ?_ (congrArg (_ ++ ·) (congrArg Scan.tokens further))
    rw [events, lines, List.filterMap_append, List.append_assoc]
    rfl
  · rw [Scanner.reports_scanTokens_ofSource, Scanner.reports_scanTokens_ofSource,
      Scanner.reports_scanTokens_ofSource]
    refine Eq.trans ?_ (congrArg (_ ++ ·) (congrArg Scan.reports further))
    show List.filterMap _ (eventsFrom 1 (items (first ++ '\n' :: second))) = _
    rw [events, List.filterMap_append]
    rfl

/-- A comment and a number that waits for its fraction end with their lines; the stray
characters of both chunks are reported. -/
theorem scanTokens_append_lineBreak_fraction :
    (Scanner.ofSource "@1.\n5#//".toList).scanTokens.notices.filterMap Notice.report? =
        [⟨1, .unexpectedCharacter⟩, ⟨2, .unexpectedCharacter⟩] ∧
      (Scanner.ofSource "@1.\n5#//".toList).scanTokens.tokens.map Token.lexeme =
        [['1'], ['.'], ['5'], []] := by
  obtain ⟨tokens, last, alone, -, whole, reports⟩ :=
    scanTokens_append_lineBreak "@1.".toList "5#//".toList (by decide +kernel)
  have first : (Scanner.ofSource "@1.".toList).scanTokens.tokens.map Token.lexeme =
      [['1'], ['.'], []] := by
    decide +kernel
  have line : (Scanner.ofSource "@1.".toList).scanTokens.tokens.getLast?.map Token.line =
      some 1 := by
    decide +kernel
  rw [alone, List.getLast?_concat] at line
  obtain line : last.line = 1 := Option.some.inj line
  rw [line] at reports whole
  rw [alone, List.map_append] at first
  have before : tokens.map Token.lexeme = [['1'], ['.']] :=
    (List.append_inj' (first.trans (List.append_assoc [['1']] [['.']] [[]]).symm) rfl).1
  have behind : ((Scanner.ofSource "5#//".toList).scanTokens.tokens.map
      (fun token => token.shiftLine 1)).map Token.lexeme = [['5'], []] := by
    decide +kernel
  refine ⟨reports.trans (by decide +kernel), ?_⟩
  rw [show "@1.\n5#//".toList = "@1.".toList ++ '\n' :: "5#//".toList from rfl, whole,
    List.map_append, before, behind]
  rfl

end LoxScan
