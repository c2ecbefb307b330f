import LoxScan.Proofs.Chunks
import LoxScan.Text.Newline

/-!
# Line endings

A line can end with a line feed, or with a carriage return in front of one.  Outside of strings a
scan does not see the difference: a carriage return is a blank, and at the end of a comment it is
part of the comment.  Inside a string it is part of the text.

So without the carriage returns in front of line feeds a source has the same tokens on the same
lines, and only the texts of strings change, as the source does (`eventsFrom_items_joinLineEnds`).

Reading a file as text does more than that: carriage returns that stand alone become line feeds,
too, which makes new lines (`pairsReturns_of_count`).

## Main Definitions

* `joinLineEnds` — a text without the carriage returns in front of line feeds
* `Token.joinLineEnds` — a token of such a text
* `PairsReturns` — every carriage return stands in front of a line feed
-/

namespace LoxScan

/-! ## Texts -/

/-- A text without the carriage returns in front of line feeds. -/
def joinLineEnds : List Char → List Char
  | [] => []
  | c :: rest =>
    if c = '\r' ∧ rest.head? = some '\n' then joinLineEnds rest else c :: joinLineEnds rest

/-- Every carriage return is directly followed by a line feed. -/
def PairsReturns (text : List Char) : Prop :=
  ∀ before after, text = before ++ '\r' :: after → after.head? = some '\n'

theorem joinLineEnds_return {rest : List Char} (paired : rest.head? = some '\n') :
    joinLineEnds ('\r' :: rest) = joinLineEnds rest := by
  rw [joinLineEnds, if_pos ⟨rfl, paired⟩]

theorem joinLineEnds_cons {c : Char} {rest : List Char}
    (kept : ¬(c = '\r' ∧ rest.head? = some '\n')) :
    joinLineEnds (c :: rest) = c :: joinLineEnds rest := by
  rw [joinLineEnds, if_neg kept]

/-- Two texts one behind the other, unless a line ending is split between them. -/
theorem joinLineEnds_append {text rest : List Char}
    (whole : ¬(text.getLast? = some '\r' ∧ rest.head? = some '\n')) :
    joinLineEnds (text ++ rest) = joinLineEnds text ++ joinLineEnds rest := by
  induction text with
  | nil => rfl
  | cons c text ih =>
    cases text with
    | nil =>
      have alone : ¬(c = '\r' ∧ ([] : List Char).head? = some '\n') := by simp
      rw [joinLineEnds_cons alone, List.singleton_append, joinLineEnds_cons (by simpa using whole)]
      rfl
    | cons d text =>
      have others := ih (by simpa using whole)
      by_cases dropped : c = '\r' ∧ (d :: text).head? = some '\n'
      · obtain ⟨rfl, next⟩ := dropped
        have next' : (d :: text ++ rest).head? = some '\n' := next
        rw [List.cons_append, joinLineEnds_return next', others, joinLineEnds_return next]
      · have kept : ¬(c = '\r' ∧ (d :: text ++ rest).head? = some '\n') := dropped
        rw [List.cons_append, joinLineEnds_cons kept, others, joinLineEnds_cons dropped,
          List.cons_append]

/-- A text on one line is as it is. -/
theorem joinLineEnds_eq_self {text : List Char} (oneLine : '\n' ∉ text) :
    joinLineEnds text = text := by
  induction text with
  | nil => rfl
  | cons c rest ih =>
    have kept : ¬(c = '\r' ∧ rest.head? = some '\n') := fun ⟨_, next⟩ =>
      oneLine (List.mem_cons_of_mem c (List.mem_of_head? next))
    rw [joinLineEnds_cons kept, ih fun mem => oneLine (List.mem_cons_of_mem c mem)]

/-- A text without carriage returns is as it is. -/
theorem joinLineEnds_eq_self_of_noReturn {text : List Char} (noReturn : '\r' ∉ text) :
    joinLineEnds text = text := by
  induction text with
  | nil => rfl
  | cons c rest ih =>
    rw [List.mem_cons, not_or] at noReturn
    rw [joinLineEnds_cons fun h => noReturn.1 h.1.symm, ih noReturn.2]

/-- The line feeds are all there. -/
theorem count_joinLineEnds (text : List Char) :
    (joinLineEnds text).count '\n' = text.count '\n' := by
  fun_induction joinLineEnds text with
  | case1 => rfl
  | case2 c rest dropped ih => rw [ih, dropped.1, List.count_cons_of_ne (by decide)]
  | case3 c rest _ ih => rw [List.count_cons, List.count_cons, ih]

/-- Nothing else is there. -/
theorem joinLineEnds_sublist (text : List Char) : (joinLineEnds text).Sublist text := by
  fun_induction joinLineEnds text with
  | case1 => exact .slnil
  | case2 c rest _ ih => exact ih.cons c
  | case3 c rest _ ih => exact ih.cons_cons c

/-- A text begins as before, or with a line feed. -/
theorem head?_joinLineEnds {text : List Char} {c : Char}
    (head : (joinLineEnds text).head? = some c) : text.head? = some c ∨ c = '\n' := by
  fun_induction joinLineEnds text with
  | case1 => cases head
  | case2 d rest dropped ih =>
    rcases ih head with seen | lineFeed
    · rw [dropped.2] at seen
      exact .inr (Option.some.inj seen).symm
    · exact .inr lineFeed
  | case3 d rest => exact .inl head

/-- Behind its first character, too, a text goes on as before, or with a line feed. -/
theorem second_joinLineEnds {text : List Char} {point c : Char} {rest : List Char}
    (plain : point ≠ '\n') (same : joinLineEnds text = point :: c :: rest) :
    (∃ rest, text = point :: c :: rest) ∨ c = '\n' := by
  cases text with
  | nil => cases same
  | cons d behind =>
    rw [joinLineEnds] at same
    split at same
    · rename_i dropped
      have head := head?_joinLineEnds (c := point) (by rw [same]; rfl)
      rw [dropped.2, Option.some.injEq] at head
      exact absurd (head.elim Eq.symm id) plain
    · obtain ⟨rfl, goes_on⟩ := List.cons.inj same
      have next : (joinLineEnds behind).head? = some c := by
        rw [goes_on]
        rfl
      rcases head?_joinLineEnds next with seen | lineFeed
      · obtain ⟨more, rfl⟩ := List.head?_eq_some_iff.mp seen
        exact .inl ⟨more, rfl⟩
      · exact .inr lineFeed

/-! ## Carriage returns that stand alone -/

theorem pairsReturns_cons {c : Char} {rest : List Char} :
    PairsReturns (c :: rest) ↔ (c = '\r' → rest.head? = some '\n') ∧ PairsReturns rest := by
  constructor
  · intro pairs
    refine ⟨?_, fun before after same => ?_⟩
    · rintro rfl
      exact pairs [] rest rfl
    · rw [same] at pairs
      exact pairs (c :: before) after rfl
  · rintro ⟨first, others⟩ before after same
    cases before with
    | nil =>
      obtain ⟨rfl, rfl⟩ := List.cons.inj same
      exact first rfl
    | cons d before => exact others before after (List.cons.inj same).2

/-- Reading a text file drops the carriage returns in front of line feeds and does nothing else,
if there are no other ones. -/
theorem normalizeNewlines_eq_joinLineEnds {text : List Char} (pairs : PairsReturns text) :
    normalizeNewlines text = joinLineEnds text := by
  fun_induction normalizeNewlines text with
  | case1 rest ih =>
    rw [pairsReturns_cons, pairsReturns_cons] at pairs
    rw [joinLineEnds_return rfl, joinLineEnds_cons (by simp), ih pairs.2.2]
  | case2 rest alone ih =>
    obtain ⟨behind, rfl⟩ := List.head?_eq_some_iff.mp ((pairsReturns_cons.mp pairs).1 rfl)
    exact (alone behind rfl).elim
  | case3 c rest _ other ih =>
    rw [joinLineEnds_cons fun h => other h.1, ih (pairsReturns_cons.mp pairs).2]
  | case4 => rfl

/-- **Other carriage returns make new lines.** -/
theorem pairsReturns_of_count (text : List Char) :
    text.count '\n' ≤ (normalizeNewlines text).count '\n' ∧
      ((normalizeNewlines text).count '\n' = text.count '\n' → PairsReturns text) := by
  fun_induction normalizeNewlines text with
  | case1 rest ih =>
    rw [List.count_cons_self, List.count_cons_of_ne (by decide), List.count_cons_self]
    refine ⟨Nat.succ_le_succ ih.1, fun same => ?_⟩
    rw [pairsReturns_cons, pairsReturns_cons]
    exact ⟨fun _ => rfl, fun lineFeed => absurd lineFeed (by decide), ih.2 (Nat.succ.inj same)⟩
  | case2 rest alone ih =>
    rw [List.count_cons_self, List.count_cons_of_ne (by decide)]
    exact ⟨Nat.le_succ_of_le ih.1, fun same => absurd ih.1 (by omega)⟩
  | case3 c rest _ other ih =>
    rw [List.count_cons, List.count_cons, pairsReturns_cons]
    exact ⟨by omega, fun same => ⟨fun return_ => (other return_).elim, ih.2 (by omega)⟩⟩
  | case4 => exact ⟨le_rfl, fun _ before after same => by simp at same⟩

/-! ## Items -/

/-- Symbols, numbers and words have neither blanks nor line feeds in them: their characters come
behind the space. -/
theorem Lexeme.visible {form : ItemForm} {text : List Char} (lexeme : Lexeme form text)
    (isToken : form.isToken = true) (not_string : form ≠ .string) : ∀ c ∈ text, '!' ≤ c := by
  have digit : ∀ {c : Char}, DigitCharacter c → '!' ≤ c := fun digit =>
    Char.le_trans (by decide) digit.1
  have wordStart : ∀ {c : Char}, WordStart c → '!' ≤ c := by
    rintro c (lower | upper | rfl)
    · exact Char.le_trans (by decide) lower.1
    · exact Char.le_trans (by decide) upper.1
    · decide
  cases lexeme with
  | punctuation mem =>
    have table : ∀ entry ∈ LoxScan.punctuation, '!' ≤ entry.1 := by decide
    simpa using table _ mem
  | slash => simp
  | comparison mem =>
    have table : ∀ entry ∈ comparisons, '!' ≤ entry.1 := by decide
    simpa using table _ mem
  | comparisonEqual mem =>
    have table : ∀ entry ∈ comparisons, '!' ≤ entry.1 := by decide
    simpa using table _ mem
  | comment | blank | lineBreak => cases isToken
  | string => exact absurd rfl not_string
  | integer digits => exact fun c mem => digit (digits c mem)
  | fraction digits decimals =>
    intro c mem
    rcases List.mem_append.mp mem with whole | fraction
    · exact digit (digits c whole)
    · rcases List.mem_cons.mp fraction with rfl | decimal
      · decide
      · exact digit (decimals c decimal)
  | word start characters =>
    rw [List.forall_mem_cons]
    exact ⟨wordStart start, fun c mem => (characters c mem).elim wordStart digit⟩

namespace Item

/-- The item of a text without the carriage returns in front of line feeds. -/
def joinLineEnds (item : Item) : Item := ⟨item.form, LoxScan.joinLineEnds item.text⟩

/-- Tokens other than strings are as they are. -/
theorem joinLineEnds_eq_self {item : Item} (wellFormed : item.WellFormed)
    (isToken : item.form.isToken = true) (not_string : item.form ≠ .string) :
    item.joinLineEnds = item := by
  have oneLine : '\n' ∉ item.text := fun mem =>
    absurd ((wellFormed.lexeme isToken).visible isToken not_string '\n' mem) (by decide)
  rw [joinLineEnds, LoxScan.joinLineEnds_eq_self oneLine]

/-- A string's carriage returns are dropped from its inside. -/
theorem joinLineEnds_string (inside : List Char) :
    LoxScan.joinLineEnds ('"' :: inside ++ ['"']) =
      '"' :: LoxScan.joinLineEnds inside ++ ['"'] := by
  have kept : ¬('"' = '\r' ∧ (inside ++ ['"']).head? = some '\n') := by simp
  rw [List.cons_append, joinLineEnds_cons kept, joinLineEnds_append (by simp)]
  rfl

theorem wellFormed_joinLineEnds {item : Item} (wellFormed : item.WellFormed) :
    item.joinLineEnds.WellFormed := by
  -- tokens other than strings stay as they are, and so does the form of all other items
  by_cases plain : item.form.isToken = true ∧ item.form ≠ .string
  · rwa [joinLineEnds_eq_self wellFormed plain.1 plain.2]
  · obtain ⟨form, text⟩ := item
    rcases wellFormed with lexeme | residue
    · cases lexeme with
      | punctuation | slash | comparison | comparisonEqual | integer | fraction | word =>
        exact absurd ⟨rfl, by simp⟩ plain
      | comment oneLine =>
        left
        rw [joinLineEnds, LoxScan.joinLineEnds_eq_self (by simpa using oneLine)]
        exact .comment oneLine
      | blank separates =>
        left
        rw [joinLineEnds, joinLineEnds_cons (by simp)]
        exact .blank separates
      | lineBreak => exact .inl .lineBreak
      | @string inside unmarked =>
        left
        show Lexeme .string (LoxScan.joinLineEnds ('"' :: inside ++ ['"']))
        rw [joinLineEnds_string]
        exact .string fun mem => unmarked ((joinLineEnds_sublist inside).subset mem)
    · cases residue with
      | @openString inside unmarked =>
        right
        rw [joinLineEnds, joinLineEnds_cons (by simp)]
        exact .openString fun mem => unmarked ((joinLineEnds_sublist inside).subset mem)
      | strayCharacter foreign =>
        right
        rw [joinLineEnds, joinLineEnds_cons (by simp)]
        exact .strayCharacter foreign

/-- An item also stops before what is behind it without the carriage returns in front of line
feeds. -/
theorem StopsBefore.after_joinLineEnds {item : Item} {after : List Char}
    (stops : item.StopsBefore after) : item.StopsBefore (LoxScan.joinLineEnds after) := by
  by_cases closed : item.form ≠ .openString
  · refine stops.of_seen (fun c head => ?_) fun _ _ c rest same => ?_
    · rcases head?_joinLineEnds head with seen | rfl
      · exact .inl seen
      · exact .inr (stopsBefore_separator (.inr rfl) closed fun _ => rfl)
    · rcases second_joinLineEnds (by decide) same with seen | rfl
      · exact .inl seen
      · exact .inr rfl
  · obtain ⟨form, text⟩ := item
    obtain rfl := not_not.mp closed
    obtain rfl : after = [] := stops
    rfl

theorem stopsBefore_joinLineEnds {item : Item} {after : List Char} (wellFormed : item.WellFormed)
    (stops : item.StopsBefore after) :
    item.joinLineEnds.StopsBefore (LoxScan.joinLineEnds after) := by
  by_cases plain : item.form.isToken = true ∧ item.form ≠ .string
  · rw [joinLineEnds_eq_self wellFormed plain.1 plain.2]
    exact stops.after_joinLineEnds
  · have stops' := stops.after_joinLineEnds
    obtain ⟨form, text⟩ := item
    cases form with
    | symbol | number | word => exact absurd ⟨rfl, by simp⟩ plain
    | string | blank | lineBreak | comment | strayCharacter | openString => exact stops'

/-- **Only blanks and comments end in a carriage return** that has a line feed behind it. -/
theorem eq_blank_or_comment {item : Item} {after : List Char} (wellFormed : item.WellFormed)
    (stops : item.StopsBefore after) (last : item.text.getLast? = some '\r')
    (next : after.head? = some '\n') :
    item = ⟨.blank, ['\r']⟩ ∨
      ∃ body, '\n' ∉ body ∧ item = ⟨.comment, '/' :: '/' :: body ++ ['\r']⟩ := by
  by_cases plain : item.form.isToken = true ∧ item.form ≠ .string
  · exact absurd ((wellFormed.lexeme plain.1).visible plain.1 plain.2 '\r'
      (List.mem_of_getLast? last)) (by decide)
  · obtain ⟨form, text⟩ := item
    rcases wellFormed with lexeme | residue
    · cases lexeme with
      | punctuation | slash | comparison | comparisonEqual | integer | fraction | word =>
        exact absurd ⟨rfl, by simp⟩ plain
      | @comment body oneLine =>
        rcases List.eq_nil_or_concat' body with rfl | ⟨front, c, rfl⟩
        · cases last
        · have last' : ('/' :: '/' :: front ++ [c]).getLast? = some '\r' := last
          rw [List.getLast?_concat, Option.some.injEq] at last'
          subst last'
          exact .inr ⟨front, fun mem => oneLine (List.mem_append_left _ mem), rfl⟩
      | blank separates =>
        obtain rfl := Option.some.inj last
        exact .inl rfl
      | lineBreak => cases last
      | @string inside unmarked =>
        have last' : ('"' :: inside ++ ['"']).getLast? = some '\r' := last
        rw [List.getLast?_concat] at last'
        cases last'
    · cases residue with
      | openString =>
        obtain rfl : after = [] := stops
        cases next
      | strayCharacter foreign =>
        obtain rfl := Option.some.inj last
        cases foreign

theorem lineBreaks_joinLineEnds {item : Item} (wellFormed : item.WellFormed) :
    item.joinLineEnds.lineBreaks = item.lineBreaks := by
  rw [(wellFormed_joinLineEnds wellFormed).lineBreaks_eq, wellFormed.lineBreaks_eq]
  exact count_joinLineEnds item.text

end Item

/-! ## Tokens -/

/-- The value of a literal in a text without the carriage returns in front of line feeds. -/
def Literal.joinLineEnds : Literal → Literal
  | .text characters => .text (LoxScan.joinLineEnds characters)
  | .number value => .number value

/-- A token of a text without the carriage returns in front of line feeds. -/
def Token.joinLineEnds (token : Token) : Token :=
  { token with
    lexeme := LoxScan.joinLineEnds token.lexeme
    literal := token.literal.map Literal.joinLineEnds }

/-- What is found in a text without the carriage returns in front of line feeds. -/
def ScanEvent.joinLineEnds : ScanEvent → ScanEvent
  | .token found => .token found.joinLineEnds
  | .report made => .report made

theorem Item.event?_joinLineEnds {item : Item} (wellFormed : item.WellFormed) (line : Int) :
    item.joinLineEnds.event? line = (item.event? line).map ScanEvent.joinLineEnds := by
  by_cases plain : item.form.isToken = true ∧ item.form ≠ .string
  · have same := joinLineEnds_eq_self wellFormed plain.1 plain.2
    have text : LoxScan.joinLineEnds item.text = item.text := congrArg Item.text same
    rw [same]
    obtain ⟨form, _⟩ := item
    cases form with
    | symbol | number | word =>
      simp only at text
      simp [event?, ScanEvent.joinLineEnds, Token.joinLineEnds, text, Literal.joinLineEnds]
    | string => exact absurd rfl plain.2
    | blank | lineBreak | comment | strayCharacter | openString => rfl
  · obtain ⟨form, text⟩ := item
    cases form with
    | symbol | number | word => exact absurd ⟨rfl, by simp⟩ plain
    | string =>
      rcases wellFormed with lexeme | residue
      · cases lexeme with
        | @string inside unmarked =>
          show event? ⟨.string, LoxScan.joinLineEnds ('"' :: inside ++ ['"'])⟩ line =
            some (.token ⟨.string, LoxScan.joinLineEnds ('"' :: inside ++ ['"']),
              some (.text (LoxScan.joinLineEnds ('"' :: inside ++ ['"']).tail.dropLast)), line⟩)
          rw [joinLineEnds_string]
          simp [event?]
      · cases residue
    | blank | lineBreak | comment | strayCharacter | openString => rfl

/-- One item in front of a text. -/
theorem eventsFrom_joinLineEnds_append {item : Item} {after : List Char}
    (wellFormed : item.WellFormed) (stops : item.StopsBefore after)
    (behind : ∀ line, eventsFrom line (items (joinLineEnds after)) =
      (eventsFrom line (items after)).map ScanEvent.joinLineEnds) (line : Int) :
    eventsFrom line (items (joinLineEnds (item.text ++ after))) =
      (eventsFrom line (item :: items after)).map ScanEvent.joinLineEnds := by
  by_cases divided : item.text.getLast? = some '\r' ∧ after.head? = some '\n'
  · -- the item has no event, and it has none without its last character
    obtain ⟨last, next⟩ := divided
    rcases Item.eq_blank_or_comment wellFormed stops last next with rfl | ⟨body, oneLine, rfl⟩
    · rw [List.singleton_append, joinLineEnds_return next, behind, eventsFrom_cons]
      simp [Item.event?, Item.lineBreaks]
    · have front : '\n' ∉ '/' :: '/' :: body := by simpa using oneLine
      have ends : Item.StopsBefore ⟨.comment, '/' :: '/' :: body⟩ after := stops
      have first := items_append (.inl (.comment oneLine)) ends.after_joinLineEnds
      have text : joinLineEnds ('/' :: '/' :: body ++ ['\r'] ++ after) =
          '/' :: '/' :: body ++ joinLineEnds after := by
        rw [List.append_assoc, joinLineEnds_append (by simp), joinLineEnds_eq_self front,
          List.singleton_append, joinLineEnds_return next]
      rw [text, first, eventsFrom_cons, eventsFrom_cons, behind]
      simp [Item.event?, Item.lineBreaks]
  · -- the line endings of the item are its own
    have first := items_append (Item.wellFormed_joinLineEnds wellFormed)
      (Item.stopsBefore_joinLineEnds wellFormed stops)
    have text : joinLineEnds (item.text ++ after) = item.joinLineEnds.text ++ joinLineEnds after :=
      joinLineEnds_append divided
    rw [text, first, eventsFrom_cons, eventsFrom_cons, Item.event?_joinLineEnds wellFormed,
      Item.lineBreaks_joinLineEnds wellFormed, behind, List.map_append, Option.toList_map]

/-- **Line endings make no difference but inside strings.**  Without the carriage returns in front
of line feeds, the items of a text make the same tokens and reports on the same lines, with the
texts of strings changed as the text is. -/
theorem eventsFrom_items_joinLineEnds (line : Int) (source : List Char) :
    eventsFrom line (items (joinLineEnds source)) =
      (eventsFrom line (items source)).map ScanEvent.joinLineEnds := by
  fun_induction items source generalizing line with
  | case1 =>
    rw [joinLineEnds, items_nil]
    rfl
  | case2 c rest ih =>
    have step := eventsFrom_joinLineEnds_append (Item.wellFormed_cut c rest)
      (Item.stopsBefore_cut c rest) ih line
    rwa [Item.cut_append] at step

/-- A token without carriage returns is as it is. -/
theorem Item.joinLineEnds_token {item : Item} (wellFormed : item.WellFormed) {line : Int}
    {token : Token} (found : item.token? line = some token) (noReturn : '\r' ∉ token.lexeme) :
    token.joinLineEnds = token := by
  have same : item.joinLineEnds = item := by
    rw [Item.lexeme_of_token? found] at noReturn
    rw [joinLineEnds, joinLineEnds_eq_self_of_noReturn noReturn]
  have event := event?_joinLineEnds wellFormed line
  obtain ⟨made, event_eq, token_eq⟩ := Option.bind_eq_some_iff.mp found
  cases made with
  | report made => cases token_eq
  | token made =>
    cases token_eq
    rw [same, event_eq] at event
    exact (ScanEvent.token.inj (Option.some.inj event)).symm

theorem ScanEvent.token?_joinLineEnds (event : ScanEvent) :
    event.joinLineEnds.token? = event.token?.map Token.joinLineEnds := by
  cases event <;> rfl

theorem ScanEvent.report?_joinLineEnds (event : ScanEvent) :
    event.joinLineEnds.report? = event.report? := by
  cases event <;> rfl

/-- **The scan of a source without the carriage returns in front of line feeds** delivers the
tokens on the same lines and makes the same reports. -/
theorem scan_joinLineEnds (source : List Char) :
    (scan (joinLineEnds source)).tokens = (scan source).tokens.map Token.joinLineEnds ∧
      (scan (joinLineEnds source)).reports = (scan source).reports := by
  have events := eventsFrom_items_joinLineEnds 1 source
  constructor
  · have last : lineTotal (joinLineEnds source) = lineTotal source := by
      rw [lineTotal, lineTotal, count_joinLineEnds]
    simp only [tokens_scan, events, last, List.map_append, List.filterMap_map, List.map_filterMap]
    congr 2
    funext event
    exact event.token?_joinLineEnds
  · simp only [scan, scanFrom, events, List.filterMap_map]
    congr 1
    funext event
    exact event.report?_joinLineEnds

/-- **Both line endings scan alike.**  Without the carriage returns in front of line feeds a source
has as many tokens as before, of the same kinds and on the same lines.  The texts of the tokens and
the values of strings change as the source does, and the values of numbers do not change.  The
reports are the same, on the same lines and in the same order. -/
theorem scanTokens_joinLineEnds (source : List Char) :
    (Scanner.ofSource (joinLineEnds source)).scanTokens.tokens =
        (Scanner.ofSource source).scanTokens.tokens.map Token.joinLineEnds ∧
      (Scanner.ofSource (joinLineEnds source)).scanTokens.notices.filterMap Notice.report? =
        (Scanner.ofSource source).scanTokens.notices.filterMap Notice.report? := by
  obtain ⟨tokens, reports⟩ := scan_joinLineEnds source
  rw [(Scanner.scanTokens_ofSource _).1, (Scanner.scanTokens_ofSource source).1,
    Scanner.reports_scanTokens_ofSource, Scanner.reports_scanTokens_ofSource]
  exact ⟨tokens, reports⟩

/-- Of two carriage returns the one in front of the line feed is dropped, and one that stands
alone stays. -/
example : joinLineEnds "a\r\r\n\rb".toList = "a\r\n\rb".toList := by decide +kernel

/-- A scan whose tokens have no carriage returns in them is that of the source without the ones in
front of line feeds. -/
theorem scan_joinLineEnds_eq_self {source : List Char}
    (noReturn : ∀ token ∈ (scan source).tokens, '\r' ∉ token.lexeme) :
    scan (joinLineEnds source) = scan source := by
  have kept : ∀ token ∈ (scan source).tokens, token.joinLineEnds = id token := by
    intro token mem
    rcases exists_item_of_mem_scan mem with ⟨item, inside, line, found⟩ | rfl
    · exact Item.joinLineEnds_token (wellFormed_of_mem_items inside) found (noReturn token mem)
    · rfl
  obtain ⟨tokens, reports⟩ := scan_joinLineEnds source
  rw [List.map_congr_left kept, List.map_id] at tokens
  calc scan (joinLineEnds source)
      = ⟨(scan (joinLineEnds source)).tokens, (scan (joinLineEnds source)).reports⟩ := rfl
    _ = scan source := by rw [tokens, reports]

/-- The tokens of a scan have only characters of the source in them. -/
theorem mem_of_mem_lexeme {source : List Char} {token : Token} (mem : token ∈ (scan source).tokens)
    {c : Char} (inside : c ∈ token.lexeme) : c ∈ source := by
  rcases exists_item_of_mem_scan mem with ⟨item, among, line, found⟩ | rfl
  · rw [Item.lexeme_of_token? found] at inside
    rw [← flatMap_text_items source]
    exact List.mem_flatMap.mpr ⟨item, among, inside⟩
  · cases inside

end LoxScan
