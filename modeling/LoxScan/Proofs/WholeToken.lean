import LoxScan.Proofs.Meaning
import LoxScan.Proofs.Trace

/-!
# Texts that are one token

A text that makes one token of all of it when it is scanned alone is a lexeme of the
grammar, and the other way round.  Its first character says what kind of lexeme it
is, which is all that an item in front of it ever looks at.

Tokens are compared here without their lines, since the same text stands on
different lines in different sources.

## Main Definitions

* `Token.unplaced` — a token without its line
* `plainTokens`, `faults` — the tokens and the faults of some items
* `ScansWhole` — scanned alone, a text is one token
* `Separator` — the characters that may stand between tokens
-/

namespace LoxScan

/-! ## Tokens without lines -/

/-- A token without its line. -/
def Token.unplaced (token : Token) : Token := { token with line := 0 }

/-- The tokens of some items, without their lines. -/
def plainTokens (parts : List Item) : List Token := parts.filterMap (·.token? 0)

/-- The faults of some items. -/
def faults (parts : List Item) : List Fault := parts.filterMap (·.form.fault?)

theorem plainTokens_cons (item : Item) (rest : List Item) :
    plainTokens (item :: rest) = (item.token? 0).toList ++ plainTokens rest := by
  rw [plainTokens, List.filterMap_cons]
  cases item.token? 0 <;> rfl

/-- The line of an item makes no other difference to its token. -/
theorem Item.map_unplaced_token? (item : Item) (line : Int) :
    (item.token? line).map Token.unplaced = item.token? 0 := by
  obtain ⟨form, text⟩ := item
  cases form <;> rfl

theorem map_unplaced_eventsFrom (line : Int) (parts : List Item) :
    ((eventsFrom line parts).filterMap ScanEvent.token?).map Token.unplaced =
      plainTokens parts := by
  induction parts generalizing line with
  | nil => rfl
  | cons item rest ih =>
    rw [filterMap_token?_eventsFrom_cons, List.map_append, ih, plainTokens_cons,
      ← item.map_unplaced_token? (line + item.lineBreaks)]
    cases item.token? (line + item.lineBreaks) <;> rfl

/-- **The tokens of a scan, without their lines**, are those of the items. -/
theorem Scanner.map_unplaced_scanTokens (source : List Char) :
    (ofSource source).scanTokens.tokens.map Token.unplaced =
      plainTokens (items source) ++ [Token.endOfInput 0] := by
  rw [(scanTokens_ofSource source).1, ← map_unplaced_eventsFrom 1]
  exact List.map_append

/-- The tokens before the one that marks the end, without their lines. -/
theorem Scanner.map_unplaced_dropLast_scanTokens (source : List Char) :
    (ofSource source).scanTokens.tokens.dropLast.map Token.unplaced =
      plainTokens (items source) := by
  rw [List.map_dropLast, map_unplaced_scanTokens, List.dropLast_concat]

/-- Nothing is reported exactly if no item is faulty. -/
theorem Scanner.reports_eq_nil_iff (source : List Char) :
    (ofSource source).scanTokens.notices.filterMap Notice.report? = [] ↔
      faults (items source) = [] := by
  rw [(scanTokens_ofSource source).2, Scan.filterMap_report?_notices, faults,
    ← map_fault_reports (items source) 1, List.map_eq_nil_iff]
  rfl

/-! ## Lexemes that are tokens -/

/-- **Scanned alone, a text is one token**: nothing is reported, and besides the token
that marks the end there is one, with all of the text. -/
def ScansWhole (text : List Char) : Prop :=
  (Scanner.ofSource text).scanTokens.notices.filterMap Notice.report? = [] ∧
    ∃ token, (Scanner.ofSource text).scanTokens.tokens =
        [token, Token.endOfInput (lineTotal text)] ∧
      token.lexeme = text

/-- A lexeme is its own only item. -/
theorem Lexeme.items_eq {form : ItemForm} {text : List Char} (lexeme : Lexeme form text) :
    items text = [⟨form, text⟩] := by
  have wellFormed : Item.WellFormed ⟨form, text⟩ := .inl lexeme
  have alone := items_append wellFormed (Item.stopsBefore_nil _)
  rwa [List.append_nil, items_nil] at alone

/-- **A text is one token exactly if it is a lexeme** of a token's form. -/
theorem scansWhole_iff {text : List Char} :
    ScansWhole text ↔ ∃ form, form.isToken = true ∧ Lexeme form text := by
  constructor
  · rintro ⟨-, token, tokens, whole⟩
    have delivered := forall₂_deliveredAs (items text) (fun _ => wellFormed_of_mem_items) 1
    have only : (eventsFrom 1 (items text)).filterMap ScanEvent.token? = [token] := by
      rw [(Scanner.scanTokens_ofSource text).1, tokens_scan] at tokens
      simpa using congrArg List.dropLast tokens
    rw [only] at delivered
    cases found : (items text).filter (·.form.isToken) with
    | nil => rw [found] at delivered; cases delivered
    | cons item more =>
      -- the token is made of an item that has all of the text
      rw [found] at delivered
      obtain ⟨⟨same, -⟩, -⟩ := List.forall₂_cons.mp delivered
      have mem : item ∈ (items text).filter (·.form.isToken) := by
        rw [found]
        exact List.mem_cons_self
      obtain ⟨mem, isToken⟩ := List.mem_filter.mp mem
      have lexeme := (wellFormed_of_mem_items mem).lexeme isToken
      rw [← same, whole] at lexeme
      exact ⟨item.form, isToken, lexeme⟩
  · rintro ⟨form, isToken, lexeme⟩
    have wellFormed : Item.WellFormed ⟨form, text⟩ := .inl lexeme
    obtain ⟨token, found, whole, -⟩ := Item.exists_token wellFormed isToken
      (1 + Item.lineBreaks ⟨form, text⟩)
    refine ⟨?_, token, ?_, whole⟩
    · rw [Scanner.reports_eq_nil_iff, lexeme.items_eq, faults, List.filterMap_cons,
        ItemForm.fault?_eq_none isToken]
      rfl
    · have only : (eventsFrom 1 (items text)).filterMap ScanEvent.token? = [token] := by
        rw [lexeme.items_eq, filterMap_token?_eventsFrom_cons]
        exact congrArg (fun found => found.toList ++ []) found
      rw [(Scanner.scanTokens_ofSource text).1, tokens_scan, only]
      rfl

/-! ## What a token begins with -/

/-- The characters that may stand between tokens. -/
def Separator (c : Char) : Prop := c = ' ' ∨ c = '\t' ∨ c = '\r' ∨ c = '\n'

instance : DecidablePred Separator :=
  fun c => inferInstanceAs (Decidable (c = ' ' ∨ c = '\t' ∨ c = '\r' ∨ c = '\n'))

/-- A separator is an item by itself, and no token. -/
theorem Separator.cut_eq {c : Char} (separates : Separator c) (rest : List Char) :
    ∃ form, Item.cut c rest = (⟨form, [c]⟩, rest) ∧ (form = .blank ∨ form = .lineBreak) := by
  rcases separates with rfl | rfl | rfl | rfl
  · exact ⟨.blank, rfl, .inl rfl⟩
  · exact ⟨.blank, rfl, .inl rfl⟩
  · exact ⟨.blank, rfl, .inl rfl⟩
  · exact ⟨.lineBreak, rfl, .inr rfl⟩

/-- A separator is part of no word and no number. -/
theorem not_separator_of_isWordCharacter {c : Char} (h : isWordCharacter c = true) :
    ¬ Separator c := by
  rintro (rfl | rfl | rfl | rfl)
  all_goals cases h

namespace Lexeme

variable {form : ItemForm} {c : Char} {tail : List Char}

/-- No token begins with a separator. -/
theorem not_separator (lexeme : Lexeme form (c :: tail)) (isToken : form.isToken = true) :
    ¬ Separator c := by
  intro separates
  obtain ⟨other, cut, silent⟩ := separates.cut_eq tail
  rw [lexeme.cut_eq] at cut
  obtain rfl : form = other := congrArg (·.1.form) cut
  rcases silent with rfl | rfl <;> cases isToken

/-- What begins with a digit is a number, and nothing else is. -/
theorem isDigit_iff_number (lexeme : Lexeme form (c :: tail)) :
    isDigit c = true ↔ form = .number := by
  constructor
  · intro digit
    have number : (Item.cutNumber c tail).1.form = .number := by
      unfold Item.cutNumber
      repeat' split
      all_goals rfl
    rw [← number, ← Item.cut_digit digit, lexeme.cut_eq]
  · rintro rfl
    cases lexeme with
    | integer digits | fraction digits => exact isDigit_iff.mpr (digits c List.mem_cons_self)

/-- What begins like a word is a word, and nothing else is. -/
theorem isWordStart_iff_word (lexeme : Lexeme form (c :: tail)) :
    isWordStart c = true ↔ form = .word := by
  constructor
  · intro start
    have cut := lexeme.cut_eq
    rw [Item.cut_wordStart start] at cut
    exact (congrArg (·.1.form) cut).symm
  · rintro rfl
    cases lexeme with
    | word start => exact isWordStart_iff.mpr start

/-- A number begins with a digit. -/
theorem exists_digit_cons {text : List Char} (lexeme : Lexeme .number text) :
    ∃ c tail, text = c :: tail ∧ isDigit c = true := by
  obtain ⟨c, tail, rfl⟩ := lexeme.exists_cons
  exact ⟨c, tail, rfl, lexeme.isDigit_iff_number.mpr rfl⟩

/-- A word begins like a word. -/
theorem exists_wordStart_cons {text : List Char} (lexeme : Lexeme .word text) :
    ∃ c tail, text = c :: tail ∧ isWordStart c = true := by
  obtain ⟨c, tail, rfl⟩ := lexeme.exists_cons
  exact ⟨c, tail, rfl, lexeme.isWordStart_iff_word.mpr rfl⟩

/-- A token that begins with a slash is a slash. -/
theorem eq_slash (lexeme : Lexeme form ('/' :: tail)) (isToken : form.isToken = true) :
    tail = [] := by
  have cut := lexeme.cut_eq
  rw [Item.cut_slash] at cut
  unfold Item.cutSlash at cut
  split at cut
  · obtain rfl : ItemForm.comment = form := congrArg (·.1.form) cut
    cases isToken
  · exact (List.cons.inj (congrArg (·.1.text) cut)).2.symm

/-- A token that begins with an equals sign is one or two of them. -/
theorem eq_equals (lexeme : Lexeme form ('=' :: tail)) : tail = [] ∨ tail = ['='] := by
  have mem : ('=', .equalEqual, .equal) ∈ comparisons := by decide
  have cut := lexeme.cut_eq
  rw [Item.cut_comparison mem] at cut
  unfold Item.cutComparison at cut
  split at cut
  · exact .inr (List.cons.inj (congrArg (·.1.text) cut)).2.symm
  · exact .inl (List.cons.inj (congrArg (·.1.text) cut)).2.symm

/-- A token that begins with a point is a point. -/
theorem eq_point (lexeme : Lexeme form ('.' :: tail)) : tail = [] := by
  have mem : ('.', .dot) ∈ LoxScan.punctuation := by decide
  have cut := lexeme.cut_eq
  rw [Item.cut_punctuation mem] at cut
  exact (List.cons.inj (congrArg (·.1.text) cut)).2.symm

/-- The comparisons that an equals sign behind them would make longer. -/
theorem mem_signs {kind : TokenKind} {text : List Char} (lexeme : Lexeme (.symbol kind) text)
    (alone : kind ∈ comparisons.map (·.2.2)) : text ∈ [['!'], ['='], ['<'], ['>']] := by
  have plain : ∀ entry ∈ LoxScan.punctuation, entry.2 ∉ comparisons.map (·.2.2) := by decide
  have signs : ∀ entry ∈ comparisons, [entry.1] ∈ [['!'], ['='], ['<'], ['>']] ∧
      entry.2.1 ∉ comparisons.map (·.2.2) := by
    decide
  cases lexeme with
  | punctuation mem => exact absurd alone (plain _ mem)
  | slash => exact absurd alone (by decide)
  | comparison mem => exact (signs _ mem).1
  | comparisonEqual mem => exact absurd alone (signs _ mem).2

/-- Each of these comparisons is of such a kind. -/
theorem exists_alone {text : List Char} (sign : text ∈ [['!'], ['='], ['<'], ['>']]) :
    ∃ kind ∈ comparisons.map (·.2.2), Lexeme (.symbol kind) text := by
  have entries : ∀ text ∈ [['!'], ['='], ['<'], ['>']],
      ∃ entry ∈ comparisons, text = [entry.1] := by
    decide
  obtain ⟨entry, mem, rfl⟩ := entries text sign
  exact ⟨entry.2.2, List.mem_map_of_mem mem, .comparison mem⟩

/-- Only a slash has its kind. -/
theorem eq_of_slash {text : List Char} (lexeme : Lexeme (.symbol .slash) text) :
    text = ['/'] := by
  have punctuationKinds : ∀ entry ∈ LoxScan.punctuation, entry.2 ≠ .slash := by decide
  have comparisonKinds : ∀ entry ∈ comparisons, entry.2.1 ≠ .slash ∧ entry.2.2 ≠ .slash := by
    decide
  cases lexeme with
  | punctuation mem => exact absurd rfl (punctuationKinds _ mem)
  | slash => rfl
  | comparison mem => exact absurd rfl (comparisonKinds _ mem).2
  | comparisonEqual mem => exact absurd rfl (comparisonKinds _ mem).1

end Lexeme

end LoxScan
