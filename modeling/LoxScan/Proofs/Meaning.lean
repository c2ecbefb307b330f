import LoxScan.Proofs.LineCount
import Mathlib.Data.List.Forall2

/-!
# What items stand for

An item becomes a token, a report of a fault, or nothing, and its form decides
which.  Of the tokens the form also decides the kind, except that a word has the kind
that the table of reserved words gives it.

## Main Definitions

* `ItemForm.isToken`, `ItemForm.fault?` — the forms of tokens and of faults
* `Item.Denotes` — the kind and the value of the token that an item stands for
* `Item.DeliveredAs` — a token is what an item stands for
* `ScanEvent.line` — the line of a token or a report
-/

namespace LoxScan

/-! ## Kinds -/

/-- The kinds of the symbols. -/
def symbolKinds : List TokenKind :=
  .slash :: punctuation.map (·.2) ++ comparisons.map (·.2.1) ++ comparisons.map (·.2.2)

/-- The kinds of the words. -/
def wordKinds : List TokenKind := .identifier :: keywords.map (·.2)

/-- A symbol has one of their kinds. -/
theorem Lexeme.kind_mem {kind : TokenKind} {text : List Char}
    (lexeme : Lexeme (.symbol kind) text) : kind ∈ symbolKinds := by
  have symbols : (∀ entry ∈ LoxScan.punctuation, entry.2 ∈ symbolKinds) ∧
      ∀ entry ∈ comparisons, entry.2.1 ∈ symbolKinds ∧ entry.2.2 ∈ symbolKinds := by
    decide
  cases lexeme with
  | punctuation mem => exact symbols.1 _ mem
  | slash => exact List.mem_cons_self
  | comparison mem => exact (symbols.2 _ mem).2
  | comparisonEqual mem => exact (symbols.2 _ mem).1

/-- A word has one of their kinds. -/
theorem wordKind_mem (text : List Char) : wordKind text ∈ wordKinds := by
  rw [wordKind, keyword?]
  cases found : keywords.lookup (String.ofList text) with
  | none => exact List.mem_cons_self
  | some kind => exact List.mem_cons_of_mem _ (List.mem_map_of_mem (mem_of_lookup found))

/-! ## Tokens -/

/-- The forms of the items that tokens are made of. -/
def ItemForm.isToken : ItemForm → Bool
  | .symbol _ | .string | .number | .word => true
  | .blank | .lineBreak | .comment | .strayCharacter | .openString => false

/-- The fault of an item that is faulty. -/
def ItemForm.fault? : ItemForm → Option Fault
  | .strayCharacter => some .unexpectedCharacter
  | .openString => some .unterminatedString
  | .symbol _ | .string | .number | .word | .blank | .lineBreak | .comment => none

/-- **The kind and the value of the token that an item stands for.**  The value of a
string is what stands between its marks and the value of a number the double nearest
to it.  A word is reserved if all of it is in the table of reserved words. -/
inductive Item.Denotes : Item → TokenKind → Option Literal → Prop where
  | symbol {kind : TokenKind} {text : List Char} : Denotes ⟨.symbol kind, text⟩ kind none
  | string {inside : List Char} :
      Denotes ⟨.string, '"' :: inside ++ ['"']⟩ .string (some (.text inside))
  | number {text : List Char} :
      Denotes ⟨.number, text⟩ .number (some (.number (Decimal.ofNumeral text).toBinary64))
  | reserved {text : List Char} {kind : TokenKind}
      (mem : (String.ofList text, kind) ∈ keywords) : Denotes ⟨.word, text⟩ kind none
  | identifier {text : List Char} (free : ∀ kind, (String.ofList text, kind) ∉ keywords) :
      Denotes ⟨.word, text⟩ .identifier none

/-- A word stands for a token of its kind. -/
theorem Item.denotes_word (text : List Char) : Denotes ⟨.word, text⟩ (wordKind text) none := by
  rw [wordKind, keyword?]
  cases found : keywords.lookup (String.ofList text) with
  | none =>
    refine .identifier ?_
    intro kind mem
    have differ := List.lookup_eq_none_iff.mp found _ mem
    simp at differ
  | some kind => exact .reserved (mem_of_lookup found)

/-- An item of a token's form becomes a token that it stands for. -/
theorem Item.exists_token {item : Item} (wellFormed : item.WellFormed)
    (isToken : item.form.isToken = true) (line : Int) :
    ∃ token, item.token? line = some token ∧ token.lexeme = item.text ∧
      item.Denotes token.kind token.literal := by
  obtain ⟨form, text⟩ := item
  cases form with
  | symbol kind => exact ⟨_, rfl, rfl, .symbol⟩
  | string =>
    rcases wellFormed with lexeme | residue
    · cases lexeme with
      | @string inside unmarked =>
        have inner : ('"' :: inside ++ ['"']).tail.dropLast = inside := by simp
        refine ⟨_, rfl, rfl, ?_⟩
        show Denotes _ .string (some (.text ('"' :: inside ++ ['"']).tail.dropLast))
        rw [inner]
        exact .string
    · cases residue
  | number => exact ⟨_, rfl, rfl, .number⟩
  | word => exact ⟨_, rfl, rfl, Item.denotes_word text⟩
  | blank | lineBreak | comment | strayCharacter | openString => cases isToken

/-- An item of any other form becomes no token. -/
theorem Item.token?_eq_none {item : Item} (noToken : item.form.isToken = false) (line : Int) :
    item.token? line = none := by
  obtain ⟨form, text⟩ := item
  cases form with
  | symbol | string | number | word => cases noToken
  | blank | lineBreak | comment | strayCharacter | openString => rfl

/-- An item that becomes a token is of a token's form. -/
theorem Item.isToken_of_token? {item : Item} {line : Int} {token : Token}
    (h : item.token? line = some token) : item.form.isToken = true := by
  cases isToken : item.form.isToken with
  | true => rfl
  | false =>
    rw [Item.token?_eq_none isToken] at h
    cases h

/-- The token of an item has the item's text. -/
theorem Item.lexeme_of_token? {item : Item} {line : Int} {token : Token}
    (h : item.token? line = some token) : token.lexeme = item.text := by
  obtain ⟨form, text⟩ := item
  cases form <;> cases h <;> rfl

/-- The kinds that the tokens of items have. -/
theorem Item.kind_cases {item : Item} (wellFormed : item.WellFormed) {line : Int} {token : Token}
    (h : item.token? line = some token) :
    token.kind ∈ symbolKinds ∨ (token.kind = .string ∧ item.form = .string) ∨
      token.kind = .number ∨ token.kind ∈ wordKinds := by
  obtain ⟨form, text⟩ := item
  cases form with
  | symbol kind =>
    cases h
    rcases wellFormed with lexeme | residue
    · exact .inl lexeme.kind_mem
    · cases residue
  | string =>
    cases h
    exact .inr (.inl ⟨rfl, rfl⟩)
  | number =>
    cases h
    exact .inr (.inr (.inl rfl))
  | word =>
    cases h
    exact .inr (.inr (.inr (wordKind_mem text)))
  | blank | lineBreak | comment | strayCharacter | openString => cases h

/-- The token of an item does not mark the end of the input. -/
theorem Item.kind_ne_endOfInput {item : Item} (wellFormed : item.WellFormed) {line : Int}
    {token : Token} (h : item.token? line = some token) : token.kind ≠ .endOfInput := by
  intro marksEnd
  have known := Item.kind_cases wellFormed h
  rw [marksEnd] at known
  rcases known with symbol | ⟨string, -⟩ | number | word
  · exact absurd symbol (by decide)
  · cases string
  · cases number
  · exact absurd word (by decide)

/-- A token of a string's kind is made of a string. -/
theorem Item.form_of_string {item : Item} (wellFormed : item.WellFormed) {line : Int}
    {token : Token} (h : item.token? line = some token) (kind : token.kind = .string) :
    item.form = .string := by
  have known := Item.kind_cases wellFormed h
  rw [kind] at known
  rcases known with symbol | ⟨-, string⟩ | number | word
  · exact absurd symbol (by decide)
  · exact string
  · cases number
  · exact absurd word (by decide)

/-- An item of a token's form is not faulty. -/
theorem ItemForm.fault?_eq_none {form : ItemForm} (isToken : form.isToken = true) :
    form.fault? = none := by
  cases form with
  | symbol | string | number | word => rfl
  | blank | lineBreak | comment | strayCharacter | openString => cases isToken

/-- A well-formed item of a token's form is a lexeme. -/
theorem Item.WellFormed.lexeme {item : Item} (wellFormed : item.WellFormed)
    (isToken : item.form.isToken = true) : Lexeme item.form item.text := by
  obtain ⟨form, text⟩ := item
  rcases wellFormed with lexeme | residue
  · exact lexeme
  · cases residue <;> cases isToken

/-- A faulty item is reported on its line. -/
theorem Item.report?_eq (item : Item) (line : Int) :
    item.report? line = item.form.fault?.map (Report.mk line) := by
  obtain ⟨form, text⟩ := item
  cases form <;> rfl

/-! ## Events -/

/-- The line of a token or a report. -/
def ScanEvent.line : ScanEvent → Int
  | .token found => found.line
  | .report made => made.line

/-- An event is on the line on which its item ends. -/
theorem Item.line_of_event? {item : Item} {line : Int} {event : ScanEvent}
    (h : item.event? line = some event) : event.line = line := by
  obtain ⟨form, text⟩ := item
  cases form <;> cases h <;> rfl

/-- The event of an item is its token if it is a token. -/
theorem Item.token?_of_event? {item : Item} {line : Int} {token : Token}
    (h : item.event? line = some (.token token)) : item.token? line = some token := by
  rw [token?, h]
  rfl

/-- A report is made of a faulty item. -/
theorem Item.fault?_of_report {item : Item} {line : Int} {report : Report}
    (h : item.event? line = some (.report report)) : item.form.fault? = some report.fault := by
  obtain ⟨form, text⟩ := item
  cases form <;> cases h <;> rfl

/-- Only a stray character is an unexpected one. -/
theorem ItemForm.eq_strayCharacter {form : ItemForm}
    (h : form.fault? = some .unexpectedCharacter) : form = .strayCharacter := by
  cases form <;> cases h
  rfl

/-- Only an open string is an unterminated one. -/
theorem ItemForm.eq_openString {form : ItemForm}
    (h : form.fault? = some .unterminatedString) : form = .openString := by
  cases form <;> cases h
  rfl

/-! ## Lists of items -/

/-- The tokens of some items are those of the first item and those of the others. -/
theorem filterMap_token?_eventsFrom_cons (line : Int) (item : Item) (rest : List Item) :
    (eventsFrom line (item :: rest)).filterMap ScanEvent.token? =
      (item.token? (line + item.lineBreaks)).toList ++
        (eventsFrom (line + item.lineBreaks) rest).filterMap ScanEvent.token? := by
  rw [eventsFrom_cons, List.filterMap_append, Item.token?]
  cases item.event? (line + item.lineBreaks) <;> rfl

/-- A token of some items is the token of one of them. -/
theorem exists_item_of_mem_eventsFrom {line : Int} {parts : List Item} {token : Token}
    (mem : token ∈ (eventsFrom line parts).filterMap ScanEvent.token?) :
    ∃ item ∈ parts, ∃ line, item.token? line = some token := by
  induction parts generalizing line with
  | nil => cases mem
  | cons item rest ih =>
    rw [filterMap_token?_eventsFrom_cons] at mem
    rcases List.mem_append.mp mem with first | later
    · exact ⟨item, List.mem_cons_self, _, Option.mem_toList.mp first⟩
    · obtain ⟨item', mem, found⟩ := ih later
      exact ⟨item', List.mem_cons_of_mem item mem, found⟩

/-- **A token of a scan** is the token of one of its items, or it marks the end of the input. -/
theorem exists_item_of_mem_scan {source : List Char} {token : Token}
    (mem : token ∈ (scan source).tokens) :
    (∃ item ∈ items source, ∃ line, item.token? line = some token) ∨
      token = .endOfInput (lineTotal source) := by
  rw [tokens_scan] at mem
  rcases List.mem_append.mp mem with found | last
  · exact .inl (exists_item_of_mem_eventsFrom found)
  · exact .inr (List.mem_singleton.mp last)

/-- The reports of some items are those of the first item and those of the others. -/
theorem filterMap_report?_eventsFrom_cons (line : Int) (item : Item) (rest : List Item) :
    (eventsFrom line (item :: rest)).filterMap ScanEvent.report? =
      (item.report? (line + item.lineBreaks)).toList ++
        (eventsFrom (line + item.lineBreaks) rest).filterMap ScanEvent.report? := by
  rw [eventsFrom_cons, List.filterMap_append, Item.report?]
  cases item.event? (line + item.lineBreaks) <;> rfl

/-- A token delivers an item: it has the item's text and what the item stands for. -/
def Item.DeliveredAs (item : Item) (token : Token) : Prop :=
  token.lexeme = item.text ∧ item.Denotes token.kind token.literal

/-- Well-formed items become one token each where they are of a token's form. -/
theorem forall₂_deliveredAs (parts : List Item) (wellFormed : ∀ item ∈ parts, item.WellFormed)
    (line : Int) :
    List.Forall₂ Item.DeliveredAs (parts.filter (·.form.isToken))
      ((eventsFrom line parts).filterMap ScanEvent.token?) := by
  induction parts generalizing line with
  | nil => exact .nil
  | cons item rest ih =>
    rw [List.forall_mem_cons] at wellFormed
    have others := ih wellFormed.2 (line + item.lineBreaks)
    rw [filterMap_token?_eventsFrom_cons]
    cases isToken : item.form.isToken with
    | false =>
      rw [List.filter_cons_of_neg (by simp [isToken]), Item.token?_eq_none isToken]
      exact others
    | true =>
      obtain ⟨token, found, delivered⟩ := Item.exists_token wellFormed.1 isToken
        (line + item.lineBreaks)
      rw [List.filter_cons_of_pos (by simpa using isToken), found]
      exact .cons delivered others

/-- The faults that are reported are those of the items. -/
theorem map_fault_reports (parts : List Item) (line : Int) :
    ((eventsFrom line parts).filterMap ScanEvent.report?).map Report.fault =
      parts.filterMap (·.form.fault?) := by
  induction parts generalizing line with
  | nil => rfl
  | cons item rest ih =>
    rw [filterMap_report?_eventsFrom_cons, List.map_append, ih, List.filterMap_cons,
      Item.report?_eq]
    cases item.form.fault? <;> rfl

end LoxScan
