import LoxScan.Proofs.Modes

/-!
# Erasing comments and stray characters

Comments are for the reader of a source, and stray characters are mistakes in it.  Without the
comments, and with a space in the place of every stray character, a source has the same tokens on
the same lines, and of its reports only that of an open string is left.

What is erased is said character by character, by the modes of reading (`Mode.erase`).  To the
items of the source this does one of three things (`Item.remnants`): a comment is gone, a stray
character is a blank, and any other item stays.  Those that stay are cut off where they were cut
off before, for in front of them there is what they saw before, a space, or a line feed
(`Item.StopsBefore.after_erased`).

## Main Definitions

* `Mode.erase`, `erased` — a text without its comments and stray characters
* `Item.remnants` — what is left of an item
* `ScanEvent.remains` — the events that are left
-/

namespace LoxScan

/-! ## Texts -/

namespace Mode

/-- The mode behind a character that is read in front of a text, where the first one of two
slashes is already part of the comment that they open. -/
def entered (mode : Mode) (c : Char) (rest : List Char) : Mode :=
  if mode.inCode = true ∧ c = '/' ∧ rest.head? = some '/' then .comment else mode.step c

/-- **What is left of a text that is read in a mode**: comments are gone, up to the line feeds that
end them, and there is a space in the place of each character that is reported. -/
def erase (mode : Mode) : List Char → List Char
  | [] => []
  | c :: rest =>
    let behind := mode.entered c rest
    (if behind = .comment then [] else if mode.reports c then [' '] else [c]) ++ erase behind rest

@[simp] theorem erase_nil (mode : Mode) : mode.erase [] = [] := rfl

theorem erase_cons (mode : Mode) (c : Char) (rest : List Char) :
    mode.erase (c :: rest) =
      (if mode.entered c rest = .comment then [] else if mode.reports c then [' '] else [c]) ++
        (mode.entered c rest).erase rest := rfl

/-- A character that is no slash opens no comment. -/
theorem entered_of_ne {mode : Mode} {c : Char} (notSlash : c ≠ '/') (rest : List Char) :
    mode.entered c rest = mode.step c :=
  if_neg fun slashes => notSlash slashes.2.1

/-- Outside of strings and comments, a character that changes nothing stays, or is replaced. -/
theorem erase_code_cons {c : Char} (notQuote : c ≠ '"') (notSlash : c ≠ '/') (rest : List Char) :
    code.erase (c :: rest) = (if code.reports c then ' ' else c) :: code.erase rest := by
  have same : code.entered c rest = .code := by
    rw [entered_of_ne notSlash, step, if_neg notQuote, if_neg notSlash]
  rw [erase_cons, same, if_neg (by decide)]
  split <;> rfl

/-- Outside of strings and comments, plain characters stay. -/
theorem erase_plain {text : List Char} (plain : ∀ c ∈ text, Plain c) (after : List Char) :
    code.erase (text ++ after) = text ++ code.erase after := by
  induction text with
  | nil => rfl
  | cons c text ih =>
    rw [List.forall_mem_cons] at plain
    obtain ⟨known, notQuote, notSlash⟩ := plain.1
    have silent : code.reports c = false := by simp [reports, known]
    rw [List.cons_append, erase_code_cons notQuote notSlash, silent, ih plain.2]
    rfl

/-- A string stays. -/
theorem erase_string {inside : List Char} (unmarked : '"' ∉ inside) (after : List Char) :
    string.erase (inside ++ after) = inside ++ string.erase after := by
  induction inside with
  | nil => rfl
  | cons c inside ih =>
    rw [List.mem_cons, not_or] at unmarked
    have same : string.entered c (inside ++ after) = .string := if_neg (Ne.symm unmarked.1)
    rw [List.cons_append, erase_cons, same, ih unmarked.2]
    rfl

/-- A comment is gone. -/
theorem erase_comment {body : List Char} (oneLine : '\n' ∉ body) (after : List Char) :
    comment.erase (body ++ after) = comment.erase after := by
  induction body with
  | nil => rfl
  | cons c body ih =>
    rw [List.mem_cons, not_or] at oneLine
    have same : comment.entered c (body ++ after) = .comment := if_neg (Ne.symm oneLine.1)
    rw [List.cons_append, erase_cons, same, ih oneLine.2]
    rfl

/-- Of what is read in a settled mode there is left what is left of it when it is read afresh. -/
theorem Settled.erase_eq {mode : Mode} {text : List Char} (settled : mode.Settled text) :
    mode.erase text = code.erase text := by
  cases text with
  | nil => rfl
  | cons c rest =>
    cases mode with
    | code => rfl
    | slash =>
      have notSlash : c ≠ '/' := fun same => settled (congrArg some same)
      rw [erase_cons, erase_cons, entered_of_ne notSlash, entered_of_ne notSlash, step, step,
        if_neg notSlash, if_neg notSlash]
      rfl
    | comment =>
      obtain rfl := settled c rfl
      rfl
    | string => cases settled

/-- What is left of a comment begins with the line feed that ends it. -/
theorem head?_erase_comment {text : List Char} {c : Char}
    (head : (comment.erase text).head? = some c) : c = '\n' := by
  induction text with
  | nil => cases head
  | cons d rest ih =>
    by_cases lineFeed : d = '\n'
    · subst lineFeed
      exact (Option.some.inj head).symm
    · have same : comment.entered d rest = .comment := if_neg lineFeed
      rw [erase_cons, same] at head
      exact ih head

/-- **What is left of a text begins as before**, or with a space or a line feed. -/
theorem head?_erase {text : List Char} {c : Char} (head : (code.erase text).head? = some c) :
    text.head? = some c ∨ c = ' ' ∨ c = '\n' := by
  cases text with
  | nil => cases head
  | cons d rest =>
    rw [erase_cons] at head
    split at head
    · next comment =>
      rw [comment] at head
      exact .inr (.inr (head?_erase_comment head))
    · split at head
      · exact .inr (.inl (Option.some.inj head).symm)
      · exact .inl head

/-- Behind a point, too, what is left of a text goes on as before, or with a space or a line
feed. -/
theorem second_erase {text : List Char} {c : Char} {rest : List Char}
    (same : code.erase text = '.' :: c :: rest) :
    (∃ rest, text = '.' :: c :: rest) ∨ c = ' ' ∨ c = '\n' := by
  have head : (code.erase text).head? = some '.' := congrArg List.head? same
  rcases head?_erase head with point | space | lineFeed
  · obtain ⟨behind, rfl⟩ := List.head?_eq_some_iff.mp point
    rw [erase_code_cons (by decide) (by decide)] at same
    have second := congrArg List.head? (List.cons.inj same).2
    rcases head?_erase second with seen | separates
    · obtain ⟨rest', rfl⟩ := List.head?_eq_some_iff.mp seen
      exact .inl ⟨rest', rfl⟩
    · exact .inr separates
  · exact absurd space (by decide)
  · exact absurd lineFeed (by decide)

end Mode

/-- **A source without its comments**, and with a space in the place of every stray character. -/
def erased (source : List Char) : List Char := Mode.code.erase source

/-! ## Items -/

namespace Item

/-- What is left of an item: nothing of a comment, and a space of a stray character. -/
def remnants (item : Item) : List Item :=
  match item.form with
  | .comment => []
  | .strayCharacter => [⟨.blank, [' ']⟩]
  | .symbol _ | .string | .number | .word | .blank | .lineBreak | .openString => [item]

/-- Any other item stays. -/
theorem remnants_eq_self {item : Item} (notComment : item.form ≠ .comment)
    (notStray : item.form ≠ .strayCharacter) : item.remnants = [item] := by
  obtain ⟨form, text⟩ := item
  cases form with
  | comment => exact absurd rfl notComment
  | strayCharacter => exact absurd rfl notStray
  | symbol | string | number | word | blank | lineBreak | openString => rfl

variable {item : Item} {after : List Char}

/-- **What is left of an item in front of a text** is what is left of the item, and then what is
left of the text. -/
theorem erase_append (wellFormed : item.WellFormed) (stops : item.StopsBefore after) :
    Mode.code.erase (item.text ++ after) =
      item.remnants.flatMap Item.text ++ Mode.code.erase after := by
  cases wellFormed.reading with
  | plain plain form =>
    rw [Mode.erase_plain plain, remnants_eq_self form.1 form.2.1, List.flatMap_singleton]
  | slash =>
    have settled : Mode.Settled .slash after := stops.1 rfl
    have next : Mode.code.entered '/' after = .slash := if_neg fun slashes => settled slashes.2.2
    show Mode.code.erase ('/' :: after) = '/' :: Mode.code.erase after
    rw [Mode.erase_cons, next, settled.erase_eq]
    rfl
  | @comment body oneLine =>
    have settled : Mode.Settled .comment after := stops
    have rest : '\n' ∉ '/' :: body := by simpa using oneLine
    show Mode.comment.erase ('/' :: body ++ after) = Mode.code.erase after
    rw [Mode.erase_comment rest, settled.erase_eq]
  | @string inside unmarked =>
    have closed : Mode.code.erase ('"' :: (inside ++ '"' :: after)) =
        '"' :: (inside ++ '"' :: Mode.code.erase after) := by
      show '"' :: Mode.string.erase (inside ++ '"' :: after) = _
      rw [Mode.erase_string unmarked]
      rfl
    simpa [remnants] using closed
  | @openString inside unmarked =>
    obtain rfl : after = [] := stops
    have whole := Mode.erase_string unmarked []
    show '"' :: Mode.string.erase (inside ++ []) = '"' :: inside ++ [] ++ []
    rw [whole, Mode.erase_nil, List.append_nil, List.append_nil, List.append_nil]
  | @stray c foreign =>
    obtain ⟨notQuote, notSlash, reported⟩ := reports_of_foreign foreign
    show Mode.code.erase (c :: after) = ' ' :: Mode.code.erase after
    rw [Mode.erase_code_cons notQuote notSlash, reported]
    rfl

/-- **An item that is left** also stops before what is left of the text behind it. -/
theorem StopsBefore.after_erased (stops : item.StopsBefore after)
    (notComment : item.form ≠ .comment) : item.StopsBefore (Mode.code.erase after) := by
  by_cases closed : item.form ≠ .openString
  · have separator : ∀ c, c = ' ' ∨ c = '\n' → item.StopsBefore [c] := fun c separates =>
      stopsBefore_separator separates closed fun comment => absurd comment notComment
    refine stops.of_seen (fun c head => ?_) fun _ _ c rest same => ?_
    · exact (Mode.head?_erase head).imp_right (separator c)
    · refine (Mode.second_erase same).imp_right ?_
      rintro (rfl | rfl) <;> rfl
  · obtain ⟨form, text⟩ := item
    obtain rfl := not_not.mp closed
    obtain rfl : after = [] := stops
    rfl

end Item

/-- **What is left of a text is cut up as it was**: its items are what is left of the items of the
text. -/
theorem items_erased (source : List Char) :
    items (erased source) = (items source).flatMap Item.remnants := by
  unfold erased
  fun_induction items source with
  | case1 => exact items_nil
  | case2 c rest ih =>
    have wellFormed := Item.wellFormed_cut c rest
    have stops := Item.stopsBefore_cut c rest
    rw [← Item.cut_append c rest, Item.erase_append wellFormed stops, List.flatMap_cons, ← ih]
    generalize Item.cut c rest = found at wellFormed stops
    obtain ⟨item, after⟩ := found
    by_cases comment : item.form = .comment
    · obtain ⟨_, text⟩ := item
      obtain rfl : _ = ItemForm.comment := comment
      rfl
    by_cases stray : item.form = .strayCharacter
    · obtain ⟨_, text⟩ := item
      obtain rfl : _ = ItemForm.strayCharacter := stray
      have blank : Item.WellFormed ⟨.blank, [' ']⟩ := .inl (.blank (.inl rfl))
      exact items_append blank trivial
    · rw [Item.remnants_eq_self comment stray, List.flatMap_singleton]
      exact items_append wellFormed (stops.after_erased comment)

/-! ## Events -/

/-- The events that are left: everything but the report of a stray character. -/
def ScanEvent.remains : ScanEvent → Bool
  | .token _ => true
  | .report made => made.fault = .unterminatedString

theorem eventsFrom_remnants (line : Int) (item : Item) :
    eventsFrom line item.remnants =
      (item.event? (line + item.lineBreaks)).toList.filter ScanEvent.remains := by
  obtain ⟨form, text⟩ := item
  cases form with
  | symbol | string | number | word => rfl
  | blank | lineBreak | comment => rfl
  | strayCharacter => rfl
  | openString => rfl

/-- No line is lost. -/
theorem lineAfter_remnants (line : Int) (item : Item) :
    lineAfter line item.remnants = line + item.lineBreaks := by
  obtain ⟨form, text⟩ := item
  cases form with
  | symbol | string | number | word | blank | lineBreak | openString => rfl
  | comment | strayCharacter => simp [Item.remnants, lineAfter, Item.lineBreaks]

/-- **The events that are left** are those of what is left of the items, on the same lines. -/
theorem eventsFrom_flatMap_remnants (line : Int) (parts : List Item) :
    eventsFrom line (parts.flatMap Item.remnants) =
        (eventsFrom line parts).filter ScanEvent.remains ∧
      lineAfter line (parts.flatMap Item.remnants) = lineAfter line parts := by
  induction parts generalizing line with
  | nil => exact ⟨rfl, rfl⟩
  | cons item rest ih =>
    obtain ⟨events, last⟩ := ih (line + item.lineBreaks)
    constructor
    · rw [List.flatMap_cons, eventsFrom_append, lineAfter_remnants, events, eventsFrom_remnants,
        eventsFrom_cons, List.filter_append]
    · rw [List.flatMap_cons, lineAfter_append, lineAfter_remnants, last, lineAfter_cons]

/-- The tokens of the events that are left are all tokens. -/
theorem filterMap_token?_remains (events : List ScanEvent) :
    (events.filter ScanEvent.remains).filterMap ScanEvent.token? =
      events.filterMap ScanEvent.token? := by
  rw [List.filterMap_filter]
  congr 1
  funext event
  cases event with
  | token found => rfl
  | report made => exact ite_self _

/-- The reports of the events that are left are those of open strings. -/
theorem filterMap_report?_remains (events : List ScanEvent) :
    (events.filter ScanEvent.remains).filterMap ScanEvent.report? =
      (events.filterMap ScanEvent.report?).filter (·.fault = .unterminatedString) := by
  rw [List.filterMap_filter, List.filter_filterMap]
  congr 1
  funext event
  cases event with
  | token found => rfl
  | report made => rfl

/-- **Comments and stray characters can be erased.**  A source without its comments, and with a
space in the place of every stray character, is what is left of its items.  The scan of it delivers
the tokens of the source, on the same lines, and of its reports it makes those of unterminated
strings, on the same lines. -/
theorem scanTokens_erased (source : List Char) :
    erased source = (items source).flatMap (fun item => item.remnants.flatMap Item.text) ∧
      (Scanner.ofSource (erased source)).scanTokens.tokens =
        (Scanner.ofSource source).scanTokens.tokens ∧
      (Scanner.ofSource (erased source)).scanTokens.notices.filterMap Notice.report? =
        ((Scanner.ofSource source).scanTokens.notices.filterMap Notice.report?).filter
          (·.fault = .unterminatedString) := by
  obtain ⟨events, last⟩ := eventsFrom_flatMap_remnants 1 (items source)
  rw [← items_erased] at events last
  refine ⟨?_, ?_, ?_⟩
  · rw [← flatMap_text_items (erased source), items_erased, List.flatMap_assoc]
  · rw [(Scanner.scanTokens_ofSource _).1, (Scanner.scanTokens_ofSource _).1]
    simp only [scan, scanFrom, events, last, filterMap_token?_remains]
  · rw [Scanner.reports_scanTokens_ofSource, Scanner.reports_scanTokens_ofSource]
    simp only [scan, scanFrom, events, filterMap_report?_remains]

/-- The third of three slashes is part of the comment, and a string keeps what is in it. -/
example : erased "a///b\n\"#//\" #/ 1.//".toList = "a\n\"#//\"  / 1.".toList := by decide +kernel

end LoxScan
