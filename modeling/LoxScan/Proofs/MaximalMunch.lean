import LoxScan.Proofs.Meaning
import LoxScan.Proofs.Trace

/-!
# Maximal munch

Every source text has exactly one factorisation into items each of which is the
longest lexeme at its place, and scanning delivers one token for each item of it
that is a symbol, a string, a number or a word.

The factorisation is stated over the grammar alone: which texts are lexemes, and
that no longer one begins at the same place.  That cutting items off one after the
other finds it rests on two facts about the grammar, that a lexeme at the beginning
of a text is never cut short (`Item.prefix_cut`) and that no text has two forms
(`Lexeme.form_unique`).

## Main Definitions

* `Item.Leads` — an item is the longest lexeme at the beginning of a text
* `Factorisation` — a text as consecutive items each of which leads what is left
-/

namespace LoxScan

/-! ## How lexemes begin -/

/-- A lexeme begins with a character of Lox, and one that begins with a quotation
mark has another one. -/
theorem Lexeme.opens {form : ItemForm} {c : Char} {tail : List Char}
    (lexeme : Lexeme form (c :: tail)) :
    isLoxCharacter c = true ∧ (c = '"' → '"' ∈ tail) := by
  have cut := lexeme.cut_eq
  constructor
  · cases known : isLoxCharacter c with
    | true => rfl
    | false =>
      rw [Item.cut_foreign known] at cut
      obtain rfl : .strayCharacter = form := congrArg (·.1.form) cut
      cases lexeme
  · rintro rfl
    refine Classical.byContradiction fun unmarked => ?_
    rw [Item.cut_openString unmarked] at cut
    obtain rfl : .openString = form := congrArg (·.1.form) cut
    cases lexeme

/-! ## The item that leads a text -/

/-- **The item at the beginning of a text**: the longest lexeme there or, where none
begins, all of the text if it begins with a quotation mark and otherwise its first
character. -/
inductive Item.Leads : Item → List Char → Prop where
  | longest {form : ItemForm} {text source : List Char} (lexeme : Lexeme form text)
      (here : text <+: source)
      (longest : ∀ other longer, Lexeme other longer → longer <+: source →
        longer.length ≤ text.length) : Leads ⟨form, text⟩ source
  | openString {inside : List Char}
      (none : ∀ form text, Lexeme form text → ¬ text <+: '"' :: inside) :
      Leads ⟨.openString, '"' :: inside⟩ ('"' :: inside)
  | strayCharacter {c : Char} {rest : List Char} (notQuote : c ≠ '"')
      (none : ∀ form text, Lexeme form text → ¬ text <+: c :: rest) :
      Leads ⟨.strayCharacter, [c]⟩ (c :: rest)

/-- A text is led by one item only. -/
theorem Item.Leads.unique {item other : Item} {source : List Char} (leads : item.Leads source)
    (leads' : other.Leads source) : item = other := by
  cases leads with
  | longest lexeme here longest =>
    cases leads' with
    | longest lexeme' here' longest' =>
      -- each of the two is no longer than the other
      have inside := List.prefix_of_prefix_length_le here here' (longest' _ _ lexeme here)
      obtain rfl := inside.eq_of_length_le (longest _ _ lexeme' here')
      rw [lexeme.form_unique lexeme']
    | openString none | strayCharacter _ none => exact absurd here (none _ _ lexeme)
  | openString none =>
    cases leads' with
    | longest lexeme here => exact absurd here (none _ _ lexeme)
    | openString => rfl
    | strayCharacter notQuote => exact absurd rfl notQuote
  | strayCharacter notQuote none =>
    cases leads' with
    | longest lexeme here => exact absurd here (none _ _ lexeme)
    | openString => exact absurd rfl notQuote
    | strayCharacter => rfl

/-- A lexeme at the beginning of a text is at the beginning of what is cut off. -/
theorem Lexeme.prefix_cut_of_prefix {form : ItemForm} {text : List Char} {c : Char}
    {rest : List Char} (lexeme : Lexeme form text) (here : text <+: c :: rest) :
    text <+: (Item.cut c rest).1.text := by
  obtain ⟨d, tail, rfl⟩ := lexeme.exists_cons
  obtain ⟨after, whole⟩ := here
  obtain ⟨rfl, rfl⟩ := List.cons.inj whole
  exact Item.prefix_cut lexeme after

/-- No lexeme begins where something else is left over. -/
theorem Residue.not_prefix {form other : ItemForm} {text after longer : List Char}
    (residue : Residue form text) (stops : Item.StopsBefore ⟨form, text⟩ after)
    (lexeme : Lexeme other longer) : ¬ longer <+: text ++ after := by
  rintro ⟨more, whole⟩
  obtain ⟨c, tail, rfl⟩ := lexeme.exists_cons
  obtain ⟨known, closed⟩ := lexeme.opens
  cases residue with
  | @openString inside unmarked =>
    obtain rfl : after = [] := stops
    rw [List.append_nil] at whole
    obtain ⟨rfl, rfl⟩ := List.cons.inj whole
    -- the lexeme would need a second quotation mark
    exact unmarked (List.mem_append_left more (closed rfl))
  | strayCharacter foreign =>
    obtain ⟨rfl, -⟩ := List.cons.inj whole
    rw [known] at foreign
    cases foreign

/-- **What is cut off a text is the item that leads it.** -/
theorem Item.leads_cut (c : Char) (rest : List Char) : (cut c rest).1.Leads (c :: rest) := by
  have wellFormed := wellFormed_cut c rest
  have stops := stopsBefore_cut c rest
  have whole := cut_append c rest
  have longest : ∀ other longer, Lexeme other longer → longer <+: c :: rest →
      longer.length ≤ (cut c rest).1.text.length :=
    fun _ _ lexeme here => (lexeme.prefix_cut_of_prefix here).length_le
  generalize cut c rest = found at wellFormed stops whole longest
  obtain ⟨⟨form, text⟩, after⟩ := found
  rcases wellFormed with lexeme | residue
  · exact .longest lexeme ⟨after, whole⟩ longest
  · have none : ∀ other longer, Lexeme other longer → ¬ longer <+: c :: rest := by
      intro other longer lexeme
      rw [← whole]
      exact residue.not_prefix stops lexeme
    cases residue with
    | openString =>
      obtain rfl : after = [] := stops
      rw [List.append_nil] at whole
      obtain ⟨rfl, rfl⟩ := List.cons.inj whole
      exact .openString none
    | strayCharacter foreign =>
      obtain ⟨rfl, rfl⟩ := List.cons.inj whole
      refine .strayCharacter ?_ none
      rintro rfl
      cases foreign

/-! ## Factorisations -/

/-- **A factorisation of a text**: consecutive items, each of which leads the text
from its place on. -/
inductive Factorisation : List Char → List Item → Prop where
  | nil : Factorisation [] []
  | cons {source after : List Char} {item : Item} {more : List Item}
      (whole : item.text ++ after = source) (leads : item.Leads source)
      (rest : Factorisation after more) : Factorisation source (item :: more)

/-- No item of a factorisation is empty. -/
theorem Item.Leads.text_ne_nil {item : Item} {source : List Char} (leads : item.Leads source) :
    item.text ≠ [] := by
  cases leads with
  | longest lexeme =>
    obtain ⟨c, tail, same⟩ := lexeme.exists_cons
    simp [same]
  | openString | strayCharacter => simp

/-- The items of a text are a factorisation of it. -/
theorem factorisation_items (source : List Char) : Factorisation source (items source) := by
  fun_induction items source with
  | case1 => exact .nil
  | case2 c rest ih => exact .cons (Item.cut_append c rest) (Item.leads_cut c rest) ih

/-- A text has one factorisation only. -/
theorem Factorisation.unique {source : List Char} {parts others : List Item}
    (factorisation : Factorisation source parts) (factorisation' : Factorisation source others) :
    parts = others := by
  induction factorisation generalizing others with
  | nil =>
    cases factorisation' with
    | nil => rfl
    | cons whole leads => exact absurd (List.append_eq_nil_iff.mp whole).1 leads.text_ne_nil
  | cons whole leads rest ih =>
    cases factorisation' with
    | nil => exact absurd (List.append_eq_nil_iff.mp whole).1 leads.text_ne_nil
    | cons whole' leads' rest' =>
      obtain rfl := leads.unique leads'
      obtain rfl := List.append_cancel_left (whole.trans whole'.symm)
      rw [ih rest']

/-- **The items of a text are its factorisation.** -/
theorem factorisation_iff {source : List Char} {parts : List Item} :
    Factorisation source parts ↔ parts = items source := by
  constructor
  · exact fun factorisation => factorisation.unique (factorisation_items source)
  · rintro rfl
    exact factorisation_items source

/-! ## Scanning -/

/-- **The scanner is the maximal-munch lexer of the grammar.**  Every source has
exactly one factorisation.  Draining a new scanner on the source delivers, in order,
one token for each symbol, string, number and word of the factorisation, with its
text, its kind and its value, and then the token that marks the end; it reports one
fault for each stray character and for a string that is never closed, and no other. -/
theorem scanTokens_maximalMunch (source : List Char) :
    ∃ parts : List Item,
      (∀ others, Factorisation source others ↔ others = parts) ∧
      (∀ item ∈ parts, item.text ≠ []) ∧
      (∃ tokens,
        (Scanner.ofSource source).scanTokens.tokens =
          tokens ++ [Token.endOfInput (lineTotal source)] ∧
        List.Forall₂ Item.DeliveredAs (parts.filter (·.form.isToken)) tokens) ∧
      ((Scanner.ofSource source).scanTokens.notices.filterMap Notice.report?).map Report.fault =
        parts.filterMap (·.form.fault?) := by
  obtain ⟨tokens, notices⟩ := Scanner.scanTokens_ofSource source
  refine ⟨items source, fun others => factorisation_iff, ?_, ?_, ?_⟩
  · intro item mem
    obtain ⟨c, tail, same⟩ := (wellFormed_of_mem_items mem).exists_cons
    simp [same]
  · refine ⟨(eventsFrom 1 (items source)).filterMap ScanEvent.token?, ?_, ?_⟩
    · rw [tokens, tokens_scan]
    · exact forall₂_deliveredAs (items source) (fun _ => wellFormed_of_mem_items) 1
  · rw [notices, Scan.filterMap_report?_notices]
    exact map_fault_reports (items source) 1

end LoxScan
