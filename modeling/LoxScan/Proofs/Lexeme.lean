import LoxScan.Grammar.Item
import Mathlib.Data.List.TakeWhile

/-!
# The lexical grammar

The lexical forms of Lox as a grammar, and what cutting an item off a text has to
do with it.  The grammar says which texts have which form and nothing about how
one of them is found, where it ends, or which of several is taken.

What joins the two is the *boundary* of an item.  Whether an item is cut off at a
given place depends on the text behind it only through one condition on at most
two characters, `Item.StopsBefore`.  `Item.cut_eq_iff` says that this condition,
together with the form of the item, is all there is to cutting.

## Main Definitions

* `Lexeme` — the grammar: which text has which form
* `Residue` — what is left where no lexeme begins
* `Item.WellFormed` — the text of an item is of its form
* `Item.StopsBefore` — what the text behind an item must not begin with
* `Opening` — the ways in which an item can begin
-/

namespace LoxScan

/-! ## Characters -/

/-- One of the ten ASCII digits. -/
def DigitCharacter (c : Char) : Prop := '0' ≤ c ∧ c ≤ '9'

/-- An ASCII letter or the underscore. -/
def WordStart (c : Char) : Prop :=
  ('a' ≤ c ∧ c ≤ 'z') ∨ ('A' ≤ c ∧ c ≤ 'Z') ∨ c = '_'

instance : DecidablePred DigitCharacter :=
  fun c => inferInstanceAs (Decidable ('0' ≤ c ∧ c ≤ '9'))

instance : DecidablePred WordStart :=
  fun c => inferInstanceAs (Decidable (('a' ≤ c ∧ c ≤ 'z') ∨ ('A' ≤ c ∧ c ≤ 'Z') ∨ c = '_'))

theorem isDigit_iff {c : Char} : isDigit c = true ↔ DigitCharacter c := by
  simp [isDigit, DigitCharacter, Char.isDigit, Char.le_def]

theorem isWordStart_iff {c : Char} : isWordStart c = true ↔ WordStart c := by
  show (decide ('A' ≤ c ∧ c ≤ 'Z') || ('a' ≤ c && c ≤ 'z') || c = '_') = true ↔ _
  simp only [WordStart, Bool.or_eq_true, Bool.and_eq_true, decide_eq_true_eq]
  rw [← or_assoc, or_comm (a := 'A' ≤ c ∧ c ≤ 'Z')]

theorem isWordCharacter_iff {c : Char} :
    isWordCharacter c = true ↔ WordStart c ∨ DigitCharacter c := by
  rw [isWordCharacter, Bool.or_eq_true, isWordStart_iff, isDigit_iff]

theorem isBlank_iff {c : Char} : isBlank c = true ↔ c = ' ' ∨ c = '\r' ∨ c = '\t' := by
  simp [isBlank, or_assoc]

/-! ## The grammar -/

/-- **The lexical grammar of Lox.**  Each constructor is one form of item that is
not faulty.  Symbols carry the kind of token that they are; a word has one form
whether it is reserved or not. -/
inductive Lexeme : ItemForm → List Char → Prop where
  | punctuation {c : Char} {kind : TokenKind} (mem : (c, kind) ∈ punctuation) :
      Lexeme (.symbol kind) [c]
  | slash : Lexeme (.symbol .slash) ['/']
  | comparison {c : Char} {withEqual alone : TokenKind}
      (mem : (c, withEqual, alone) ∈ comparisons) : Lexeme (.symbol alone) [c]
  | comparisonEqual {c : Char} {withEqual alone : TokenKind}
      (mem : (c, withEqual, alone) ∈ comparisons) : Lexeme (.symbol withEqual) [c, '=']
  | comment {body : List Char} (oneLine : '\n' ∉ body) :
      Lexeme .comment ('/' :: '/' :: body)
  | blank {c : Char} (separates : c = ' ' ∨ c = '\r' ∨ c = '\t') : Lexeme .blank [c]
  | lineBreak : Lexeme .lineBreak ['\n']
  | string {inside : List Char} (unmarked : '"' ∉ inside) :
      Lexeme .string ('"' :: inside ++ ['"'])
  | integer {digit : Char} {whole : List Char}
      (digits : ∀ c ∈ digit :: whole, DigitCharacter c) : Lexeme .number (digit :: whole)
  | fraction {digit first : Char} {whole more : List Char}
      (digits : ∀ c ∈ digit :: whole, DigitCharacter c)
      (decimals : ∀ c ∈ first :: more, DigitCharacter c) :
      Lexeme .number (digit :: whole ++ '.' :: first :: more)
  | word {first : Char} {more : List Char} (start : WordStart first)
      (characters : ∀ c ∈ more, WordStart c ∨ DigitCharacter c) : Lexeme .word (first :: more)

/-- No lexeme is empty. -/
theorem Lexeme.exists_cons {form : ItemForm} {text : List Char} (lexeme : Lexeme form text) :
    ∃ c tail, text = c :: tail := by
  cases lexeme <;> exact ⟨_, _, rfl⟩

/-- **What is left where no lexeme begins**: a quotation mark that is never closed,
with everything behind it, or one character that is foreign to Lox. -/
inductive Residue : ItemForm → List Char → Prop where
  | openString {inside : List Char} (unmarked : '"' ∉ inside) :
      Residue .openString ('"' :: inside)
  | strayCharacter {c : Char} (foreign : isLoxCharacter c = false) :
      Residue .strayCharacter [c]

namespace Item

/-- The text of an item is of its form. -/
def WellFormed (item : Item) : Prop :=
  Lexeme item.form item.text ∨ Residue item.form item.text

/-- **The boundary of an item**: a text in front of which it can end.  A slash must
not be followed by a slash, a comparison by an equals sign, a word by a word
character, a number by a digit or, as long as it has no fraction, by a point with a
digit behind it.  A comment ends with its line and an open string with the text.
Every other item can stand in front of any text. -/
def StopsBefore (item : Item) (after : List Char) : Prop :=
  match item.form with
  | .symbol kind =>
    (kind = .slash → after.head? ≠ some '/') ∧
      (kind ∈ comparisons.map (·.2.2) → after.head? ≠ some '=')
  | .number =>
    (∀ c, after.head? = some c → isDigit c = false) ∧
      ('.' ∉ item.text → ∀ c rest, after = '.' :: c :: rest → isDigit c = false)
  | .word => ∀ c, after.head? = some c → isWordCharacter c = false
  | .comment => ∀ c, after.head? = some c → c = '\n'
  | .openString => after = []
  | .string | .blank | .lineBreak | .strayCharacter => True

end Item

/-! ## How an item begins -/

/-- What is found in a table is an entry of it. -/
theorem mem_of_lookup {α β : Type} [BEq α] [LawfulBEq α] {table : List (α × β)} {key : α}
    {value : β} (h : table.lookup key = some value) : (key, value) ∈ table := by
  obtain ⟨before, after, rfl, -⟩ := List.lookup_eq_some_iff.mp h
  simp

/-- A member of a class differs from what is outside of it. -/
theorem ne_of_class {member : Char → Bool} {c d : Char} (inClass : member c = true)
    (outside : member d = false) : c ≠ d := by
  rintro rfl
  rw [outside] at inClass
  cases inClass

/-- A member of a class is not found in a table that has no members of the class. -/
theorem lookup_eq_none_of_class {β : Type} {table : List (Char × β)} {member : Char → Bool}
    {c : Char} (inClass : member c = true)
    (outside : ∀ entry ∈ table, member entry.1 = false) : table.lookup c = none := by
  rw [List.lookup_eq_none_iff]
  intro entry mem
  simpa using ne_of_class inClass (outside entry mem)

/-- **The ways in which an item can begin.** -/
inductive Opening (c : Char) : Prop where
  | punctuation {kind : TokenKind} (mem : (c, kind) ∈ LoxScan.punctuation)
  | comparison {withEqual alone : TokenKind} (mem : (c, withEqual, alone) ∈ comparisons)
  | slash (h : c = '/')
  | blank (h : isBlank c = true)
  | lineBreak (h : c = '\n')
  | quote (h : c = '"')
  | digit (h : isDigit c = true)
  | wordStart (h : isWordStart c = true)
  | foreign (h : isLoxCharacter c = false)

/-- Every character begins an item in one of these ways. -/
theorem opening (c : Char) : Opening c := by
  cases inPunctuation : punctuation.lookup c with
  | some kind => exact .punctuation (mem_of_lookup inPunctuation)
  | none =>
    cases inComparisons : comparisons.lookup c with
    | some kinds => exact .comparison (mem_of_lookup inComparisons)
    | none =>
      by_cases slash : c = '/'
      · exact .slash slash
      by_cases blank : isBlank c = true
      · exact .blank blank
      by_cases lineBreak : c = '\n'
      · exact .lineBreak lineBreak
      by_cases quote : c = '"'
      · exact .quote quote
      by_cases digit : isDigit c = true
      · exact .digit digit
      by_cases start : isWordStart c = true
      · exact .wordStart start
      · refine .foreign ?_
        rw [isLoxCharacter, inPunctuation, inComparisons]
        simp [isWordCharacter, slash, blank, lineBreak, quote, digit, start]

namespace Item

variable {c : Char} {rest : List Char}

theorem cut_punctuation {kind : TokenKind} (mem : (c, kind) ∈ punctuation) :
    cut c rest = (⟨.symbol kind, [c]⟩, rest) := by
  have found : ∀ entry ∈ punctuation, punctuation.lookup entry.1 = some entry.2 := by decide
  rw [cut, found _ mem]

theorem cut_comparison {withEqual alone : TokenKind}
    (mem : (c, withEqual, alone) ∈ comparisons) :
    cut c rest = cutComparison c withEqual alone rest := by
  have found : ∀ entry ∈ comparisons,
      punctuation.lookup entry.1 = none ∧ comparisons.lookup entry.1 = some entry.2 := by
    decide
  rw [cut, (found _ mem).1, (found _ mem).2]

theorem cut_slash : cut '/' rest = cutSlash rest := rfl

theorem cut_lineBreak : cut '\n' rest = (⟨.lineBreak, ['\n']⟩, rest) := rfl

theorem cut_quote : cut '"' rest = cutString rest := rfl

theorem cut_blank (h : isBlank c = true) : cut c rest = (⟨.blank, [c]⟩, rest) := by
  rcases isBlank_iff.mp h with rfl | rfl | rfl <;> rfl

/-- Digits and letters are none of the characters that are tried before them. -/
theorem cut_of_plain (member : Char → Bool) (inClass : member c = true)
    (outsidePunctuation : ∀ entry ∈ punctuation, member entry.1 = false)
    (outsideComparisons : ∀ entry ∈ comparisons, member entry.1 = false)
    (outside : ['/', ' ', '\r', '\t', '\n', '"'].any member = false) :
    cut c rest =
      if isDigit c then cutNumber c rest
      else if isWordStart c then cutWord c rest
      else (⟨.strayCharacter, [c]⟩, rest) := by
  have differ : ∀ d ∈ ['/', ' ', '\r', '\t', '\n', '"'], c ≠ d :=
    fun d mem => ne_of_class inClass (by simpa using List.any_eq_false.mp outside d mem)
  simp only [List.forall_mem_cons] at differ
  obtain ⟨slash, space, carriageReturn, tabulator, lineBreak, quote, -⟩ := differ
  rw [cut, lookup_eq_none_of_class inClass outsidePunctuation,
    lookup_eq_none_of_class inClass outsideComparisons]
  simp [isBlank, slash, space, carriageReturn, tabulator, lineBreak, quote]

theorem cut_digit (h : isDigit c = true) : cut c rest = cutNumber c rest := by
  rw [cut_of_plain isDigit h (by decide) (by decide) rfl, if_pos h]

/-- No letter is a digit. -/
theorem isDigit_eq_false_of_wordStart (h : isWordStart c = true) : isDigit c = false := by
  rw [Bool.eq_false_iff, ne_eq, isDigit_iff]
  rintro ⟨-, high⟩
  rcases isWordStart_iff.mp h with ⟨low, -⟩ | ⟨low, -⟩ | rfl
  · exact absurd (Char.le_trans low high) (by decide)
  · exact absurd (Char.le_trans low high) (by decide)
  · exact absurd high (by decide)

theorem cut_wordStart (h : isWordStart c = true) : cut c rest = cutWord c rest := by
  rw [cut_of_plain isWordStart h (by decide) (by decide) rfl,
    isDigit_eq_false_of_wordStart h, if_neg (by decide), if_pos h]

theorem cut_foreign (h : isLoxCharacter c = false) :
    cut c rest = (⟨.strayCharacter, [c]⟩, rest) := by
  have inClass : (!isLoxCharacter c) = true := by simp [h]
  have notDigit : isDigit c = false := by
    simp_all [isLoxCharacter, isWordCharacter]
  have notStart : isWordStart c = false := by
    simp_all [isLoxCharacter, isWordCharacter]
  rw [cut_of_plain (fun d => !isLoxCharacter d) inClass (by decide) (by decide) rfl,
    notDigit, notStart]
  rfl

/-! ## What an item takes up

Where a text begins with a lexeme, at least the lexeme is cut off; what follows
decides how much more. -/

theorem cut_comment_append {body after : List Char} (oneLine : '\n' ∉ body) :
    cut '/' ('/' :: (body ++ after)) =
      (⟨.comment, '/' :: '/' :: body ++ after.takeWhile (· ≠ '\n')⟩,
        after.dropWhile (· ≠ '\n')) := by
  have inside : ∀ c ∈ body, decide (c ≠ '\n') = true := by
    intro c mem
    simpa using ne_of_mem_of_not_mem mem oneLine
  rw [cut_slash, cutSlash, List.takeWhile_append_of_pos inside,
    List.dropWhile_append_of_pos inside]
  rfl

theorem cut_string_append {inside after : List Char} (unmarked : '"' ∉ inside) :
    cut '"' (inside ++ '"' :: after) = (⟨.string, '"' :: inside ++ ['"']⟩, after) := by
  have within : ∀ c ∈ inside, decide (c ≠ '"') = true := by
    intro c mem
    simpa using ne_of_mem_of_not_mem mem unmarked
  rw [cut_quote, cutString, List.takeWhile_append_of_pos within,
    List.dropWhile_append_of_pos within]
  simp

theorem cut_openString {inside : List Char} (unmarked : '"' ∉ inside) :
    cut '"' inside = (⟨.openString, '"' :: inside⟩, []) := by
  have within : ∀ c ∈ inside, decide (c ≠ '"') = true := by
    intro c mem
    simpa using ne_of_mem_of_not_mem mem unmarked
  rw [cut_quote, cutString, List.takeWhile_eq_self_iff.mpr within,
    List.dropWhile_eq_nil_iff.mpr within]

theorem cut_word_append {first : Char} {more after : List Char}
    (start : isWordStart first = true) (characters : ∀ c ∈ more, isWordCharacter c = true) :
    cut first (more ++ after) =
      (⟨.word, first :: more ++ after.takeWhile isWordCharacter⟩,
        after.dropWhile isWordCharacter) := by
  rw [cut_wordStart start, cutWord, List.takeWhile_append_of_pos characters,
    List.dropWhile_append_of_pos characters]
  rfl

theorem cut_fraction_append {digit first : Char} {whole more after : List Char}
    (digits : ∀ c ∈ digit :: whole, isDigit c = true)
    (decimals : ∀ c ∈ first :: more, isDigit c = true) :
    cut digit (whole ++ '.' :: first :: (more ++ after)) =
      (⟨.number, digit :: whole ++ '.' :: first :: more ++ after.takeWhile isDigit⟩,
        after.dropWhile isDigit) := by
  rw [List.forall_mem_cons] at digits decimals
  have pointStops : isDigit '.' = false := rfl
  rw [cut_digit digits.1, cutNumber, List.takeWhile_append_of_pos digits.2,
    List.dropWhile_append_of_pos digits.2]
  simp [pointStops, decimals.1, List.takeWhile_append_of_pos decimals.2,
    List.dropWhile_append_of_pos decimals.2]

/-- A number takes up the digits it begins with. -/
theorem prefix_cut_integer {digit : Char} {whole after : List Char}
    (digits : ∀ c ∈ digit :: whole, isDigit c = true) :
    digit :: whole <+: (cut digit (whole ++ after)).1.text := by
  rw [List.forall_mem_cons] at digits
  rw [cut_digit digits.1, cutNumber, List.takeWhile_append_of_pos digits.2]
  split
  · next first behind h =>
    split
    · exact ⟨after.takeWhile isDigit ++ '.' :: first :: behind.takeWhile isDigit, by simp⟩
    · exact ⟨after.takeWhile isDigit, by simp⟩
  · exact ⟨after.takeWhile isDigit, by simp⟩

/-- **At least the lexeme is cut off** where a text begins with one. -/
theorem prefix_cut {form : ItemForm} {c : Char} {tail : List Char}
    (lexeme : Lexeme form (c :: tail)) (after : List Char) :
    c :: tail <+: (cut c (tail ++ after)).1.text := by
  cases lexeme with
  | punctuation mem => simp only [cut_punctuation mem, List.prefix_rfl]
  | slash =>
    rw [cut_slash]
    unfold cutSlash
    split
    · exact ⟨_, rfl⟩
    · exact List.prefix_rfl
  | comparison mem =>
    rw [cut_comparison mem]
    unfold cutComparison
    split
    · exact ⟨_, rfl⟩
    · exact List.prefix_rfl
  | comparisonEqual mem =>
    rw [cut_comparison mem]
    exact List.prefix_rfl
  | comment oneLine =>
    rw [List.cons_append, cut_comment_append oneLine]
    exact List.prefix_append _ _
  | blank separates => simp only [cut_blank (isBlank_iff.mpr separates), List.prefix_rfl]
  | lineBreak => exact List.prefix_rfl
  | @string inside unmarked =>
    show _ <+: (cut '"' (inside ++ ['"'] ++ after)).1.text
    rw [List.append_assoc, List.singleton_append, cut_string_append unmarked]
    exact List.prefix_rfl
  | integer digits => exact prefix_cut_integer fun d mem => isDigit_iff.mpr (digits d mem)
  | @fraction _ first whole more digits decimals =>
    show _ <+: (cut c (whole ++ '.' :: first :: more ++ after)).1.text
    rw [List.append_assoc, List.cons_append, List.cons_append,
      cut_fraction_append (fun d mem => isDigit_iff.mpr (digits d mem))
        fun d mem => isDigit_iff.mpr (decimals d mem)]
    exact List.prefix_append _ _
  | word start characters =>
    rw [cut_word_append (isWordStart_iff.mpr start)
      fun d mem => isWordCharacter_iff.mpr (characters d mem)]
    exact List.prefix_append _ _

/-! ## What is cut off -/

theorem wellFormed_cut (c : Char) (rest : List Char) : (cut c rest).1.WellFormed := by
  cases opening c with
  | punctuation mem =>
    rw [cut_punctuation mem]
    exact .inl (.punctuation mem)
  | comparison mem =>
    rw [cut_comparison mem]
    unfold cutComparison
    split
    · exact .inl (.comparisonEqual mem)
    · exact .inl (.comparison mem)
  | slash h =>
    rw [h, cut_slash]
    unfold cutSlash
    split
    · refine .inl (.comment ?_)
      intro mem
      simpa using List.mem_takeWhile_imp mem
    · exact .inl .slash
  | blank h =>
    rw [cut_blank h]
    exact .inl (.blank (isBlank_iff.mp h))
  | lineBreak h =>
    rw [h, cut_lineBreak]
    exact .inl .lineBreak
  | quote h =>
    rw [h, cut_quote, cutString]
    have unmarked : '"' ∉ rest.takeWhile (· ≠ '"') := by
      intro mem
      simpa using List.mem_takeWhile_imp mem
    split
    · exact .inr (.openString unmarked)
    · next mark after stop =>
      have closing := List.head?_dropWhile_not (· ≠ '"') rest
      rw [stop] at closing
      obtain rfl : mark = '"' := by simpa using closing
      exact .inl (.string unmarked)
  | digit h =>
    have digits : ∀ d ∈ c :: rest.takeWhile isDigit, DigitCharacter d := by
      rw [List.forall_mem_cons]
      exact ⟨isDigit_iff.mp h, fun d mem => isDigit_iff.mp (List.mem_takeWhile_imp mem)⟩
    rw [cut_digit h, cutNumber]
    split
    · next first after _ =>
      split
      · next digit =>
        refine .inl (.fraction digits ?_)
        rw [List.forall_mem_cons]
        exact ⟨isDigit_iff.mp digit, fun d mem => isDigit_iff.mp (List.mem_takeWhile_imp mem)⟩
      · exact .inl (.integer digits)
    · exact .inl (.integer digits)
  | wordStart h =>
    rw [cut_wordStart h]
    refine .inl (.word (isWordStart_iff.mp h) ?_)
    intro d mem
    exact isWordCharacter_iff.mp (List.mem_takeWhile_imp mem)
  | foreign h =>
    rw [cut_foreign h]
    exact .inr (.strayCharacter h)

/-- Where dropping the members of a class stops, no member follows. -/
theorem head?_dropWhile_eq_false {p : Char → Bool} {rest : List Char} {c : Char}
    (h : (rest.dropWhile p).head? = some c) : p c = false := by
  have stop := List.head?_dropWhile_not p rest
  rw [h] at stop
  simpa using stop

theorem stopsBefore_cut (c : Char) (rest : List Char) :
    (cut c rest).1.StopsBefore (cut c rest).2 := by
  cases opening c with
  | @punctuation kind mem =>
    rw [cut_punctuation mem]
    have plain : ∀ entry ∈ punctuation,
        entry.2 ≠ .slash ∧ entry.2 ∉ comparisons.map (·.2.2) := by decide
    exact ⟨fun slash => absurd slash (plain _ mem).1, fun alone => absurd alone (plain _ mem).2⟩
  | @comparison withEqual alone mem =>
    have kinds : ∀ entry ∈ comparisons,
        entry.2.1 ∉ comparisons.map (·.2.2) ∧ entry.2.1 ≠ .slash ∧ entry.2.2 ≠ .slash := by
      decide
    obtain ⟨longer, withSlash, aloneSlash⟩ := kinds _ mem
    rw [cut_comparison mem]
    unfold cutComparison
    split
    · exact ⟨fun slash => absurd slash withSlash, fun shorter => absurd shorter longer⟩
    · next noEqual =>
      refine ⟨fun slash => absurd slash aloneSlash, fun _ equal => ?_⟩
      obtain ⟨after, rfl⟩ := List.head?_eq_some_iff.mp equal
      exact noEqual after rfl
  | slash h =>
    rw [h, cut_slash]
    unfold cutSlash
    split
    · intro d next
      simpa using head?_dropWhile_eq_false next
    · next noSlash =>
      refine ⟨fun _ next => ?_, fun alone => absurd alone (by decide)⟩
      obtain ⟨after, rfl⟩ := List.head?_eq_some_iff.mp next
      exact noSlash after rfl
  | blank h =>
    rw [cut_blank h]
    trivial
  | lineBreak h =>
    rw [h, cut_lineBreak]
    trivial
  | quote h =>
    rw [h, cut_quote, cutString]
    split
    · rfl
    · trivial
  | digit h =>
    rw [cut_digit h, cutNumber]
    split
    · next first after stop =>
      split
      · refine ⟨fun d next => head?_dropWhile_eq_false next, fun noPoint => absurd ?_ noPoint⟩
        simp
      · next notDigit =>
        refine ⟨fun d next => head?_dropWhile_eq_false (stop ▸ next), ?_⟩
        rintro - d more same
        obtain ⟨-, same⟩ := List.cons.inj same
        obtain ⟨rfl, -⟩ := List.cons.inj same
        simpa using notDigit
    · next noFraction =>
      refine ⟨fun d next => head?_dropWhile_eq_false next, ?_⟩
      rintro - d more same
      exact (noFraction d more same).elim
  | wordStart h =>
    rw [cut_wordStart h]
    exact fun d next => head?_dropWhile_eq_false next
  | foreign h =>
    rw [cut_foreign h]
    trivial

/-! ## Cutting is determined by form and boundary -/

/-- Where no member of a class follows, none is taken and none is dropped. -/
theorem takeWhile_eq_nil_and_dropWhile_eq_self {p : Char → Bool} {after : List Char}
    (stop : ∀ c, after.head? = some c → p c = false) :
    after.takeWhile p = [] ∧ after.dropWhile p = after := by
  cases after with
  | nil => exact ⟨rfl, rfl⟩
  | cons c rest =>
    have outside := stop c rfl
    simp [outside]

/-- A lexeme is cut off in front of a text at which it stops. -/
theorem cut_eq_of_lexeme {form : ItemForm} {c : Char} {tail after : List Char}
    (lexeme : Lexeme form (c :: tail)) (stops : StopsBefore ⟨form, c :: tail⟩ after) :
    cut c (tail ++ after) = (⟨form, c :: tail⟩, after) := by
  cases lexeme with
  | punctuation mem => exact cut_punctuation mem
  | slash =>
    rw [cut_slash]
    unfold cutSlash
    split
    · next behind same => exact absurd (congrArg List.head? same) (stops.1 rfl)
    · rfl
  | comparison mem =>
    rw [cut_comparison mem]
    unfold cutComparison
    split
    · next behind same =>
      have alone := stops.2 (List.mem_map_of_mem mem)
      exact absurd (congrArg List.head? same) alone
    · rfl
  | comparisonEqual mem => rw [cut_comparison mem, List.cons_append, List.nil_append, cutComparison]
  | @comment body oneLine =>
    have stop : ∀ d, after.head? = some d → decide (d ≠ '\n') = false := by
      intro d next
      simpa using stops d next
    obtain ⟨taken, dropped⟩ := takeWhile_eq_nil_and_dropWhile_eq_self stop
    rw [List.cons_append, cut_comment_append oneLine, taken, dropped, List.append_nil]
  | blank separates => exact cut_blank (isBlank_iff.mpr separates)
  | lineBreak => rfl
  | @string inside unmarked =>
    show cut '"' (inside ++ ['"'] ++ after) = _
    rw [List.append_assoc, List.singleton_append, cut_string_append unmarked]
    rfl
  | integer digits =>
    have noPoint : '.' ∉ c :: tail := fun mem => absurd (digits '.' mem) (by decide)
    have more : ∀ d ∈ tail, isDigit d = true :=
      fun d mem => isDigit_iff.mpr (digits d (List.mem_cons_of_mem c mem))
    obtain ⟨taken, dropped⟩ := takeWhile_eq_nil_and_dropWhile_eq_self stops.1
    rw [cut_digit (isDigit_iff.mpr (digits c List.mem_cons_self)), cutNumber,
      List.takeWhile_append_of_pos more, List.dropWhile_append_of_pos more, taken, dropped,
      List.append_nil]
    split
    · next first behind =>
      rw [stops.2 noPoint first behind rfl]
      rfl
    · rfl
  | @fraction _ first whole more digits decimals =>
    obtain ⟨taken, dropped⟩ := takeWhile_eq_nil_and_dropWhile_eq_self stops.1
    show cut c (whole ++ '.' :: first :: more ++ after) = _
    rw [List.append_assoc, List.cons_append, List.cons_append,
      cut_fraction_append (fun d mem => isDigit_iff.mpr (digits d mem))
        fun d mem => isDigit_iff.mpr (decimals d mem), taken, dropped, List.append_nil]
    rfl
  | word start characters =>
    obtain ⟨taken, dropped⟩ := takeWhile_eq_nil_and_dropWhile_eq_self stops
    rw [cut_word_append (isWordStart_iff.mpr start)
      fun d mem => isWordCharacter_iff.mpr (characters d mem), taken, dropped, List.append_nil]

/-- No well-formed item is empty. -/
theorem WellFormed.exists_cons {item : Item} (h : item.WellFormed) :
    ∃ c tail, item.text = c :: tail := by
  obtain ⟨form, text⟩ := item
  rcases h with lexeme | residue
  · exact lexeme.exists_cons
  · cases residue <;> exact ⟨_, _, rfl⟩

/-- **Cutting is determined by form and boundary.**  An item and a text behind it
are what a text is cut into exactly if the two make up the text, the item is
well-formed, and it stops before what is behind it. -/
theorem cut_eq_iff {c : Char} {rest after : List Char} {item : Item} :
    cut c rest = (item, after) ↔
      item.WellFormed ∧ item.StopsBefore after ∧ item.text ++ after = c :: rest := by
  constructor
  · intro h
    have wellFormed := wellFormed_cut c rest
    have stops := stopsBefore_cut c rest
    have whole := cut_append c rest
    rw [h] at wellFormed stops whole
    exact ⟨wellFormed, stops, whole⟩
  · rintro ⟨wellFormed, stops, whole⟩
    obtain ⟨form, text⟩ := item
    obtain ⟨d, tail, rfl⟩ := wellFormed.exists_cons
    obtain ⟨rfl, rfl⟩ := List.cons.inj whole
    rcases wellFormed with lexeme | residue
    · exact cut_eq_of_lexeme lexeme stops
    · cases residue with
      | openString unmarked =>
        obtain rfl : after = [] := stops
        show cut '"' (tail ++ []) = _
        rw [List.append_nil, cut_openString unmarked]
      | strayCharacter foreign => exact cut_foreign foreign

end Item

/-- **An item in front of a text is its first item** as soon as it stops before it. -/
theorem items_append {item : Item} {after : List Char} (wellFormed : item.WellFormed)
    (stops : item.StopsBefore after) : items (item.text ++ after) = item :: items after := by
  obtain ⟨c, tail, same⟩ := wellFormed.exists_cons
  have first : Item.cut c (tail ++ after) = (item, after) :=
    Item.cut_eq_iff.mpr ⟨wellFormed, stops, by rw [same, List.cons_append]⟩
  rw [same, List.cons_append, items_cons, first]

/-- Every item can stand at the end of a text. -/
@[simp] theorem Item.stopsBefore_nil (item : Item) : item.StopsBefore [] := by
  obtain ⟨form, text⟩ := item
  cases form <;> simp [StopsBefore]

/-- **Items see little of what is behind them.**  An item that stops before a text also stops
before another one if it finds there what it has seen before, or what it would stop before: at
the first place, and, if it is a number without a fraction, behind a point. -/
theorem Item.StopsBefore.of_seen {item : Item} {after after' : List Char}
    (stops : item.StopsBefore after)
    (first : ∀ c, after'.head? = some c → after.head? = some c ∨ item.StopsBefore [c])
    (second : item.form = .number → '.' ∉ item.text → ∀ c rest, after' = '.' :: c :: rest →
      (∃ rest, after = '.' :: c :: rest) ∨ isDigit c = false) :
    item.StopsBefore after' := by
  obtain ⟨form, text⟩ := item
  cases form with
  | symbol kind =>
    refine ⟨fun slash head => ?_, fun alone head => ?_⟩
    · rcases first _ head with seen | stops'
      · exact stops.1 slash seen
      · exact stops'.1 slash rfl
    · rcases first _ head with seen | stops'
      · exact stops.2 alone seen
      · exact stops'.2 alone rfl
  | number =>
    refine ⟨fun c head => ?_, fun whole c rest same => ?_⟩
    · rcases first c head with seen | stops'
      · exact stops.1 c seen
      · exact stops'.1 c rfl
    · rcases second rfl whole c rest same with ⟨rest', seen⟩ | noDigit
      · exact stops.2 whole c rest' seen
      · exact noDigit
  | word | comment =>
    intro c head
    rcases first c head with seen | stops'
    · exact stops c seen
    · exact stops' c rfl
  | openString =>
    obtain rfl : after = [] := stops
    cases after' with
    | nil => rfl
    | cons c rest =>
      rcases first c rfl with seen | stops'
      · cases seen
      · cases stops'
  | string | blank | lineBreak | strayCharacter => trivial

/-- **Every item stops before a space or a line feed**, open strings apart, and comments in front
of a space. -/
theorem Item.stopsBefore_separator {item : Item} {c : Char} (separates : c = ' ' ∨ c = '\n')
    (closed : item.form ≠ .openString) (oneLine : item.form = .comment → c = '\n') :
    item.StopsBefore [c] := by
  obtain ⟨form, text⟩ := item
  cases form with
  | symbol kind =>
    rcases separates with rfl | rfl
    · exact ⟨fun _ => by decide, fun _ => by decide⟩
    · exact ⟨fun _ => by decide, fun _ => by decide⟩
  | number =>
    refine ⟨fun d head => ?_, fun _ d rest same => ?_⟩
    · obtain rfl := Option.some.inj head
      rcases separates with rfl | rfl <;> rfl
    · cases (List.cons.inj same).2
  | word =>
    intro d head
    obtain rfl := Option.some.inj head
    rcases separates with rfl | rfl <;> rfl
  | comment =>
    intro d head
    obtain rfl := Option.some.inj head
    exact oneLine rfl
  | openString => exact absurd rfl closed
  | string | blank | lineBreak | strayCharacter => trivial

/-- A lexeme that stands alone is cut off whole. -/
theorem Lexeme.cut_eq {form : ItemForm} {c : Char} {tail : List Char}
    (lexeme : Lexeme form (c :: tail)) : Item.cut c tail = (⟨form, c :: tail⟩, []) := by
  have whole := Item.cut_eq_of_lexeme lexeme (Item.stopsBefore_nil _)
  rwa [List.append_nil] at whole

/-- No text has two forms. -/
theorem Lexeme.form_unique {form other : ItemForm} {text : List Char}
    (lexeme : Lexeme form text) (lexeme' : Lexeme other text) : form = other := by
  obtain ⟨c, tail, rfl⟩ := lexeme.exists_cons
  have cut := lexeme.cut_eq
  rw [lexeme'.cut_eq] at cut
  exact (congrArg (·.1.form) cut).symm

/-- Every item of a text is well-formed. -/
theorem wellFormed_of_mem_items {source : List Char} {item : Item} (mem : item ∈ items source) :
    item.WellFormed := by
  fun_induction items source with
  | case1 => cases mem
  | case2 c rest ih =>
    rcases List.mem_cons.mp mem with rfl | mem
    · exact Item.wellFormed_cut c rest
    · exact ih mem

end LoxScan
