import LoxScan.Proofs.WholeToken

/-!
# When tokens need space between them

Texts that are one token each, written one after the other with gaps of separators
between them, scan to the same tokens again unless two or three of them that touch
clash.  `Clash` lists the ways in which they can, and there are no others.

Both directions go through the boundary of items.  A lexeme does not clash with what
follows exactly if it can stop before it (`stopsBefore_iff`).  Without clashes, each
lexeme therefore is the next item, one after the other.  With a clash, the item that
begins at the lexeme is a longer one, and it either is another token or takes up
characters that are then missing from the tokens.

## Main Definitions

* `Gap`, `SpacedLexeme` — a text of separators; one token and the gap behind it
* `joined` — the text that spaced lexemes make up
* `Clash` — the first of some spaced lexemes clashes with those behind it
-/

namespace LoxScan

/-- A possibly empty text of separators. -/
structure Gap where
  text : List Char
  separators : ∀ c ∈ text, Separator c

/-- A text that is one token, and the gap behind it. -/
structure SpacedLexeme where
  text : List Char
  whole : ScansWhole text
  gap : Gap

/-- The text that spaced lexemes make up. -/
def joined (parts : List SpacedLexeme) : List Char :=
  parts.flatMap fun part => part.text ++ part.gap.text

/-- **The first of some spaced lexemes clashes with those behind it.**  It does only if
it touches the next one, and then a word clashes with a word or a number, a number
with a number, a comparison or an equals sign with what begins with an equals sign, and
a slash with a slash.  A number without a fraction clashes with a point that touches
another number. -/
inductive Clash : List SpacedLexeme → Prop where
  | word {first second : SpacedLexeme} {more : List SpacedLexeme} (touch : first.gap.text = [])
      (word : Lexeme .word first.text)
      (next : Lexeme .word second.text ∨ Lexeme .number second.text) :
      Clash (first :: second :: more)
  | number {first second : SpacedLexeme} {more : List SpacedLexeme}
      (touch : first.gap.text = []) (number : Lexeme .number first.text)
      (next : Lexeme .number second.text) : Clash (first :: second :: more)
  | equals {first second : SpacedLexeme} {more : List SpacedLexeme}
      (touch : first.gap.text = []) (sign : first.text ∈ [['!'], ['='], ['<'], ['>']])
      (next : second.text = ['='] ∨ second.text = ['=', '=']) : Clash (first :: second :: more)
  | slash {first second : SpacedLexeme} {more : List SpacedLexeme} (touch : first.gap.text = [])
      (slash : first.text = ['/']) (next : second.text = ['/']) : Clash (first :: second :: more)
  | fraction {first second third : SpacedLexeme} {more : List SpacedLexeme}
      (touch : first.gap.text = []) (number : Lexeme .number first.text)
      (whole : '.' ∉ first.text) (point : second.text = ['.']) (touch' : second.gap.text = [])
      (next : Lexeme .number third.text) : Clash (first :: second :: third :: more)

theorem joined_cons (part : SpacedLexeme) (more : List SpacedLexeme) :
    joined (part :: more) = part.text ++ (part.gap.text ++ joined more) := by
  rw [joined, List.flatMap_cons, List.append_assoc]
  rfl

/-- A spaced lexeme is a lexeme of a token's form. -/
theorem SpacedLexeme.exists_lexeme (part : SpacedLexeme) :
    ∃ form c tail, form.isToken = true ∧ part.text = c :: tail ∧ Lexeme form (c :: tail) := by
  obtain ⟨form, isToken, lexeme⟩ := scansWhole_iff.mp part.whole
  obtain ⟨c, tail, same⟩ := lexeme.exists_cons
  exact ⟨form, c, tail, isToken, same, same ▸ lexeme⟩

/-! ## What touches a lexeme -/

/-- If a gap and spaced lexemes begin with something else than a separator, the gap is
empty and the first lexeme begins with it. -/
theorem exists_of_head?_joined {gap : Gap} {parts : List SpacedLexeme} {c : Char}
    (head : (gap.text ++ joined parts).head? = some c) (notSeparator : ¬ Separator c) :
    gap.text = [] ∧ ∃ form part tail more, parts = part :: more ∧ part.text = c :: tail ∧
      form.isToken = true ∧ Lexeme form (c :: tail) := by
  have touch : gap.text = [] := by
    cases same : gap.text with
    | nil => rfl
    | cons d rest =>
      -- a gap that is not empty begins with a separator
      rw [same] at head
      obtain rfl : d = c := Option.some.inj head
      have mem : d ∈ gap.text := by
        rw [same]
        exact List.mem_cons_self
      exact absurd (gap.separators d mem) notSeparator
  refine ⟨touch, ?_⟩
  rw [touch, List.nil_append] at head
  cases parts with
  | nil => cases head
  | cons part more =>
    obtain ⟨form, d, tail, isToken, same, lexeme⟩ := part.exists_lexeme
    rw [joined_cons, same] at head
    obtain rfl : d = c := Option.some.inj head
    exact ⟨form, part, tail, more, rfl, same, isToken, lexeme⟩

/-- Where a lexeme touches the next one, the text behind it begins as the next one does. -/
theorem head?_joined {gap : Gap} {part : SpacedLexeme} {more : List SpacedLexeme} {c : Char}
    {tail : List Char} (touch : gap.text = []) (same : part.text = c :: tail) :
    (gap.text ++ joined (part :: more)).head? = some c := by
  rw [touch, joined_cons, same]
  rfl

/-- If a gap and spaced lexemes begin with a digit, the first lexeme is a number. -/
theorem exists_number_of_head?_joined {gap : Gap} {parts : List SpacedLexeme} {c : Char}
    (head : (gap.text ++ joined parts).head? = some c) (digit : isDigit c = true) :
    gap.text = [] ∧ ∃ part more, parts = part :: more ∧ Lexeme .number part.text := by
  have character : isWordCharacter c = true := by simp [isWordCharacter, digit]
  obtain ⟨touch, form, part, tail, more, rfl, same, -, lexeme⟩ :=
    exists_of_head?_joined head (not_separator_of_isWordCharacter character)
  obtain rfl := lexeme.isDigit_iff_number.mp digit
  exact ⟨touch, part, more, rfl, same ▸ lexeme⟩

/-- If a gap and spaced lexemes begin with a word character, the first lexeme is a word
or a number. -/
theorem exists_word_or_number_of_head?_joined {gap : Gap} {parts : List SpacedLexeme} {c : Char}
    (head : (gap.text ++ joined parts).head? = some c) (character : isWordCharacter c = true) :
    gap.text = [] ∧ ∃ part more, parts = part :: more ∧
      (Lexeme .word part.text ∨ Lexeme .number part.text) := by
  obtain ⟨touch, form, part, tail, more, rfl, same, -, lexeme⟩ :=
    exists_of_head?_joined head (not_separator_of_isWordCharacter character)
  refine ⟨touch, part, more, rfl, ?_⟩
  rw [same]
  rw [isWordCharacter, Bool.or_eq_true] at character
  rcases character with start | digit
  · obtain rfl := lexeme.isWordStart_iff_word.mp start
    exact .inl lexeme
  · obtain rfl := lexeme.isDigit_iff_number.mp digit
    exact .inr lexeme

variable {form : ItemForm} {part : SpacedLexeme} {more : List SpacedLexeme}

/-- **A lexeme that cannot stop before what follows clashes with it.** -/
theorem clash_of_not_stopsBefore (isToken : form.isToken = true) (lexeme : Lexeme form part.text)
    (longer : ¬ Item.StopsBefore ⟨form, part.text⟩ (part.gap.text ++ joined more)) :
    Clash (part :: more) := by
  cases form with
  | symbol kind =>
    have either : (kind = .slash ∧ (part.gap.text ++ joined more).head? = some '/') ∨
        (kind ∈ comparisons.map (·.2.2) ∧ (part.gap.text ++ joined more).head? = some '=') := by
      refine Classical.byContradiction fun neither => longer ⟨?_, ?_⟩
      · intro slash head
        exact neither (.inl ⟨slash, head⟩)
      · intro alone head
        exact neither (.inr ⟨alone, head⟩)
    rcases either with ⟨rfl, head⟩ | ⟨alone, head⟩
    · obtain ⟨touch, other, next, tail, rest, rfl, same, isToken', lexeme'⟩ :=
        exists_of_head?_joined head (by decide)
      obtain rfl := lexeme'.eq_slash isToken'
      exact .slash touch lexeme.eq_of_slash same
    · obtain ⟨touch, other, next, tail, rest, rfl, same, -, lexeme'⟩ :=
        exists_of_head?_joined head (by decide)
      refine .equals touch (lexeme.mem_signs alone) ?_
      rcases lexeme'.eq_equals with rfl | rfl
      · exact .inl same
      · exact .inr same
  | string => exact absurd trivial longer
  | number =>
    have either : (∃ c, (part.gap.text ++ joined more).head? = some c ∧ isDigit c = true) ∨
        ('.' ∉ part.text ∧ ∃ c rest,
          part.gap.text ++ joined more = '.' :: c :: rest ∧ isDigit c = true) := by
      refine Classical.byContradiction fun neither => longer ⟨?_, ?_⟩
      · intro c head
        exact Bool.eq_false_iff.mpr fun digit => neither (.inl ⟨c, head, digit⟩)
      · intro whole c rest same
        exact Bool.eq_false_iff.mpr fun digit => neither (.inr ⟨whole, c, rest, same, digit⟩)
    rcases either with ⟨c, head, digit⟩ | ⟨whole, c, behind, same, digit⟩
    · obtain ⟨touch, next, rest, rfl, number⟩ := exists_number_of_head?_joined head digit
      exact .number touch lexeme number
    · -- a point counts only if a digit stands right behind it, so three lexemes touch
      obtain ⟨touch, other, point, tail, rest, rfl, samePoint, -, lexeme'⟩ :=
        exists_of_head?_joined (congrArg List.head? same) (by decide)
      obtain rfl := lexeme'.eq_point
      rw [touch, joined_cons, samePoint] at same
      obtain ⟨touch', next, more, rfl, number⟩ :=
        exists_number_of_head?_joined (congrArg List.head? (List.cons.inj same).2) digit
      exact .fraction touch lexeme whole samePoint touch' number
  | word =>
    have next : ∃ c, (part.gap.text ++ joined more).head? = some c ∧ isWordCharacter c = true := by
      refine Classical.byContradiction fun neither => longer ?_
      intro c head
      exact Bool.eq_false_iff.mpr fun character => neither ⟨c, head, character⟩
    obtain ⟨c, head, character⟩ := next
    obtain ⟨touch, next, rest, rfl, found⟩ := exists_word_or_number_of_head?_joined head character
    exact .word touch lexeme found
  | blank | lineBreak | comment | strayCharacter | openString => cases isToken

/-- **A lexeme that clashes with what follows cannot stop before it.** -/
theorem not_stopsBefore_of_clash (lexeme : Lexeme form part.text) (clash : Clash (part :: more)) :
    ¬ Item.StopsBefore ⟨form, part.text⟩ (part.gap.text ++ joined more) := by
  intro stops
  cases clash with
  | @word _ second _ touch word next =>
    obtain rfl := lexeme.form_unique word
    obtain ⟨c, tail, same, character⟩ :
        ∃ c tail, second.text = c :: tail ∧ isWordCharacter c = true := by
      rcases next with next | next
      · obtain ⟨c, tail, same, start⟩ := next.exists_wordStart_cons
        exact ⟨c, tail, same, by simp [isWordCharacter, start]⟩
      · obtain ⟨c, tail, same, digit⟩ := next.exists_digit_cons
        exact ⟨c, tail, same, by simp [isWordCharacter, digit]⟩
    have outside := stops c (head?_joined touch same)
    rw [outside] at character
    cases character
  | @number _ second _ touch number next =>
    obtain rfl := lexeme.form_unique number
    obtain ⟨c, tail, same, digit⟩ := next.exists_digit_cons
    have outside := stops.1 c (head?_joined touch same)
    rw [digit] at outside
    cases outside
  | @equals _ second _ touch sign next =>
    obtain ⟨kind, alone, lexeme'⟩ := Lexeme.exists_alone sign
    obtain rfl := lexeme.form_unique lexeme'
    refine stops.2 alone ?_
    rcases next with next | next
    all_goals exact head?_joined touch next
  | @slash _ second _ touch slash next =>
    rw [slash] at lexeme
    obtain rfl := lexeme.form_unique .slash
    exact stops.1 rfl (head?_joined touch next)
  | @fraction _ second third rest touch number whole point touch' next =>
    obtain rfl := lexeme.form_unique number
    obtain ⟨c, tail, same, digit⟩ := next.exists_digit_cons
    have behind : part.gap.text ++ joined (second :: third :: rest) =
        '.' :: c :: (tail ++ (third.gap.text ++ joined rest)) := by
      rw [touch, joined_cons, point, touch', joined_cons, same]
      rfl
    have outside := stops.2 whole c _ behind
    rw [digit] at outside
    cases outside

/-! ## Gaps and tokens -/

/-- A gap in front of a text makes no tokens and no faults. -/
theorem Gap.silent (gap : Gap) (after : List Char) :
    plainTokens (items (gap.text ++ after)) = plainTokens (items after) ∧
      faults (items (gap.text ++ after)) = faults (items after) := by
  obtain ⟨text, separators⟩ := gap
  induction text with
  | nil => exact ⟨rfl, rfl⟩
  | cons c rest ih =>
    rw [List.forall_mem_cons] at separators
    obtain ⟨form, cut, silent⟩ := separators.1.cut_eq (rest ++ after)
    show plainTokens (items (c :: (rest ++ after))) = _ ∧ faults (items (c :: (rest ++ after))) = _
    rw [items_cons, cut]
    rcases silent with rfl | rfl
    all_goals exact ih separators.2

/-- A spaced lexeme is one token. -/
theorem SpacedLexeme.exists_token (part : SpacedLexeme) :
    ∃ token, plainTokens (items part.text) = [token] ∧ token.lexeme = part.text := by
  obtain ⟨form, isToken, lexeme⟩ := scansWhole_iff.mp part.whole
  have wellFormed : Item.WellFormed ⟨form, part.text⟩ := .inl lexeme
  obtain ⟨token, found, same, -⟩ := Item.exists_token wellFormed isToken 0
  refine ⟨token, ?_, same⟩
  rw [lexeme.items_eq, plainTokens_cons, found]
  rfl

/-- The tokens of spaced lexemes. -/
def spacedTokens (parts : List SpacedLexeme) : List Token :=
  parts.flatMap fun part => plainTokens (items part.text)

theorem spacedTokens_cons (part : SpacedLexeme) (more : List SpacedLexeme) :
    spacedTokens (part :: more) = plainTokens (items part.text) ++ spacedTokens more := rfl

/-- **Without clashes, each lexeme is the next item.** -/
theorem plainTokens_joined_of_no_clash {parts : List SpacedLexeme}
    (apart : ∀ i, ¬ Clash (parts.drop i)) :
    plainTokens (items (joined parts)) = spacedTokens parts ∧
      faults (items (joined parts)) = [] := by
  induction parts with
  | nil => simp [joined, spacedTokens, plainTokens, faults]
  | cons part more ih =>
    obtain ⟨form, isToken, lexeme⟩ := scansWhole_iff.mp part.whole
    have stops : Item.StopsBefore ⟨form, part.text⟩ (part.gap.text ++ joined more) := by
      refine Classical.byContradiction fun longer => ?_
      exact apart 0 (clash_of_not_stopsBefore isToken lexeme longer)
    have wellFormed : Item.WellFormed ⟨form, part.text⟩ := .inl lexeme
    have first := items_append wellFormed stops
    obtain ⟨tokens, clean⟩ := part.gap.silent (joined more)
    obtain ⟨tokens', clean'⟩ := ih fun i => apart (i + 1)
    rw [joined_cons, first]
    constructor
    · rw [plainTokens_cons, tokens, tokens', spacedTokens_cons, lexeme.items_eq, plainTokens_cons,
        List.append_assoc]
      rfl
    · rw [faults, List.filterMap_cons, ItemForm.fault?_eq_none isToken]
      exact clean.trans clean'

/-! ## What a clash does -/

/-- The texts of the tokens are among the texts of the items. -/
theorem flatMap_lexeme_sublist (parts : List Item) :
    ((plainTokens parts).flatMap Token.lexeme).Sublist (parts.flatMap Item.text) := by
  induction parts with
  | nil => exact .slnil
  | cons item rest ih =>
    rw [plainTokens_cons, List.flatMap_append, List.flatMap_cons]
    refine List.Sublist.append ?_ ih
    cases found : item.token? 0 with
    | none => exact List.nil_sublist _
    | some token =>
      rw [Option.toList_some, List.flatMap_singleton, Item.lexeme_of_token? found]

theorem flatMap_lexeme_spacedTokens (parts : List SpacedLexeme) :
    (spacedTokens parts).flatMap Token.lexeme = parts.flatMap SpacedLexeme.text := by
  induction parts with
  | nil => rfl
  | cons part more ih =>
    obtain ⟨token, alone, same⟩ := part.exists_token
    rw [spacedTokens_cons, List.flatMap_append, alone, List.flatMap_singleton, same,
      List.flatMap_cons, ih]

/-- Spaced lexemes have as many characters other than separators as their texts. -/
theorem countP_joined (parts : List SpacedLexeme) :
    (joined parts).countP (fun c => ¬ Separator c) =
      (parts.flatMap SpacedLexeme.text).countP (fun c => ¬ Separator c) := by
  induction parts with
  | nil => rfl
  | cons part more ih =>
    have none_counted : part.gap.text.countP (fun c => ¬ Separator c) = 0 := by
      refine List.countP_eq_zero.mpr ?_
      intro c mem
      simpa using part.gap.separators c mem
    rw [joined_cons, List.flatMap_cons, List.countP_append, List.countP_append, List.countP_append,
      none_counted, ih, Nat.zero_add]

/-- **Only the first lexeme itself can be the first item** if the tokens are those of the
lexemes.  A first item that makes no token would take up characters that the tokens have, and
one that makes a token has the text of the lexeme. -/
theorem cut_joined {form : ItemForm} {part : SpacedLexeme} {more : List SpacedLexeme} {c : Char}
    {tail : List Char} (isToken : form.isToken = true) (same : part.text = c :: tail)
    (lexeme : Lexeme form (c :: tail))
    (tokens : plainTokens (items (joined (part :: more))) = spacedTokens (part :: more)) :
    Item.cut c (tail ++ (part.gap.text ++ joined more)) =
      (⟨form, c :: tail⟩, part.gap.text ++ joined more) := by
  obtain ⟨item, after, first⟩ :
      ∃ item after, Item.cut c (tail ++ (part.gap.text ++ joined more)) = (item, after) :=
    ⟨_, _, rfl⟩
  obtain ⟨wellFormed, -, whole⟩ := Item.cut_eq_iff.mp first
  have longer : c :: tail <+: item.text := by
    have taken := Item.prefix_cut lexeme (part.gap.text ++ joined more)
    rwa [first] at taken
  have text : joined (part :: more) = c :: (tail ++ (part.gap.text ++ joined more)) := by
    rw [joined_cons, same, List.cons_append]
  rw [text, items_cons, first, plainTokens_cons] at tokens
  cases found : item.token? 0 with
  | none =>
    -- the tokens have every character of the text that is no separator, and all of them
    -- would have to be behind the item
    rw [found, Option.toList_none, List.nil_append] at tokens
    have among := flatMap_lexeme_sublist (items after)
    rw [tokens, flatMap_lexeme_spacedTokens, flatMap_text_items] at among
    have fewer := among.countP_le (p := fun c => ¬ Separator c)
    rw [← countP_joined, text, ← whole, List.countP_append] at fewer
    have mem : c ∈ item.text := longer.subset List.mem_cons_self
    have counted : 0 < item.text.countP (fun c => ¬ Separator c) :=
      List.countP_pos_iff.mpr ⟨c, mem, by simpa using lexeme.not_separator isToken⟩
    omega
  | some token =>
    obtain ⟨token', alone, same'⟩ := part.exists_token
    rw [found, spacedTokens_cons, alone] at tokens
    obtain rfl : token = token' := (List.cons.inj tokens).1
    rw [Item.lexeme_of_token? found, same] at same'
    have lexeme' := wellFormed.lexeme (Item.isToken_of_token? found)
    obtain ⟨other, text'⟩ := item
    obtain rfl : text' = c :: tail := same'
    obtain rfl := lexeme.form_unique lexeme'
    have behind : after = part.gap.text ++ joined more := by
      rw [← List.cons_append] at whole
      exact List.append_cancel_left whole
    rw [first, behind]

/-- **Tokens that are those of the lexemes leave no room for a clash.** -/
theorem no_clash_of_plainTokens_joined {parts : List SpacedLexeme}
    (tokens : plainTokens (items (joined parts)) = spacedTokens parts) (i : Nat) :
    ¬ Clash (parts.drop i) := by
  induction parts generalizing i with
  | nil =>
    rw [List.drop_nil]
    rintro ⟨⟩
  | cons part more ih =>
    obtain ⟨form, c, tail, isToken, same, lexeme⟩ := part.exists_lexeme
    have cut := cut_joined isToken same lexeme tokens
    cases i with
    | zero =>
      have stops := Item.stopsBefore_cut c (tail ++ (part.gap.text ++ joined more))
      rw [cut, ← same] at stops
      exact fun clash => not_stopsBefore_of_clash (same ▸ lexeme) clash stops
    | succ i =>
      refine ih ?_ i
      rw [joined_cons, same, List.cons_append, items_cons, cut, plainTokens_cons,
        (part.gap.silent (joined more)).1, spacedTokens_cons, same, lexeme.items_eq,
        plainTokens_cons, List.append_assoc] at tokens
      exact List.append_cancel_left tokens

/-! ## Scanning spaced lexemes -/

/-- **A text scans to some lexemes**: nothing is reported, and the tokens are those that
scanning the lexemes alone delivers, up to their lines, and the one that marks the
end. -/
def ScansTo (text : List Char) (lexemes : List (List Char)) : Prop :=
  (Scanner.ofSource text).scanTokens.notices.filterMap Notice.report? = [] ∧
    (Scanner.ofSource text).scanTokens.tokens.map Token.unplaced =
      (lexemes.flatMap fun lexeme =>
        (Scanner.ofSource lexeme).scanTokens.tokens.dropLast.map Token.unplaced) ++
          [Token.endOfInput 0]

theorem scansTo_iff {text : List Char} {lexemes : List (List Char)} :
    ScansTo text lexemes ↔ faults (items text) = [] ∧
      plainTokens (items text) = lexemes.flatMap fun lexeme => plainTokens (items lexeme) := by
  simp only [ScansTo, Scanner.reports_eq_nil_iff, Scanner.map_unplaced_scanTokens,
    Scanner.map_unplaced_dropLast_scanTokens, List.append_left_inj]

/-- **Spaced lexemes scan to themselves exactly if none of them clashes with what
follows.** -/
theorem scansTo_joined_iff (lead : Gap) (parts : List SpacedLexeme) :
    ScansTo (lead.text ++ joined parts) (parts.map SpacedLexeme.text) ↔
      ∀ i, ¬ Clash (parts.drop i) := by
  obtain ⟨tokens, clean⟩ := lead.silent (joined parts)
  rw [scansTo_iff, tokens, clean, List.flatMap_map]
  constructor
  · rintro ⟨-, same⟩
    exact no_clash_of_plainTokens_joined same
  · intro apart
    exact (plainTokens_joined_of_no_clash apart).symm

/-! ## Printing -/

/-- A clash needs lexemes that touch. -/
theorem Clash.touch {part : SpacedLexeme} {more : List SpacedLexeme}
    (clash : Clash (part :: more)) : part.gap.text = [] ∧ more ≠ [] := by
  cases clash with
  | word touch | number touch | equals touch | slash touch | fraction touch =>
    exact ⟨touch, List.cons_ne_nil _ _⟩

/-- A single space. -/
def Gap.space : Gap := ⟨[' '], List.forall_mem_singleton.mpr (.inl rfl)⟩

/-- No space. -/
def Gap.none : Gap := ⟨[], fun _ mem => (List.not_mem_nil mem).elim⟩

/-- Lexemes joined with single spaces, with any gap behind the last of them, are spaced
lexemes without clashes. -/
theorem exists_joined_eq_intercalate (last : Gap) (lexemes : List (List Char))
    (whole : ∀ lexeme ∈ lexemes, ScansWhole lexeme) :
    ∃ parts : List SpacedLexeme, parts.map SpacedLexeme.text = lexemes ∧
      joined parts = [' '].intercalate lexemes ++ (if lexemes = [] then [] else last.text) ∧
      ∀ i, ¬ Clash (parts.drop i) := by
  induction lexemes with
  | nil =>
    refine ⟨[], rfl, rfl, ?_⟩
    intro i clash
    rw [List.drop_nil] at clash
    cases clash
  | cons lexeme rest ih =>
    rw [List.forall_mem_cons] at whole
    obtain ⟨parts, texts, text, apart⟩ := ih whole.2
    cases rest with
    | nil =>
      obtain rfl := List.map_eq_nil_iff.mp texts
      refine ⟨[⟨lexeme, whole.1, last⟩], rfl, by simp [joined], ?_⟩
      intro i clash
      cases i with
      | zero => exact clash.touch.2 rfl
      | succ i => exact apart i (by simpa using clash)
    | cons next more =>
      refine ⟨⟨lexeme, whole.1, Gap.space⟩ :: parts, congrArg _ texts, ?_, ?_⟩
      · rw [joined_cons, text]
        simp [Gap.space, List.intercalate]
      · intro i clash
        cases i with
        | zero => exact List.cons_ne_nil _ _ clash.touch.1
        | succ i => exact apart i clash

/-- An empty text at the end of a list adds a space to the list joined with spaces. -/
theorem intercalate_concat_nil (lexemes : List (List Char)) :
    [' '].intercalate (lexemes ++ [[]]) =
      [' '].intercalate lexemes ++ (if lexemes = [] then [] else [' ']) := by
  induction lexemes with
  | nil => rfl
  | cons lexeme rest ih =>
    cases rest with
    | nil => simp [List.intercalate]
    | cons next more =>
      simp only [List.intercalate, List.cons_append, List.intersperse_cons_cons, List.flatten_cons,
        List.cons_ne_nil, if_false] at ih ⊢
      rw [ih]
      simp

/-- **A text rescans to a source**: nothing is reported, and the tokens are those of the
source up to their lines. -/
def Rescans (text source : List Char) : Prop :=
  (Scanner.ofSource text).scanTokens.notices.filterMap Notice.report? = [] ∧
    (Scanner.ofSource text).scanTokens.tokens.map Token.unplaced =
      (Scanner.ofSource source).scanTokens.tokens.map Token.unplaced

/-- A token of a source is one token when its text is scanned alone. -/
theorem scansWhole_of_mem {source : List Char} {token : Token}
    (mem : token ∈ plainTokens (items source)) :
    ScansWhole token.lexeme ∧ plainTokens (items token.lexeme) = [token] := by
  obtain ⟨item, present, found⟩ := List.mem_filterMap.mp mem
  have isToken := Item.isToken_of_token? found
  have lexeme := (wellFormed_of_mem_items present).lexeme isToken
  rw [Item.lexeme_of_token? found]
  refine ⟨scansWhole_iff.mpr ⟨_, isToken, lexeme⟩, ?_⟩
  rw [lexeme.items_eq, plainTokens_cons, found]
  rfl

/-- The texts of the tokens of a source, joined with single spaces, rescan to it. -/
theorem rescans_intercalate (last : Gap) (source : List Char) :
    Rescans ([' '].intercalate ((plainTokens (items source)).map Token.lexeme) ++
      (if (plainTokens (items source)).map Token.lexeme = [] then [] else last.text)) source := by
  have whole : ∀ lexeme ∈ (plainTokens (items source)).map Token.lexeme, ScansWhole lexeme := by
    intro lexeme mem
    obtain ⟨token, present, rfl⟩ := List.mem_map.mp mem
    exact (scansWhole_of_mem present).1
  obtain ⟨parts, texts, text, apart⟩ := exists_joined_eq_intercalate last _ whole
  obtain ⟨clean, tokens⟩ := scansTo_iff.mp ((scansTo_joined_iff Gap.none parts).mpr apart)
  have each : (plainTokens (items source)).flatMap (fun token => plainTokens (items token.lexeme)) =
      plainTokens (items source) := by
    rw [List.flatMap_congr fun token mem => (scansWhole_of_mem mem).2, List.flatMap_singleton']
  rw [texts, List.flatMap_map, each] at tokens
  rw [← text]
  refine ⟨(Scanner.reports_eq_nil_iff _).mpr clean, ?_⟩
  rw [Scanner.map_unplaced_scanTokens, Scanner.map_unplaced_scanTokens]
  exact congrArg (· ++ _) tokens

/-- **Printing and rescanning.**  Texts that are one token each, written one after the
other with gaps of separators between them, scan without any report to the tokens of
the texts exactly if none of them clashes with what follows.  In particular the texts of
the tokens of any source, joined with single spaces, rescan to it, whether or not the
empty text of the last token is one of them. -/
theorem spacing_exact :
    (∀ (lead : Gap) (parts : List SpacedLexeme),
      ScansTo (lead.text ++ joined parts) (parts.map SpacedLexeme.text) ↔
        ∀ i, ¬ Clash (parts.drop i)) ∧
      ∀ source : List Char,
        Rescans
            ([' '].intercalate
              ((Scanner.ofSource source).scanTokens.tokens.dropLast.map Token.lexeme)) source ∧
          Rescans
            ([' '].intercalate
              ((Scanner.ofSource source).scanTokens.tokens.map Token.lexeme)) source := by
  refine ⟨scansTo_joined_iff, ?_⟩
  intro source
  have unlined : ∀ tokens : List Token,
      (tokens.map Token.unplaced).map Token.lexeme = tokens.map Token.lexeme := by
    intro tokens
    rw [List.map_map]
    rfl
  constructor
  · have printed := rescans_intercalate Gap.none source
    rw [← unlined, Scanner.map_unplaced_dropLast_scanTokens]
    simpa [Gap.none] using printed
  · have printed := rescans_intercalate Gap.space source
    rw [← unlined, Scanner.map_unplaced_scanTokens, List.map_append]
    show Rescans ([' '].intercalate (_ ++ [[]])) source
    rw [intercalate_concat_nil]
    exact printed

/-- A number, a point and a number that touch are not what they scan to, although no
two neighbours of the three are a word or two numbers. -/
theorem spacing_exact_fraction : ¬ ScansTo ['1', '.', '5'] [['1'], ['.'], ['5']] := by
  have one : Lexeme .number ['1'] := .integer (List.forall_mem_singleton.mpr (by decide))
  have point : Lexeme (.symbol .dot) ['.'] := .punctuation (by decide)
  have five : Lexeme .number ['5'] := .integer (List.forall_mem_singleton.mpr (by decide))
  have touching := spacing_exact.1 Gap.none
    [⟨_, scansWhole_iff.mpr ⟨_, rfl, one⟩, Gap.none⟩,
      ⟨_, scansWhole_iff.mpr ⟨_, rfl, point⟩, Gap.none⟩,
      ⟨_, scansWhole_iff.mpr ⟨_, rfl, five⟩, Gap.none⟩]
  have whole : '.' ∉ ['1'] := by decide
  exact fun scans => touching.mp scans 0 (.fraction rfl one whole rfl rfl five)

end LoxScan
