import LoxScan.CommandLine.Dump
import LoxScan.Proofs.WholeToken

/-!
# The plain dump can be read

Two scans have the same plain dump only if they have the same tokens, up to the lines on which
the tokens are.

The dump cannot be split at its spaces and line feeds, for a string can have both of them inside,
and it can have a text inside that looks like other lines of a dump.  But the lines are a prefix
code: where a line begins, the name of a kind reaches up to the first space, the kind says whether
the lexeme reaches up to the next space or up to its second quotation mark, and the lexeme fixes
the rest of the line.

## Main Definitions

* `Token.Legible` — a token as scans deliver it
-/

namespace LoxScan

/-- **A token as scans deliver it**: that of a well-formed item, or the one that marks the end. -/
inductive Token.Legible : Token → Prop where
  | ofItem {item : Item} {line : Int} {token : Token} (wellFormed : item.WellFormed)
      (found : item.token? line = some token) : Legible token
  | endOfInput (line : Int) : Legible (.endOfInput line)

/-- The token of an item has some text. -/
theorem Item.WellFormed.lexeme_ne_nil {item : Item} {line : Int} {token : Token}
    (wellFormed : item.WellFormed) (found : item.token? line = some token) :
    token.lexeme ≠ [] := by
  obtain ⟨c, tail, text⟩ := wellFormed.exists_cons
  rw [Item.lexeme_of_token? found, text]
  exact List.cons_ne_nil c tail

/-- The tokens of a scan are legible. -/
theorem legible_of_mem_scan {source : List Char} {token : Token}
    (mem : token ∈ (scan source).tokens) : token.Legible := by
  rcases exists_item_of_mem_scan mem with ⟨item, mem, line, found⟩ | rfl
  · exact .ofItem (wellFormed_of_mem_items mem) found
  · exact .endOfInput _

/-! ## Where the parts of a line end -/

/-- Two texts that reach up to the first of a mark are the same if what they begin is. -/
theorem eq_of_append_mark_eq {mark : Char} {text text' after after' : List Char}
    (unmarked : mark ∉ text) (unmarked' : mark ∉ text')
    (same : text ++ mark :: after = text' ++ mark :: after') : text = text' := by
  have upTo {text after : List Char} (unmarked : mark ∉ text) :
      (text ++ mark :: after).takeWhile (· ≠ mark) = text := by
    have inside : ∀ c ∈ text, decide (c ≠ mark) = true := fun c mem =>
      decide_eq_true (ne_of_mem_of_not_mem mem unmarked)
    rw [List.takeWhile_append_of_pos inside]
    simp
  rw [← upTo unmarked, same, upTo unmarked']

/-- No kind has a space in its name. -/
theorem TokenKind.space_not_mem_name (kind : TokenKind) : ' ' ∉ kind.name.toList := by
  cases kind <;> decide

/-- **Only strings have spaces inside.** -/
theorem Lexeme.space_not_mem {form : ItemForm} {text : List Char} (lexeme : Lexeme form text)
    (isToken : form.isToken = true) (unquoted : form ≠ .string) : ' ' ∉ text := by
  have symbols : (∀ entry ∈ LoxScan.punctuation, entry.1 ≠ ' ') ∧
      ∀ entry ∈ comparisons, entry.1 ≠ ' ' := by
    decide
  have space : ¬ DigitCharacter ' ' ∧ ¬ WordStart ' ' := by decide
  cases lexeme with
  | punctuation mem => simpa using (symbols.1 _ mem).symm
  | slash => decide
  | comparison mem => simpa using (symbols.2 _ mem).symm
  | comparisonEqual mem => simpa using (symbols.2 _ mem).symm
  | comment | blank | lineBreak => cases isToken
  | string => exact absurd rfl unquoted
  | integer digits => exact fun mem => space.1 (digits ' ' mem)
  | fraction digits decimals =>
    intro mem
    rcases List.mem_append.mp mem with digit | behind
    · exact space.1 (digits ' ' digit)
    · rcases List.mem_cons.mp behind with point | decimal
      · cases point
      · exact space.1 (decimals ' ' decimal)
  | word start characters =>
    intro mem
    rcases List.mem_cons.mp mem with first | more
    · exact space.2 (first ▸ start)
    · exact (characters ' ' more).elim space.2 space.1

namespace Token.Legible

variable {token other : Token} {rest rest' : List Char}

/-- A string has all of its lexeme between two quotation marks. -/
theorem exists_inside (legible : token.Legible) (kind : token.kind = .string) :
    ∃ inside, '"' ∉ inside ∧ token.lexeme = '"' :: inside ++ ['"'] := by
  cases legible with
  | endOfInput => cases kind
  | @ofItem item _ _ wellFormed found =>
    have form := Item.form_of_string wellFormed found kind
    rw [Item.lexeme_of_token? found]
    have lexeme := wellFormed.lexeme (Item.isToken_of_token? found)
    obtain ⟨_, text⟩ := item
    obtain rfl : _ = ItemForm.string := form
    cases lexeme with
    | string unmarked => exact ⟨_, unmarked, rfl⟩

/-- Any other token has no space in its lexeme. -/
theorem space_not_mem (legible : token.Legible) (kind : token.kind ≠ .string) :
    ' ' ∉ token.lexeme := by
  cases legible with
  | endOfInput => exact List.not_mem_nil
  | @ofItem item _ _ wellFormed found =>
    have isToken := Item.isToken_of_token? found
    rw [Item.lexeme_of_token? found]
    refine (wellFormed.lexeme isToken).space_not_mem isToken fun form => kind ?_
    obtain ⟨_, text⟩ := item
    obtain rfl : _ = ItemForm.string := form
    cases found
    rfl

/-- **The kind says where the lexeme ends.** -/
theorem lexeme_eq (legible : token.Legible) (legible' : other.Legible)
    (kind : token.kind = other.kind)
    (same : token.lexeme ++ ' ' :: rest = other.lexeme ++ ' ' :: rest') :
    token.lexeme = other.lexeme := by
  by_cases string : token.kind = .string
  · obtain ⟨inside, unmarked, text⟩ := legible.exists_inside string
    obtain ⟨inside', unmarked', text'⟩ := legible'.exists_inside (kind ▸ string)
    rw [text, text'] at same ⊢
    simp only [List.cons_append, List.append_assoc, List.nil_append, List.cons.injEq,
      true_and] at same
    rw [eq_of_append_mark_eq unmarked unmarked' same]
  · exact eq_of_append_mark_eq (legible.space_not_mem string)
      (legible'.space_not_mem (kind ▸ string)) same

/-- **The lexeme fixes the token**, up to its line. -/
theorem unplaced_eq (legible : token.Legible) (legible' : other.Legible)
    (same : token.lexeme = other.lexeme) : token.unplaced = other.unplaced := by
  cases legible with
  | endOfInput =>
    cases legible' with
    | endOfInput => rfl
    | ofItem wellFormed found => exact absurd same.symm (wellFormed.lexeme_ne_nil found)
  | @ofItem item line _ wellFormed found =>
    cases legible' with
    | endOfInput => exact absurd same (wellFormed.lexeme_ne_nil found)
    | @ofItem item' line' _ wellFormed' found' =>
      have lexeme := wellFormed.lexeme (Item.isToken_of_token? found)
      have lexeme' := wellFormed'.lexeme (Item.isToken_of_token? found')
      rw [Item.lexeme_of_token? found, Item.lexeme_of_token? found'] at same
      have unplaced := item.map_unplaced_token? line
      have unplaced' := item'.map_unplaced_token? line'
      obtain ⟨form, text⟩ := item
      obtain ⟨form', text'⟩ := item'
      obtain rfl : text = text' := same
      obtain rfl := lexeme.form_unique lexeme'
      rw [found] at unplaced
      rw [found', ← unplaced] at unplaced'
      exact (Option.some.inj unplaced').symm

end Token.Legible

/-! ## Lines and dumps -/

/-- A line does not tell the line of its token. -/
theorem Token.write_unplaced (token : Token) : token.unplaced.write = token.write := rfl

/-- A token is written as the name of its kind, its lexeme and its value. -/
theorem Token.exists_write (token : Token) : ∃ value, token.write =
    token.kind.name.toList ++ ' ' :: (token.lexeme ++ ' ' :: value) := by
  refine ⟨token.literal.elim "null".toList Literal.write, ?_⟩
  rw [write]
  cases token.literal <;> simp

/-- **The lines of a dump are a prefix code.**  If two texts begin with lines of tokens and are the
same, then the tokens are the same up to their lines, and so is what is behind them. -/
theorem Token.Legible.eq_of_line_eq {token other : Token} {rest rest' : List Char}
    (legible : token.Legible) (legible' : other.Legible)
    (same : asLine token.write ++ rest = asLine other.write ++ rest') :
    token.unplaced = other.unplaced ∧ rest = rest' := by
  have unplaced : token.unplaced = other.unplaced := by
    obtain ⟨value, line⟩ := token.exists_write
    obtain ⟨value', line'⟩ := other.exists_write
    simp only [asLine, line, line', List.append_assoc, List.cons_append] at same
    have name := eq_of_append_mark_eq token.kind.space_not_mem_name
      other.kind.space_not_mem_name same
    have kind : token.kind = other.kind := by
      have named := congrArg TokenKind.ofName? (String.toList_injective name)
      rw [TokenKind.ofName?_name, TokenKind.ofName?_name] at named
      exact Option.some.inj named
    rw [name, List.append_cancel_left_eq, List.cons.injEq] at same
    exact legible.unplaced_eq legible' (legible.lexeme_eq legible' kind same.2)
  refine ⟨unplaced, ?_⟩
  rw [← token.write_unplaced, unplaced, other.write_unplaced] at same
  exact List.append_cancel_left same

/-- No line is empty. -/
theorem asLine_append_ne_nil (text rest : List Char) : asLine text ++ rest ≠ [] := by
  simp [asLine]

/-- **Equal dumps are dumps of the same tokens**, up to their lines. -/
theorem map_unplaced_eq_of_plainDump_eq {tokens tokens' : List Token}
    (legible : ∀ token ∈ tokens, token.Legible) (legible' : ∀ token ∈ tokens', token.Legible)
    (same : plainDump tokens = plainDump tokens') :
    tokens.map Token.unplaced = tokens'.map Token.unplaced := by
  induction tokens generalizing tokens' with
  | nil =>
    cases tokens' with
    | nil => rfl
    | cons other rest' => exact absurd same.symm (asLine_append_ne_nil _ _)
  | cons token rest ih =>
    cases tokens' with
    | nil => exact absurd same (asLine_append_ne_nil _ _)
    | cons other rest' =>
      rw [List.forall_mem_cons] at legible legible'
      obtain ⟨first, others⟩ := legible.1.eq_of_line_eq legible'.1 same
      rw [List.map_cons, List.map_cons, first, ih legible.2 legible'.2 others]

/-- A dump does not tell the lines of its tokens. -/
theorem plainDump_map_unplaced (tokens : List Token) :
    plainDump (tokens.map Token.unplaced) = plainDump tokens :=
  List.flatMap_map Token.unplaced _ tokens

/-- Tokens are the same up to their lines if they agree in their other three parts. -/
theorem map_unplaced_eq_iff {tokens tokens' : List Token} :
    tokens.map Token.unplaced = tokens'.map Token.unplaced ↔
      List.Forall₂
        (fun token other => token.kind = other.kind ∧ token.lexeme = other.lexeme ∧
          token.literal = other.literal) tokens tokens' := by
  rw [← List.forall₂_eq_eq_eq, List.forall₂_map_left_iff, List.forall₂_map_right_iff]
  simp [Token.unplaced]

/-- **The plain dump can be read in one way only.**  Two sources of any length have the same plain
dump exactly if their scans have the same number of tokens, and the tokens agree one by one in
their kinds, lexemes and literals. -/
theorem plainDump_unique (source source' : List Char) :
    plainDump (Scanner.ofSource source).scanTokens.tokens =
        plainDump (Scanner.ofSource source').scanTokens.tokens ↔
      List.Forall₂
        (fun token other => token.kind = other.kind ∧ token.lexeme = other.lexeme ∧
          token.literal = other.literal)
        (Scanner.ofSource source).scanTokens.tokens
        (Scanner.ofSource source').scanTokens.tokens := by
  rw [← map_unplaced_eq_iff, (Scanner.scanTokens_ofSource source).1,
    (Scanner.scanTokens_ofSource source').1]
  constructor
  · exact map_unplaced_eq_of_plainDump_eq (fun _ => legible_of_mem_scan)
      fun _ => legible_of_mem_scan
  · intro same
    rw [← plainDump_map_unplaced, same, plainDump_map_unplaced]

/-- A line of a dump inside a string is there twice, in the lexeme and in the literal. -/
example : plainDump (Scanner.ofSource "\"a\nDOT . null\"".toList).scanTokens.tokens =
    "STRING \"a\nDOT . null\" a\nDOT . null\nEOF  null\n".toList := by decide +kernel

end LoxScan
