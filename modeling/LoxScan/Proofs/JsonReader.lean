import LoxScan.Proofs.JsonText
import LoxScan.Proofs.Lexeme

/-!
# Reading JSON text

A reader for JSON text in two stages, and the proof that it finds the value of every text that
is JSON.  So no text is JSON for two values (`JsonValue.SpelledAs.unique`).

The first stage cuts a text into symbols, always at the end of the longest numeral.  The second
is a machine that takes one symbol at a time; it keeps the arrays and objects that are still
open, each with what has been read of it.  What one step does to a value is told by
`ReadingState.run_symbols`: behind the symbols of a value the machine is where that value is
complete, whatever is open around it.

## Main Definitions

* `readText` — the text inside a string
* `JsonNumeral.read?` — the parts of a numeral
* `readSymbols` — the symbols of a text
* `ReadingState.step` — what one symbol does
* `readJson` — **the value of a text**
-/

namespace LoxScan

/-! ## Strings -/

/-- A unit at the start of a text. -/
def readUnit : List Char → Option (Nat × List Char)
  | a :: b :: c :: d :: rest => (unitValue? [a, b, c, d]).map (·, rest)
  | _ => none

theorem readUnit_append {digits : List Char} {unit : Nat} (spelled : unitValue? digits = some unit)
    (rest : List Char) : readUnit (digits ++ rest) = some (unit, rest) := by
  match digits, spelled with
  | [_, _, _, _], spelled =>
    simp only [List.cons_append, List.nil_append, readUnit, spelled, Option.map]

theorem length_readUnit {text rest : List Char} {unit : Nat}
    (read : readUnit text = some (unit, rest)) : rest.length < text.length := by
  match text, read with
  | a :: b :: c :: d :: more, read =>
    obtain ⟨_, -, same⟩ := Option.map_eq_some_iff.mp read
    rw [← (Prod.mk.inj same).2]
    simp only [List.length_cons]
    omega

/-- The second unit of a surrogate pair, with the backslash in front of it. -/
def readLowUnit : List Char → Option (Nat × List Char)
  | '\\' :: 'u' :: rest => readUnit rest
  | _ => none

theorem length_readLowUnit {text rest : List Char} {unit : Nat}
    (read : readLowUnit text = some (unit, rest)) : rest.length < text.length := by
  revert read
  fun_cases readLowUnit text with
  | case1 more =>
    intro read
    have shorter := length_readUnit read
    simp only [List.length_cons]
    omega
  | case2 => exact nofun

/-- A character at the start of the inside of a string. -/
def readCharacter : List Char → Option (Char × List Char)
  | '\\' :: 'u' :: rest =>
    match readUnit rest with
    | none => none
    | some (unit, rest) =>
      if unit < 0xD800 ∨ 0xE000 ≤ unit then some (Char.ofNat unit, rest)
      else
        match readLowUnit rest with
        | none => none
        | some (low, rest) =>
          if unit < 0xDC00 ∧ 0xDC00 ≤ low ∧ low < 0xE000 then
            some (Char.ofNat (0x10000 + (unit - 0xD800) * 0x400 + (low - 0xDC00)), rest)
          else none
  | '\\' :: letter :: rest => (shortEscapes.lookup letter).map (·, rest)
  | c :: rest => if 0x20 ≤ c.toNat ∧ c ≠ '\\' then some (c, rest) else none
  | [] => none

/-- A character takes up some of the text. -/
theorem length_readCharacter {text rest : List Char} {c : Char}
    (read : readCharacter text = some (c, rest)) : rest.length < text.length := by
  revert read
  fun_cases readCharacter text with
  | case1 | case3 | case5 | case8 | case9 => exact nofun
  | case2 more unit behind read =>
    intro same
    have shorter := length_readUnit read
    rw [← (Prod.mk.inj (Option.some.inj same)).2]
    simp only [List.length_cons]
    omega
  | case4 more unit middle read _ low behind read_low =>
    intro same
    have shorter := length_readUnit read
    have shorter_still := length_readLowUnit read_low
    rw [← (Prod.mk.inj (Option.some.inj same)).2]
    simp only [List.length_cons]
    omega
  | case6 letter more =>
    intro read
    obtain ⟨_, -, same⟩ := Option.map_eq_some_iff.mp read
    rw [← (Prod.mk.inj same).2]
    simp only [List.length_cons]
    omega
  | case7 =>
    intro same
    rw [← (Prod.mk.inj (Option.some.inj same)).2]
    exact Nat.lt_succ_self _

/-- A character is not a surrogate. -/
theorem toNat_not_surrogate (c : Char) : c.toNat < 0xD800 ∨ 0xE000 ≤ c.toNat :=
  c.valid.imp_right fun above => above.1

/-- A spelled character is read. -/
theorem readCharacter_append {c : Char} {spelling : List Char}
    (spelled : CharacterSpelling c spelling) (rest : List Char) :
    readCharacter (spelling ++ rest) = some (c, rest) := by
  cases spelled with
  | plain printing not_quote not_backslash =>
    show readCharacter (c :: rest) = some (c, rest)
    rw [readCharacter.eq_def]
    split <;> simp_all
  | short mem =>
    simp only [shortEscapes, List.mem_cons, Prod.mk.injEq, List.not_mem_nil, or_false] at mem
    rcases mem with ⟨rfl, rfl⟩ | ⟨rfl, rfl⟩ | ⟨rfl, rfl⟩ | ⟨rfl, rfl⟩ | ⟨rfl, rfl⟩ | ⟨rfl, rfl⟩ |
      ⟨rfl, rfl⟩ | ⟨rfl, rfl⟩ <;> rfl
  | @unit _ digits spelled =>
    show readCharacter ('\\' :: 'u' :: (digits ++ rest)) = _
    simp only [readCharacter, readUnit_append spelled, toNat_not_surrogate, if_true,
      Char.ofNat_toNat]
  | @pair _ high low highDigits lowDigits high_spelled high_lt low_spelled low_lt toNat_eq =>
    have behind : readLowUnit ('\\' :: 'u' :: (lowDigits ++ rest)) = some (0xDC00 + low, rest) :=
      readUnit_append low_spelled rest
    have surrogate : ¬(0xD800 + high < 0xD800 ∨ 0xE000 ≤ 0xD800 + high) := by omega
    have paired : 0xD800 + high < 0xDC00 ∧ 0xDC00 ≤ 0xDC00 + low ∧ 0xDC00 + low < 0xE000 := by omega
    show readCharacter ('\\' :: 'u' :: (highDigits ++ '\\' :: 'u' :: lowDigits ++ rest)) = _
    rw [List.append_assoc, List.cons_append, List.cons_append]
    simp only [readCharacter, readUnit_append high_spelled, behind, if_neg surrogate, if_pos paired,
      Nat.add_sub_cancel_left, ← toNat_eq, Char.ofNat_toNat]

/-- No spelling of a character begins like the end of a string. -/
theorem CharacterSpelling.exists_cons {c : Char} {spelling : List Char}
    (spelled : CharacterSpelling c spelling) : ∃ d rest, spelling = d :: rest ∧ d ≠ '"' := by
  cases spelled with
  | plain _ not_quote => exact ⟨_, _, rfl, not_quote⟩
  | short | unit | pair => exact ⟨'\\', _, rfl, by decide⟩

/-- The text inside a string, up to the quotation mark that ends it. -/
def readText (text : List Char) : Option (List Char × List Char) :=
  match text with
  | '"' :: rest => some ([], rest)
  | text =>
    match _found : readCharacter text with
    | none => none
    | some (c, rest) => (readText rest).map fun (content, rest) => (c :: content, rest)
termination_by text.length
decreasing_by exact length_readCharacter _found

theorem length_readText {text content rest : List Char}
    (read : readText text = some (content, rest)) : rest.length < text.length := by
  revert read
  fun_induction readText text generalizing content rest with
  | case1 behind =>
    intro same
    rw [← (Prod.mk.inj (Option.some.inj same)).2]
    exact Nat.lt_succ_self _
  | case2 => exact nofun
  | case3 text _ c behind found ih =>
    intro read
    obtain ⟨⟨inner, after⟩, read, same⟩ := Option.map_eq_some_iff.mp read
    have shorter := length_readCharacter found
    have shorter_still := ih read
    rw [← (Prod.mk.inj same).2]
    omega

/-- A text that does not end at once begins with a character. -/
theorem readText_of_readCharacter {text rest : List Char} {c : Char}
    (inside : text.head? ≠ some '"') (read : readCharacter text = some (c, rest)) :
    readText text = (readText rest).map fun (content, rest) => (c :: content, rest) := by
  rw [readText.eq_def]
  split
  · exact absurd rfl inside
  · split
    · rename_i nothing
      rw [nothing] at read
      cases read
    · rename_i found
      rw [found] at read
      cases read
      rfl

/-- A spelled text is read, up to the quotation mark behind it. -/
theorem readText_append {content spelling : List Char} (spelled : TextSpelling content spelling)
    (rest : List Char) : readText (spelling ++ '"' :: rest) = some (content, rest) := by
  induction spelled with
  | nil => rw [List.nil_append, readText]
  | @cons c spelling content others first _ ih =>
    have read := readCharacter_append first (others ++ '"' :: rest)
    obtain ⟨d, behind, rfl, not_quote⟩ := first.exists_cons
    rw [List.append_assoc, readText_of_readCharacter (by simpa using not_quote) read, ih]
    rfl

/-! ## Numerals -/

/-- A run of characters of one sort is told from a text that begins with another sort. -/
theorem takeWhile_dropWhile_append {p : Char → Bool} {run rest : List Char}
    (inside : ∀ c ∈ run, p c = true) (stop : ∀ c, rest.head? = some c → p c = false) :
    (run ++ rest).takeWhile p = run ∧ (run ++ rest).dropWhile p = rest := by
  obtain ⟨taken, dropped⟩ := Item.takeWhile_eq_nil_and_dropWhile_eq_self stop
  rw [List.takeWhile_append_of_pos inside, List.dropWhile_append_of_pos inside, taken, dropped,
    List.append_nil]
  exact ⟨rfl, rfl⟩

instance (digits : List Char) : Decidable (IsDigits digits) :=
  decidable_of_iff (digits ≠ [] ∧ digits.all Char.isDigit = true)
    ⟨fun h => ⟨h.1, List.all_eq_true.mp h.2⟩, fun h => ⟨h.1, List.all_eq_true.mpr h.2⟩⟩

/-- Digits are characters of numerals. -/
theorem IsDigits.numeralCharacters {digits : List Char} (isDigits : IsDigits digits) :
    ∀ c ∈ digits, isNumeralCharacter c = true := by
  intro c mem
  simp [isNumeralCharacter, isDigits.all c mem]

namespace NumeralExponent

instance (e : NumeralExponent) : Decidable e.WellFormed :=
  decidable_of_iff ((e.letter = 'e' ∨ e.letter = 'E') ∧
      (e.sign = [] ∨ e.sign = ['+'] ∨ e.sign = ['-']) ∧ IsDigits e.digits)
    ⟨fun h => ⟨h.1, h.2.1, h.2.2⟩, fun h => ⟨h.1, h.2, h.3⟩⟩

/-- An exponent is made of characters of numerals. -/
theorem text_characters {e : NumeralExponent} (wellFormed : e.WellFormed) :
    ∀ c ∈ e.text, isNumeralCharacter c = true := by
  intro c mem
  rcases List.mem_cons.mp mem with rfl | mem
  · rcases wellFormed.letter with letter | letter <;> rw [letter] <;> rfl
  · rcases List.mem_append.mp mem with sign | digit
    · rcases wellFormed.sign with none | plus | minus
      · rw [none] at sign
        cases sign
      · rw [plus] at sign
        rw [List.mem_singleton.mp sign]
        rfl
      · rw [minus] at sign
        rw [List.mem_singleton.mp sign]
        rfl
    · exact wellFormed.digits.numeralCharacters c digit

/-- The exponent at the end of a numeral, its parts taken as they come. -/
def ofRun? : List Char → Option NumeralExponent
  | [] => none
  | letter :: rest =>
    some { letter := letter
           sign := rest.takeWhile fun c => !c.isDigit
           digits := rest.dropWhile fun c => !c.isDigit }

theorem ofRun?_text {e : NumeralExponent} (wellFormed : e.WellFormed) :
    ofRun? e.text = some e := by
  have unsigned : ∀ c ∈ e.sign, (!c.isDigit) = true := by
    rcases wellFormed.sign with none | plus | minus
    · simp [none]
    · simp [plus]
    · simp [minus]
  have stop : ∀ c, e.digits.head? = some c → (!c.isDigit) = false := by
    intro c head
    rw [wellFormed.digits.all c (List.mem_of_head? head)]
    rfl
  obtain ⟨sign, digits⟩ := takeWhile_dropWhile_append unsigned stop
  rw [text, List.cons_append, ofRun?, sign, digits]

end NumeralExponent

namespace JsonNumeral

instance (n : JsonNumeral) : Decidable n.WellFormed :=
  decidable_of_iff (IsDigits n.whole ∧ (n.whole.head? = some '0' → n.whole = ['0']) ∧
      (∀ digits ∈ n.fraction, IsDigits digits) ∧ ∀ e ∈ n.exponent, e.WellFormed)
    ⟨fun h => ⟨h.1, h.2.1, h.2.2.1, h.2.2.2⟩, fun h => ⟨h.1, h.2, h.3, h.4⟩⟩

/-- A numeral of which the fraction and the exponent are still to be found, taken as they come. -/
def ofEnding (negative : Bool) (whole ending : List Char) : JsonNumeral :=
  if ending.head? = some '.' then
    { negative := negative
      whole := whole
      fraction := some (ending.tail.takeWhile Char.isDigit)
      exponent := NumeralExponent.ofRun? (ending.tail.dropWhile Char.isDigit) }
  else
    { negative := negative
      whole := whole
      fraction := none
      exponent := NumeralExponent.ofRun? ending }

/-- A numeral without its sign, its parts taken as they come. -/
def ofUnsigned (negative : Bool) (run : List Char) : JsonNumeral :=
  ofEnding negative (run.takeWhile Char.isDigit) (run.dropWhile Char.isDigit)

/-- A numeral, its parts taken as they come. -/
def ofRun : List Char → JsonNumeral
  | '-' :: run => ofUnsigned true run
  | run => ofUnsigned false run

/-- The numeral that is written as `run`. -/
def read? (run : List Char) : Option JsonNumeral :=
  if (ofRun run).WellFormed ∧ (ofRun run).text = run then some (ofRun run) else none

/-- An exponent begins with its letter. -/
theorem head?_exponent {n : JsonNumeral} (wellFormed : n.WellFormed) (c : Char)
    (head : (n.exponent.elim [] NumeralExponent.text).head? = some c) : c = 'e' ∨ c = 'E' := by
  cases written : n.exponent with
  | none => simp [written] at head
  | some e =>
    rw [written] at head
    rw [← Option.some.inj head]
    exact (wellFormed.exponent e written).letter

/-- What stands behind the whole part begins with no digit. -/
theorem head?_ending {n : JsonNumeral} (wellFormed : n.WellFormed) (c : Char)
    (head : n.ending.head? = some c) : c.isDigit = false := by
  rw [ending] at head
  cases written : n.fraction with
  | none =>
    rw [written] at head
    rcases head?_exponent wellFormed c head with rfl | rfl <;> rfl
  | some digits =>
    rw [written] at head
    rw [← Option.some.inj head]
    rfl

/-- The exponent of a numeral is found again. -/
theorem ofRun?_exponent {n : JsonNumeral} (wellFormed : n.WellFormed) :
    NumeralExponent.ofRun? (n.exponent.elim [] NumeralExponent.text) = n.exponent := by
  cases written : n.exponent with
  | none => rfl
  | some e => exact NumeralExponent.ofRun?_text (wellFormed.exponent e written)

/-- Fraction and exponent of a numeral are found again. -/
theorem ofEnding_ending {n : JsonNumeral} (wellFormed : n.WellFormed) :
    ofEnding n.negative n.whole n.ending = n := by
  have exponent := ofRun?_exponent wellFormed
  have letter := head?_exponent wellFormed
  cases written : n.fraction with
  | none =>
    have unpointed : (n.exponent.elim [] NumeralExponent.text).head? ≠ some '.' := by
      intro point
      rcases letter '.' point with e | e <;> cases e
    rw [ofEnding, ending, written, Option.elim_none, List.nil_append, if_neg unpointed, exponent,
      ← written]
  | some digits =>
    obtain ⟨taken, dropped⟩ := takeWhile_dropWhile_append
      (wellFormed.fraction digits written).all fun c head => by
        rcases letter c head with rfl | rfl <;> rfl
    rw [ofEnding, ending, written, Option.elim_some, List.cons_append, List.head?_cons, if_pos rfl,
      List.tail_cons, taken, dropped, exponent, ← written]

/-- **The parts of a numeral are found again.** -/
theorem ofRun_text {n : JsonNumeral} (wellFormed : n.WellFormed) : ofRun n.text = n := by
  have unsigned : ofUnsigned n.negative (n.whole ++ n.ending) = n := by
    obtain ⟨taken, dropped⟩ :=
      takeWhile_dropWhile_append wellFormed.whole.all (head?_ending wellFormed)
    rw [ofUnsigned, taken, dropped, ofEnding_ending wellFormed]
  rw [text]
  cases sign : n.negative with
  | true =>
    rw [sign] at unsigned
    exact unsigned
  | false =>
    rw [sign] at unsigned
    obtain ⟨d, rest, whole⟩ := List.exists_cons_of_ne_nil wellFormed.whole.ne_nil
    have not_minus : d ≠ '-' := by
      rintro rfl
      exact absurd (wellFormed.whole.all '-' (by simp [whole])) (by decide)
    rw [whole] at unsigned ⊢
    simpa [ofRun, not_minus] using unsigned

/-- A numeral is read. -/
theorem read?_text {n : JsonNumeral} (wellFormed : n.WellFormed) : read? n.text = some n := by
  rw [read?, ofRun_text wellFormed, if_pos ⟨wellFormed, rfl⟩]

/-- A numeral is not empty. -/
theorem exists_cons {n : JsonNumeral} (wellFormed : n.WellFormed) :
    ∃ c rest, n.text = c :: rest := by
  obtain ⟨d, rest, whole⟩ := List.exists_cons_of_ne_nil wellFormed.whole.ne_nil
  cases sign : n.negative with
  | true => exact ⟨_, _, by rw [text, sign]; rfl⟩
  | false => exact ⟨_, _, by rw [text, sign, whole]; rfl⟩

/-- A numeral is made of characters of numerals. -/
theorem text_characters {n : JsonNumeral} (wellFormed : n.WellFormed) :
    ∀ c ∈ n.text, isNumeralCharacter c = true := by
  intro c mem
  simp only [text, ending, List.mem_append] at mem
  rcases mem with sign | whole | fraction | exponent
  · cases negative : n.negative with
    | true =>
      rw [negative] at sign
      rw [List.mem_singleton.mp sign]
      rfl
    | false =>
      rw [negative] at sign
      cases sign
  · exact wellFormed.whole.numeralCharacters c whole
  · cases written : n.fraction with
    | none =>
      rw [written] at fraction
      cases fraction
    | some run =>
      rw [written] at fraction
      rcases List.mem_cons.mp fraction with rfl | mem
      · rfl
      · exact (wellFormed.fraction run written).numeralCharacters c mem
  · cases written : n.exponent with
    | none =>
      rw [written] at exponent
      cases exponent
    | some e =>
      rw [written] at exponent
      exact NumeralExponent.text_characters (wellFormed.exponent e written) c exponent

end JsonNumeral

/-! ## Symbols -/

/-- The symbol at the start of a text. -/
def readSymbol : List Char → Option (JsonSymbol × List Char)
  | [] => none
  | '"' :: rest => (readText rest).map fun (content, rest) => (.text content, rest)
  | c :: rest =>
    if isNumeralCharacter c then
      (JsonNumeral.read? (c :: rest.takeWhile isNumeralCharacter)).map fun n =>
        (.atom n.value, rest.dropWhile isNumeralCharacter)
    else
      match jsonMarks.lookup c with
      | some symbol => some (symbol, rest)
      | none =>
        (jsonWords.find? fun word => word.1.isPrefixOf (c :: rest)).map fun word =>
          (.atom word.2, rest.drop (word.1.length - 1))

theorem length_readSymbol {text rest : List Char} {symbol : JsonSymbol}
    (read : readSymbol text = some (symbol, rest)) : rest.length < text.length := by
  revert read
  fun_cases readSymbol text with
  | case1 => exact nofun
  | case2 inside =>
    intro read
    obtain ⟨⟨content, behind⟩, found, same⟩ := Option.map_eq_some_iff.mp read
    have shorter := length_readText found
    rw [← (Prod.mk.inj same).2, List.length_cons]
    omega
  | case3 c more =>
    intro read
    obtain ⟨n, -, same⟩ := Option.map_eq_some_iff.mp read
    rw [← (Prod.mk.inj same).2, List.length_cons]
    exact Nat.lt_succ_of_le (List.dropWhile_suffix _).length_le
  | case4 c more =>
    intro same
    rw [← (Prod.mk.inj (Option.some.inj same)).2, List.length_cons]
    exact Nat.lt_succ_self _
  | case5 c more =>
    intro read
    obtain ⟨word, -, same⟩ := Option.map_eq_some_iff.mp read
    rw [← (Prod.mk.inj same).2, List.length_cons, List.length_drop]
    omega

/-- **A spelled symbol is read**, and what stands behind it is left. -/
theorem readSymbol_append {symbol : JsonSymbol} {spelling : List Char}
    (spelled : SymbolSpelling symbol spelling) {rest : List Char} (ends : symbol.EndsBefore rest) :
    readSymbol (spelling ++ rest) = some (symbol, rest) := by
  cases spelled with
  | mark mem =>
    simp only [jsonMarks, List.mem_cons, Prod.mk.injEq, List.not_mem_nil, or_false] at mem
    rcases mem with ⟨rfl, rfl⟩ | ⟨rfl, rfl⟩ | ⟨rfl, rfl⟩ | ⟨rfl, rfl⟩ | ⟨rfl, rfl⟩ | ⟨rfl, rfl⟩ <;>
      rfl
  | @text content spelling spelled =>
    show readSymbol ('"' :: (spelling ++ ['"'] ++ rest)) = _
    rw [List.append_assoc, readSymbol, List.singleton_append, readText_append spelled]
    rfl
  | word mem =>
    simp only [jsonWords, List.mem_cons, Prod.mk.injEq, List.not_mem_nil, or_false] at mem
    rcases mem with ⟨rfl, rfl⟩ | ⟨rfl, rfl⟩ | ⟨rfl, rfl⟩ <;> rfl
  | @numeral n wellFormed =>
    obtain ⟨c, more, text⟩ := JsonNumeral.exists_cons wellFormed
    have characters := JsonNumeral.text_characters wellFormed
    have first : isNumeralCharacter c = true := characters c (by simp [text])
    have others : ∀ d ∈ more, isNumeralCharacter d = true := fun d mem =>
      characters d (by simp [text, mem])
    obtain ⟨taken, dropped⟩ := takeWhile_dropWhile_append others (ends _ rfl)
    have not_quote : c ≠ '"' := by
      rintro rfl
      cases first
    rw [text, List.cons_append, readSymbol.eq_def]
    simp only [first, taken, dropped, ← text, JsonNumeral.read?_text wellFormed]
    simp

/-- The symbols of a text. -/
def readSymbols (text : List Char) : Option (List JsonSymbol) :=
  match text with
  | [] => some []
  | c :: rest =>
    if isJsonBlank c then readSymbols rest
    else
      match _found : readSymbol (c :: rest) with
      | none => none
      | some (symbol, rest) => (readSymbols rest).map (symbol :: ·)
termination_by text.length
decreasing_by
  · exact Nat.lt_succ_self _
  · exact length_readSymbol _found

/-- The symbol that a text begins with is the first of its symbols. -/
theorem readSymbols_of_readSymbol {c : Char} {text rest : List Char} {symbol : JsonSymbol}
    (not_blank : isJsonBlank c = false) (read : readSymbol (c :: text) = some (symbol, rest)) :
    readSymbols (c :: text) = (readSymbols rest).map (symbol :: ·) := by
  rw [readSymbols.eq_def]
  simp only [not_blank, Bool.false_eq_true, if_false]
  split
  · rename_i nothing
    rw [nothing] at read
    cases read
  · rename_i found
    rw [found] at read
    cases read
    rfl

/-- No spelling of a symbol begins with a blank. -/
theorem SymbolSpelling.exists_cons {symbol : JsonSymbol} {spelling : List Char}
    (spelled : SymbolSpelling symbol spelling) :
    ∃ c rest, spelling = c :: rest ∧ isJsonBlank c = false := by
  cases spelled with
  | mark mem =>
    simp only [jsonMarks, List.mem_cons, Prod.mk.injEq, List.not_mem_nil, or_false] at mem
    rcases mem with ⟨rfl, rfl⟩ | ⟨rfl, rfl⟩ | ⟨rfl, rfl⟩ | ⟨rfl, rfl⟩ | ⟨rfl, rfl⟩ | ⟨rfl, rfl⟩ <;>
      exact ⟨_, _, rfl, rfl⟩
  | text => exact ⟨_, _, rfl, rfl⟩
  | word mem =>
    simp only [jsonWords, List.mem_cons, Prod.mk.injEq, List.not_mem_nil, or_false] at mem
    rcases mem with ⟨rfl, rfl⟩ | ⟨rfl, rfl⟩ | ⟨rfl, rfl⟩ <;> exact ⟨_, _, rfl, rfl⟩
  | numeral wellFormed =>
    obtain ⟨c, rest, text⟩ := JsonNumeral.exists_cons wellFormed
    refine ⟨c, rest, text, ?_⟩
    have first : isNumeralCharacter c = true :=
      JsonNumeral.text_characters wellFormed c (by simp [text])
    by_contra blank
    simp only [isJsonBlank, Bool.or_eq_true, beq_iff_eq, Bool.not_eq_false] at blank
    rcases blank with ((rfl | rfl) | rfl) | rfl <;> cases first

/-- **The symbols of a text are found.** -/
theorem readSymbols_of_spelling {symbols : List JsonSymbol} {text : List Char}
    (spelled : SymbolsSpelling symbols text) : readSymbols text = some symbols := by
  induction spelled with
  | nil => rw [readSymbols]
  | blank is_blank _ ih => rw [readSymbols, if_pos is_blank, ih]
  | @cons symbol symbols spelling rest first ends _ ih =>
    have read := readSymbol_append first ends
    obtain ⟨c, more, rfl, not_blank⟩ := first.exists_cons
    rw [List.cons_append] at read ⊢
    rw [readSymbols_of_readSymbol not_blank read, ih]
    rfl

/-! ## Values -/

/-- An array or an object that is still open, with what has been read of it. -/
inductive OpenValue where
  | array (items : List JsonValue)
  /-- The value of the last key is still to come. -/
  | object (fields : List (String × JsonValue)) (key : String)

/-- Where a reader is, with what is open around it, the innermost first. -/
inductive ReadingState where
  /-- A value has to come. -/
  | awaitValue (around : List OpenValue)
  /-- An array has begun: a value or its end has to come. -/
  | arrayStart (around : List OpenValue)
  /-- An object has begun: a key or its end has to come. -/
  | objectStart (around : List OpenValue)
  /-- A key has to come, behind the fields of an object. -/
  | awaitKey (fields : List (String × JsonValue)) (around : List OpenValue)
  /-- A colon has to come, behind a key. -/
  | awaitColon (fields : List (String × JsonValue)) (key : String) (around : List OpenValue)
  /-- A value is complete. -/
  | complete (value : JsonValue) (around : List OpenValue)

/-- What a symbol does where a value has to come. -/
def JsonSymbol.begin (around : List OpenValue) : JsonSymbol → Option ReadingState
  | .text content => some (.complete (.string content) around)
  | .atom value => some (.complete value around)
  | .openArray => some (.arrayStart around)
  | .openObject => some (.objectStart around)
  | .closeArray | .closeObject | .comma | .colon => none

namespace ReadingState

/-- What a symbol does. -/
def step : ReadingState → JsonSymbol → Option ReadingState
  | awaitValue around, symbol => symbol.begin around
  | arrayStart around, .closeArray => some (complete (.array []) around)
  | arrayStart around, symbol => symbol.begin (.array [] :: around)
  | objectStart around, .closeObject => some (complete (.object []) around)
  | objectStart around, .text key => some (awaitColon [] (String.ofList key) around)
  | awaitKey fields around, .text key => some (awaitColon fields (String.ofList key) around)
  | awaitColon fields key around, .colon => some (awaitValue (.object fields key :: around))
  | complete item (.array items :: around), .comma =>
    some (awaitValue (.array (items ++ [item]) :: around))
  | complete item (.array items :: around), .closeArray =>
    some (complete (.array (items ++ [item])) around)
  | complete item (.object fields key :: around), .comma =>
    some (awaitKey (fields ++ [(key, item)]) around)
  | complete item (.object fields key :: around), .closeObject =>
    some (complete (.object (fields ++ [(key, item)])) around)
  | _, _ => none

/-- What several symbols do. -/
def run (state : ReadingState) : List JsonSymbol → Option ReadingState
  | [] => some state
  | symbol :: rest => (state.step symbol).bind (·.run rest)

/-- The value that has been read, if it is complete and nothing is open around it. -/
def value? : ReadingState → Option JsonValue
  | complete value [] => some value
  | _ => none

/-- A value is to come with `around` open around it. -/
inductive Expects : ReadingState → List OpenValue → Prop where
  | awaitValue {around : List OpenValue} : Expects (.awaitValue around) around
  | arrayStart {around : List OpenValue} : Expects (.arrayStart around) (.array [] :: around)

/-- Where a value is to come, any symbol but the end of an array begins it. -/
theorem Expects.run_cons {state : ReadingState} {around : List OpenValue}
    (expects : state.Expects around) (symbol : JsonSymbol) (not_end : symbol ≠ .closeArray)
    (rest : List JsonSymbol) :
    state.run (symbol :: rest) = (symbol.begin around).bind (·.run rest) := by
  cases expects with
  | awaitValue => rfl
  | arrayStart =>
    cases symbol with
    | closeArray => exact absurd rfl not_end
    | openArray | openObject | closeObject | comma | colon | text | atom => rfl

mutual

/-- **Behind the symbols of a value that is to come, it is complete.** -/
theorem run_symbols (item : JsonValue) {state : ReadingState} {around : List OpenValue}
    (expects : state.Expects around) (more : List JsonSymbol) :
    state.run (item.symbols ++ more) = (complete item around).run more := by
  -- on the value: the first item of an array or an object stands behind the opening mark, and
  -- the other ones are the business of `run_items` and `run_fields`
  match item with
  | .null | .bool _ | .integer _ | .number _ =>
    rw [JsonValue.symbols, List.singleton_append, expects.run_cons (.atom _) nofun]
    rfl
  | .string text =>
    rw [JsonValue.symbols, List.singleton_append, expects.run_cons (.text text) nofun]
    rfl
  | .array [] =>
    rw [JsonValue.symbols, List.append_assoc, List.cons_append, expects.run_cons .openArray nofun]
    rfl
  | .array (first :: rest) =>
    simp only [JsonValue.symbols, JsonValue.itemSymbols, joinedSymbols, List.cons_append,
      List.append_assoc, List.nil_append]
    rw [expects.run_cons .openArray nofun]
    simp only [JsonSymbol.begin, Option.bind_some]
    rw [run_symbols first .arrayStart, run_items rest, List.nil_append]
  | .object [] =>
    rw [JsonValue.symbols, List.append_assoc, List.cons_append, expects.run_cons .openObject nofun]
    rfl
  | .object ((key, first) :: rest) =>
    simp only [JsonValue.symbols, JsonValue.fieldSymbols, joinedSymbols, List.cons_append,
      List.append_assoc, List.nil_append]
    rw [expects.run_cons .openObject nofun]
    simp only [JsonSymbol.begin, Option.bind_some, run, step, String.ofList_toList]
    rw [run_symbols first .awaitValue, run_fields rest, List.nil_append]

/-- Behind an item of an array, the other items and the end complete the array. -/
theorem run_items (rest : List JsonValue) (done : List JsonValue) (item : JsonValue)
    (around : List OpenValue) (more : List JsonSymbol) :
    (complete item (.array done :: around)).run
        ((JsonValue.itemSymbols rest).flatMap (.comma :: ·) ++ .closeArray :: more) =
      (complete (.array (done ++ item :: rest)) around).run more := by
  match rest with
  | [] => rfl
  | next :: rest =>
    simp only [JsonValue.itemSymbols, List.flatMap_cons, List.cons_append, List.append_assoc]
    rw [run]
    simp only [step, Option.bind_some]
    rw [run_symbols next .awaitValue, run_items rest, List.append_assoc, List.singleton_append]

/-- Behind a field of an object, the other fields and the end complete the object. -/
theorem run_fields (rest done : List (String × JsonValue)) (key : String) (item : JsonValue)
    (around : List OpenValue) (more : List JsonSymbol) :
    (complete item (.object done key :: around)).run
        ((JsonValue.fieldSymbols rest).flatMap (.comma :: ·) ++ .closeObject :: more) =
      (complete (.object (done ++ (key, item) :: rest)) around).run more := by
  match rest with
  | [] => rfl
  | (nextKey, next) :: rest =>
    simp only [JsonValue.fieldSymbols, List.flatMap_cons, List.cons_append, List.append_assoc]
    simp only [run, step, Option.bind_some, String.ofList_toList]
    rw [run_symbols next .awaitValue, run_fields rest, List.append_assoc, List.singleton_append]

end

end ReadingState

/-! ## Texts -/

/-- **The value of a text**, if the text is JSON. -/
def readJson (text : List Char) : Option JsonValue := do
  let symbols ← readSymbols text
  let state ← (ReadingState.awaitValue []).run symbols
  state.value?

/-- **The reader finds the value of every text that is JSON.** -/
theorem readJson_of_spelledAs {value : JsonValue} {text : List Char}
    (spelled : value.SpelledAs text) : readJson text = some value := by
  have run : (ReadingState.awaitValue []).run (value.symbols ++ []) = _ :=
    ReadingState.run_symbols value .awaitValue []
  rw [List.append_nil] at run
  rw [readJson, readSymbols_of_spelling spelled]
  show ((ReadingState.awaitValue []).run value.symbols).bind _ = _
  rw [run]
  rfl

/-- **No text is JSON for two values.** -/
theorem JsonValue.SpelledAs.unique {value value' : JsonValue} {text : List Char}
    (spelled : value.SpelledAs text) (spelled' : value'.SpelledAs text) : value = value' :=
  Option.some.inj ((readJson_of_spelledAs spelled).symm.trans (readJson_of_spelledAs spelled'))

end LoxScan
