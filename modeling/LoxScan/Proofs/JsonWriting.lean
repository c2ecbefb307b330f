import LoxScan.Proofs.JsonReader
import LoxScan.Proofs.NumberText
import Mathlib.Data.List.Forall2

/-!
# Written values are JSON

What is written for a value is JSON for it, in every layout, as long as all numbers of the value
are finite.  In the layout that escapes what is not ASCII, nothing else is written.

## Main Definitions

* `JsonValue.isStrict` — all numbers of a value are finite
* `JsonValue.writeStrict?` — the text of a value, unless a number in it is not finite
* `JsonLayout.Renders` — a text spells some symbols wherever it stands
-/

namespace LoxScan

/-! ## Strict writing -/

mutual

/-- All numbers of a value are finite. -/
def JsonValue.isStrict : JsonValue → Bool
  | .null | .bool _ | .integer _ | .string _ => true
  | .number value => value.isFinite
  | .array items => JsonValue.itemsStrict items
  | .object fields => JsonValue.fieldsStrict fields

/-- All numbers of the items of an array are finite. -/
def JsonValue.itemsStrict : List JsonValue → Bool
  | [] => true
  | item :: rest => item.isStrict && JsonValue.itemsStrict rest

/-- All numbers of the fields of an object are finite. -/
def JsonValue.fieldsStrict : List (String × JsonValue) → Bool
  | [] => true
  | (_, value) :: rest => value.isStrict && JsonValue.fieldsStrict rest

end

/-- The text of a value, or nothing if a number in it is not finite. -/
def JsonValue.writeStrict? (layout : JsonLayout) (value : JsonValue) : Option (List Char) :=
  if value.isStrict then some (value.write layout 0) else none

/-- All characters are ASCII characters. -/
def IsAscii (text : List Char) : Prop := ∀ c ∈ text, c.toNat < 0x80

instance (text : List Char) : Decidable (IsAscii text) :=
  List.decidableBAll (fun c : Char => c.toNat < 0x80) text

theorem IsAscii.append {text more : List Char} (first : IsAscii text) (second : IsAscii more) :
    IsAscii (text ++ more) := fun c mem =>
  (List.mem_append.mp mem).elim (first c) (second c)

/-! ## Characters -/

theorem hexDigit?_digitChar : ∀ d < 16, hexDigit? (Nat.digitChar d) = some d := by decide

/-- The last hexadecimal digit, and those in front of it. -/
theorem hexadecimal_succ {width : Nat} (positive : 0 < width) (n : Nat) :
    hexadecimal (width + 1) n = hexadecimal width (n / 16) ++ [Nat.digitChar (n % 16)] := by
  rw [hexadecimal, hexadecimal]
  by_cases small : n < 16
  · obtain ⟨w, rfl⟩ : ∃ w, width = w + 1 := Nat.exists_eq_add_one.mpr positive
    rw [Nat.toDigits_of_lt_base small, Nat.div_eq_of_lt small, Nat.mod_eq_of_lt small,
      Nat.toDigits_zero, List.length_singleton, List.length_singleton, Nat.add_sub_cancel,
      Nat.add_sub_cancel, List.replicate_succ']
  · rw [Nat.toDigits_of_base_le (by decide) (Nat.le_of_not_lt small), List.length_append,
      List.length_singleton, Nat.add_sub_add_right, List.append_assoc]

/-- The four hexadecimal digits of a unit. -/
theorem hexadecimal_four {n : Nat} (lt : n < 0x10000) :
    hexadecimal 4 n = [Nat.digitChar (n / 16 / 16 / 16), Nat.digitChar (n / 16 / 16 % 16),
      Nat.digitChar (n / 16 % 16), Nat.digitChar (n % 16)] := by
  have first : hexadecimal 1 (n / 16 / 16 / 16) = [Nat.digitChar (n / 16 / 16 / 16)] := by
    rw [hexadecimal, Nat.toDigits_of_lt_base (by omega)]
    rfl
  rw [hexadecimal_succ (by decide), hexadecimal_succ (by decide), hexadecimal_succ (by decide),
    first]
  rfl

/-- A written unit is read back. -/
theorem unitValue?_hexadecimal {n : Nat} (lt : n < 0x10000) :
    unitValue? (hexadecimal 4 n) = some n := by
  rw [hexadecimal_four lt, unitValue?, hexDigit?_digitChar _ (by omega),
    hexDigit?_digitChar _ (by omega), hexDigit?_digitChar _ (by omega),
    hexDigit?_digitChar _ (by omega)]
  simp only [Option.pure_def, Option.bind_eq_bind, Option.bind_some, Option.some.injEq]
  omega

namespace JsonLayout

variable (layout : JsonLayout)

/-- A letter that spells a character behind a backslash. -/
theorem mem_shortEscapes {c letter : Char} (found : shortEscape? c = some letter) :
    (letter, c) ∈ shortEscapes := by
  revert found
  fun_cases shortEscape? c with
  | case8 => exact nofun
  | case1 | case2 | case3 | case4 | case5 | case6 | case7 =>
    rintro ⟨⟩
    decide

/-- An escaped unit is ASCII text. -/
theorem isAscii_unitEscape {unit : Nat} (lt : unit < 0x10000) : IsAscii (unitEscape unit) := by
  have digit : ∀ d < 16, (Nat.digitChar d).toNat < 0x80 := by decide
  intro c mem
  rw [unitEscape, hexadecimal_four lt] at mem
  simp only [List.mem_cons, List.not_mem_nil, or_false] at mem
  rcases mem with rfl | rfl | rfl | rfl | rfl | rfl
  · decide
  · decide
  all_goals exact digit _ (by omega)

/-- A character is spelled by its escapes, and they are ASCII text. -/
theorem spelling_characterEscape (c : Char) :
    CharacterSpelling c (characterEscape c) ∧ IsAscii (characterEscape c) := by
  by_cases basic : c.toNat < 0x10000
  · rw [characterEscape, if_pos basic]
    exact ⟨.unit (unitValue?_hexadecimal basic), isAscii_unitEscape basic⟩
  · have last : c.toNat < 0x110000 :=
      c.valid.elim (fun below => Nat.lt_trans below (by decide)) (·.2)
    rw [characterEscape, if_neg basic]
    exact ⟨.pair (unitValue?_hexadecimal (by omega)) (by omega) (unitValue?_hexadecimal (by omega))
      (by omega) (by omega),
      (isAscii_unitEscape (by omega)).append (isAscii_unitEscape (by omega))⟩

/-- **A character is spelled by what is written for it.** -/
theorem spelling_escape (c : Char) : CharacterSpelling c (layout.escape c) := by
  rw [escape]
  cases found : shortEscape? c with
  | some letter => exact .short (mem_shortEscapes found)
  | none =>
    simp only
    split
    · exact (spelling_characterEscape c).1
    · rename_i printing
      refine .plain (by omega) ?_ ?_
      · rintro rfl
        cases found
      · rintro rfl
        cases found

/-- What is written for a character is ASCII text if the layout says so. -/
theorem isAscii_escape (ascii : layout.asciiOnly = true) (c : Char) :
    IsAscii (layout.escape c) := by
  rw [escape]
  cases found : shortEscape? c with
  | some letter =>
    have letters : (shortEscapes.all fun entry => IsAscii ['\\', entry.1]) = true := by decide
    exact of_decide_eq_true (List.all_eq_true.mp letters _ (mem_shortEscapes found))
  | none =>
    simp only
    split
    · exact (spelling_characterEscape c).2
    · rename_i printing
      intro d mem
      rw [List.mem_singleton.mp mem]
      by_contra large
      exact printing (.inr ⟨ascii, by omega⟩)

/-- A string is spelled by what is written for it. -/
theorem spelling_quote (text : List Char) : SymbolSpelling (.text text) (layout.quote text) := by
  refine .text ?_
  induction text with
  | nil => exact .nil
  | cons c rest ih => exact .cons (layout.spelling_escape c) ih

end JsonLayout

/-! ## Symbols -/

/-- A text does not begin with a character of a numeral. -/
def StopsNumeral (text : List Char) : Prop :=
  ∀ c, text.head? = some c → isNumeralCharacter c = false

theorem StopsNumeral.append {text rest : List Char} (stops : StopsNumeral text)
    (stops' : StopsNumeral rest) : StopsNumeral (text ++ rest) := by
  cases text with
  | nil => exact stops'
  | cons c others => exact stops

theorem comma_mem : (',', JsonSymbol.comma) ∈ jsonMarks := by simp [jsonMarks]

theorem colon_mem : (':', JsonSymbol.colon) ∈ jsonMarks := by simp [jsonMarks]

/-- A mark is a character of no numeral. -/
theorem stopsNumeral_mark {c : Char} {symbol : JsonSymbol} (mem : (c, symbol) ∈ jsonMarks)
    (rest : List Char) : StopsNumeral (c :: rest) := by
  rintro d ⟨⟩
  simp only [jsonMarks, List.mem_cons, Prod.mk.injEq, List.not_mem_nil, or_false] at mem
  rcases mem with ⟨rfl, -⟩ | ⟨rfl, -⟩ | ⟨rfl, -⟩ | ⟨rfl, -⟩ | ⟨rfl, -⟩ | ⟨rfl, -⟩ <;> rfl

/-- A mark is an ASCII character. -/
theorem isAscii_mark {c : Char} {symbol : JsonSymbol} (mem : (c, symbol) ∈ jsonMarks) :
    IsAscii [c] := by
  simp only [jsonMarks, List.mem_cons, Prod.mk.injEq, List.not_mem_nil, or_false] at mem
  rcases mem with ⟨rfl, -⟩ | ⟨rfl, -⟩ | ⟨rfl, -⟩ | ⟨rfl, -⟩ | ⟨rfl, -⟩ | ⟨rfl, -⟩ <;> decide

/-- Blanks are ASCII characters. -/
theorem isAscii_of_blank {text : List Char} (all_blank : ∀ c ∈ text, isJsonBlank c = true) :
    IsAscii text := by
  intro c mem
  have blank := all_blank c mem
  simp only [isJsonBlank, Bool.or_eq_true, beq_iff_eq] at blank
  rcases blank with ((rfl | rfl) | rfl) | rfl <;> decide

/-- The characters of numerals are ASCII characters. -/
theorem lt_of_isNumeralCharacter {c : Char} (h : isNumeralCharacter c = true) :
    c.toNat < 0x80 := by
  simp only [isNumeralCharacter, Bool.or_eq_true, beq_iff_eq] at h
  rcases h with ((((digit | rfl) | rfl) | rfl) | rfl) | rfl
  · exact Nat.lt_of_le_of_lt (Char.isDigit_iff_toNat.mp digit).2 (by decide)
  all_goals decide

/-- Words and numerals are ASCII text. -/
theorem SymbolSpelling.isAscii_atom {value : JsonValue} {text : List Char}
    (spelled : SymbolSpelling (.atom value) text) : IsAscii text := by
  cases spelled with
  | mark mem => simp [jsonMarks] at mem
  | word mem =>
    simp only [jsonWords, List.mem_cons, Prod.mk.injEq, List.not_mem_nil, or_false] at mem
    rcases mem with ⟨rfl, -⟩ | ⟨rfl, -⟩ | ⟨rfl, -⟩ <;> decide
  | numeral wellFormed =>
    exact fun c mem => lt_of_isNumeralCharacter (JsonNumeral.text_characters wellFormed c mem)

/-- **A text spells some symbols wherever it stands**, as long as no character of a numeral
follows, and it is all ASCII if the layout says so. -/
structure JsonLayout.Renders (layout : JsonLayout) (symbols : List JsonSymbol) (text : List Char) :
    Prop where
  spells : ∀ more rest, StopsNumeral rest → SymbolsSpelling more rest →
    SymbolsSpelling (symbols ++ more) (text ++ rest)
  ascii : layout.asciiOnly = true → IsAscii text

namespace JsonLayout.Renders

variable {layout : JsonLayout} {symbols more : List JsonSymbol} {text rest : List Char}

theorem nil : layout.Renders [] [] where
  spells _ _ _ others := others
  ascii _ := nofun

/-- Symbols, and others behind them that do not run on a numeral. -/
theorem append (first : layout.Renders symbols text) (second : layout.Renders more rest)
    (stops : StopsNumeral rest) : layout.Renders (symbols ++ more) (text ++ rest) where
  spells others behind stops' spelled := by
    rw [List.append_assoc, List.append_assoc]
    exact first.spells _ _ (stops.append stops') (second.spells _ _ stops' spelled)
  ascii ascii := (first.ascii ascii).append (second.ascii ascii)

/-- A word or a numeral. -/
theorem atom {value : JsonValue} (spelled : SymbolSpelling (.atom value) text) :
    layout.Renders [.atom value] text where
  spells _ _ stops others := .cons spelled (fun _ _ => stops) others
  ascii _ := spelled.isAscii_atom

/-- A mark in front of symbols. -/
theorem mark {c : Char} {symbol : JsonSymbol} (mem : (c, symbol) ∈ jsonMarks)
    (renders : layout.Renders more rest) : layout.Renders (symbol :: more) (c :: rest) where
  spells others behind stops spelled := by
    have ends : symbol.EndsBefore (rest ++ behind) := by
      rintro value rfl
      simp [jsonMarks] at mem
    show SymbolsSpelling (symbol :: (more ++ others)) ([c] ++ (rest ++ behind))
    exact .cons (.mark mem) ends (renders.spells others behind stops spelled)
  ascii ascii := (isAscii_mark mem).append (renders.ascii ascii)

/-- Blanks in front of symbols. -/
theorem blanks {blanks : List Char} (all_blank : ∀ c ∈ blanks, isJsonBlank c = true)
    (renders : layout.Renders more rest) : layout.Renders more (blanks ++ rest) where
  spells others behind stops spelled := by
    rw [List.append_assoc]
    induction blanks with
    | nil => exact renders.spells others behind stops spelled
    | cons c blanks ih =>
      rw [List.forall_mem_cons] at all_blank
      exact .blank all_blank.1 (ih all_blank.2)
  ascii ascii := (isAscii_of_blank all_blank).append (renders.ascii ascii)

/-- A string in front of symbols. -/
theorem quote (content : List Char) (renders : layout.Renders more rest) :
    layout.Renders (.text content :: more) (layout.quote content ++ rest) where
  spells others behind stops spelled := by
    rw [List.append_assoc]
    exact .cons (layout.spelling_quote content) nofun (renders.spells others behind stops spelled)
  ascii ascii := by
    have quotes : IsAscii ['"'] := by decide
    refine IsAscii.append (quotes.append (IsAscii.append ?_ quotes)) (renders.ascii ascii)
    intro d mem
    obtain ⟨c, -, mem⟩ := List.mem_flatMap.mp mem
    exact layout.isAscii_escape ascii c d mem

end JsonLayout.Renders

namespace JsonLayout

variable {layout : JsonLayout}

theorem lineBreak_blank (depth : Nat) : ∀ c ∈ layout.lineBreak depth, isJsonBlank c = true := by
  rw [lineBreak]
  cases layout.indent with
  | none => exact nofun
  | some width =>
    intro c mem
    rcases List.mem_cons.mp mem with rfl | mem
    · rfl
    · rw [List.eq_of_mem_replicate mem]
      rfl

/-- A separator is a comma and blanks. -/
theorem separator_eq (depth : Nat) :
    ∃ blanks, layout.separator depth = ',' :: blanks ∧ ∀ c ∈ blanks, isJsonBlank c = true := by
  rw [separator]
  cases layout.indent with
  | none => exact ⟨[' '], rfl, by simp [isJsonBlank]⟩
  | some width => exact ⟨_, rfl, layout.lineBreak_blank depth⟩

/-- The end of an array or an object is told from a numeral in front of it. -/
theorem stopsNumeral_closing {closing : Char} {symbol : JsonSymbol}
    (close : (closing, symbol) ∈ jsonMarks) (depth depth' : Nat) (items : List (List Char)) :
    StopsNumeral (items.flatMap (layout.separator depth' ++ ·) ++
      (layout.lineBreak depth ++ [closing])) := by
  cases items with
  | nil =>
    rw [List.flatMap_nil, List.nil_append, lineBreak]
    cases layout.indent with
    | none => exact stopsNumeral_mark close []
    | some width =>
      rintro d ⟨⟩
      rfl
  | cons item items =>
    obtain ⟨blanks, separator, -⟩ := layout.separator_eq depth'
    rw [List.flatMap_cons, separator]
    exact stopsNumeral_mark comma_mem _

/-- The items behind the first one, each behind a separator, and the closing mark. -/
theorem renders_closing {closing : Char} {symbol : JsonSymbol}
    (close : (closing, symbol) ∈ jsonMarks) (depth depth' : Nat) {pieces : List (List JsonSymbol)}
    {items : List (List Char)} (renders : List.Forall₂ layout.Renders pieces items) :
    layout.Renders (pieces.flatMap (.comma :: ·) ++ [symbol])
      (items.flatMap (layout.separator depth' ++ ·) ++ (layout.lineBreak depth ++ [closing])) := by
  induction renders with
  | nil =>
    rw [List.flatMap_nil, List.flatMap_nil, List.nil_append, List.nil_append]
    exact .blanks (layout.lineBreak_blank depth) (.mark close .nil)
  | @cons piece item pieces items first _ ih =>
    obtain ⟨blanks, separator, all_blank⟩ := layout.separator_eq depth'
    have stops := layout.stopsNumeral_closing close depth depth' items
    have all := Renders.mark comma_mem (.blanks all_blank (first.append ih stops))
    simpa only [List.flatMap_cons, separator, List.cons_append, List.append_assoc] using all

/-- **Items between brackets.** -/
theorem renders_enclose {opening closing : Char} {openSymbol closeSymbol : JsonSymbol}
    (opens : (opening, openSymbol) ∈ jsonMarks) (close : (closing, closeSymbol) ∈ jsonMarks)
    (depth : Nat) {pieces : List (List JsonSymbol)} {items : List (List Char)}
    (renders : List.Forall₂ layout.Renders pieces items) :
    layout.Renders (openSymbol :: joinedSymbols pieces ++ [closeSymbol])
      (layout.enclose depth opening closing items) := by
  cases renders with
  | nil => exact .mark opens (.mark close .nil)
  | @cons piece item pieces items first others =>
    have behind := renders_closing close depth (depth + 1) others
    have stops := layout.stopsNumeral_closing close depth (depth + 1) items
    have all := Renders.mark opens
      (.blanks (layout.lineBreak_blank (depth + 1)) (first.append behind stops))
    simpa only [enclose, joinedSymbols, List.cons_append, List.append_assoc] using all

mutual

/-- **What is written for a strict value is JSON for it.** -/
theorem renders_write (value : JsonValue) (strict : value.isStrict = true) (depth : Nat) :
    layout.Renders value.symbols (value.write layout depth) := by
  -- on the value; what is open around it is in the texts behind, which `Renders` leaves free
  match value with
  | .null => exact .atom (.word (by simp [jsonWords, JsonValue.write]))
  | .bool true => exact .atom (.word (by simp [jsonWords, JsonValue.write]))
  | .bool false => exact .atom (.word (by simp [jsonWords, JsonValue.write]))
  | .integer n => exact .atom (spelling_integerText n)
  | .number x => exact .atom (spelling_number strict)
  | .string text =>
    have quoted : layout.Renders [.text text] (layout.quote text ++ []) := .quote text .nil
    rwa [List.append_nil] at quoted
  | .array items =>
    exact renders_enclose (by simp [jsonMarks]) (by simp [jsonMarks]) depth
      (renders_writeItems items strict (depth + 1))
  | .object fields =>
    exact renders_enclose (by simp [jsonMarks]) (by simp [jsonMarks]) depth
      (renders_writeFields fields strict (depth + 1))

theorem renders_writeItems (items : List JsonValue) (strict : JsonValue.itemsStrict items = true)
    (depth : Nat) :
    List.Forall₂ layout.Renders (JsonValue.itemSymbols items)
      (JsonValue.writeItems layout depth items) := by
  match items with
  | [] => exact .nil
  | item :: rest =>
    rw [JsonValue.itemsStrict, Bool.and_eq_true] at strict
    exact .cons (renders_write item strict.1 depth) (renders_writeItems rest strict.2 depth)

theorem renders_writeFields (fields : List (String × JsonValue))
    (strict : JsonValue.fieldsStrict fields = true) (depth : Nat) :
    List.Forall₂ layout.Renders (JsonValue.fieldSymbols fields)
      (JsonValue.writeFields layout depth fields) := by
  match fields with
  | [] => exact .nil
  | (key, value) :: rest =>
    rw [JsonValue.fieldsStrict, Bool.and_eq_true] at strict
    refine .cons ?_ (renders_writeFields rest strict.2 depth)
    have blank : ∀ c ∈ [' '], isJsonBlank c = true := by simp [isJsonBlank]
    rw [List.append_assoc]
    exact .quote key.toList (.mark colon_mem (.blanks blank (renders_write value strict.1 depth)))

end

end JsonLayout

end LoxScan
