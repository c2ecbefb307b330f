import LoxScan.Json.Value
import LoxScan.Number.Decimal

/-!
# JSON text

Which texts are JSON, and which value a text stands for.

JSON text is a sequence of symbols with blanks between them: six marks, strings, three words
and numerals.  A value fixes its symbols (`JsonValue.symbols`), and each symbol can be spelled
in several ways: the characters of a string as themselves or as escapes, and a number with any
digits that come to it.  There is no word for a number that is not finite.

A number is a whole number if its numeral has neither a fraction nor an exponent, and otherwise
the double nearest to what is written.

## Main Definitions

* `CharacterSpelling`, `TextSpelling` — characters and texts inside a string
* `JsonNumeral` — the parts of a numeral
* `SymbolSpelling`, `SymbolsSpelling` — symbols in JSON text
* `JsonValue.symbols` — the symbols of a value
* `JsonValue.SpelledAs` — **a text is JSON for a value**
-/

namespace LoxScan

/-! ## Strings -/

/-- The characters that a letter behind a backslash stands for. -/
def shortEscapes : List (Char × Char) :=
  [('"', '"'), ('\\', '\\'), ('/', '/'), ('b', '\x08'), ('f', '\x0c'), ('n', '\n'), ('r', '\r'),
    ('t', '\t')]

/-- The value of a hexadecimal digit. -/
def hexDigit? (c : Char) : Option Nat :=
  if '0' ≤ c ∧ c ≤ '9' then some (c.toNat - '0'.toNat)
  else if 'a' ≤ c ∧ c ≤ 'f' then some (c.toNat - 'a'.toNat + 10)
  else if 'A' ≤ c ∧ c ≤ 'F' then some (c.toNat - 'A'.toNat + 10)
  else none

/-- The sixteen-bit unit that four hexadecimal digits spell. -/
def unitValue? : List Char → Option Nat
  | [a, b, c, d] => do
    let a ← hexDigit? a
    let b ← hexDigit? b
    let c ← hexDigit? c
    let d ← hexDigit? d
    return ((a * 16 + b) * 16 + c) * 16 + d
  | _ => none

/-- **The spellings of a character inside a string**: itself unless it is a control character or
a character with a meaning of its own, a short escape, a unit, or a surrogate pair. -/
inductive CharacterSpelling : Char → List Char → Prop where
  | plain {c : Char} (printing : 0x20 ≤ c.toNat) (not_quote : c ≠ '"') (not_backslash : c ≠ '\\') :
      CharacterSpelling c [c]
  | short {letter c : Char} (mem : (letter, c) ∈ shortEscapes) : CharacterSpelling c ['\\', letter]
  | unit {c : Char} {digits : List Char} (spelled : unitValue? digits = some c.toNat) :
      CharacterSpelling c ('\\' :: 'u' :: digits)
  | pair {c : Char} {high low : Nat} {highDigits lowDigits : List Char}
      (high_spelled : unitValue? highDigits = some (0xD800 + high)) (high_lt : high < 0x400)
      (low_spelled : unitValue? lowDigits = some (0xDC00 + low)) (low_lt : low < 0x400)
      (toNat_eq : c.toNat = 0x10000 + high * 0x400 + low) :
      CharacterSpelling c ('\\' :: 'u' :: highDigits ++ '\\' :: 'u' :: lowDigits)

/-- The spellings of a text inside a string. -/
inductive TextSpelling : List Char → List Char → Prop where
  | nil : TextSpelling [] []
  | cons {c : Char} {spelling content rest : List Char} (first : CharacterSpelling c spelling)
      (others : TextSpelling content rest) : TextSpelling (c :: content) (spelling ++ rest)

/-! ## Numerals -/

/-- One decimal digit or more. -/
structure IsDigits (digits : List Char) : Prop where
  ne_nil : digits ≠ []
  all : ∀ c ∈ digits, c.isDigit = true

/-- The exponent of a numeral: its letter, its sign if it has one, and its digits. -/
structure NumeralExponent where
  letter : Char
  sign : List Char
  digits : List Char

namespace NumeralExponent

/-- The exponent as it is written. -/
def text (e : NumeralExponent) : List Char := e.letter :: e.sign ++ e.digits

/-- The power of ten. -/
def value (e : NumeralExponent) : Int :=
  if e.sign = ['-'] then -(Nat.ofDigitChars 10 e.digits 0 : Int) else Nat.ofDigitChars 10 e.digits 0

/-- The parts are what they are to be. -/
structure WellFormed (e : NumeralExponent) : Prop where
  letter : e.letter = 'e' ∨ e.letter = 'E'
  sign : e.sign = [] ∨ e.sign = ['+'] ∨ e.sign = ['-']
  digits : IsDigits e.digits

end NumeralExponent

/-- A numeral: its digits before and behind the point, and its exponent. -/
structure JsonNumeral where
  negative : Bool
  whole : List Char
  fraction : Option (List Char)
  exponent : Option NumeralExponent

namespace JsonNumeral

/-- What is written behind the whole part. -/
def ending (n : JsonNumeral) : List Char :=
  n.fraction.elim [] ('.' :: ·) ++ n.exponent.elim [] NumeralExponent.text

/-- The numeral as it is written. -/
def text (n : JsonNumeral) : List Char :=
  (if n.negative then ['-'] else []) ++ (n.whole ++ n.ending)

/-- The parts are what they are to be.  No zero stands in front of other digits. -/
structure WellFormed (n : JsonNumeral) : Prop where
  whole : IsDigits n.whole
  no_zero_ahead : n.whole.head? = some '0' → n.whole = ['0']
  fraction : ∀ digits ∈ n.fraction, IsDigits digits
  exponent : ∀ e ∈ n.exponent, e.WellFormed

/-- The magnitude as a decimal number. -/
def magnitude (n : JsonNumeral) : Decimal where
  coefficient := Nat.ofDigitChars 10 (n.whole ++ n.fraction.getD []) 0
  exponent := n.exponent.elim 0 NumeralExponent.value - ((n.fraction.getD []).length : Int)

/-- The value of a numeral: a whole number, or a double if there is a fraction or an exponent. -/
def value (n : JsonNumeral) : JsonValue :=
  if n.fraction.isNone ∧ n.exponent.isNone then
    let magnitude : Int := Nat.ofDigitChars 10 n.whole 0
    .integer (if n.negative then -magnitude else magnitude)
  else .number { n.magnitude.toBinary64 with negative := n.negative }

end JsonNumeral

/-! ## Symbols -/

/-- The symbols that JSON text is made of. -/
inductive JsonSymbol where
  | openArray
  | closeArray
  | openObject
  | closeObject
  | comma
  | colon
  | text (content : List Char)
  /-- A word or a numeral. -/
  | atom (value : JsonValue)

/-- The marks. -/
def jsonMarks : List (Char × JsonSymbol) :=
  [('[', .openArray), (']', .closeArray), ('\x7b', .openObject), ('\x7d', .closeObject),
    (',', .comma), (':', .colon)]

/-- The words. -/
def jsonWords : List (List Char × JsonValue) :=
  [("null".toList, .null), ("true".toList, .bool true), ("false".toList, .bool false)]

/-- The characters that may stand between two symbols. -/
def isJsonBlank (c : Char) : Bool := c == ' ' || c == '\t' || c == '\n' || c == '\r'

/-- The characters of numerals. -/
def isNumeralCharacter (c : Char) : Bool :=
  c.isDigit || c == '-' || c == '+' || c == '.' || c == 'e' || c == 'E'

/-- The spellings of a symbol. -/
inductive SymbolSpelling : JsonSymbol → List Char → Prop where
  | mark {c : Char} {symbol : JsonSymbol} (mem : (c, symbol) ∈ jsonMarks) :
      SymbolSpelling symbol [c]
  | text {content spelling : List Char} (spelled : TextSpelling content spelling) :
      SymbolSpelling (.text content) ('"' :: spelling ++ ['"'])
  | word {text : List Char} {value : JsonValue} (mem : (text, value) ∈ jsonWords) :
      SymbolSpelling (.atom value) text
  | numeral {n : JsonNumeral} (wellFormed : n.WellFormed) : SymbolSpelling (.atom n.value) n.text

/-- A symbol can be told from the text behind it: a word or a numeral ends where no character of a
numeral follows. -/
def JsonSymbol.EndsBefore (symbol : JsonSymbol) (rest : List Char) : Prop :=
  ∀ value, symbol = .atom value → ∀ c, rest.head? = some c → isNumeralCharacter c = false

/-- The spellings of several symbols, with any blanks in front of, between and behind them. -/
inductive SymbolsSpelling : List JsonSymbol → List Char → Prop where
  | nil : SymbolsSpelling [] []
  | blank {c : Char} {symbols : List JsonSymbol} {rest : List Char}
      (is_blank : isJsonBlank c = true) (others : SymbolsSpelling symbols rest) :
      SymbolsSpelling symbols (c :: rest)
  | cons {symbol : JsonSymbol} {symbols : List JsonSymbol} {spelling rest : List Char}
      (first : SymbolSpelling symbol spelling) (ends : symbol.EndsBefore rest)
      (others : SymbolsSpelling symbols rest) :
      SymbolsSpelling (symbol :: symbols) (spelling ++ rest)

/-! ## Values -/

/-- Sequences of symbols with commas between them. -/
def joinedSymbols : List (List JsonSymbol) → List JsonSymbol
  | [] => []
  | first :: rest => first ++ rest.flatMap (.comma :: ·)

mutual

/-- The symbols of a value. -/
def JsonValue.symbols : JsonValue → List JsonSymbol
  | .null => [.atom .null]
  | .bool value => [.atom (.bool value)]
  | .integer value => [.atom (.integer value)]
  | .number value => [.atom (.number value)]
  | .string text => [.text text]
  | .array items => .openArray :: joinedSymbols (JsonValue.itemSymbols items) ++ [.closeArray]
  | .object fields =>
    .openObject :: joinedSymbols (JsonValue.fieldSymbols fields) ++ [.closeObject]

/-- The symbols of each item of an array. -/
def JsonValue.itemSymbols : List JsonValue → List (List JsonSymbol)
  | [] => []
  | item :: rest => item.symbols :: JsonValue.itemSymbols rest

/-- The symbols of each field of an object. -/
def JsonValue.fieldSymbols : List (String × JsonValue) → List (List JsonSymbol)
  | [] => []
  | (key, value) :: rest =>
    (.text key.toList :: .colon :: value.symbols) :: JsonValue.fieldSymbols rest

end

/-- **A text is JSON for a value.** -/
def JsonValue.SpelledAs (value : JsonValue) (text : List Char) : Prop :=
  SymbolsSpelling value.symbols text

end LoxScan
