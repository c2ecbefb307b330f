import LoxScan.Proofs.JsonDump
import LoxScan.Proofs.Lookahead
import LoxScan.Proofs.NearestDouble
import Mathlib.Logic.Relation

/-!
# The values of number literals

The literal of a number is the double nearest to the number that its text denotes, whatever the
number of digits.  So the text matters only by its value, and larger numbers never have smaller
literals.

## Main Definitions

* `Numeral` — **the number that a text denotes**
* `AddsZero` — a text with one more zero that does not count
* `Token.IsNumber` — a token of a number, with what it denotes and its literal
-/

namespace LoxScan

/-! ## Numerals -/

/-- **The number that a text denotes.**  Digits denote a whole number, and with a point among them
they denote that number over a power of ten. -/
inductive Numeral : List Char → ℚ → Prop where
  | whole {digits : List Char} (isDigits : IsDigits digits) :
      Numeral digits (Nat.ofDigitChars 10 digits 0 : Nat)
  | fraction {whole decimals : List Char} (isDigits : IsDigits whole)
      (areDecimals : IsDigits decimals) :
      Numeral (whole ++ '.' :: decimals)
        ((Nat.ofDigitChars 10 (whole ++ decimals) 0 : Nat) / 10 ^ decimals.length)

/-- One more digit in front of some digits or behind them. -/
theorem IsDigits.cons {digits : List Char} (isDigits : IsDigits digits) {c : Char}
    (digit : c.isDigit = true) : IsDigits (c :: digits) where
  ne_nil := List.cons_ne_nil _ _
  all := List.forall_mem_cons.mpr ⟨digit, isDigits.all⟩

theorem IsDigits.concat {digits : List Char} (isDigits : IsDigits digits) {c : Char}
    (digit : c.isDigit = true) : IsDigits (digits ++ [c]) where
  ne_nil := List.concat_ne_nil _ _
  all := List.forall_mem_append.mpr ⟨isDigits.all, List.forall_mem_singleton.mpr digit⟩

/-- There is no point among digits. -/
theorem IsDigits.point_not_mem {digits : List Char} (isDigits : IsDigits digits) :
    '.' ∉ digits := fun mem => absurd (isDigits.all '.' mem) (by decide)

/-- **The lexemes of numbers are numerals.** -/
theorem Lexeme.exists_numeral {text : List Char} (lexeme : Lexeme .number text) :
    ∃ v, Numeral text v := by
  have digits {c : Char} {more : List Char} (all : ∀ d ∈ c :: more, DigitCharacter d) :
      IsDigits (c :: more) := ⟨List.cons_ne_nil _ _, fun d mem => isDigit_iff.mpr (all d mem)⟩
  cases lexeme with
  | integer whole => exact ⟨_, .whole (digits whole)⟩
  | fraction whole decimals => exact ⟨_, .fraction (digits whole) (digits decimals)⟩

namespace Numeral

variable {text : List Char} {v w : ℚ}

/-- The value of a numeral is the decimal that is made of its digits. -/
theorem eq_ofNumeral (numeral : Numeral text v) :
    v = (Decimal.ofNumeral text).numerator / (Decimal.ofNumeral text).denominator := by
  have outside {digits : List Char} (isDigits : IsDigits digits) :
      ∀ c ∈ digits, decide (c ≠ '.') = true := fun c mem =>
    decide_eq_true (ne_of_mem_of_not_mem mem isDigits.point_not_mem)
  cases numeral with
  | whole isDigits =>
    have parsed : Decimal.ofNumeral text = ⟨Nat.ofDigitChars 10 text 0, -(0 : Nat)⟩ := by
      rw [Decimal.ofNumeral, List.takeWhile_eq_self_iff.mpr (outside isDigits),
        List.dropWhile_eq_nil_iff.mpr (outside isDigits), List.drop_nil, List.append_nil]
      rfl
    rw [parsed, Decimal.numerator_neg, Decimal.denominator_neg]
    simp
  | @fraction whole decimals isDigits _ =>
    have parsed : Decimal.ofNumeral (whole ++ '.' :: decimals) =
        ⟨Nat.ofDigitChars 10 (whole ++ decimals) 0, -(decimals.length : Int)⟩ := by
      rw [Decimal.ofNumeral, List.takeWhile_append_of_pos (outside isDigits),
        List.dropWhile_append_of_pos (outside isDigits)]
      simp
    rw [parsed, Decimal.numerator_neg, Decimal.denominator_neg]
    exact congrArg _ (Nat.cast_pow 10 _).symm

/-- A text denotes one number. -/
theorem unique (numeral : Numeral text v) (numeral' : Numeral text w) : v = w :=
  numeral.eq_ofNumeral.trans numeral'.eq_ofNumeral.symm

/-- **The double of a numeral** is nearest to its value. -/
theorem roundsTo (numeral : Numeral text v) :
    (Decimal.ofNumeral text).toBinary64.RoundsTo v :=
  numeral.eq_ofNumeral ▸ Binary64.roundsTo_nearest _ (Decimal.denominator_pos _)

theorem toBinary64_eq_zero_iff (numeral : Numeral text v) :
    (Decimal.ofNumeral text).toBinary64 = Binary64.zero ↔ v ≤ 1 / 2 ^ 1075 :=
  numeral.eq_ofNumeral ▸ Binary64.nearest_eq_zero_iff _ (Decimal.denominator_pos _)

/-- Larger numerals have larger doubles. -/
theorem rank_mono {text' : List Char} (numeral : Numeral text v) (numeral' : Numeral text' w)
    (le : v ≤ w) : (Decimal.ofNumeral text).toBinary64.rank ≤
      (Decimal.ofNumeral text').toBinary64.rank := by
  rw [numeral.eq_ofNumeral, numeral'.eq_ofNumeral] at le
  exact Binary64.rank_nearest_mono (Decimal.denominator_pos _) (Decimal.denominator_pos _) le

end Numeral

/-! ## Zeros that do not count -/

/-- **A text with one more zero that does not count**: in front of it, behind its decimals, or
behind a new point. -/
inductive AddsZero : List Char → List Char → Prop where
  | leading {text : List Char} : AddsZero text ('0' :: text)
  | trailing {text : List Char} (pointed : '.' ∈ text) : AddsZero text (text ++ ['0'])
  | point {text : List Char} (pointless : '.' ∉ text) : AddsZero text (text ++ ['.', '0'])

/-- The value of digits with one more zero behind them. -/
theorem ofDigitChars_concat_zero (digits : List Char) :
    Nat.ofDigitChars 10 (digits ++ ['0']) 0 = Nat.ofDigitChars 10 digits 0 * 10 := by
  rw [Nat.ofDigitChars_append, Nat.mul_comm]
  exact Nat.ofDigitChars_replicate_zero (b := 10) (n := 1)

/-- One zero that does not count leaves the value as it is. -/
theorem Numeral.addsZero {text text' : List Char} {v : ℚ} (numeral : Numeral text v)
    (added : AddsZero text text') : Numeral text' v := by
  have ten : (10 : ℚ) ≠ 0 := by decide
  cases numeral with
  | whole isDigits =>
    cases added with
    | leading => exact .whole (isDigits.cons rfl)
    | trailing pointed => exact absurd pointed isDigits.point_not_mem
    | point =>
      have longer := Numeral.fraction isDigits ⟨List.cons_ne_nil '0' [], by simp⟩
      rw [ofDigitChars_concat_zero, Nat.cast_mul, List.length_singleton, pow_one] at longer
      rwa [Nat.cast_ofNat, mul_div_cancel_right₀ _ ten] at longer
  | @fraction whole decimals isDigits areDecimals =>
    cases added with
    | leading => exact .fraction (isDigits.cons rfl) areDecimals
    | trailing =>
      have longer := Numeral.fraction isDigits (areDecimals.concat (c := '0') rfl)
      rw [← List.append_assoc, ofDigitChars_concat_zero, List.length_append, List.length_singleton,
        Nat.cast_mul, pow_succ] at longer
      rwa [Nat.cast_ofNat, mul_div_mul_right _ _ ten, ← List.cons_append,
        ← List.append_assoc] at longer
    | point pointless => exact absurd (List.mem_append_right _ List.mem_cons_self) pointless

/-- **Zeros that do not count leave the value as it is.** -/
theorem Numeral.addsZeros {text text' : List Char} {v : ℚ} (numeral : Numeral text v)
    (added : Relation.ReflTransGen AddsZero text text') : Numeral text' v := by
  induction added with
  | refl => exact numeral
  | tail _ one ih => exact ih.addsZero one

/-! ## Tokens -/

/-- **A token of a number**, with the number that its lexeme denotes and the double that is its
literal. -/
structure Token.IsNumber (token : Token) (v : ℚ) (x : Binary64) : Prop where
  kind : token.kind = .number
  numeral : Numeral token.lexeme v
  literal : token.literal = some (.number x)

/-- A scanned number has a value, and the double of its lexeme is its literal. -/
theorem exists_isNumber {source : List Char} {token : Token}
    (mem : token ∈ (Scanner.ofSource source).scanTokens.tokens) (kind : token.kind = .number) :
    ∃ v, token.IsNumber v (Decimal.ofNumeral token.lexeme).toBinary64 := by
  rw [(Scanner.scanTokens_ofSource source).1] at mem
  rcases exists_item_of_mem_scan mem with ⟨item, mem, line, found⟩ | rfl
  · have wellFormed := wellFormed_of_mem_items mem
    obtain ⟨form, text⟩ := item
    obtain rfl : form = .number := Item.form_of_number wellFormed found kind
    obtain ⟨v, numeral⟩ := (wellFormed.lexeme rfl).exists_numeral
    cases found
    exact ⟨v, rfl, numeral, rfl⟩
  · cases kind

/-- Infinity is the only double behind the finite ones that a number is rounded to. -/
theorem Binary64.RoundsTo.eq_infinity_iff {x : Binary64} {v : ℚ} (rounded : x.RoundsTo v) :
    x = infinity ↔ 2 ^ 1024 - 2 ^ 970 ≤ v := by
  rw [← not_lt, ← rounded.isFinite_iff, Bool.not_eq_true]
  constructor
  · rintro rfl
    exact text_infinity.1
  · intro infinite
    have last : infinity.rank = infinityRank := Nat.min_self _
    exact eq_of_rank_eq rounded.negative_eq rfl
      ((rounded.rank_eq_infinityRank infinite).trans last.symm)

/-- **The literals of numbers are correctly rounded.**  Take any token of a number of any source.
Its lexeme denotes a number, and its literal is the double that this number is rounded to: the
nearest one, the one with the even significand if two are equally near, neither negative nor
undefined, and there is only one such double.  It is infinity exactly from the middle between the
largest finite double and the power of two behind it on, and zero exactly up to half of the
smallest positive double.

Of any two such tokens, of the same source or not, the one of the larger number does not have the
smaller literal.  The literals are the same if the numbers are, and so they are if the lexemes
differ only in zeros that do not count. -/
theorem number_correctlyRounded (source : List Char) (token : Token)
    (mem : token ∈ (Scanner.ofSource source).scanTokens.tokens) (kind : token.kind = .number) :
    ∃ v x, token.IsNumber v x ∧ x.RoundsTo v ∧
      (∀ y : Binary64, y.RoundsTo v → y = x) ∧
      (x = Binary64.infinity ↔ 2 ^ 1024 - 2 ^ 970 ≤ v) ∧
      (x = Binary64.zero ↔ v ≤ 1 / 2 ^ 1075) ∧
      ∀ (source' : List Char), ∀ other ∈ (Scanner.ofSource source').scanTokens.tokens,
        ∀ v' x', other.IsNumber v' x' →
          (v ≤ v' → x.extendedValue ≤ x'.extendedValue) ∧ (v = v' → x = x') ∧
            (Relation.ReflTransGen AddsZero token.lexeme other.lexeme → x = x') := by
  obtain ⟨v, isNumber⟩ := exists_isNumber mem kind
  have rounded := isNumber.numeral.roundsTo
  refine ⟨v, _, isNumber, rounded, fun y rounded' => rounded'.unique rounded,
    rounded.eq_infinity_iff, isNumber.numeral.toBinary64_eq_zero_iff, ?_⟩
  intro source' other mem' v' x' isNumber'
  obtain ⟨w, read⟩ := exists_isNumber mem' isNumber'.kind
  obtain rfl : w = v' := read.numeral.unique isNumber'.numeral
  obtain rfl : (Decimal.ofNumeral other.lexeme).toBinary64 = x' := by
    have same := read.literal.symm.trans isNumber'.literal
    exact Literal.number.inj (Option.some.inj same)
  have rounded' := isNumber'.numeral.roundsTo
  refine ⟨fun le => ?_, fun same => rounded.unique (same ▸ rounded'), fun added => ?_⟩
  · exact Binary64.extendedValue_mono rounded.negative_eq rounded'.negative_eq
      (isNumber.numeral.rank_mono isNumber'.numeral le)
  · have same : v = w := (isNumber.numeral.addsZeros added).unique isNumber'.numeral
    exact rounded.unique (same ▸ rounded')

/-- A number midway between two doubles becomes the one with the even significand, also with a
point and a zero behind it. -/
theorem number_correctlyRounded_midway :
    ∃ token ∈ (Scanner.ofSource "9007199254740993 9007199254740993.0".toList).scanTokens.tokens,
      ∃ other ∈ (Scanner.ofSource "9007199254740993 9007199254740993.0".toList).scanTokens.tokens,
        token.lexeme ≠ other.lexeme ∧
          ∃ v x, token.IsNumber v x ∧ other.literal = some (.number x) ∧ x.RoundsTo v ∧
            x = Binary64.nearest 9007199254740992 1 := by
  have tokens :
      (Scanner.ofSource "9007199254740993 9007199254740993.0".toList).scanTokens.tokens =
        [⟨.number, "9007199254740993".toList,
            some (.number (Binary64.nearest 9007199254740992 1)), 1⟩,
          ⟨.number, "9007199254740993.0".toList,
            some (.number (Binary64.nearest 9007199254740992 1)), 1⟩,
          Token.endOfInput 1] := by
    decide +kernel
  have mem := tokens ▸ List.mem_cons_self
  have mem' := tokens ▸ List.mem_cons_of_mem _ List.mem_cons_self
  obtain ⟨v, x, isNumber, rounded, -, -, -, others⟩ := number_correctlyRounded _ _ mem rfl
  obtain ⟨w, isNumber'⟩ := exists_isNumber mem' rfl
  have added : Relation.ReflTransGen AddsZero "9007199254740993".toList
      "9007199254740993.0".toList := .single (.point (by decide))
  have same := (others _ _ mem' w _ isNumber').2.2 added
  have literal := isNumber.literal
  exact ⟨_, mem, _, mem', by decide, v, x, isNumber, same ▸ isNumber'.literal, rounded,
    (Literal.number.inj (Option.some.inj literal)).symm⟩

end LoxScan
