import LoxScan.Json.Printer
import LoxScan.Proofs.JsonText
import LoxScan.Proofs.ReadBack

/-!
# Written numbers are numerals

The text of a whole number and the text of a finite double are numerals of JSON, and the value
of the numeral is the number that has been written.  A double is never written as a whole number:
its text has a point or an exponent.

The layout of the digits does not matter for that.  With the point inside the digits, in front
of them or behind them, or in scientific form, the numeral has the value of the decimal that
is laid out (`Decimal.exists_numeral`).

## Main Definitions

* `JsonNumeral.Writes` — a numeral is the text of a decimal
-/

namespace LoxScan

/-! ## Digits -/

/-- The digits of a number. -/
theorem isDigits_toDigits (n : Nat) : IsDigits (Nat.toDigits 10 n) where
  ne_nil := Nat.toDigits_ne_nil
  all _ mem := Nat.isDigit_of_mem_toDigits (by decide) (by decide) mem

theorem isDigits_replicate_append (zeros : Nat) {digits : List Char} (isDigits : IsDigits digits) :
    IsDigits (List.replicate zeros '0' ++ digits) where
  ne_nil := by simp [isDigits.ne_nil]
  all c mem := by
    rcases List.mem_append.mp mem with zero | digit
    · rw [List.eq_of_mem_replicate zero]
      rfl
    · exact isDigits.all c digit

/-- The first digit of a positive number is not zero. -/
theorem head?_toDigits {n : Nat} (positive : 0 < n) : (Nat.toDigits 10 n).head? ≠ some '0' := by
  induction n using Nat.strongRecOn with
  | ind n ih =>
    by_cases small : n < 10
    · rw [Nat.toDigits_of_lt_base small]
      simpa using positive.ne'
    · obtain ⟨d, rest, front⟩ :=
        List.exists_cons_of_ne_nil (Nat.toDigits_ne_nil (n := n / 10) (b := 10))
      have shorter := ih (n / 10) (by omega) (by omega)
      rw [front] at shorter
      rw [Nat.toDigits_of_base_le (by decide) (by omega), front]
      exact shorter

/-- No zero stands in front of the digits of a number. -/
theorem no_zero_ahead_toDigits (n : Nat) (zero : (Nat.toDigits 10 n).head? = some '0') :
    Nat.toDigits 10 n = ['0'] := by
  rcases Nat.eq_zero_or_pos n with rfl | positive
  · exact Nat.toDigits_zero 10
  · exact absurd zero (head?_toDigits positive)

/-! ## Whole numbers -/

/-- A number is its size behind its sign. -/
theorem signed_natAbs (n : Int) :
    (if n < 0 then -(n.natAbs : Int) else (n.natAbs : Int)) = n := by
  split
  case isTrue negative => omega
  case isFalse nonnegative => omega

/-- **The text of a whole number** is a numeral for it. -/
theorem spelling_integerText (n : Int) : SymbolSpelling (.atom (.integer n)) (integerText n) := by
  have spelled := SymbolSpelling.numeral (n := ⟨n < 0, Nat.toDigits 10 n.natAbs, none, none⟩)
    { whole := isDigits_toDigits _
      no_zero_ahead := no_zero_ahead_toDigits _
      fraction := nofun
      exponent := nofun }
  have value : JsonNumeral.value ⟨n < 0, Nat.toDigits 10 n.natAbs, none, none⟩ = .integer n := by
    simp only [JsonNumeral.value, Nat.ofDigitChars_ten_toDigits, Option.isNone_none, and_self,
      if_true, decide_eq_true_eq, signed_natAbs]
  have text : JsonNumeral.text ⟨n < 0, Nat.toDigits 10 n.natAbs, none, none⟩ = integerText n := by
    simp only [JsonNumeral.text, JsonNumeral.ending, Option.elim_none, List.append_nil, integerText]
    by_cases negative : n < 0
    · simp [negative]
    · simp [negative]
  rwa [value, text] at spelled

/-! ## Decimals -/

/-- A numeral is the text of a decimal, behind a sign: it is written the same, it is no whole
number, and it has the same value. -/
structure JsonNumeral.Writes (n : JsonNumeral) (text : List Char) (d : Decimal) : Prop where
  wellFormed : n.WellFormed
  text_eq : n.whole ++ n.ending = text
  not_whole : ¬(n.fraction.isNone ∧ n.exponent.isNone)
  same : n.magnitude.Same d

/-- An exponent as it is written. -/
theorem exists_exponent (width : Nat) (exponent : Int) :
    ∃ e : NumeralExponent, e.WellFormed ∧ e.text = writeExponent width exponent ∧
      e.value = exponent := by
  refine ⟨⟨'e', if exponent < 0 then ['-'] else ['+'],
    List.replicate (width - (Nat.toDigits 10 exponent.natAbs).length) '0' ++
      Nat.toDigits 10 exponent.natAbs⟩, ⟨.inl rfl, ?_, ?_⟩, ?_, ?_⟩
  · by_cases negative : exponent < 0
    · simp [negative]
    · simp [negative]
  · exact isDigits_replicate_append _ (isDigits_toDigits _)
  · rw [NumeralExponent.text, writeExponent]
    by_cases negative : exponent < 0
    · simp [negative]
    · simp [negative]
  · have sign : (if exponent < 0 then ['-'] else ['+']) = ['-'] ↔ exponent < 0 := by
      by_cases negative : exponent < 0
      · simp [negative]
      · simp [negative]
    simp only [NumeralExponent.value, Nat.ofDigitChars_append, Nat.ofDigitChars_replicate_zero,
      Nat.mul_zero, Nat.ofDigitChars_ten_toDigits, sign, signed_natAbs]

/-- The numeral with given digits on both sides of the point. -/
theorem writes_pointed (negative : Bool) (whole fraction : List Char)
    (whole_digits : IsDigits whole) (no_zero_ahead : whole.head? = some '0' → whole = ['0'])
    (fraction_digits : IsDigits fraction) {d : Decimal}
    (same : Decimal.Same ⟨Nat.ofDigitChars 10 (whole ++ fraction) 0, -(fraction.length : Int)⟩ d) :
    JsonNumeral.Writes ⟨negative, whole, some fraction, none⟩ (whole ++ '.' :: fraction) d where
  wellFormed :=
    { whole := whole_digits
      no_zero_ahead := no_zero_ahead
      fraction := by
        rintro digits ⟨⟩
        exact fraction_digits
      exponent := nofun }
  text_eq := by simp [JsonNumeral.ending]
  not_whole := by simp
  same := by
    rw [← Int.zero_sub] at same
    exact same

/-- The digits of a decimal that is not zero. -/
structure Decimal.HasDigits (d : Decimal) (digits : List Char) : Prop where
  isDigits : IsDigits digits
  leading : digits.head? ≠ some '0'
  value : Nat.ofDigitChars 10 digits 0 = d.coefficient

theorem Decimal.hasDigits {d : Decimal} (positive : 0 < d.coefficient) :
    d.HasDigits (Nat.toDigits 10 d.coefficient) where
  isDigits := isDigits_toDigits _
  leading := head?_toDigits positive
  value := Nat.ofDigitChars_ten_toDigits

namespace Decimal.HasDigits

variable {d : Decimal} {digits : List Char}

/-- The first digit, or several, do not begin with zero. -/
theorem head?_take (hasDigits : d.HasDigits digits) {n : Nat} (positive : 0 < n) :
    (digits.take n).head? ≠ some '0' := by
  rw [List.head?_take, if_neg positive.ne']
  exact hasDigits.leading

theorem isDigits_take (hasDigits : d.HasDigits digits) {n : Nat} (positive : 0 < n) :
    IsDigits (digits.take n) where
  ne_nil := by simp [hasDigits.isDigits.ne_nil, positive.ne']
  all c mem := hasDigits.isDigits.all c (List.mem_of_mem_take mem)

theorem isDigits_drop (hasDigits : d.HasDigits digits) {n : Nat} (short : n < digits.length) :
    IsDigits (digits.drop n) where
  ne_nil := by simpa using short
  all c mem := hasDigits.isDigits.all c (List.mem_of_mem_drop mem)

/-- Digits with zeros behind them are those of a multiple. -/
theorem append_zeros (hasDigits : d.HasDigits digits) (zeros : Nat) :
    HasDigits ⟨d.coefficient * 10 ^ zeros, d.exponent - zeros⟩
      (digits ++ List.replicate zeros '0') where
  isDigits :=
    { ne_nil := by simp [hasDigits.isDigits.ne_nil]
      all := by
        intro c mem
        rcases List.mem_append.mp mem with digit | zero
        · exact hasDigits.isDigits.all c digit
        · rw [List.eq_of_mem_replicate zero]
          rfl }
  leading := by
    obtain ⟨first, others, rfl⟩ := List.exists_cons_of_ne_nil hasDigits.isDigits.ne_nil
    exact hasDigits.leading
  value := by
    rw [Nat.ofDigitChars_append, Nat.ofDigitChars_replicate_zero, hasDigits.value, Nat.mul_comm]

/-- **A decimal in positional form.**  The point stands in front of the digits, between them or
behind them. -/
theorem exists_positional (hasDigits : d.HasDigits digits) (negative : Bool) {place : Int}
    (place_eq : place = digits.length + d.exponent) :
    ∃ n : JsonNumeral, n.negative = negative ∧ n.Writes (writePositional digits place) d := by
  by_cases in_front : place ≤ 0
  · rw [writePositional, if_pos in_front]
    refine ⟨_, rfl, writes_pointed negative ['0'] _ ⟨by simp, by simp⟩ (fun _ => rfl)
      (isDigits_replicate_append _ hasDigits.isDigits) (.of_parts ?_ ?_)⟩
    · simp [Nat.ofDigitChars_append, Nat.ofDigitChars_cons, hasDigits.value]
    · simp only [List.length_append, List.length_replicate]
      omega
  · rw [writePositional, if_neg in_front]
    by_cases between : place.toNat < digits.length
    · rw [if_pos between]
      refine ⟨_, rfl, writes_pointed negative _ _ (hasDigits.isDigits_take (by omega))
        (fun zero => absurd zero (hasDigits.head?_take (by omega)))
        (hasDigits.isDigits_drop between) (.of_parts ?_ ?_)⟩
      · rw [List.take_append_drop, hasDigits.value]
      · simp only [List.length_drop]
        omega
    · -- zeros up to the point, and one behind it
      rw [if_neg between]
      obtain ⟨zeros, zeros_eq⟩ : ∃ zeros, zeros = place.toNat - digits.length := ⟨_, rfl⟩
      rw [← zeros_eq]
      have shifted := hasDigits.append_zeros zeros
      refine ⟨_, rfl, writes_pointed negative _ ['0'] shifted.isDigits
        (fun zero => absurd zero shifted.leading) ⟨by simp, by simp⟩ ?_⟩
      have last : List.replicate zeros '0' ++ ['0'] = List.replicate (zeros + 1) '0' :=
        List.replicate_succ'.symm
      rw [List.append_assoc, last, (hasDigits.append_zeros (zeros + 1)).value]
      refine (Decimal.same_shift d.coefficient (zeros + 1) _).trans (.of_parts rfl ?_)
      simp only [List.length_singleton]
      omega

/-- **A decimal in scientific form.** -/
theorem exists_scientific (hasDigits : d.HasDigits digits) (negative : Bool) (width : Nat)
    {place : Int} (place_eq : place = digits.length + d.exponent) :
    ∃ n : JsonNumeral, n.negative = negative ∧ n.Writes (writeScientific width digits place) d := by
  obtain ⟨e, wellFormed, text, value⟩ := exists_exponent width (place - 1)
  obtain ⟨first, others, rfl⟩ := List.exists_cons_of_ne_nil hasDigits.isDigits.ne_nil
  have whole : IsDigits [first] := hasDigits.isDigits_take Nat.one_pos
  have leading : first ≠ '0' := by simpa using hasDigits.leading
  have no_zero_ahead : [first].head? = some '0' → [first] = ['0'] := fun zero =>
    absurd (Option.some.inj zero) leading
  have exponent : ∀ e' ∈ some e, e'.WellFormed := by
    rintro _ ⟨⟩
    exact wellFormed
  have coefficient := hasDigits.value
  cases others with
  | nil =>
    refine ⟨⟨negative, [first], none, some e⟩, rfl, ⟨whole, no_zero_ahead, nofun, exponent⟩, ?_,
      by simp, .of_parts ?_ ?_⟩
    · simp [JsonNumeral.ending, writeScientific, text]
    · exact coefficient
    · simp only [JsonNumeral.magnitude, Option.elim_some, Option.getD_none, List.length_nil, value,
        place_eq, List.length_cons]
      omega
  | cons second rest =>
    have fraction : ∀ digits ∈ some (second :: rest), IsDigits digits := by
      rintro _ ⟨⟩
      exact hasDigits.isDigits_drop (n := 1) (by simp)
    refine ⟨⟨negative, [first], some (second :: rest), some e⟩, rfl,
      ⟨whole, no_zero_ahead, fraction, exponent⟩, ?_, by simp, .of_parts ?_ ?_⟩
    · simp [JsonNumeral.ending, writeScientific, text]
    · exact coefficient
    · simp only [JsonNumeral.magnitude, Option.elim_some, Option.getD_some, value, place_eq,
        List.length_cons]
      omega

end Decimal.HasDigits

/-- **The text of a decimal is a numeral of the same value**, whatever the sign in front of it. -/
theorem Decimal.exists_numeral (d : Decimal) (layout : NumberLayout) (negative : Bool) :
    ∃ n : JsonNumeral, n.negative = negative ∧ n.Writes (d.write layout) d := by
  rw [Decimal.write]
  by_cases zero : d.coefficient = 0
  · rw [if_pos zero]
    refine ⟨_, rfl, writes_pointed negative ['0'] ['0'] ⟨by simp, by simp⟩ (fun _ => rfl)
      ⟨by simp, by simp⟩ ?_⟩
    simp [Decimal.Same, Decimal.numerator, zero, Nat.ofDigitChars_cons]
  · rw [if_neg zero, NumberLayout.write]
    have hasDigits := Decimal.hasDigits (Nat.pos_of_ne_zero zero)
    split
    · exact hasDigits.exists_positional negative rfl
    · exact hasDigits.exists_scientific negative layout.exponentWidth rfl

/-! ## Doubles -/

/-- A finite double is its sign and its rank. -/
theorem Binary64.eq_of_finite {x : Binary64} (finite : x.rank < infinityRank) :
    { ofRank false x.rank with negative := x.negative } = x := by
  have kept : min x.rank infinityRank = x.rank := Nat.min_eq_left finite.le
  obtain ⟨negative, rank, _⟩ := x
  simp only [ofRank, kept]

/-- The text of a finite double is its sign and the shortest decimal. -/
theorem Binary64.text_of_finite {x : Binary64} (finite : x.rank < infinityRank) :
    x.text = (if x.negative then ['-'] else []) ++ (shortest x.rank).write numberLayout := by
  have number : x.isNaN = false := by
    rw [isNaN, decide_eq_false_iff_not]
    exact Nat.not_lt_of_lt finite
  have magnitude : magnitudeText x.rank = (shortest x.rank).write numberLayout := by
    rw [magnitudeText, if_pos finite]
  rw [text, number, if_neg Bool.false_ne_true, ← magnitude]
  cases x.negative
  · rfl
  · rfl

/-- **The text of a finite double** is a numeral for it. -/
theorem spelling_number {x : Binary64} (finite : x.isFinite = true) :
    SymbolSpelling (.atom (.number x)) x.text := by
  rw [Binary64.isFinite, decide_eq_true_iff] at finite
  obtain ⟨n, sign, writes⟩ := (Binary64.shortest x.rank).exists_numeral numberLayout x.negative
  have nearest : n.magnitude.toBinary64 = Binary64.ofRank false x.rank :=
    writes.same.toBinary64_eq.trans (Binary64.toBinary64_shortest finite)
  have value : n.value = .number x := by
    rw [JsonNumeral.value, if_neg writes.not_whole, nearest, sign, Binary64.eq_of_finite finite]
  have text : n.text = x.text := by
    rw [JsonNumeral.text, writes.text_eq, sign, Binary64.text_of_finite finite]
  have spelled := SymbolSpelling.numeral writes.wellFormed
  rwa [value, text] at spelled

end LoxScan
