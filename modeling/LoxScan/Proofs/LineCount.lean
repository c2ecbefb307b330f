import LoxScan.Proofs.Lexeme
import LoxScan.Scan

/-!
# Counting lines

The line counter is moved at two unrelated places, by a line feed that stands alone and
by the search for the closing mark of a string.  Every other item is passed over without
a look at its characters.  It is the grammar that makes the counter exact all the same:
no other form of item has room for a line feed, and a string has none behind the mark at
which the search ends.

## Main Definitions

* `lineTotal` — the number of lines of a source text
* `WellFormed.lineBreaks_eq` — an item moves the counter by the number of its line feeds
* `lineAfter_eq` — what the counter shows behind some items
-/

namespace LoxScan

/-- The number of lines of a source text: one more than its line feeds. -/
def lineTotal (source : List Char) : Int := 1 + source.count '\n'

namespace Item

/-- In front of the mark, the search for it counts every line feed. -/
theorem stringLineBreaks_append {inside : List Char} (unmarked : '"' ∉ inside)
    (after : List Char) :
    stringLineBreaks (inside ++ after) = inside.count '\n' + stringLineBreaks after := by
  induction inside with
  | nil => rw [List.nil_append, List.count_nil, Nat.zero_add]
  | cons c rest ih =>
    obtain ⟨noMark, unmarked⟩ := List.ne_and_not_mem_of_not_mem_cons unmarked
    rw [List.cons_append, stringLineBreaks, if_neg (Ne.symm noMark), ih unmarked]
    by_cases feed : c = '\n'
    · rw [if_pos feed, feed, List.count_cons_self]
      omega
    · rw [if_neg feed, List.count_cons_of_ne feed]

/-- At the mark the search ends, whatever stands behind it. -/
theorem stringLineBreaks_mark (after : List Char) : stringLineBreaks ('"' :: after) = 0 := rfl

end Item

/-- **A lexeme moves the counter by the number of its line feeds.**  Where its form moves
the counter this is what has been counted; where it does not, the lexeme has none. -/
theorem Lexeme.lineBreaks_eq {form : ItemForm} {text : List Char} (lexeme : Lexeme form text) :
    (Item.mk form text).lineBreaks = text.count '\n' := by
  have noFeed : ∀ {text : List Char}, '\n' ∉ text → 0 = text.count '\n' :=
    fun outside => (List.count_eq_zero.mpr outside).symm
  cases lexeme with
  | @punctuation c kind mem =>
    have outside : ∀ entry ∈ LoxScan.punctuation, entry.1 ≠ '\n' := by decide
    exact noFeed (by simpa using (outside _ mem).symm)
  | slash => rfl
  | @comparison c withEqual alone mem =>
    have outside : ∀ entry ∈ comparisons, entry.1 ≠ '\n' := by decide
    exact noFeed (by simpa using (outside _ mem).symm)
  | @comparisonEqual c withEqual alone mem =>
    have outside : ∀ entry ∈ comparisons, entry.1 ≠ '\n' := by decide
    exact noFeed (by simpa using (outside _ mem).symm)
  | comment oneLine => exact noFeed (by simpa using oneLine)
  | blank separates => rcases separates with rfl | rfl | rfl <;> rfl
  | lineBreak => rfl
  | @string inside unmarked =>
    show Item.stringLineBreaks (inside ++ ['"']) = ('"' :: inside ++ ['"']).count '\n'
    rw [Item.stringLineBreaks_append unmarked, Item.stringLineBreaks_mark]
    simp
  | integer digits =>
    exact noFeed fun mem => absurd (digits _ mem) (by decide)
  | fraction digits decimals =>
    refine noFeed fun mem => ?_
    rcases List.mem_append.mp mem with mem | mem
    · exact absurd (digits _ mem) (by decide)
    · rcases List.mem_cons.mp mem with same | mem
      · cases same
      · exact absurd (decimals _ mem) (by decide)
  | word start characters =>
    refine noFeed fun mem => ?_
    rcases List.mem_cons.mp mem with rfl | mem
    · exact absurd start (by decide)
    · exact absurd (characters _ mem) (by decide)

/-- What is left where no lexeme begins moves the counter by the number of its line feeds. -/
theorem Residue.lineBreaks_eq {form : ItemForm} {text : List Char} (residue : Residue form text) :
    (Item.mk form text).lineBreaks = text.count '\n' := by
  cases residue with
  | @openString inside unmarked =>
    show Item.stringLineBreaks inside = ('"' :: inside).count '\n'
    have whole := Item.stringLineBreaks_append unmarked []
    rw [List.append_nil] at whole
    rw [whole, List.count_cons_of_ne (by decide)]
    rfl
  | @strayCharacter c foreign =>
    have noFeed : '\n' ∉ [c] := by
      rintro mem
      obtain rfl := List.mem_singleton.mp mem
      exact absurd foreign (by decide)
    exact (List.count_eq_zero.mpr noFeed).symm

namespace Item

/-- **An item moves the counter by the number of its line feeds.** -/
theorem WellFormed.lineBreaks_eq {item : Item} (h : item.WellFormed) :
    item.lineBreaks = item.text.count '\n' := by
  obtain ⟨form, text⟩ := item
  rcases h with lexeme | residue
  · exact lexeme.lineBreaks_eq
  · exact residue.lineBreaks_eq

/-- What is cut off moves the counter by the number of its line feeds. -/
theorem lineBreaks_cut (c : Char) (rest : List Char) :
    (cut c rest).1.lineBreaks = (cut c rest).1.text.count '\n' :=
  (wellFormed_cut c rest).lineBreaks_eq

/-- The line behind a text is as far down as its first item moves the counter and as the line
feeds behind the item lead. -/
theorem line_add_count_cut (line : Int) (c : Char) (after : List Char) :
    line + ((c :: after).count '\n' : Nat) =
      line + (cut c after).1.lineBreaks + ((cut c after).2.count '\n' : Nat) := by
  have whole : (c :: after).count '\n' =
      (cut c after).1.lineBreaks + (cut c after).2.count '\n' := by
    rw [lineBreaks_cut, ← List.count_append, cut_append]
  rw [whole]
  omega

end Item

/-- The counter behind some items and others is that of the others behind it. -/
theorem lineAfter_append (line : Int) (first second : List Item) :
    lineAfter line (first ++ second) = lineAfter (lineAfter line first) second := by
  induction first generalizing line with
  | nil => rfl
  | cons item rest ih => rw [List.cons_append, lineAfter_cons, ih, lineAfter_cons]

/-- Behind some items the counter has moved by the number of their line feeds. -/
theorem lineAfter_eq {parts : List Item} (wellFormed : ∀ item ∈ parts, item.WellFormed)
    (line : Int) :
    lineAfter line parts = line + ((parts.flatMap Item.text).count '\n' : Nat) := by
  induction parts generalizing line with
  | nil => simp
  | cons item rest ih =>
    rw [List.forall_mem_cons] at wellFormed
    rw [lineAfter_cons, ih wellFormed.2, wellFormed.1.lineBreaks_eq, List.flatMap_cons,
      List.count_append]
    omega

/-- **Behind a text the counter has moved by the number of its line feeds.** -/
@[simp] theorem lineAfter_items (line : Int) (source : List Char) :
    lineAfter line (items source) = line + (source.count '\n' : Nat) := by
  rw [lineAfter_eq (fun _ mem => wellFormed_of_mem_items mem), flatMap_text_items]

/-- The counter ends on the last line of the source. -/
theorem lineAfter_one_items (source : List Char) :
    lineAfter 1 (items source) = lineTotal source := lineAfter_items 1 source

/-- The tokens of a scan are those of its items and the one that marks the end of the input,
on the last line. -/
theorem tokens_scanFrom (line : Int) (source : List Char) :
    (scanFrom line source).tokens =
      (eventsFrom line (items source)).filterMap ScanEvent.token? ++
        [Token.endOfInput (line + (source.count '\n' : Nat))] := by
  rw [scanFrom, lineAfter_items]

/-- The tokens of the scan of a source. -/
theorem tokens_scan (source : List Char) :
    (scan source).tokens =
      (eventsFrom 1 (items source)).filterMap ScanEvent.token? ++
        [Token.endOfInput (lineTotal source)] := tokens_scanFrom 1 source

/-- Every scan ends with the token that marks the end of the input. -/
theorem getLast?_tokens_scan (source : List Char) :
    (scan source).tokens.getLast? = some (Token.endOfInput (lineTotal source)) := by
  rw [tokens_scan, List.getLast?_concat]

end LoxScan
