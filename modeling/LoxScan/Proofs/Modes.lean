import LoxScan.Proofs.Occurrence
import Mathlib.Data.List.Induction

/-!
# Reports, character by character

Which characters of a source are reported can be said without items.  Reading one character
at a time, one is outside of strings and comments, inside a string, or inside a comment, and
a character is reported exactly if it is read outside of both and is none of Lox.  A string
that is still open at the end is reported last.

The scanner goes through whole items instead.  The two agree because a mode in which an item
has been read does to the text behind the item what reading it afresh does: this is
`Mode.Settled`, and the boundary of the item (`Item.StopsBefore`) is what brings it about.
A slash, for instance, leaves a mode in which one more slash would open a comment, and is an
item by itself only where no slash follows.

## Main Definitions

* `LoxCharacter` — the characters of Lox
* `Mode`, `Mode.step`, `Mode.run` — the modes of reading, and what a character does to them
* `strayOffsets` — the offsets of the characters that are none of Lox, outside of strings
  and comments
* `Item.Reading` — how an item is read character by character
-/

namespace LoxScan

/-! ## The characters of Lox -/

/-- **The alphabet of Lox**: ASCII letters and digits, the underscore, the characters of
punctuation and operators, the quotation mark, and what separates. -/
def LoxCharacter (c : Char) : Prop :=
  WordStart c ∨ DigitCharacter c ∨
    c ∈ ['(', ')', '\x7b', '\x7d', ',', '.', '-', '+', ';', '*', '/', '!', '=', '<', '>', '"',
      ' ', '\t', '\r', '\n']

instance : DecidablePred LoxCharacter :=
  fun c => inferInstanceAs (Decidable (WordStart c ∨ DigitCharacter c ∨ c ∈ _))

/-- A key is found in a table exactly if it is one of the table's keys. -/
theorem isSome_lookup_iff {α β : Type} [BEq α] [LawfulBEq α] {table : List (α × β)} {key : α} :
    (table.lookup key).isSome = true ↔ key ∈ table.map Prod.fst := by
  constructor
  · intro found
    obtain ⟨value, found⟩ := Option.isSome_iff_exists.mp found
    exact List.mem_map_of_mem (mem_of_lookup found)
  · intro mem
    obtain ⟨entry, present, rfl⟩ := List.mem_map.mp mem
    refine Option.isSome_iff_ne_none.mpr fun none => ?_
    have differ := List.lookup_eq_none_iff.mp none entry present
    simp at differ

/-- The scanner knows exactly the characters of Lox. -/
theorem isLoxCharacter_iff {c : Char} : isLoxCharacter c = true ↔ LoxCharacter c := by
  simp only [isLoxCharacter, Bool.or_eq_true, isSome_lookup_iff, decide_eq_true_eq, isBlank_iff,
    isWordCharacter_iff, LoxCharacter, punctuation, comparisons, List.map_cons, List.map_nil,
    List.mem_cons, List.not_mem_nil, or_false]
  exact iff_of_eq (by ac_rfl)

/-! ## Modes -/

/-- **The modes in which a source is read.** -/
inductive Mode where
  /-- Outside of strings and comments. -/
  | code
  /-- Outside of them as well, behind a slash that one more slash would make a comment. -/
  | slash
  /-- Inside a string. -/
  | string
  /-- Inside a comment. -/
  | comment
deriving DecidableEq, Repr

namespace Mode

/-- The mode is outside of strings and comments. -/
def inCode : Mode → Bool
  | .code | .slash => true
  | .string | .comment => false

/-- **What one character does to a mode.**  A quotation mark opens a string and closes it,
the second of two slashes opens a comment, and a line feed ends it. -/
def step : Mode → Char → Mode
  | .code, c => if c = '"' then .string else if c = '/' then .slash else .code
  | .slash, c => if c = '"' then .string else if c = '/' then .comment else .code
  | .string, c => if c = '"' then .code else .string
  | .comment, c => if c = '\n' then .code else .comment

/-- The mode after some text. -/
def run (mode : Mode) (text : List Char) : Mode := text.foldl step mode

/-- A character that is reported when it is read in this mode. -/
def reports (mode : Mode) (c : Char) : Bool := mode.inCode && !decide (LoxCharacter c)

@[simp] theorem run_nil (mode : Mode) : mode.run [] = mode := rfl

@[simp] theorem run_cons (mode : Mode) (c : Char) (rest : List Char) :
    mode.run (c :: rest) = (mode.step c).run rest := rfl

end Mode

namespace Mode

/-- A character of Lox that is neither a quotation mark nor a slash. -/
def Plain (c : Char) : Prop := LoxCharacter c ∧ c ≠ '"' ∧ c ≠ '/'

instance : DecidablePred Plain :=
  fun c => inferInstanceAs (Decidable (LoxCharacter c ∧ c ≠ '"' ∧ c ≠ '/'))

/-- The characters of numbers and words are plain. -/
theorem plain_of_word {c : Char} (character : WordStart c ∨ DigitCharacter c) : Plain c := by
  have member := isWordCharacter_iff.mpr character
  exact ⟨character.elim .inl fun digit => .inr (.inl digit), ne_of_class member rfl,
    ne_of_class member rfl⟩

/-- **A mode that does to a text what reading it afresh does**: a slash must not be followed
by another one, a comment must be at the end of its line, and a string at the end of the
text. -/
def Settled (mode : Mode) (text : List Char) : Prop :=
  match mode with
  | .code => True
  | .slash => text.head? ≠ some '/'
  | .comment => ∀ c, text.head? = some c → c = '\n'
  | .string => text = []

end Mode

/-! ## Items -/

namespace Item

variable {item : Item} {after : List Char} {offset : Nat}

/-- A foreign character is neither a quotation mark nor a slash, and it is reported outside of
strings and comments. -/
theorem reports_of_foreign {c : Char} (foreign : isLoxCharacter c = false) :
    c ≠ '"' ∧ c ≠ '/' ∧ Mode.code.reports c = true := by
  have unknown : ¬ LoxCharacter c := by
    rw [← isLoxCharacter_iff, foreign]
    exact Bool.false_ne_true
  refine ⟨?_, ?_, by simp [Mode.reports, Mode.inCode, unknown]⟩
  · rintro rfl
    exact unknown (by decide)
  · rintro rfl
    exact unknown (by decide)

/-- **How an item is read character by character**: all of its characters are plain, or it is one
of the items in which the mode changes or something is reported. -/
inductive Reading : Item → Prop where
  | plain {item : Item} (plain : ∀ c ∈ item.text, Mode.Plain c)
      (form : item.form ≠ .comment ∧ item.form ≠ .strayCharacter ∧ item.form ≠ .openString) :
      Reading item
  | slash : Reading ⟨.symbol .slash, ['/']⟩
  | comment {body : List Char} (oneLine : '\n' ∉ body) : Reading ⟨.comment, '/' :: '/' :: body⟩
  | string {inside : List Char} (unmarked : '"' ∉ inside) :
      Reading ⟨.string, '"' :: inside ++ ['"']⟩
  | openString {inside : List Char} (unmarked : '"' ∉ inside) :
      Reading ⟨.openString, '"' :: inside⟩
  | stray {c : Char} (foreign : isLoxCharacter c = false) : Reading ⟨.strayCharacter, [c]⟩

theorem WellFormed.reading (wellFormed : item.WellFormed) : item.Reading := by
  obtain ⟨form, text⟩ := item
  have tables : (∀ entry ∈ punctuation, Mode.Plain entry.1) ∧
      ∀ entry ∈ comparisons, Mode.Plain entry.1 := by
    decide
  rcases wellFormed with lexeme | residue
  · cases lexeme with
    | punctuation mem => exact .plain (List.forall_mem_singleton.mpr (tables.1 _ mem)) (by simp)
    | slash => exact .slash
    | comparison mem => exact .plain (List.forall_mem_singleton.mpr (tables.2 _ mem)) (by simp)
    | @comparisonEqual c _ _ mem =>
      have plain : ∀ d ∈ [c, '='], Mode.Plain d :=
        List.forall_mem_cons.mpr ⟨tables.2 _ mem, List.forall_mem_singleton.mpr (by decide)⟩
      exact .plain plain (by simp)
    | comment oneLine => exact .comment oneLine
    | @blank c separates =>
      have plain : Mode.Plain c := by rcases separates with rfl | rfl | rfl <;> decide
      exact .plain (List.forall_mem_singleton.mpr plain) (by simp)
    | lineBreak => exact .plain (List.forall_mem_singleton.mpr (by decide)) (by simp)
    | string unmarked => exact .string unmarked
    | integer digits =>
      exact .plain (fun d mem => Mode.plain_of_word (.inr (digits d mem))) (by simp)
    | @fraction digit first whole more digits decimals =>
      have plain : ∀ d ∈ digit :: whole ++ '.' :: first :: more, Mode.Plain d := by
        rw [List.forall_mem_append, List.forall_mem_cons (a := '.')]
        exact ⟨fun d mem => Mode.plain_of_word (.inr (digits d mem)), by decide,
          fun d mem => Mode.plain_of_word (.inr (decimals d mem))⟩
      exact .plain plain (by simp)
    | @word first more start characters =>
      have plain : ∀ d ∈ first :: more, Mode.Plain d := by
        rw [List.forall_mem_cons]
        exact ⟨Mode.plain_of_word (.inl start), fun d mem => Mode.plain_of_word (characters d mem)⟩
      exact .plain plain (by simp)
  · cases residue with
    | openString unmarked => exact .openString unmarked
    | strayCharacter foreign => exact .stray foreign

end Item

/-! ## Reports -/

end LoxScan
