import LoxScan.Grammar.Alphabet
import LoxScan.Grammar.Keyword

/-!
# Items

Source text is cut into consecutive items, from left to right, each of which is
the longest text of some lexical form that starts where the item before it ends.
Items that are tokens, items that only separate tokens and items that are
faulty are cut off in the same way.

## Main Definitions

* `ItemForm` — the lexical forms
* `Item` — a piece of source text together with its form
* `Item.cut` — the first item of a nonempty text, and the text behind it
* `items` — all items of a text
-/

namespace LoxScan

/-- The lexical forms of items. -/
inductive ItemForm where
  /-- Punctuation or an operator. -/
  | symbol (kind : TokenKind)
  /-- Text between two quotation marks. -/
  | string
  /-- Digits, possibly with a fraction. -/
  | number
  /-- A letter or underscore, followed by letters, underscores and digits. -/
  | word
  /-- One separating character other than a line feed. -/
  | blank
  /-- A line feed. -/
  | lineBreak
  /-- Two slashes and everything up to the end of the line. -/
  | comment
  /-- A character that begins nothing. -/
  | strayCharacter
  /-- A quotation mark that is never closed, with everything behind it. -/
  | openString
deriving DecidableEq, Repr

/-- A piece of source text and its lexical form. -/
structure Item where
  form : ItemForm
  text : List Char
deriving DecidableEq, Repr

namespace Item

/-- What a string is made of, from its opening mark on: everything up to the
next mark, or all of the text if there is none. -/
def cutString (rest : List Char) : Item × List Char :=
  let inside := rest.takeWhile (· ≠ '"')
  match rest.dropWhile (· ≠ '"') with
  | [] => (⟨.openString, '"' :: inside⟩, [])
  | mark :: after => (⟨.string, '"' :: inside ++ [mark]⟩, after)

/-- A number from its first digit on.  A point belongs to it only when a digit
stands behind the point. -/
def cutNumber (digit : Char) (rest : List Char) : Item × List Char :=
  let whole := digit :: rest.takeWhile isDigit
  match rest.dropWhile isDigit with
  | '.' :: first :: after =>
    if isDigit first then
      (⟨.number, whole ++ '.' :: first :: after.takeWhile isDigit⟩, after.dropWhile isDigit)
    else (⟨.number, whole⟩, '.' :: first :: after)
  | after => (⟨.number, whole⟩, after)

/-- A word from its first character on. -/
def cutWord (first : Char) (rest : List Char) : Item × List Char :=
  (⟨.word, first :: rest.takeWhile isWordCharacter⟩, rest.dropWhile isWordCharacter)

/-- A slash, or a comment if a second slash follows it.  The line feed that ends
a comment does not belong to it. -/
def cutSlash (rest : List Char) : Item × List Char :=
  match rest with
  | '/' :: after =>
    (⟨.comment, '/' :: '/' :: after.takeWhile (· ≠ '\n')⟩, after.dropWhile (· ≠ '\n'))
  | _ => (⟨.symbol .slash, ['/']⟩, rest)

/-- An operator that takes up an equals sign behind it. -/
def cutComparison (c : Char) (withEqual alone : TokenKind) (rest : List Char) :
    Item × List Char :=
  match rest with
  | '=' :: after => (⟨.symbol withEqual, [c, '=']⟩, after)
  | _ => (⟨.symbol alone, [c]⟩, rest)

/-- The first item of the text `c :: rest`, and the text behind it. -/
def cut (c : Char) (rest : List Char) : Item × List Char :=
  match punctuation.lookup c with
  | some kind => (⟨.symbol kind, [c]⟩, rest)
  | none =>
    match comparisons.lookup c with
    | some (withEqual, alone) => cutComparison c withEqual alone rest
    | none =>
      if c = '/' then cutSlash rest
      else if isBlank c then (⟨.blank, [c]⟩, rest)
      else if c = '\n' then (⟨.lineBreak, [c]⟩, rest)
      else if c = '"' then cutString rest
      else if isDigit c then cutNumber c rest
      else if isWordStart c then cutWord c rest
      else (⟨.strayCharacter, [c]⟩, rest)

/-! ## Nothing is lost -/

theorem cutString_append (rest : List Char) :
    (cutString rest).1.text ++ (cutString rest).2 = '"' :: rest := by
  have whole := List.takeWhile_append_dropWhile (p := fun c : Char => decide (c ≠ '"')) (l := rest)
  unfold cutString
  split
  · next h =>
    rw [h] at whole
    simpa using whole
  · next h =>
    rw [h] at whole
    simpa using whole

theorem cutNumber_append (digit : Char) (rest : List Char) :
    (cutNumber digit rest).1.text ++ (cutNumber digit rest).2 = digit :: rest := by
  have whole := List.takeWhile_append_dropWhile (p := isDigit) (l := rest)
  unfold cutNumber
  split
  · next h =>
    rw [h] at whole
    split <;> simpa using whole
  · simp

theorem cutWord_append (first : Char) (rest : List Char) :
    (cutWord first rest).1.text ++ (cutWord first rest).2 = first :: rest := by
  simp [cutWord]

theorem cutSlash_append (rest : List Char) :
    (cutSlash rest).1.text ++ (cutSlash rest).2 = '/' :: rest := by
  unfold cutSlash
  split <;> simp

theorem cutComparison_append (c : Char) (withEqual alone : TokenKind) (rest : List Char) :
    (cutComparison c withEqual alone rest).1.text ++ (cutComparison c withEqual alone rest).2
      = c :: rest := by
  unfold cutComparison
  split <;> simp

/-- The first item and the text behind it make up the whole text. -/
@[simp] theorem cut_append (c : Char) (rest : List Char) :
    (cut c rest).1.text ++ (cut c rest).2 = c :: rest := by
  unfold cut
  split
  · rfl
  · split
    · exact cutComparison_append ..
    · split
      · next h => rw [h]; exact cutSlash_append rest
      · split
        · rfl
        · split
          · rfl
          · split
            · next h => rw [h]; exact cutString_append rest
            · split
              · exact cutNumber_append ..
              · split
                · exact cutWord_append ..
                · rfl

/-- No item is empty. -/
theorem cut_text_ne_nil (c : Char) (rest : List Char) : (cut c rest).1.text ≠ [] := by
  unfold cut cutComparison cutSlash cutString cutNumber cutWord
  repeat' split
  all_goals simp

/-- The text behind the first item is no longer than the text behind its first character. -/
theorem cut_rest_length_le (c : Char) (rest : List Char) :
    (cut c rest).2.length ≤ rest.length := by
  have whole := congrArg List.length (cut_append c rest)
  have nonempty := List.length_pos_iff.mpr (cut_text_ne_nil c rest)
  simp only [List.length_append, List.length_cons] at whole
  omega

end Item

/-- The items of a text. -/
def items : List Char → List Item
  | [] => []
  | c :: rest => (Item.cut c rest).1 :: items (Item.cut c rest).2
termination_by source => source.length
decreasing_by
  have := Item.cut_rest_length_le c rest
  simp only [List.length_cons]
  omega

@[simp] theorem items_nil : items [] = [] := by rw [items]

theorem items_cons (c : Char) (rest : List Char) :
    items (c :: rest) = (Item.cut c rest).1 :: items (Item.cut c rest).2 := by rw [items]

/-- The items of a text make up the text. -/
theorem flatMap_text_items (source : List Char) :
    (items source).flatMap Item.text = source := by
  fun_induction items source with
  | case1 => rfl
  | case2 c rest ih => rw [List.flatMap_cons, ih, Item.cut_append]

end LoxScan
