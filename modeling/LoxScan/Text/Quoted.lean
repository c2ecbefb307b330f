import LoxScan.Text.Hexadecimal
import LoxScan.Text.Printable

/-!
# Quoted text

Text between quotation marks with everything that cannot be seen, or that could
be mistaken for the closing mark, written as an escape.

## Main Definitions

* `quoteMark` — the mark that a text is quoted with
* `quotedCharacter` — the spelling of one character
* `quoted` — the quoted form of a text
-/

namespace LoxScan

/-- The quotation mark for a text: the apostrophe, unless the text has one and
has no double mark. -/
def quoteMark (text : List Char) : Char :=
  if '\'' ∈ text ∧ '"' ∉ text then '"' else '\''

/-- The spelling of a character between two marks. -/
def quotedCharacter (mark c : Char) : List Char :=
  if c = mark ∨ c = '\\' then ['\\', c]
  else if c = '\n' then ['\\', 'n']
  else if c = '\r' then ['\\', 'r']
  else if c = '\t' then ['\\', 't']
  else if isPrintable c then [c]
  else if c.toNat < 0x100 then '\\' :: 'x' :: hexadecimal 2 c.toNat
  else if c.toNat < 0x10000 then '\\' :: 'u' :: hexadecimal 4 c.toNat
  else '\\' :: 'U' :: hexadecimal 8 c.toNat

/-- The quoted form of a text. -/
def quoted (text : List Char) : List Char :=
  let mark := quoteMark text
  mark :: text.flatMap (quotedCharacter mark) ++ [mark]

end LoxScan
