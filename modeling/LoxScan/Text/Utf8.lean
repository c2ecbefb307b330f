/-!
# Reading UTF-8

Decoding of byte strings that need not be well formed.  Every byte sequence has
a decoding: where a character cannot be completed, the bytes that were accepted
for it, or a byte that can begin no character, become one replacement character.

## Main Definitions

* `Unfinished` — a character of which some bytes have been read
* `Utf8.step` — the effect of one byte
* `decodeUtf8` — the text of a byte string
-/

namespace LoxScan

/-- The character that stands for bytes that spell none. -/
def replacementCharacter : Char := '\uFFFD'

/-- A character of which some bytes have been read: how many are still to come,
the range in which the next one has to lie, and the bits read so far. -/
structure Unfinished where
  owed : Nat
  low : UInt8
  high : UInt8
  bits : Nat
deriving DecidableEq

namespace Utf8

/-- What a byte does between two characters: the text it completes, and the
character it begins.  The range of the second byte excludes overlong spellings,
surrogates and numbers beyond the last character. -/
def lead (byte : UInt8) : List Char × Option Unfinished :=
  let bits := byte.toNat
  if byte < 0x80 then ([Char.ofNat bits], none)
  else if byte < 0xC2 then ([replacementCharacter], none)
  else if byte < 0xE0 then ([], some ⟨1, 0x80, 0xBF, bits % 0x20⟩)
  else if byte = 0xE0 then ([], some ⟨2, 0xA0, 0xBF, bits % 0x10⟩)
  else if byte = 0xED then ([], some ⟨2, 0x80, 0x9F, bits % 0x10⟩)
  else if byte < 0xF0 then ([], some ⟨2, 0x80, 0xBF, bits % 0x10⟩)
  else if byte = 0xF0 then ([], some ⟨3, 0x90, 0xBF, bits % 0x08⟩)
  else if byte < 0xF4 then ([], some ⟨3, 0x80, 0xBF, bits % 0x08⟩)
  else if byte = 0xF4 then ([], some ⟨3, 0x80, 0x8F, bits % 0x08⟩)
  else ([replacementCharacter], none)

/-- The effect of one byte: the text it completes, and the character that is
unfinished after it.  A byte that cannot continue the unfinished character
leaves a replacement character for it and is read afresh. -/
def step (unfinished : Option Unfinished) (byte : UInt8) : List Char × Option Unfinished :=
  match unfinished with
  | none => lead byte
  | some u =>
    if u.low ≤ byte ∧ byte ≤ u.high then
      let bits := u.bits * 0x40 + byte.toNat % 0x40
      if u.owed = 1 then ([Char.ofNat bits], none)
      else ([], some ⟨u.owed - 1, 0x80, 0xBF, bits⟩)
    else (replacementCharacter :: (lead byte).1, (lead byte).2)

/-- The text of the bytes that follow a possibly unfinished character. -/
def decodeFrom (unfinished : Option Unfinished) : List UInt8 → List Char
  | [] => if unfinished.isSome then [replacementCharacter] else []
  | byte :: rest =>
    (step unfinished byte).1 ++ decodeFrom (step unfinished byte).2 rest

end Utf8

/-- The text of a byte string read as UTF-8. -/
def decodeUtf8 (bytes : List UInt8) : List Char := Utf8.decodeFrom none bytes

end LoxScan
