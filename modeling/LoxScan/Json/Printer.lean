import LoxScan.Json.Value
import LoxScan.Number.Layout
import LoxScan.Text.Hexadecimal

/-!
# Writing JSON

JSON text on one line or indented, with the characters outside ASCII written as
they are or as escapes.

## Main Definitions

* `JsonLayout` — the choices that fix how values are laid out
* `JsonLayout.escape` — the spelling of one character inside a string
* `JsonValue.write` — the text of a value
-/

namespace LoxScan

/-- The choices that fix how JSON values are laid out. -/
structure JsonLayout where
  /-- Characters outside the printable ASCII range are written as escapes. -/
  asciiOnly : Bool
  /-- The number of blanks by which each level is indented, or everything on one line. -/
  indent : Option Nat

namespace JsonLayout

/-- One line, with a blank behind each comma, and text as it is. -/
def oneLine : JsonLayout := { asciiOnly := false, indent := none }

/-- Two blanks for each level, in ASCII. -/
def indentedAscii : JsonLayout := { asciiOnly := true, indent := some 2 }

/-- A sixteen-bit unit as an escape. -/
def unitEscape (unit : Nat) : List Char := '\\' :: 'u' :: hexadecimal 4 unit

/-- A character as one escape, or as the two of a surrogate pair. -/
def characterEscape (c : Char) : List Char :=
  if c.toNat < 0x10000 then unitEscape c.toNat
  else
    let offset := c.toNat - 0x10000
    unitEscape (0xD800 + offset / 0x400) ++ unitEscape (0xDC00 + offset % 0x400)

/-- The letter that spells a character behind a backslash, if it has one. -/
def shortEscape? : Char → Option Char
  | '"' => some '"'
  | '\\' => some '\\'
  | '\n' => some 'n'
  | '\r' => some 'r'
  | '\t' => some 't'
  | '\x08' => some 'b'
  | '\x0c' => some 'f'
  | _ => none

/-- The spelling of a character inside a string. -/
def escape (layout : JsonLayout) (c : Char) : List Char :=
  match shortEscape? c with
  | some letter => ['\\', letter]
  | none =>
    if c.toNat < 0x20 ∨ (layout.asciiOnly ∧ 0x7F ≤ c.toNat) then characterEscape c
    else [c]

/-- A string between quotation marks. -/
def quote (layout : JsonLayout) (text : List Char) : List Char :=
  '"' :: text.flatMap layout.escape ++ ['"']

/-- What stands between a bracket and the first item at a given depth. -/
def lineBreak (layout : JsonLayout) (depth : Nat) : List Char :=
  match layout.indent with
  | none => []
  | some width => '\n' :: List.replicate (width * depth) ' '

/-- What stands between two items at a given depth. -/
def separator (layout : JsonLayout) (depth : Nat) : List Char :=
  match layout.indent with
  | none => [',', ' ']
  | some _ => ',' :: layout.lineBreak depth

/-- Items between brackets; an empty list of items has nothing between them. -/
def enclose (layout : JsonLayout) (depth : Nat) (opening closing : Char)
    (items : List (List Char)) : List Char :=
  match items with
  | [] => [opening, closing]
  | first :: rest =>
    opening :: layout.lineBreak (depth + 1) ++ first
      ++ rest.flatMap (layout.separator (depth + 1) ++ ·)
      ++ layout.lineBreak depth ++ [closing]

end JsonLayout

/-- The text of a whole number. -/
def integerText (n : Int) : List Char :=
  if n < 0 then '-' :: Nat.toDigits 10 n.natAbs else Nat.toDigits 10 n.natAbs

mutual

/-- The text of a value that stands at a given depth. -/
def JsonValue.write (layout : JsonLayout) (depth : Nat) : JsonValue → List Char
  | .null => "null".toList
  | .bool true => "true".toList
  | .bool false => "false".toList
  | .integer n => integerText n
  | .number x => x.text
  | .string text => layout.quote text
  | .array items => layout.enclose depth '[' ']' (JsonValue.writeItems layout (depth + 1) items)
  | .object fields =>
    layout.enclose depth '\x7b' '\x7d' (JsonValue.writeFields layout (depth + 1) fields)

/-- The texts of the items of an array. -/
def JsonValue.writeItems (layout : JsonLayout) (depth : Nat) :
    List JsonValue → List (List Char)
  | [] => []
  | item :: rest => item.write layout depth :: JsonValue.writeItems layout depth rest

/-- The texts of the fields of an object. -/
def JsonValue.writeFields (layout : JsonLayout) (depth : Nat) :
    List (String × JsonValue) → List (List Char)
  | [] => []
  | (key, value) :: rest =>
    (layout.quote key.toList ++ [':', ' '] ++ value.write layout depth) ::
      JsonValue.writeFields layout depth rest

end

end LoxScan
