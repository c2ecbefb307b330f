import LoxScan.Json.Printer
import LoxScan.Text.Quoted
import LoxScan.Token.Basic

/-!
# Writing tokens

The three written forms of a token: a line of a dump, a form for inspection, and
a JSON object.

## Main Definitions

* `Token.write` — kind, lexeme and literal with blanks between them
* `Token.inspect` — a form with quoted texts and the line
* `Token.toJson` — the fields of a token as a JSON object
-/

namespace LoxScan

/-- The text of a literal in a dump: a string as it is, a number in its
shortest form. -/
def Literal.write : Literal → List Char
  | .text characters => characters
  | .number value => value.text

/-- The text of a literal for inspection: a quoted string, or a number. -/
def Literal.inspect : Literal → List Char
  | .text characters => quoted characters
  | .number value => value.text

/-- A literal as a JSON value.  JSON has no numbers that are not finite, so those
are written as strings. -/
def Literal.toJson : Literal → JsonValue
  | .text characters => .string characters
  | .number value => if value.isFinite then .number value else .string value.text

/-- The longest lexeme that is shown whole for inspection. -/
def inspectedLength : Nat := 20

/-- A lexeme as it is shown for inspection: a long one is cut, and three dots
tell so. -/
def abridge (lexeme : List Char) : List Char :=
  if inspectedLength < lexeme.length then lexeme.take (inspectedLength - 3) ++ ['.', '.', '.']
  else lexeme

namespace Token

/-- A token as a line of a dump, without a line feed. -/
def write (token : Token) : List Char :=
  token.kind.name.toList ++ ' ' :: token.lexeme ++ ' ' ::
    match token.literal with
    | none => "null".toList
    | some literal => literal.write

/-- A token in the form for inspection. -/
def inspect (token : Token) : List Char :=
  let value := match token.literal with
    | none => []
    | some literal => ',' :: ' ' :: literal.inspect
  "Token(".toList ++ token.kind.name.toList ++ ", ".toList ++ quoted (abridge token.lexeme)
    ++ value ++ ", line=".toList ++ integerText token.line ++ [')']

/-- The fields of a token as a JSON object. -/
def toJson (token : Token) : JsonValue :=
  .object
    [("kind", .string token.kind.name.toList),
      ("lexeme", .string token.lexeme),
      ("literal", match token.literal with
        | none => .null
        | some literal => literal.toJson),
      ("line", .integer token.line)]

end Token

end LoxScan
