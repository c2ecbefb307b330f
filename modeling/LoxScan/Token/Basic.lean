import LoxScan.Number.Decimal
import LoxScan.Token.Kind

/-!
# Tokens

What a scan delivers: a kind, the text it was read from, the value of a literal,
and a line.

## Main Definitions

* `Literal` — the value of a string or number token
* `Token` — a token
* `Token.agrees` — equality of tokens, with numbers compared as arithmetic does
* `Token.shiftLine` — a token a number of lines further down
-/

namespace LoxScan

/-- The value of a literal: the text between the marks of a string, or a number. -/
inductive Literal where
  | text (characters : List Char)
  | number (value : Binary64)
deriving DecidableEq

/-- A token: its kind, its exact text in the source, its value if it is a
literal, and the line on which it ends. -/
structure Token where
  kind : TokenKind
  lexeme : List Char
  literal : Option Literal
  line : Int
deriving DecidableEq

/-- Equality of literals: texts are compared character by character, numbers as
arithmetic compares them, and no text equals a number. -/
def Literal.agrees : Literal → Literal → Bool
  | .text a, .text b => a == b
  | .number x, .number y => x.agrees y
  | _, _ => false

namespace Token

/-- Equality of tokens in all four parts. -/
def agrees (a b : Token) : Bool :=
  a.kind == b.kind && a.lexeme == b.lexeme && a.line == b.line &&
    match a.literal, b.literal with
    | none, none => true
    | some x, some y => x.agrees y
    | _, _ => false

/-- The token that ends every scan. -/
def endOfInput (line : Int) : Token :=
  { kind := .endOfInput, lexeme := [], literal := none, line := line }

/-- The same token a number of lines further down. -/
def shiftLine (token : Token) (lines : Int) : Token :=
  { token with line := token.line + lines }

end Token

end LoxScan
