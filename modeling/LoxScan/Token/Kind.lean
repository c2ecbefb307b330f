/-!
# Token kinds

The kinds of tokens of the Lox language, their names and their numbering.

## Main Definitions

* `TokenKind` — the thirty-nine kinds, in the order in which they are numbered
* `TokenKind.all` — the list of all kinds in that order
* `TokenKind.name`, `TokenKind.ofName?` — a kind from its upper-case name and back
* `TokenKind.ordinal`, `TokenKind.ofOrdinal?` — a kind from its number and back, counting from one
-/

namespace LoxScan

/-- The kinds of tokens: punctuation, operators, literals, reserved words, and
the end of the input. -/
inductive TokenKind where
  | leftParen
  | rightParen
  | leftBrace
  | rightBrace
  | comma
  | dot
  | minus
  | plus
  | semicolon
  | slash
  | star
  | bang
  | bangEqual
  | equal
  | equalEqual
  | greater
  | greaterEqual
  | less
  | lessEqual
  | identifier
  | string
  | number
  | andWord
  | classWord
  | elseWord
  | falseWord
  | funWord
  | forWord
  | ifWord
  | nilWord
  | orWord
  | printWord
  | returnWord
  | superWord
  | thisWord
  | trueWord
  | varWord
  | whileWord
  | endOfInput
deriving DecidableEq, Repr

namespace TokenKind

/-- All kinds in the order of their numbers. -/
def all : List TokenKind :=
  [leftParen, rightParen, leftBrace, rightBrace, comma, dot, minus, plus, semicolon, slash, star,
    bang, bangEqual, equal, equalEqual, greater, greaterEqual, less, lessEqual,
    identifier, string, number,
    andWord, classWord, elseWord, falseWord, funWord, forWord, ifWord, nilWord, orWord, printWord,
    returnWord, superWord, thisWord, trueWord, varWord, whileWord,
    endOfInput]

/-- The name under which a kind is written out. -/
def name : TokenKind → String
  | leftParen => "LEFT_PAREN"
  | rightParen => "RIGHT_PAREN"
  | leftBrace => "LEFT_BRACE"
  | rightBrace => "RIGHT_BRACE"
  | comma => "COMMA"
  | dot => "DOT"
  | minus => "MINUS"
  | plus => "PLUS"
  | semicolon => "SEMICOLON"
  | slash => "SLASH"
  | star => "STAR"
  | bang => "BANG"
  | bangEqual => "BANG_EQUAL"
  | equal => "EQUAL"
  | equalEqual => "EQUAL_EQUAL"
  | greater => "GREATER"
  | greaterEqual => "GREATER_EQUAL"
  | less => "LESS"
  | lessEqual => "LESS_EQUAL"
  | identifier => "IDENTIFIER"
  | string => "STRING"
  | number => "NUMBER"
  | andWord => "AND"
  | classWord => "CLASS"
  | elseWord => "ELSE"
  | falseWord => "FALSE"
  | funWord => "FUN"
  | forWord => "FOR"
  | ifWord => "IF"
  | nilWord => "NIL"
  | orWord => "OR"
  | printWord => "PRINT"
  | returnWord => "RETURN"
  | superWord => "SUPER"
  | thisWord => "THIS"
  | trueWord => "TRUE"
  | varWord => "VAR"
  | whileWord => "WHILE"
  | endOfInput => "EOF"

/-- The kind with a given name. -/
def ofName? (text : String) : Option TokenKind :=
  all.find? (·.name = text)

/-- The number of a kind: its place in `all`, counting from one. -/
def ordinal (kind : TokenKind) : Nat :=
  all.idxOf kind + 1

/-- The kind with a given number. -/
def ofOrdinal? (n : Int) : Option TokenKind :=
  all.find? (fun kind => (kind.ordinal : Int) = n)

/-- Distinct kinds have distinct names, so a kind is found again by its name. -/
@[simp] theorem ofName?_name (kind : TokenKind) : ofName? kind.name = some kind := by
  cases kind <;> decide

end TokenKind

end LoxScan
