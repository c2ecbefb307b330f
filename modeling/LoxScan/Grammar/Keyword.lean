import LoxScan.Token.Kind

/-!
# Keywords

The reserved words of Lox, and the kind of token that a word is.

## Main Definitions

* `keywords` — the reserved words
* `keyword?` — the kind of a reserved word
* `wordKind` — the kind of any word
-/

namespace LoxScan

/-- The reserved words and their kinds, in alphabetical order. -/
def keywords : List (String × TokenKind) :=
  [("and", .andWord), ("class", .classWord), ("else", .elseWord), ("false", .falseWord),
    ("for", .forWord), ("fun", .funWord), ("if", .ifWord), ("nil", .nilWord), ("or", .orWord),
    ("print", .printWord), ("return", .returnWord), ("super", .superWord), ("this", .thisWord),
    ("true", .trueWord), ("var", .varWord), ("while", .whileWord)]

/-- The kind of a reserved word. -/
def keyword? (word : List Char) : Option TokenKind :=
  keywords.lookup (String.ofList word)

/-- The kind of a word: that of a reserved word, or an identifier. -/
def wordKind (word : List Char) : TokenKind :=
  (keyword? word).getD .identifier

end LoxScan
