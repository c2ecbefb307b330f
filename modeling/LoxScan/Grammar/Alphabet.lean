import LoxScan.Token.Kind

/-!
# The alphabet of Lox

Which characters begin which tokens.

## Main Definitions

* `punctuation` — the characters that are tokens by themselves
* `comparisons` — the characters that take up an equals sign behind them
* `isBlank`, `isDigit`, `isWordStart`, `isWordCharacter` — the classes of characters
* `isLoxCharacter` — the characters that can stand outside strings and comments
* `asciiMembers` — the members of a class of ASCII characters
-/

namespace LoxScan

/-- The characters that always are a token by themselves. -/
def punctuation : List (Char × TokenKind) :=
  [('(', .leftParen), (')', .rightParen), ('\x7b', .leftBrace), ('\x7d', .rightBrace),
    (',', .comma), ('.', .dot), ('-', .minus), ('+', .plus), (';', .semicolon), ('*', .star)]

/-- The characters that form one token with an equals sign behind them and
another one alone. -/
def comparisons : List (Char × TokenKind × TokenKind) :=
  [('!', .bangEqual, .bang), ('=', .equalEqual, .equal),
    ('<', .lessEqual, .less), ('>', .greaterEqual, .greater)]

/-- A space, a carriage return or a tabulator: characters that only separate. -/
def isBlank (c : Char) : Bool := c = ' ' || c = '\r' || c = '\t'

/-- An ASCII digit. -/
def isDigit (c : Char) : Bool := c.isDigit

/-- An ASCII letter or the underscore. -/
def isWordStart (c : Char) : Bool := c.isAlpha || c = '_'

/-- An ASCII letter, the underscore, or an ASCII digit. -/
def isWordCharacter (c : Char) : Bool := isWordStart c || isDigit c

/-- The characters that can stand outside strings and comments. -/
def isLoxCharacter (c : Char) : Bool :=
  (punctuation.lookup c).isSome || (comparisons.lookup c).isSome || c = '/' || isBlank c
    || c = '\n' || c = '"' || isWordCharacter c

/-- The ASCII characters of a class, in increasing order. -/
def asciiMembers (member : Char → Bool) : List Char :=
  ((List.range 128).map Char.ofNat).filter member

end LoxScan
