import LoxScan.Grammar.Item
import LoxScan.Report.Fault
import LoxScan.Token.Basic

/-!
# Scanning

A scan goes through the items of a source text, counts lines, and turns each item
into a token, a report of a fault, or nothing.

## Main Definitions

* `Item.lineBreaks` — by how many lines the counter moves while an item is read
* `Item.event?` — what an item means when it ends on a given line
* `eventsFrom` — the tokens and reports of a list of items, in order
* `lineAfter` — the counter behind a list of items
* `Scan` — the tokens and the reports of a source text
* `scan` — the scan of a source text

## Design Notes

Lines are counted in two places only: a line feed that is an item of its own moves
the counter by one, and a string moves it while it looks for its closing mark.  No
other form touches it; in particular a comment is skipped as a whole, up to the line
feed that ends it.  An item is on the line that the counter shows behind it.

A source text is a list of Unicode scalar values.  Surrogates that stand alone, which
some representations of text admit, are not characters here.
-/

namespace LoxScan

/-- What a scan finds: a token, or a fault that it reports. -/
inductive ScanEvent where
  | token (token : Token)
  | report (report : Report)
deriving DecidableEq

namespace ScanEvent

/-- The token of an event. -/
def token? : ScanEvent → Option Token
  | .token found => some found
  | .report _ => none

/-- The report of an event. -/
def report? : ScanEvent → Option Report
  | .token _ => none
  | .report made => some made

end ScanEvent

namespace Item

/-- The line feeds that are counted while a string is read, from behind its opening
mark up to the next mark or the end of the text. -/
def stringLineBreaks : List Char → Nat
  | [] => 0
  | c :: rest =>
    if c = '"' then 0
    else if c = '\n' then stringLineBreaks rest + 1
    else stringLineBreaks rest

/-- By how many lines the counter moves while an item is read. -/
def lineBreaks (item : Item) : Nat :=
  match item.form with
  | .lineBreak => 1
  | .string | .openString => stringLineBreaks item.text.tail
  | .symbol _ | .number | .word | .blank | .comment | .strayCharacter => 0

/-- What an item means when it ends on a given line. -/
def event? (item : Item) (line : Int) : Option ScanEvent :=
  let token (kind : TokenKind) (literal : Option Literal) : Option ScanEvent :=
    some (.token { kind := kind, lexeme := item.text, literal := literal, line := line })
  match item.form with
  | .symbol kind => token kind none
  | .string => token .string (some (.text item.text.tail.dropLast))
  | .number => token .number (some (.number (Decimal.ofNumeral item.text).toBinary64))
  | .word => token (wordKind item.text) none
  | .blank => none
  | .lineBreak => none
  | .comment => none
  | .strayCharacter => some (.report { line := line, fault := .unexpectedCharacter })
  | .openString => some (.report { line := line, fault := .unterminatedString })

/-- The token of an item that ends on a given line. -/
def token? (item : Item) (line : Int) : Option Token := (item.event? line).bind ScanEvent.token?

/-- The report of an item that ends on a given line. -/
def report? (item : Item) (line : Int) : Option Report := (item.event? line).bind ScanEvent.report?

end Item

/-- The tokens and reports of consecutive items, the first of which begins on a
given line. -/
def eventsFrom (line : Int) : List Item → List ScanEvent
  | [] => []
  | item :: rest =>
    let after := line + item.lineBreaks
    (item.event? after).toList ++ eventsFrom after rest

@[simp] theorem eventsFrom_nil (line : Int) : eventsFrom line [] = [] := rfl

theorem eventsFrom_cons (line : Int) (item : Item) (rest : List Item) :
    eventsFrom line (item :: rest)
      = (item.event? (line + item.lineBreaks)).toList
        ++ eventsFrom (line + item.lineBreaks) rest := rfl

/-- The line of the counter behind consecutive items, the first of which begins on a
given line. -/
def lineAfter (line : Int) : List Item → Int
  | [] => line
  | item :: rest => lineAfter (line + item.lineBreaks) rest

@[simp] theorem lineAfter_nil (line : Int) : lineAfter line [] = line := rfl

theorem lineAfter_cons (line : Int) (item : Item) (rest : List Item) :
    lineAfter line (item :: rest) = lineAfter (line + item.lineBreaks) rest := rfl

/-- What a scan delivers: the tokens, of which the last one marks the end of the
input, and the reports. -/
structure Scan where
  tokens : List Token
  reports : List Report
deriving DecidableEq

/-- The scan of a text that begins on a given line. -/
def scanFrom (line : Int) (source : List Char) : Scan :=
  let events := eventsFrom line (items source)
  { tokens := events.filterMap ScanEvent.token?
      ++ [Token.endOfInput (lineAfter line (items source))]
    reports := events.filterMap ScanEvent.report? }

/-- The scan of a source text. -/
def scan (source : List Char) : Scan := scanFrom 1 source

end LoxScan
