import LoxScan.Scan

/-!
# Scanners and token streams

A scanner reads a source text item by item, on demand.  The streams that are
opened on it share its cursor and its store of pending tokens, so that tokens
are delivered one at a time and reports are made only when a stream gets to
them.

## Main Definitions

* `Scanner` — the cursor, the text still to be read, and the pending tokens
* `Scanner.readItem` — read one item
* `Scanner.advance`, `Scanner.accept`, `Scanner.peek`, `Scanner.peekNext` — move or look by hand
* `Stream` — a stream that has not begun, is suspended, or has finished
* `Stream.next` — ask a stream for one token
* `Stream.drain` — ask a stream for all of its tokens
* `Scanner.scanTokens` — drain a new stream

## Design Notes

A stream that has delivered a token is suspended in the middle of the pending
tokens.  It clears them when it is resumed and finds none left at its place, and
not before; another stream therefore still sees what was delivered last.
-/

namespace LoxScan

/-- A scanner: where the last item began, how many characters have been read, on
which line the cursor is, the text that is still to be read, and the tokens that
have been read but not yet cleared. -/
structure Scanner where
  start : Nat
  current : Nat
  line : Int
  rest : List Char
  pending : List Token
deriving DecidableEq

/-- What a scan tells those who watch it. -/
inductive Notice where
  /-- A stream has begun on a source of so many characters. -/
  | started (characters : Nat)
  /-- A fault has been found. -/
  | report (report : Report)
  /-- A stream has come to the end of the source after so many tokens, the last
  one included. -/
  | finished (tokens : Nat) (lines : Int)
deriving DecidableEq

/-- The report that a notice makes. -/
def Notice.report? : Notice → Option Report
  | .report made => some made
  | _ => none

/-- What a scan of a whole source tells those who watch it. -/
def Scan.notices (scan : Scan) (source : List Char) : List Notice :=
  .started source.length :: scan.reports.map Notice.report
    ++ [.finished scan.tokens.length (lineAfter 1 (items source))]

/-- The only way in which moving a cursor by hand can fail. -/
inductive CursorError where
  | pastEnd
deriving DecidableEq, Repr

/-- The text of an error. -/
def CursorError.message : CursorError → String
  | pastEnd => "string index out of range"

namespace Scanner

/-- A new scanner on a source text, which is a list of Unicode scalar values.  A surrogate that
stands alone is no character of such a text. -/
def ofSource (source : List Char) : Scanner :=
  { start := 0, current := 0, line := 1, rest := source, pending := [] }

/-- The number of characters of the whole source. -/
def sourceLength (s : Scanner) : Nat := s.current + s.rest.length

/-- Read the item that begins with the character `c`, with `after` behind it. -/
def readItem (s : Scanner) (c : Char) (after : List Char) : Scanner × List Notice :=
  let cut := Item.cut c after
  let line := s.line + cut.1.lineBreaks
  ({ start := s.current
     current := s.current + cut.1.text.length
     line := line
     rest := cut.2
     pending := s.pending ++ (cut.1.token? line).toList },
    ((cut.1.report? line).map Notice.report).toList)

/-- Read one character. -/
def advance (s : Scanner) : Except CursorError (Char × Scanner) :=
  match s.rest with
  | [] => .error .pastEnd
  | c :: after => .ok (c, { s with current := s.current + 1, rest := after })

/-- Read one character if it is the expected text. -/
def accept (s : Scanner) (expected : List Char) : Bool × Scanner :=
  match s.rest with
  | [] => (false, s)
  | c :: after =>
    if expected = [c] then (true, { s with current := s.current + 1, rest := after })
    else (false, s)

/-- The character at the cursor. -/
def peek (s : Scanner) : Option Char := s.rest.head?

/-- The character behind the one at the cursor. -/
def peekNext (s : Scanner) : Option Char := s.rest[1]?

@[simp] theorem readItem_rest (s : Scanner) (c : Char) (after : List Char) :
    (s.readItem c after).1.rest = (Item.cut c after).2 := rfl

/-- Reading an item changes nothing about the length of the source. -/
theorem sourceLength_readItem (s : Scanner) {c : Char} {after : List Char}
    (h : s.rest = c :: after) :
    (s.readItem c after).1.sourceLength = s.sourceLength := by
  have whole := congrArg List.length (Item.cut_append c after)
  simp only [List.length_append, List.length_cons] at whole
  simp only [sourceLength, readItem, h, List.length_cons]
  omega

end Scanner

/-- A token stream: one that has not begun, one that is suspended before the
pending token with a given index after a given number of tokens read, or one
that has finished. -/
inductive Stream where
  | fresh
  | suspended (index count : Nat)
  | finished
deriving DecidableEq, Repr

/-- What asking a stream for a token brings about. -/
structure Delivery where
  scanner : Scanner
  stream : Stream
  token : Option Token
  notices : List Notice
deriving DecidableEq

/-- A delivery before which something else was told. -/
def Delivery.after (delivery : Delivery) (notices : List Notice) : Delivery :=
  { delivery with notices := notices ++ delivery.notices }

/-- Read items until a token is pending, and deliver the first one that is; at the
end of the source deliver the token that marks it.  `count` is the number of
tokens read so far. -/
def Scanner.seek (s : Scanner) (count : Nat) : Delivery :=
  match _h : s.rest with
  | [] =>
    { scanner := { s with start := s.current }
      stream := .finished
      token := some (Token.endOfInput s.line)
      notices := [.finished (count + 1) s.line] }
  | c :: after =>
    let read := s.readItem c after
    match read.1.pending with
    | [] => (read.1.seek count).after read.2
    | token :: more =>
      { scanner := read.1
        stream := .suspended 1 (count + (more.length + 1))
        token := some token
        notices := read.2 }
termination_by s.rest.length
decreasing_by
  have := Item.cut_rest_length_le c after
  simp only [Scanner.readItem_rest, _h, List.length_cons]
  omega

namespace Stream

/-- Ask a stream for one token. -/
def next (stream : Stream) (s : Scanner) : Delivery :=
  match stream with
  | .fresh => (s.seek 0).after [.started s.sourceLength]
  | .suspended index count =>
    match s.pending[index]? with
    | some token =>
      { scanner := s, stream := .suspended (index + 1) count, token := some token, notices := [] }
    | none => Scanner.seek { s with pending := [] } count
  | .finished => { scanner := s, stream := .finished, token := none, notices := [] }

/-- An upper bound on the number of tokens that a stream still delivers: the
pending ones before it, one for each character that is still to be read, and the
token that marks the end. -/
def remaining (stream : Stream) (s : Scanner) : Nat :=
  match stream with
  | .fresh => s.rest.length + s.pending.length + 1
  | .suspended index _ => s.rest.length + (s.pending.length - index) + 1
  | .finished => 0

end Stream

/-- Reading an item makes at most one token pending. -/
theorem Scanner.pending_length_readItem_le (s : Scanner) (c : Char) (after : List Char) :
    (s.readItem c after).1.pending.length ≤ s.pending.length + 1 := by
  have atMostOne : ∀ token : Option Token, token.toList.length ≤ 1 := by
    intro token
    cases token <;> simp
  simp only [readItem, List.length_append]
  exact Nat.add_le_add_left (atMostOne _) _

/-- Reading on uses up characters for the tokens that it makes pending. -/
theorem Scanner.remaining_seek_le (s : Scanner) (count : Nat) :
    (s.seek count).stream.remaining (s.seek count).scanner
      ≤ s.rest.length + s.pending.length := by
  fun_induction Scanner.seek s count with
  | case1 s h => simp [Stream.remaining]
  | case2 s c after h read none_pending ih =>
    have shorter := Item.cut_rest_length_le c after
    simp only [Delivery.after]
    refine Nat.le_trans ih ?_
    simp only [read, Scanner.readItem_rest] at none_pending ⊢
    rw [none_pending, h, List.length_cons, List.length_nil]
    omega
  | case3 s c after h read token more some_pending =>
    have shorter := Item.cut_rest_length_le c after
    have grown := s.pending_length_readItem_le c after
    simp only [Stream.remaining, read, Scanner.readItem_rest] at some_pending ⊢
    rw [some_pending, List.length_cons] at grown ⊢
    rw [h, List.length_cons]
    omega

namespace Stream

/-- A stream that delivers a token has fewer left. -/
theorem remaining_next_lt (stream : Stream) (s : Scanner) (token : Token)
    (h : (stream.next s).token = some token) :
    (stream.next s).stream.remaining (stream.next s).scanner < stream.remaining s := by
  cases stream with
  | fresh =>
    have bound := s.remaining_seek_le 0
    simp only [next, Delivery.after]
    exact Nat.lt_succ_of_le bound
  | suspended index count =>
    simp only [next]
    split
    · next present =>
      have bound := (List.getElem?_eq_some_iff.mp present).1
      simp only [remaining]
      omega
    · have bound := Scanner.remaining_seek_le { s with pending := [] } count
      simp only [List.length_nil, Nat.add_zero] at bound
      refine Nat.lt_of_le_of_lt bound ?_
      simp only [remaining]
      omega
  | finished => simp [next] at h

end Stream

/-- What asking a stream for all of its tokens brings about. -/
structure Drained where
  scanner : Scanner
  tokens : List Token
  notices : List Notice
deriving DecidableEq

/-- Ask a stream for tokens until it has none left.  It has finished then. -/
def Stream.drain (stream : Stream) (s : Scanner) : Drained :=
  let delivery := stream.next s
  match _h : delivery.token with
  | none => { scanner := delivery.scanner, tokens := [], notices := delivery.notices }
  | some token =>
    let remaining := delivery.stream.drain delivery.scanner
    { scanner := remaining.scanner
      tokens := token :: remaining.tokens
      notices := delivery.notices ++ remaining.notices }
termination_by stream.remaining s
decreasing_by exact stream.remaining_next_lt s token _h

/-- Drain a new stream. -/
def Scanner.scanTokens (s : Scanner) : Drained := Stream.fresh.drain s

end LoxScan
