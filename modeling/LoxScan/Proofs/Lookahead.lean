import LoxScan.Proofs.Occurrence

/-!
# Appended text

Where a text goes on makes little difference to what is found in it.  An item that is followed
by at least one character has been cut off for good: it ends there whatever is appended to the
text (`Item.StopsBefore.append`).  The one exception is a number without a fraction in front of a
point at the end of the text, for a digit behind the point would make the two a fraction.

So the events of a source are also those of the source with more text behind it, up to the one
that the source ends with, and up to a number that awaits its fraction.

## Main Definitions

* `Occurrence.awaitsFraction` — a number that a digit behind the source would go on with
* `Occurrence.settled` — an event that no text behind the source can change
* `SettledAt` — where the settled events of a source end
-/

namespace LoxScan

/-- **A number that awaits its fraction**: it has none, and it ends in front of a point that is
the last character of the source. -/
def Occurrence.awaitsFraction (source : List Char) (occurrence : Occurrence) : Bool :=
  occurrence.event.token?.any (fun token => token.kind = .number && '.' ∉ token.lexeme) &&
    occurrence.stop + 1 = source.length && source.getLast? = some '.'

/-- **An event that no text behind the source can change**: at least one more character of the
source is behind it, and it is no number that awaits its fraction. -/
def Occurrence.settled (source : List Char) (occurrence : Occurrence) : Bool :=
  occurrence.stop < source.length && !occurrence.awaitsFraction source

/-- A number awaits its fraction if it has none and a point, and nothing else, is behind it. -/
theorem Occurrence.awaitsFraction_iff {source : List Char} {occurrence : Occurrence} :
    occurrence.awaitsFraction source = true ↔
      (∃ token, occurrence.event = .token token ∧ token.kind = .number ∧ '.' ∉ token.lexeme) ∧
        occurrence.stop + 1 = source.length ∧ source.getLast? = some '.' := by
  obtain ⟨start, stop, event⟩ := occurrence
  cases event with
  | token token => simp [awaitsFraction, ScanEvent.token?, and_assoc]
  | report report => simp [awaitsFraction, ScanEvent.token?]

/-! ## Items -/

/-- **An item that is followed by some text** ends there also if the text goes on, unless it is a
number without a fraction in front of a point. -/
theorem Item.StopsBefore.append {item : Item} {after : List Char} (stops : item.StopsBefore after)
    (followed : after ≠ []) (whole : item.form = .number → '.' ∉ item.text → after ≠ ['.'])
    (more : List Char) : item.StopsBefore (after ++ more) := by
  refine stops.of_seen ?_ ?_
  · intro c head
    rw [List.head?_append_of_ne_nil _ followed] at head
    exact .inl head
  · intro number noPoint c rest same
    match after, same with
    | [], _ => exact absurd rfl followed
    | [d], same =>
      obtain ⟨rfl, -⟩ := List.cons.inj same
      exact absurd rfl (whole number noPoint)
    | d :: e :: behind, same =>
      obtain ⟨rfl, tail⟩ := List.cons.inj same
      obtain ⟨rfl, -⟩ := List.cons.inj tail
      exact .inl ⟨behind, rfl⟩

/-- The items behind some first items are those of the text that they make up. -/
theorem items_flatMap_text {source : List Char} {read parts : List Item}
    (whole : items source = read ++ parts) : items (parts.flatMap Item.text) = parts := by
  induction read generalizing source with
  | nil =>
    have text := flatMap_text_items source
    rw [whole, List.nil_append] at text
    rw [text, whole, List.nil_append]
  | cons item read ih =>
    cases source with
    | nil =>
      rw [items_nil] at whole
      cases whole
    | cons c rest =>
      rw [items_cons] at whole
      exact ih (List.cons.inj whole).2

/-- Different texts have different items. -/
theorem items_injective : Function.Injective items := by
  intro source other same
  rw [← flatMap_text_items source, same, flatMap_text_items]

/-- An item of a text is well-formed, whatever is in front of it and behind it. -/
theorem wellFormed_of_items_eq {source : List Char} {read rest : List Item} {item : Item}
    (whole : items source = read ++ item :: rest) : item.WellFormed := by
  refine wellFormed_of_mem_items (?_ : item ∈ items source)
  rw [whole]
  exact List.mem_append_right _ List.mem_cons_self

/-- A text is that of its first items and what is left behind them. -/
theorem eq_of_items_eq_append {source tail : List Char} {read : List Item}
    (whole : items source = read ++ items tail) : source = read.flatMap Item.text ++ tail := by
  rw [← flatMap_text_items source, whole, List.flatMap_append, flatMap_text_items]

/-- Where something is left behind some first items, there is some text. -/
theorem ne_nil_of_items_eq_append {source tail : List Char} {read : List Item}
    (whole : items source = read ++ items tail) (left : tail ≠ []) : source ≠ [] := by
  rw [eq_of_items_eq_append whole]
  exact List.append_ne_nil_of_right_ne_nil _ left

/-- The item of a point. -/
def Item.point : Item := ⟨.symbol .dot, ['.']⟩

theorem items_point : items ['.'] = [Item.point] := by
  rw [items_cons]
  exact congrArg (List.cons Item.point) items_nil

/-- **The first items of a source are the first ones of the source with more text behind it**,
as long as some text is left behind them and the last of them does not await its fraction. -/
theorem items_append_of_settled {source tail : List Char} {read : List Item}
    (whole : items source = read ++ items tail) (left : tail ≠ [])
    (settled : ∀ item, read.getLast? = some item → item.form = .number → '.' ∉ item.text →
      tail ≠ ['.'])
    (more : List Char) : items (source ++ more) = read ++ items (tail ++ more) := by
  induction read generalizing source with
  | nil => rw [items_injective whole, List.nil_append]
  | cons item read ih =>
    cases source with
    | nil => exact absurd rfl (ne_nil_of_items_eq_append whole left)
    | cons c rest =>
      rw [items_cons] at whole
      obtain ⟨rfl, behind⟩ := List.cons.inj whole
      have notAwaiting : (Item.cut c rest).1.form = .number → '.' ∉ (Item.cut c rest).1.text →
          (Item.cut c rest).2 ≠ ['.'] := by
        intro number noPoint point
        rw [point] at behind
        -- a point is one item, so the number is the last item that is read
        cases read with
        | nil => exact settled _ rfl number noPoint (items_injective behind).symm
        | cons item' read =>
          rw [items_point] at behind
          have none : items [] = read ++ items tail := items_nil.trans (List.cons.inj behind).2
          exact ne_nil_of_items_eq_append none left rfl
      have stops := (Item.stopsBefore_cut c rest).append
        (ne_nil_of_items_eq_append behind left) notAwaiting more
      have later := ih behind fun item last => settled item (by rw [List.getLast?_cons, last]; rfl)
      rw [← Item.cut_append c rest, List.append_assoc,
        items_append (Item.wellFormed_cut c rest) stops, later, List.cons_append]

/-! ## Events -/

/-- A number's token is made of a number. -/
theorem Item.form_of_number {item : Item} (wellFormed : item.WellFormed) {line : Int}
    {token : Token} (h : item.token? line = some token) (kind : token.kind = .number) :
    item.form = .number := by
  obtain ⟨form, text⟩ := item
  cases form with
  | symbol kind' =>
    cases h
    obtain rfl : kind' = .number := kind
    exact absurd (wellFormed.lexeme rfl).kind_mem (by decide)
  | word =>
    cases h
    have word : wordKind text = .number := kind
    exact absurd (word ▸ wordKind_mem text) (by decide)
  | string =>
    cases h
    cases kind
  | number => rfl
  | blank | lineBreak | comment | strayCharacter | openString => cases h

/-- **An event occurs in some items** exactly if it is that of one of them, behind the items
before it. -/
theorem mem_occurrencesFrom {offset : Nat} {line : Int} {parts : List Item}
    {occurrence : Occurrence} :
    occurrence ∈ occurrencesFrom offset line parts ↔
      ∃ read item rest, parts = read ++ item :: rest ∧
        occurrence.start = offset + (read.flatMap Item.text).length ∧
        occurrence.stop = occurrence.start + item.text.length ∧
        item.event? (lineAfter line read + item.lineBreaks) = some occurrence.event := by
  constructor
  · intro mem
    induction parts generalizing offset line with
    | nil => cases mem
    | cons item rest ih =>
      rw [occurrencesFrom_cons] at mem
      rcases List.mem_append.mp mem with here | later
      · obtain ⟨event, found, rfl⟩ := Option.map_eq_some_iff.mp (Option.mem_toList.mp here)
        exact ⟨[], item, rest, rfl, rfl, rfl, found⟩
      · obtain ⟨read, item', rest', rfl, start, stop, found⟩ := ih later
        refine ⟨item :: read, item', rest', rfl, ?_, stop, found⟩
        rw [start, List.flatMap_cons, List.length_append, Nat.add_assoc]
  · rintro ⟨read, item, rest, rfl, start, stop, found⟩
    rw [occurrencesFrom_append, occurrencesFrom_cons, found, ← start, ← stop]
    exact List.mem_append_right _ List.mem_cons_self

/-- **Where a number awaits its fraction**, it and the point are the last items of the source. -/
theorem Occurrence.exists_items_of_awaitsFraction {source : List Char} {occurrence : Occurrence}
    (mem : occurrence ∈ occurrences source) (awaits : occurrence.awaitsFraction source = true) :
    ∃ read number, items source = read ++ [number, Item.point] ∧ number.form = .number ∧
      '.' ∉ number.text ∧ occurrence.start = (read.flatMap Item.text).length ∧
      occurrence.stop = occurrence.start + number.text.length ∧
      number.event? (lineAfter 1 read + number.lineBreaks) = some occurrence.event := by
  obtain ⟨read, number, rest, whole, start, stop, found⟩ := mem_occurrencesFrom.mp mem
  rw [Nat.zero_add] at start
  obtain ⟨⟨token, made, kind, noPoint⟩, length, last⟩ := awaitsFraction_iff.mp awaits
  have wellFormed := wellFormed_of_items_eq whole
  have token? := Item.token?_of_event? (found.trans (congrArg some made))
  rw [Item.lexeme_of_token? token?] at noPoint
  -- what is behind the number is one character, and it is the last one
  have text := flatMap_text_items source
  rw [whole, List.flatMap_append, List.flatMap_cons] at text
  have point : rest.flatMap Item.text = ['.'] := by
    rw [← text, List.length_append, List.length_append] at length
    obtain ⟨c, single⟩ : ∃ c, rest.flatMap Item.text = [c] :=
      List.length_eq_one_iff.mp (by omega)
    rw [← text, single, ← List.append_assoc, List.getLast?_concat, Option.some.injEq] at last
    rw [single, last]
  have behind : rest = [Item.point] := by
    have split : items source = (read ++ [number]) ++ rest := by
      rw [whole, List.append_assoc, List.singleton_append]
    rw [← items_flatMap_text split, point, items_point]
  exact ⟨read, number, by rw [whole, behind], Item.form_of_number wellFormed token? kind, noPoint,
    start, stop, found⟩

/-- An event behind which there is nothing left is not settled, and it is behind what is. -/
theorem Occurrence.settled_eq_decide_of_le {source : List Char} {occurrence : Occurrence}
    (ended : source.length ≤ occurrence.stop) {length : Nat} (behind : length < occurrence.stop) :
    occurrence.settled source = decide (occurrence.stop ≤ length) := by
  simp [settled, Nat.not_lt.mpr ended, behind]

/-- An event behind which there are two characters left is settled. -/
theorem Occurrence.settled_of_lt {source : List Char} {occurrence : Occurrence}
    (followed : occurrence.stop + 1 < source.length) : occurrence.settled source = true := by
  simp [settled, awaitsFraction, Nat.lt_of_succ_lt followed, Nat.ne_of_lt followed]

/-- A number in front of a point at the end of the source awaits its fraction. -/
theorem Item.awaitsFraction_of_event? {item : Item} {line : Int} {event : ScanEvent}
    (number : item.form = .number) (noPoint : '.' ∉ item.text)
    (found : item.event? line = some event) (before : List Char) (start : Nat) :
    Occurrence.awaitsFraction (before ++ (item.text ++ ['.']))
      ⟨start, before.length + item.text.length, event⟩ = true := by
  obtain ⟨form, text⟩ := item
  obtain rfl : form = .number := number
  obtain rfl : .token _ = event := Option.some.inj found
  simp [Occurrence.awaitsFraction, ScanEvent.token?, noPoint, Nat.add_assoc]

/-- The events that occur in some items are those in the first ones and those in the others. -/
theorem stop_le_or_mem_of_items_eq_append {source : List Char} {read parts : List Item}
    (whole : items source = read ++ parts) {occurrence : Occurrence}
    (mem : occurrence ∈ occurrences source) :
    occurrence.stop ≤ (read.flatMap Item.text).length ∨
      occurrence ∈ occurrencesFrom (read.flatMap Item.text).length (lineAfter 1 read) parts := by
  rw [occurrences, whole, occurrencesFrom_append, Nat.zero_add] at mem
  rcases List.mem_append.mp mem with first | later
  · have inside := stop_le_of_mem_occurrencesFrom 0 1 read first
    rw [Nat.zero_add] at inside
    exact .inl inside
  · exact .inr later

/-- The event of a single item ends where the item ends. -/
theorem stop_eq_of_mem_singleton {offset : Nat} {line : Int} {item : Item}
    {occurrence : Occurrence} (mem : occurrence ∈ occurrencesFrom offset line [item]) :
    occurrence.stop = offset + item.text.length := by
  rw [occurrencesFrom_cons] at mem
  rcases List.mem_append.mp mem with here | later
  · obtain ⟨event, -, rfl⟩ := Option.map_eq_some_iff.mp (Option.mem_toList.mp here)
    rfl
  · cases later

/-- **Where a source is settled**: some first items of it stay what they are whatever is appended
to it, and the settled events are those that occur in them. -/
structure SettledAt (source : List Char) (read : List Item) (tail : List Char) : Prop where
  items_eq : items source = read ++ items tail
  items_append_eq : ∀ more, items (source ++ more) = read ++ items (tail ++ more)
  settled_eq : ∀ occurrence ∈ occurrences source,
    occurrence.settled source = decide (occurrence.stop ≤ (read.flatMap Item.text).length)

/-- A source that ends in a number and a point is settled in front of the number. -/
theorem settledAt_number {source : List Char} {read : List Item} {number : Item}
    (whole : items source = read ++ [number, .point]) (form : number.form = .number)
    (noPoint : '.' ∉ number.text) : SettledAt source read (number.text ++ ['.']) := by
  have wellFormed := wellFormed_of_items_eq whole
  obtain ⟨c, digits, text⟩ := wellFormed.exists_cons
  have tail : items (number.text ++ ['.']) = [number, .point] := by
    have behind := items_flatMap_text whole
    rwa [List.flatMap_cons, List.flatMap_singleton] at behind
  have whole' : items source = read ++ items (number.text ++ ['.']) := by rw [whole, tail]
  have split := eq_of_items_eq_append whole'
  have length := congrArg List.length split
  rw [List.length_append, List.length_append, List.length_singleton, text, List.length_cons]
    at length
  refine ⟨whole', items_append_of_settled whole' (by simp) (by simp [text]), ?_⟩
  intro occurrence mem
  rcases stop_le_or_mem_of_items_eq_append whole mem with inside | behind
  · rw [decide_eq_true inside, occurrence.settled_of_lt (by omega)]
  rw [occurrencesFrom_cons] at behind
  rcases List.mem_append.mp behind with here | later
  · -- the number awaits its fraction
    obtain ⟨event, found, rfl⟩ := Option.map_eq_some_iff.mp (Option.mem_toList.mp here)
    have awaits := Item.awaitsFraction_of_event? form noPoint found (read.flatMap Item.text)
      (read.flatMap Item.text).length
    rw [← split] at awaits
    rw [Occurrence.settled, awaits, Bool.not_true, Bool.and_false, eq_comm,
      decide_eq_false_iff_not]
    show ¬ (read.flatMap Item.text).length + number.text.length ≤ _
    rw [text, List.length_cons]
    omega
  · have stop := stop_eq_of_mem_singleton later
    have point : Item.point.text.length = 1 := rfl
    rw [text, List.length_cons, point] at stop
    exact Occurrence.settled_eq_decide_of_le (by omega) (by omega)

/-- Any other source is settled in front of its last item. -/
theorem settledAt_last {source : List Char} {read : List Item} {last : Item}
    (whole : items source = read ++ [last])
    (settled : ∀ before number, items source = before ++ [number, .point] →
      number.form = .number → '.' ∈ number.text) : SettledAt source read last.text := by
  have wellFormed := wellFormed_of_items_eq whole
  obtain ⟨c, behind, text⟩ := wellFormed.exists_cons
  have tail : items last.text = [last] := by
    have behind := items_flatMap_text whole
    rwa [List.flatMap_singleton] at behind
  have whole' : items source = read ++ items last.text := by rw [whole, tail]
  have length := congrArg List.length (eq_of_items_eq_append whole')
  rw [List.length_append, text, List.length_cons] at length
  refine ⟨whole', items_append_of_settled whole' (by simp [text]) ?_, ?_⟩
  · intro item previous form noPoint point
    obtain ⟨before, rfl⟩ := List.getLast?_eq_some_iff.mp previous
    rw [point, items_point] at whole'
    exact noPoint (settled before item (by rw [whole', List.append_assoc]; rfl) form)
  · intro occurrence mem
    rcases stop_le_or_mem_of_items_eq_append whole mem with inside | behind
    · have decided : occurrence.awaitsFraction source = false := by
        refine Bool.eq_false_iff.mpr fun awaits => ?_
        obtain ⟨before, number, items, form, noPoint, -⟩ :=
          Occurrence.exists_items_of_awaitsFraction mem awaits
        exact noPoint (settled before number items form)
      have followed : occurrence.stop < source.length := by omega
      rw [decide_eq_true inside, Occurrence.settled, decided, decide_eq_true followed]
      rfl
    · have stop := stop_eq_of_mem_singleton behind
      rw [text, List.length_cons] at stop
      exact Occurrence.settled_eq_decide_of_le (by omega) (by omega)

/-- **Every source is settled somewhere.** -/
theorem exists_settledAt (source : List Char) : ∃ read tail, SettledAt source read tail := by
  rcases List.eq_nil_or_concat' (items source) with none | ⟨read, last, whole⟩
  · refine ⟨[], source, rfl, fun more => rfl, fun occurrence mem => ?_⟩
    rw [occurrences, none] at mem
    cases mem
  by_cases waits : ∃ before number, items source = before ++ [number, .point] ∧
      number.form = .number ∧ '.' ∉ number.text
  · obtain ⟨before, number, whole, form, noPoint⟩ := waits
    exact ⟨before, _, settledAt_number whole form noPoint⟩
  · refine ⟨read, _, settledAt_last whole fun before number whole form => ?_⟩
    by_contra noPoint
    exact waits ⟨before, number, whole, form, noPoint⟩

/-! ## Numbers in front of a point -/

/-- A number that awaits its fraction and that is there also when the source goes on has no digit
behind its point. -/
theorem Occurrence.noDigit_of_mem_append {source more : List Char} {occurrence : Occurrence}
    (awaits : occurrence.awaitsFraction source = true)
    (mem : occurrence ∈ occurrences (source ++ more)) :
    ∀ c, more.head? = some c → ¬ DigitCharacter c := by
  obtain ⟨⟨token, made, kind, noPoint⟩, length, last⟩ := awaitsFraction_iff.mp awaits
  obtain ⟨before, item, after, located⟩ := exists_at_of_mem_occurrences mem
  have token? := Item.token?_of_event? (located.event_eq.trans (congrArg some made))
  have form := Item.form_of_number located.wellFormed token? kind
  rw [Item.lexeme_of_token? token?] at noPoint
  obtain ⟨front, rfl⟩ := List.getLast?_eq_some_iff.mp last
  have behind : after = '.' :: more := by
    have whole := located.whole
    rw [List.append_assoc front, List.singleton_append] at whole
    refine (List.append_inj whole ?_).2
    rw [← located.stop_eq]
    simpa using length
  have stops := located.stopsBefore
  obtain ⟨_, text⟩ := item
  obtain rfl : _ = ItemForm.number := form
  intro c head digit
  obtain ⟨rest, rfl⟩ := List.head?_eq_some_iff.mp head
  have noDigit := stops.2 noPoint c rest behind
  rw [isDigit_iff.mpr digit] at noDigit
  cases noDigit

/-- A number that awaits its fraction is there also when the source goes on with anything but a
digit. -/
theorem Occurrence.mem_append_of_noDigit {source more : List Char} {occurrence : Occurrence}
    (mem : occurrence ∈ occurrences source) (awaits : occurrence.awaitsFraction source = true)
    (noDigit : ∀ c, more.head? = some c → ¬ DigitCharacter c) :
    occurrence ∈ occurrences (source ++ more) := by
  obtain ⟨read, number, whole, form, noPoint, start, stop, found⟩ :=
    exists_items_of_awaitsFraction mem awaits
  have wellFormed := wellFormed_of_items_eq whole
  have stops : number.StopsBefore (['.'] ++ more) := by
    obtain ⟨_, text⟩ := number
    obtain rfl : _ = ItemForm.number := form
    refine ⟨fun c head => ?_, fun _ c rest same => ?_⟩
    · obtain rfl := Option.some.inj head
      rfl
    · obtain rfl : more = c :: rest := (List.cons.inj same).2
      exact Bool.eq_false_iff.mpr fun digit => noDigit c rfl (isDigit_iff.mp digit)
  have extended : items (source ++ more) = read ++ number :: items (['.'] ++ more) := by
    rw [(settledAt_number whole form noPoint).items_append_eq, List.append_assoc,
      items_append wellFormed stops]
  refine mem_occurrencesFrom.mpr ⟨read, number, _, extended, ?_, stop, found⟩
  rw [start, Nat.zero_add]

/-! ## Appended text -/

/-- **Appended text changes only the very end of a scan.**  The tokens and reports of a source
and of the source with more text behind it are what occurs in them.  Of what occurs in the source,
whatever has at least one more character behind it comes first in the longer text, at the same
place and in the same order, with a single exception: a number without a fraction in front of a
point that is the last character.  That one is still there exactly if no digit comes behind the
point. -/
theorem settled_occurrences_append (source more : List Char) :
    (Scanner.ofSource source).history =
        (occurrences source).map Occurrence.event ++
          [.token (Token.endOfInput (lineTotal source))] ∧
      (Scanner.ofSource (source ++ more)).history =
        (occurrences (source ++ more)).map Occurrence.event ++
          [.token (Token.endOfInput (lineTotal (source ++ more)))] ∧
      (occurrences source).filter (fun occurrence => occurrence.settled source) <+:
        occurrences (source ++ more) ∧
      ∀ occurrence ∈ occurrences source, occurrence.awaitsFraction source = true →
        (occurrence ∈ occurrences (source ++ more) ↔
          ∀ c, more.head? = some c → ¬ DigitCharacter c) := by
  refine ⟨history_ofSource source, history_ofSource _, ?_, fun occurrence mem awaits => ?_⟩
  · obtain ⟨read, tail, settledAt⟩ := exists_settledAt source
    rw [List.filter_congr settledAt.settled_eq, filter_occurrences settledAt.items_eq,
      occurrences, settledAt.items_append_eq, occurrencesFrom_append]
    exact List.prefix_append _ _
  · exact ⟨Occurrence.noDigit_of_mem_append awaits,
      Occurrence.mem_append_of_noDigit mem awaits⟩

/-- A digit behind the point makes a fraction of the number in front of it, a letter does not. -/
theorem settled_occurrences_append_fraction :
    ∃ occurrence ∈ occurrences "@1.".toList, occurrence.awaitsFraction "@1.".toList = true ∧
      occurrence ∉ occurrences ("@1.".toList ++ ['5']) ∧
      occurrence ∈ occurrences ("@1.".toList ++ ['e']) := by
  have found : (occurrences "@1.".toList)[1]? =
      some ⟨1, 2, .token
        { kind := .number, lexeme := ['1'],
          literal := some (.number (Decimal.ofNumeral ['1']).toBinary64), line := 1 }⟩ := by
    decide +kernel
  have mem := List.mem_of_getElem? found
  have digit := (settled_occurrences_append "@1.".toList ['5']).2.2.2 _ mem rfl
  have letter := (settled_occurrences_append "@1.".toList ['e']).2.2.2 _ mem rfl
  refine ⟨_, mem, rfl, fun kept => digit.mp kept '5' rfl (by decide), letter.mpr ?_⟩
  intro c head
  obtain rfl := Option.some.inj head
  decide

end LoxScan
