import LoxScan.Proofs.Draining

/-!
# The cursor

However a scanner is driven, its cursor stays inside the source and never moves back.  That is
also so when it is moved by hand, to the middle of a string or over line feeds that are not
counted then, and streams go on from there.

Each item that a stream reads takes it at least one character further, so the number of items
that it reads is bounded by the characters that are left.  Moving the cursor by hand fails only
at the end of the source, and then nothing changes.

## Main Definitions

* `Scanner.Sound` — **what holds of a scanner however it is driven**
* `Scanner.GoesOn` — nothing of a scanner's place has moved back
* `Scanner.readings`, `Stream.readings`, `Stream.drainReadings`, `Drive.readings` — the scanners
  at which items are read
* `Scanner.ReadsThrough` — one scanner comes from another by reading items at given scanners
* `Drive.StepSafe` — what holds of a step
-/

namespace LoxScan

/-! ## Sound scanners -/

/-- A token is made of some characters of a source in front of a given place. -/
def Token.TakenFrom (token : Token) (source : List Char) (limit : Nat) : Prop :=
  token.lexeme ≠ [] ∧
    ∃ first last, first < last ∧ last ≤ limit ∧ token.lexeme = (source.take last).drop first

theorem Token.TakenFrom.mono {token : Token} {source : List Char} {limit further : Nat}
    (taken : token.TakenFrom source limit) (le : limit ≤ further) :
    token.TakenFrom source further := by
  obtain ⟨nonempty, first, last, less, inside, text⟩ := taken
  exact ⟨nonempty, first, last, less, inside.trans le, text⟩

/-- **What holds of a scanner however it is driven.**  It stands on its source, and its last item
does not begin behind the cursor.  The line is at least the first one, and at most the one on which
the cursor is.  What is pending are texts of the source in front of the cursor. -/
structure Scanner.Sound (s : Scanner) (source : List Char) : Prop extends s.OnSource source where
  start_le : s.start ≤ s.current
  one_le_line : 1 ≤ s.line
  line_le : s.line ≤ 1 + ((source.take s.current).count '\n' : Nat)
  taken : ∀ token ∈ s.pending, token.TakenFrom source s.current

/-- **Nothing of a scanner's place has moved back.** -/
structure Scanner.GoesOn (s t : Scanner) : Prop where
  start_le : s.start ≤ t.start
  current_le : s.current ≤ t.current
  line_le : s.line ≤ t.line

theorem Scanner.GoesOn.refl (s : Scanner) : s.GoesOn s := ⟨le_rfl, le_rfl, Int.le_refl _⟩

theorem Scanner.GoesOn.trans {s t u : Scanner} (first : s.GoesOn t) (second : t.GoesOn u) :
    s.GoesOn u :=
  ⟨first.start_le.trans second.start_le, first.current_le.trans second.current_le,
    Int.le_trans first.line_le second.line_le⟩

namespace Scanner

/-- A new scanner is sound. -/
theorem sound_ofSource (source : List Char) : (ofSource source).Sound source where
  rest_eq := rfl
  current_le := Nat.zero_le _
  start_le := le_rfl
  one_le_line := Int.le_refl _
  line_le := Int.le_refl _
  taken := nofun

/-- Reading an item moves the cursor. -/
theorem current_lt_readItem (s : Scanner) (c : Char) (after : List Char) :
    s.current < (s.readItem c after).1.current := by
  show s.current < s.current + (Item.cut c after).1.text.length
  exact Nat.lt_add_of_pos_right (List.length_pos_iff.mpr (Item.cut_text_ne_nil c after))

namespace Sound

variable {s t : Scanner} {source : List Char} {c : Char} {after : List Char}

/-- The source up to a place behind the cursor. -/
theorem take_add (h : s.Sound source) {text : List Char} (split : s.rest = text ++ after) :
    source.take (s.current + text.length) = source.take s.current ++ text := by
  rw [List.take_add, ← h.rest_eq, split, List.take_left]

/-- **Moving the cursor over some text** leaves the scanner sound, whether the line feeds in the
text are counted or not. -/
theorem move (h : s.Sound source) (text : List Char) (split : s.rest = text ++ after)
    (current : t.current = s.current + text.length) (rest : t.rest = after)
    (start_le : t.start ≤ t.current) (line_le : s.line ≤ t.line)
    (counted : t.line ≤ s.line + (text.count '\n' : Nat))
    (taken : ∀ token ∈ t.pending, token.TakenFrom source t.current) : t.Sound source where
  toOnSource := h.toOnSource.move text split current rest
  start_le := start_le
  one_le_line := Int.le_trans h.one_le_line line_le
  line_le := by
    have := h.line_le
    rw [current, h.take_add split, List.count_append]
    omega
  taken := taken

/-- What is pending is still taken from the source when the cursor has moved on. -/
theorem taken_mono (h : s.Sound source) {limit : Nat} (le : s.current ≤ limit) :
    ∀ token ∈ s.pending, token.TakenFrom source limit :=
  fun token mem => (h.taken token mem).mono le

/-- **Reading an item** leaves the scanner sound. -/
theorem readItem (h : s.Sound source) (rest : s.rest = c :: after) :
    (s.readItem c after).1.Sound source := by
  have moved := s.current_lt_readItem c after
  have split : s.rest = (Item.cut c after).1.text ++ (Item.cut c after).2 :=
    rest.trans (Item.cut_append c after).symm
  have counted : (s.readItem c after).1.line =
      s.line + ((Item.cut c after).1.text.count '\n' : Nat) := by
    rw [← Item.lineBreaks_cut]
    rfl
  refine h.move _ split rfl rfl moved.le ?_ (Int.le_of_eq counted) ?_
  · exact Int.le_add_of_nonneg_right (Int.natCast_nonneg _)
  · intro token mem
    rcases List.mem_append.mp mem with before | new
    · exact (h.taken token before).mono moved.le
    · -- the lexeme of a new token is the text that the cursor has moved over
      have text := Item.lexeme_of_token? (Option.mem_toList.mp new)
      refine ⟨text ▸ Item.cut_text_ne_nil c after, s.current, _, moved, le_rfl, ?_⟩
      show token.lexeme =
        (source.take (s.current + (Item.cut c after).1.text.length)).drop s.current
      rw [text, h.take_add split, List.drop_left' (List.length_take_of_le h.current_le)]

/-- Moving the cursor over one character, and no more. -/
theorem moveOne (h : s.Sound source) (rest : s.rest = c :: after) :
    Sound { s with current := s.current + 1, rest := after } source :=
  h.move [c] rest rfl rfl (h.start_le.trans (Nat.le_succ _)) (Int.le_refl _)
    (Int.le_add_of_nonneg_right (Int.natCast_nonneg _)) (h.taken_mono (Nat.le_succ _))

theorem clear (h : s.Sound source) : Sound { s with pending := [] } source :=
  ⟨⟨h.rest_eq, h.current_le⟩, h.start_le, h.one_le_line, h.line_le, nofun⟩

theorem mark (h : s.Sound source) : Sound { s with start := s.current } source :=
  ⟨⟨h.rest_eq, h.current_le⟩, le_rfl, h.one_le_line, h.line_le, h.taken⟩

end Sound

end Scanner

/-! ## Where items are read -/

/-- **The scanners at which a stream that seeks a token reads items.** -/
def Scanner.readings (s : Scanner) : List Scanner :=
  match _h : s.rest with
  | [] => []
  | c :: after =>
    let read := (s.readItem c after).1
    s :: match read.pending with
      | [] => read.readings
      | _ :: _ => []
termination_by s.rest.length
decreasing_by
  have := Item.cut_rest_length_le c after
  simp only [Scanner.readItem_rest, _h, List.length_cons]
  omega

/-- The scanners at which items are read for one token of a stream. -/
def Stream.readings (stream : Stream) (s : Scanner) : List Scanner :=
  match stream with
  | .fresh => s.readings
  | .suspended index _ =>
    match s.pending[index]? with
    | some _ => []
    | none => Scanner.readings { s with pending := [] }
  | .finished => []

/-- The scanners at which items are read for all tokens of a stream. -/
def Stream.drainReadings (stream : Stream) (s : Scanner) : List Scanner :=
  let delivery := stream.next s
  stream.readings s ++
    match _h : delivery.token with
    | none => []
    | some _ => delivery.stream.drainReadings delivery.scanner
termination_by stream.remaining s
decreasing_by exact stream.remaining_next_lt s _ _h

/-- **The scanners at which items are read in a step.** -/
def Drive.readings (drive : Drive) : DriveStep → List Scanner
  | .next name => (drive.stream name).readings drive.scanner
  | .drain name => (drive.stream name).drainReadings drive.scanner
  | .scanTokens => Stream.fresh.drainReadings drive.scanner
  | .openStream _ | .close _ | .peek | .peekNext | .advance | .accept _ => []

namespace Scanner

/-- **One scanner comes from another by reading items at given scanners**, one behind the other.
In between, the pending tokens may be cleared, and at the end it is taken down where the cursor
stands. -/
inductive ReadsThrough : Scanner → List Scanner → Scanner → Prop where
  | done (s : Scanner) : ReadsThrough s [] s
  | item {s t : Scanner} {c : Char} {after : List Char} {calls : List Scanner}
      (rest : s.rest = c :: after) (further : ReadsThrough (s.readItem c after).1 calls t) :
      ReadsThrough s (s :: calls) t
  | clear {s t : Scanner} {calls : List Scanner}
      (further : ReadsThrough { s with pending := [] } calls t) : ReadsThrough s calls t
  | mark {s t : Scanner} {calls : List Scanner}
      (further : ReadsThrough { s with start := s.current } calls t) : ReadsThrough s calls t

/-- The pending tokens make no difference to where the cursor will stand. -/
theorem soloCursors_pending (s : Scanner) (tokens : List Token) :
    soloCursors { s with pending := tokens } = s.soloCursors := by
  rw [soloCursors, soloCursors]
  rfl

namespace ReadsThrough

variable {s t u : Scanner} {calls calls' : List Scanner} {source : List Char}

theorem trans (first : s.ReadsThrough calls t) (second : t.ReadsThrough calls' u) :
    s.ReadsThrough (calls ++ calls') u := by
  induction first with
  | done => exact second
  | item rest _ ih => exact .item rest (ih second)
  | clear _ ih => exact .clear (ih second)
  | mark _ ih => exact .mark (ih second)

/-- Reading items leaves a scanner sound. -/
theorem sound (reads : s.ReadsThrough calls t) (h : s.Sound source) : t.Sound source := by
  induction reads with
  | done => exact h
  | item rest _ ih => exact ih (h.readItem rest)
  | clear _ ih => exact ih h.clear
  | mark _ ih => exact ih h.mark

/-- **Reading items moves nothing back.** -/
theorem goesOn (reads : s.ReadsThrough calls t) (h : s.Sound source) : s.GoesOn t := by
  induction reads with
  | done s => exact .refl s
  | @item s _ c after _ rest _ ih =>
    refine .trans ⟨h.start_le, (s.current_lt_readItem c after).le, ?_⟩ (ih (h.readItem rest))
    exact Int.le_add_of_nonneg_right (Int.natCast_nonneg _)
  | clear _ ih =>
    have further := ih h.clear
    exact ⟨further.start_le, further.current_le, further.line_le⟩
  | mark _ ih =>
    have further := ih h.mark
    exact ⟨h.start_le.trans further.start_le, further.current_le, further.line_le⟩

/-- The scanners at which items are read are sound, and there is something left to read. -/
theorem calls_sound (reads : s.ReadsThrough calls t) (h : s.Sound source) :
    ∀ call ∈ calls, call.Sound source ∧ call.rest ≠ [] := by
  induction reads with
  | done => exact nofun
  | @item s _ c after _ rest _ ih =>
    rw [List.forall_mem_cons]
    exact ⟨⟨h, by simp [rest]⟩, ih (h.readItem rest)⟩
  | clear _ ih => exact ih h.clear
  | mark _ ih => exact ih h.mark

/-- **Each item that is read takes the cursor further.** -/
theorem length_le (reads : s.ReadsThrough calls t) : s.current + calls.length ≤ t.current := by
  induction reads with
  | done => exact le_rfl
  | @item s _ c after _ rest _ ih =>
    have moved := s.current_lt_readItem c after
    rw [List.length_cons]
    omega
  | clear _ ih => exact ih
  | mark _ ih => exact ih

/-- **The items that are read** are those between the two places of the cursor: they begin where
a lone stream would begin them. -/
theorem map_current_eq (reads : s.ReadsThrough calls t) :
    calls.map Scanner.current = s.soloCursors.takeWhile (· < t.current) := by
  induction reads with
  | done s =>
    rw [soloCursors]
    split <;> simp
  | @item s t c after calls rest further ih =>
    have moved : s.current < t.current :=
      (s.current_lt_readItem c after).trans_le (Nat.le_of_add_right_le further.length_le)
    rw [soloCursors_cons rest, soloCursors_pending, List.map_cons, ih, List.takeWhile_cons,
      decide_eq_true moved]
    rfl
  | @clear s _ _ _ ih => rw [ih, soloCursors_pending]
  | @mark s _ _ _ ih => rw [ih, soloCursors_start]

end ReadsThrough

/-! ## Streams read through their readings -/

theorem readings_of_nil {s : Scanner} (ended : s.rest = []) : s.readings = [] := by
  rw [readings]
  split
  · rfl
  · next begun =>
    rw [begun] at ended
    cases ended

theorem readings_of_cons {s : Scanner} {c : Char} {after : List Char} (rest : s.rest = c :: after) :
    s.readings = s :: match (s.readItem c after).1.pending with
      | [] => (s.readItem c after).1.readings
      | _ :: _ => [] := by
  rw [readings]
  split
  · next ended =>
    rw [ended] at rest
    cases rest
  · next begun =>
    obtain ⟨rfl, rfl⟩ := List.cons.inj (begun.symm.trans rest)
    rfl

/-- A stream that seeks a token reads items at its readings, and comes to the state that it
leaves behind. -/
theorem readsThrough_seek (s : Scanner) (count : Nat) :
    s.ReadsThrough s.readings (s.seek count).scanner := by
  fun_induction Scanner.seek s count with
  | case1 s ended =>
    rw [readings_of_nil ended]
    exact .mark (.done _)
  | case2 s c after rest read none_pending ih =>
    rw [readings_of_cons rest, show (s.readItem c after).1.pending = [] from none_pending]
    exact .item rest ih
  | case3 s c after rest read token more some_pending =>
    rw [readings_of_cons rest,
      show (s.readItem c after).1.pending = token :: more from some_pending]
    exact .item rest (.done _)

end Scanner

/-- **Asking a stream for one token** reads items at its readings. -/
theorem Stream.readsThrough_next (stream : Stream) (s : Scanner) :
    s.ReadsThrough (stream.readings s) (stream.next s).scanner := by
  cases stream with
  | fresh => exact s.readsThrough_seek 0
  | suspended index count =>
    cases present : s.pending[index]? with
    | some token =>
      simp only [readings, next, present]
      exact .done s
    | none =>
      simp only [readings, next, present]
      exact .clear (Scanner.readsThrough_seek _ count)
  | finished => exact .done s

/-- **Draining a stream** reads items at its readings. -/
theorem Stream.readsThrough_drain (stream : Stream) (s : Scanner) :
    s.ReadsThrough (stream.drainReadings s) (stream.drain s).scanner := by
  fun_induction Stream.drain stream s with
  | case1 stream s delivery stop =>
    have last : stream.drainReadings s = stream.readings s ++ [] := by
      rw [drainReadings]
      split
      · rfl
      · next found =>
        rw [show (stream.next s).token = none from stop] at found
        cases found
    rw [last, List.append_nil]
    exact stream.readsThrough_next s
  | case2 stream s delivery token found remaining ih =>
    have further : stream.drainReadings s =
        stream.readings s ++ delivery.stream.drainReadings delivery.scanner := by
      rw [drainReadings]
      split
      · next stop =>
        rw [show (stream.next s).token = some token from found] at stop
        cases stop
      · rfl
    rw [further]
    exact (stream.readsThrough_next s).trans ih

/-! ## Steps -/

namespace Drive

variable {drive : Drive} {source : List Char}

/-- **A step that does not move the cursor by hand** reads items at its readings. -/
theorem readsThrough_step (drive : Drive) {step : DriveStep} (whole : step.byHand = false) :
    drive.scanner.ReadsThrough (drive.readings step) (drive.step step).drive.scanner := by
  cases step with
  | openStream | close | peek | peekNext => exact .done _
  | next name => exact (drive.stream name).readsThrough_next drive.scanner
  | drain name => exact (drive.stream name).readsThrough_drain drive.scanner
  | scanTokens => exact Stream.fresh.readsThrough_drain drive.scanner
  | advance | accept => cases whole

/-- The state after the cursor has been moved over one character by hand. -/
def moved (drive : Drive) (after : List Char) : Drive :=
  { drive with
    scanner := { drive.scanner with current := drive.scanner.current + 1, rest := after } }

/-- Reading a character fails at the end of the source, and moves the cursor before it. -/
theorem step_advance_cases (drive : Drive) :
    (drive.scanner.rest = [] ∧ drive.step .advance = ⟨.error .pastEnd, [], drive⟩) ∨
      ∃ c after, drive.scanner.rest = c :: after ∧
        drive.step .advance = ⟨.ok (.character (some c)), [], drive.moved after⟩ := by
  rw [step, Scanner.advance]
  cases rest : drive.scanner.rest with
  | nil => exact .inl ⟨rfl, rfl⟩
  | cons c after => exact .inr ⟨c, after, rfl, rfl⟩

/-- Reading an expected character moves the cursor, or it is refused. -/
theorem step_accept_cases (drive : Drive) (expected : List Char) :
    drive.step (.accept expected) = ⟨.ok (.accepted false), [], drive⟩ ∨
      ∃ c after, drive.scanner.rest = c :: after ∧
        drive.step (.accept expected) = ⟨.ok (.accepted true), [], drive.moved after⟩ := by
  rw [step, Scanner.accept]
  cases rest : drive.scanner.rest with
  | nil => exact .inl rfl
  | cons c after =>
    by_cases same : expected = [c]
    · simp only [if_pos same]
      exact .inr ⟨c, after, rfl, rfl⟩
    · simp only [if_neg same]
      exact .inl trivial

/-- **A step that moves the cursor by hand** leaves everything as it is, or it moves the cursor
over one character. -/
theorem step_byHand_cases (drive : Drive) {step : DriveStep} (byHand : step.byHand = true) :
    (drive.step step).drive = drive ∨
      ∃ c after, drive.scanner.rest = c :: after ∧ (drive.step step).drive = drive.moved after := by
  cases step with
  | advance =>
    rcases drive.step_advance_cases with ⟨-, failed⟩ | ⟨c, after, rest, done⟩
    · exact .inl (congrArg DriveOutcome.drive failed)
    · exact .inr ⟨c, after, rest, congrArg DriveOutcome.drive done⟩
  | accept expected =>
    rcases drive.step_accept_cases expected with refused | ⟨c, after, rest, done⟩
    · exact .inl (congrArg DriveOutcome.drive refused)
    · exact .inr ⟨c, after, rest, congrArg DriveOutcome.drive done⟩
  | openStream | next | drain | close | scanTokens | peek | peekNext => cases byHand

/-- A step that moves the cursor by hand reads no items. -/
theorem readings_of_byHand (drive : Drive) {step : DriveStep} (byHand : step.byHand = true) :
    drive.readings step = [] := by
  cases step with
  | advance | accept => rfl
  | openStream | next | drain | close | scanTokens | peek | peekNext => cases byHand

/-- **Every step leaves the scanner sound.** -/
theorem sound_step (h : drive.scanner.Sound source) (step : DriveStep) :
    (drive.step step).drive.scanner.Sound source := by
  cases byHand : step.byHand with
  | false => exact (drive.readsThrough_step byHand).sound h
  | true =>
    rcases drive.step_byHand_cases byHand with same | ⟨c, after, rest, moved⟩
    · rw [same]
      exact h
    · rw [moved]
      exact h.moveOne rest

/-- **No step moves anything back.** -/
theorem goesOn_step (h : drive.scanner.Sound source) (step : DriveStep) :
    drive.scanner.GoesOn (drive.step step).drive.scanner := by
  cases byHand : step.byHand with
  | false => exact (drive.readsThrough_step byHand).goesOn h
  | true =>
    rcases drive.step_byHand_cases byHand with same | ⟨c, after, rest, moved⟩
    · rw [same]
      exact .refl _
    · rw [moved]
      exact ⟨le_rfl, Nat.le_succ _, Int.le_refl _⟩

/-- **Every item that is read in a step** is read at a sound scanner with something left to read,
and takes the cursor further. -/
theorem readings_sound (h : drive.scanner.Sound source) (step : DriveStep) :
    ∀ call ∈ drive.readings step, call.Sound source ∧ call.current < source.length ∧
      ∃ c after, call.rest = c :: after ∧ call.current < (call.readItem c after).1.current := by
  intro call mem
  cases byHand : step.byHand with
  | true =>
    rw [drive.readings_of_byHand byHand] at mem
    cases mem
  | false =>
    obtain ⟨sound, begun⟩ := (drive.readsThrough_step byHand).calls_sound h call mem
    obtain ⟨c, after, rest⟩ := List.exists_cons_of_ne_nil begun
    refine ⟨sound, ?_, c, after, rest, call.current_lt_readItem c after⟩
    exact Nat.lt_of_le_of_ne sound.current_le fun ended => begun (sound.rest_eq_nil_iff.mpr ended)

/-- **A step reads at most as many items as there are characters left.** -/
theorem length_readings_le (h : drive.scanner.Sound source) (step : DriveStep) :
    (drive.readings step).length ≤ source.length - drive.scanner.current := by
  cases byHand : step.byHand with
  | true =>
    rw [drive.readings_of_byHand byHand]
    exact Nat.zero_le _
  | false =>
    have spent := (drive.readsThrough_step byHand).length_le
    have inside := (sound_step h step).current_le
    omega

/-- **Only reading a character raises an error**, and it does so exactly at the end of the
source. -/
theorem answer_eq_error_iff (h : drive.scanner.OnSource source) (step : DriveStep)
    (failure : CursorError) : (drive.step step).answer = .error failure ↔
      step = .advance ∧ failure = .pastEnd ∧ drive.scanner.current = source.length := by
  rw [← h.rest_eq_nil_iff]
  cases step with
  | advance =>
    rcases drive.step_advance_cases with ⟨ended, failed⟩ | ⟨c, after, rest, done⟩
    · rw [failed]
      simp [ended]
    · rw [done]
      simp [rest]
  | accept expected =>
    rcases drive.step_accept_cases expected with refused | ⟨c, after, rest, done⟩
    · rw [refused]
      simp
    · rw [done]
      simp
  | openStream | next | drain | close | scanTokens | peek | peekNext => simp [step]

/-- **A step that fails, is refused or only looks changes nothing.** -/
theorem step_eq_self (drive : Drive) (step : DriveStep)
    (idle : step = .peek ∨ step = .peekNext ∨ (drive.step step).answer = .ok (.accepted false) ∨
      ∃ failure, (drive.step step).answer = .error failure) :
    (drive.step step).drive = drive ∧ (drive.step step).notices = [] := by
  cases step with
  | advance =>
    rcases drive.step_advance_cases with ⟨ended, failed⟩ | ⟨c, after, rest, done⟩
    · rw [failed]
      exact ⟨rfl, rfl⟩
    · rw [done] at idle
      simp at idle
  | accept expected =>
    rcases drive.step_accept_cases expected with refused | ⟨c, after, rest, done⟩
    · rw [refused]
      exact ⟨rfl, rfl⟩
    · rw [done] at idle
      simp at idle
  | peek | peekNext => exact ⟨rfl, rfl⟩
  | openStream | next | drain | close | scanTokens => simp [step] at idle

/-! ## Runs -/

/-- **However it is driven, a scanner is sound.** -/
theorem sound_run (h : drive.scanner.Sound source) (steps : List DriveStep) :
    (drive.runState steps).scanner.Sound source := by
  induction steps generalizing drive with
  | nil => exact h
  | cons step rest ih => exact ih (sound_step h step)

/-- No steps move anything back. -/
theorem goesOn_run (h : drive.scanner.Sound source) (steps : List DriveStep) :
    drive.scanner.GoesOn (drive.runState steps).scanner := by
  induction steps generalizing drive with
  | nil => exact .refl _
  | cons step rest ih => exact (goesOn_step h step).trans (ih (sound_step h step))

/-- **What holds of a step** on a scanner of a source. -/
structure StepSafe (source : List Char) (drive : Drive) (step : DriveStep) : Prop where
  /-- The scanner that the step leaves behind is sound. -/
  sound : (drive.step step).drive.scanner.Sound source
  /-- Nothing moves back. -/
  goesOn : drive.scanner.GoesOn (drive.step step).drive.scanner
  /-- Reading items at the readings of the step leads to that scanner. -/
  readsThrough : step.byHand = false →
    drive.scanner.ReadsThrough (drive.readings step) (drive.step step).drive.scanner
  /-- The items that are read are those between the two places of the cursor. -/
  readings_eq : step.byHand = false → (drive.readings step).map Scanner.current =
    drive.scanner.soloCursors.takeWhile (· < (drive.step step).drive.scanner.current)
  /-- An item is read only at a sound scanner in front of the end of the source, and the cursor is
  further on then. -/
  readings_sound : ∀ call ∈ drive.readings step,
    call.Sound source ∧ call.current < source.length ∧
      ∃ c after, call.rest = c :: after ∧ call.current < (call.readItem c after).1.current
  /-- No more items are read than there are characters left. -/
  length_readings_le : (drive.readings step).length ≤ source.length - drive.scanner.current
  /-- Only reading a character fails, and only at the end of the source. -/
  answer_eq_error_iff : ∀ failure, (drive.step step).answer = .error failure ↔
    step = .advance ∧ failure = .pastEnd ∧ drive.scanner.current = source.length
  /-- A step that fails, is refused or only looks changes nothing and reports nothing. -/
  eq_self : step = .peek ∨ step = .peekNext ∨ (drive.step step).answer = .ok (.accepted false) ∨
      (∃ failure, (drive.step step).answer = .error failure) →
    (drive.step step).drive = drive ∧ (drive.step step).notices = []

end Drive

/-- **The cursor is safe however a scanner is driven.**  After any steps on one scanner, also
some that move its cursor by hand, the scanner is sound; further steps move nothing back; and
every step that comes next is safe. -/
theorem driving_safe (source : List Char) (steps : List DriveStep) :
    ((Drive.ofSource source).runState steps).scanner.Sound source ∧
      (∀ more : List DriveStep, ((Drive.ofSource source).runState steps).scanner.GoesOn
        ((Drive.ofSource source).runState (steps ++ more)).scanner) ∧
      ∀ step : DriveStep, ((Drive.ofSource source).runState steps).StepSafe source step := by
  have new : (Drive.ofSource source).scanner.Sound source := Scanner.sound_ofSource source
  have sound := Drive.sound_run new steps
  refine ⟨sound, fun more => ?_, fun step => ?_⟩
  · rw [Drive.runState_append]
    exact Drive.goesOn_run sound more
  · exact
      { sound := Drive.sound_step sound step
        goesOn := Drive.goesOn_step sound step
        readsThrough := fun whole => Drive.readsThrough_step _ whole
        readings_eq := fun whole => (Drive.readsThrough_step _ whole).map_current_eq
        readings_sound := Drive.readings_sound sound step
        length_readings_le := Drive.length_readings_le sound step
        answer_eq_error_iff := Drive.answer_eq_error_iff sound.toOnSource step
        eq_self := Drive.step_eq_self _ step }

/-- When the cursor has been moved into a string by hand, a stream goes on from there: it reads a
word inside the string, and the line feed in front of the word has not been counted. -/
example :
    (((Drive.ofSource "\"a\nb\"".toList).runState
      [.advance, .advance, .advance, .openStream "x"]).step (.next "x")).drive.scanner.pending =
        [{ kind := .identifier, lexeme := ['b'], literal := none, line := 1 }] := by
  decide +kernel

end LoxScan
