import LoxScan.Proofs.Delivery

/-!
# Two streams lose no token

A stream that begins while a token of another stream is pending reads an item of its own and
then delivers the token that was there before.  The token of its own item is left behind it,
delivered by nobody, and a stream whose index is stale would clear it away.  A third stream
can make that happen.  With two of them it cannot: a token is left behind only when the
second one begins, and at that time no index is beyond the pending tokens, so each of the
two streams comes to the new token before it clears anything.

`Custody` is the invariant that says so.  A source may have equal tokens on one line, so which
of them a stream delivers is told by what stands behind it: a *handout* is a token that is
delivered, followed by what the stream can still deliver then.

## Main Definitions

* `Drive.handoutsTo` — the handouts of a stream in some steps
* `Stream.Spares` — a stream clears a pending token only after it has delivered it
* `Custody` — no token is lost while two streams share a scanner
* `HandsOut` — the handouts of one of two streams, and the custody that it leaves behind
* `DriveStep.uses` — the steps that ask or close a given stream
-/

namespace LoxScan

/-! ## Handouts -/

/-- What is handed out with a delivery: its token, and the outlook of the stream behind it. -/
def Delivery.handout (delivery : Delivery) : List (List Token) :=
  delivery.token.toList.map (· :: delivery.stream.outlook delivery.scanner)

/-- What a stream hands out while it is asked for all of its tokens, in order. -/
def Stream.handouts (stream : Stream) (s : Scanner) : List (List Token) :=
  let delivery := stream.next s
  delivery.handout ++
    match _h : delivery.token with
    | none => []
    | some _ => delivery.stream.handouts delivery.scanner
termination_by stream.remaining s
decreasing_by exact stream.remaining_next_lt s _ _h

/-- The tokens that are handed out with a delivery. -/
theorem Delivery.filterMap_head?_handout (delivery : Delivery) :
    delivery.handout.filterMap List.head? = delivery.token.toList := by
  rw [handout]
  cases delivery.token <;> rfl

/-- A stream that is asked in vain hands out nothing. -/
theorem Stream.handouts_of_none {stream : Stream} {s : Scanner}
    (stop : (stream.next s).token = none) : stream.handouts s = [] := by
  rw [handouts, Delivery.handout, stop]
  split
  · rfl
  · next found => cases found

/-- A stream that delivers a token hands out this token first. -/
theorem Stream.handouts_of_some {stream : Stream} {s : Scanner} {token : Token}
    (found : (stream.next s).token = some token) :
    stream.handouts s = (stream.next s).handout ++
      (stream.next s).stream.handouts (stream.next s).scanner := by
  rw [handouts]
  split
  · next stop => simp [stop] at found
  · rfl

/-- The tokens that are handed out while a stream is drained. -/
theorem Stream.filterMap_head?_handouts (stream : Stream) (s : Scanner) :
    (stream.handouts s).filterMap List.head? = (stream.drain s).tokens := by
  fun_induction Stream.drain stream s with
  | case1 stream s delivery stop => rw [handouts_of_none stop]; rfl
  | case2 stream s delivery token found remaining ih =>
    change (stream.next s).token = some token at found
    rw [handouts_of_some found, List.filterMap_append, Delivery.filterMap_head?_handout, found]
    exact congrArg (token :: ·) ih

namespace Drive

/-- What the stream with a given name hands out in a step. -/
def handoutsIn (drive : Drive) (name : String) : DriveStep → List (List Token)
  | .next other => if other = name then ((drive.stream name).next drive.scanner).handout else []
  | .drain other => if other = name then (drive.stream name).handouts drive.scanner else []
  | .openStream _ | .close _ | .scanTokens | .peek | .peekNext | .advance | .accept _ => []

/-- **What the stream with a given name hands out in some steps**, in order: each token that it
delivers, followed by the tokens that it can still deliver then. -/
def handoutsTo (drive : Drive) (name : String) : List DriveStep → List (List Token)
  | [] => []
  | step :: rest => drive.handoutsIn name step ++ (drive.step step).drive.handoutsTo name rest

theorem handoutsTo_cons (drive : Drive) (name : String) (step : DriveStep)
    (rest : List DriveStep) :
    drive.handoutsTo name (step :: rest) =
      drive.handoutsIn name step ++ (drive.step step).drive.handoutsTo name rest := rfl

/-- The tokens that a stream hands out in a step are those that it delivers. -/
theorem filterMap_head?_handoutsIn (drive : Drive) (name : String) (step : DriveStep) :
    (drive.handoutsIn name step).filterMap List.head? = drive.handed name step := by
  cases step with
  | next other =>
    by_cases same : other = name
    · subst same
      rw [handoutsIn, if_pos rfl, Delivery.filterMap_head?_handout, handed,
        if_pos (by simp [DriveStep.asks])]
      rfl
    · rw [handoutsIn, if_neg same, handed, if_neg (by simp [DriveStep.asks, same])]
      rfl
  | drain other =>
    by_cases same : other = name
    · subst same
      rw [handoutsIn, if_pos rfl, Stream.filterMap_head?_handouts, handed,
        if_pos (by simp [DriveStep.asks])]
      rfl
    · rw [handoutsIn, if_neg same, handed, if_neg (by simp [DriveStep.asks, same])]
      rfl
  | openStream | close | scanTokens | peek | peekNext | advance | accept => rfl

/-- **The tokens that a stream hands out** are those that it delivers. -/
theorem filterMap_head?_handoutsTo (drive : Drive) (name : String) (steps : List DriveStep) :
    (drive.handoutsTo name steps).filterMap List.head? = drive.deliveredTo name steps := by
  induction steps generalizing drive with
  | nil => rfl
  | cons step rest ih =>
    rw [handoutsTo_cons, List.filterMap_append, filterMap_head?_handoutsIn, ih, deliveredTo_cons]

end Drive

/-! ## Custody -/

/-- **A stream clears the pending token with an index only after it has delivered it.**  A
stream that has finished clears nothing.  Nothing is said of one that has not begun. -/
def Stream.Spares (stream : Stream) (i : Nat) : Prop :=
  match stream with
  | .fresh => False
  | .suspended index _ => index ≤ i
  | .finished => True

/-- **No token is lost while two streams share a scanner.**  Of the tokens of a lone stream,
the first `cleared` ones have been cleared, and each of them is at a given place.  Behind
them are the pending tokens, each of which is at a given place as well unless both streams
spare it.  While a stream has not begun, either nothing is pending or the other one spares
a token that it will make pending. -/
structure Custody (whole : List Token) (s : Scanner) (x y : Stream) (given : Nat → Prop)
    (cleared : Nat) : Prop where
  drop_eq : whole.drop cleared = s.pending ++ (scanFrom s.line s.rest).tokens
  cleared_given : ∀ i < cleared, given i
  pending_given : ∀ i < s.pending.length, given (cleared + i) ∨ x.Spares i ∧ y.Spares i
  fresh_left : x = .fresh → s.pending = [] ∨ y.Spares s.pending.length
  fresh_right : y = .fresh → s.pending = [] ∨ x.Spares s.pending.length

/-- Every text has the token that marks its end. -/
theorem tokens_scanFrom_ne_nil (line : Int) (source : List Char) :
    (scanFrom line source).tokens ≠ [] := by
  simp [scanFrom]

/-- Reading an item moves a token from the text that is to be read to the pending ones. -/
theorem Scanner.pending_append_readItem {s : Scanner} {c : Char} {after : List Char}
    (rest : s.rest = c :: after) :
    (s.readItem c after).1.pending ++
        (scanFrom (s.readItem c after).1.line (s.readItem c after).1.rest).tokens =
      s.pending ++ (scanFrom s.line s.rest).tokens := by
  rw [tokens_scanFrom_readItem rest, ← List.append_assoc]
  rfl

namespace Custody

variable {whole : List Token} {s : Scanner} {x y : Stream} {given given' : Nat → Prop}
  {cleared : Nat}

theorem swap (h : Custody whole s x y given cleared) : Custody whole s y x given cleared where
  drop_eq := h.drop_eq
  cleared_given := h.cleared_given
  pending_given i inside := (h.pending_given i inside).imp_right And.symm
  fresh_left := h.fresh_right
  fresh_right := h.fresh_left

/-- More places may be given. -/
theorem mono (h : Custody whole s x y given cleared) (more : ∀ i, given i → given' i) :
    Custody whole s x y given' cleared :=
  { h with
    cleared_given := fun i inside => more i (h.cleared_given i inside)
    pending_given := fun i inside => (h.pending_given i inside).imp_left (more _) }

/-- A stream may be closed. -/
theorem close (h : Custody whole s x y given cleared) :
    Custody whole s .finished y given cleared where
  drop_eq := h.drop_eq
  cleared_given := h.cleared_given
  pending_given i inside := (h.pending_given i inside).imp_right fun spared => ⟨trivial, spared.2⟩
  fresh_left := nofun
  fresh_right _ := .inr trivial

/-- Pending tokens that a stream does not spare are at given places. -/
theorem given_of_not_spares (h : Custody whole s x y given cleared)
    (unspared : ∀ i < s.pending.length, ¬ x.Spares i) :
    ∀ i < cleared + s.pending.length, given i := by
  intro i before
  by_cases gone : i < cleared
  · exact h.cleared_given i gone
  · obtain ⟨k, rfl⟩ := Nat.exists_eq_add_of_le (Nat.le_of_not_lt gone)
    have inside : k < s.pending.length := by omega
    exact (h.pending_given k inside).resolve_right fun spared => unspared k inside spared.1

end Custody

/-! ## Handing out tokens -/

/-- **What one of two streams hands out**: the tokens of a lone stream from some places on,
while the scanner comes to `t` and the stream to `x'`.  Nothing is lost, and if one of the
places is the last one, all others are given. -/
structure HandsOut (whole : List Token) (y : Stream) (given : Nat → Prop) (t : Scanner)
    (x' : Stream) (handouts : List (List Token)) (places : List Nat) : Prop where
  handouts_eq : handouts = places.map (whole.drop ·)
  custody : ∃ cleared, Custody whole t x' y (fun i => given i ∨ i ∈ places) cleared
  complete : ∀ i ∈ places, i + 1 = whole.length → ∀ j < i, given j ∨ j ∈ places

namespace HandsOut

variable {whole : List Token} {y : Stream} {given : Nat → Prop} {t u : Scanner}
  {x' x'' : Stream} {handouts handouts' : List (List Token)} {places places' : List Nat}

/-- A stream that delivers nothing hands out nothing. -/
theorem of_custody {cleared : Nat} (custody : Custody whole t x' y given cleared) :
    HandsOut whole y given t x' [] [] where
  handouts_eq := rfl
  custody := ⟨cleared, custody.mono fun _ => .inl⟩
  complete := nofun

/-- What a stream hands out first and what it hands out then. -/
theorem trans (first : HandsOut whole y given t x' handouts places)
    (second : HandsOut whole y (fun i => given i ∨ i ∈ places) u x'' handouts' places') :
    HandsOut whole y given u x'' (handouts ++ handouts') (places ++ places') where
  handouts_eq := by rw [first.handouts_eq, second.handouts_eq, List.map_append]
  custody := by
    obtain ⟨cleared, custody⟩ := second.custody
    refine ⟨cleared, custody.mono ?_⟩
    intro i given
    rwa [List.mem_append, ← or_assoc]
  complete := by
    intro i mem isLast j before
    rw [List.mem_append, ← or_assoc]
    rcases List.mem_append.mp mem with earlier | later
    · exact .inl (first.complete i earlier isLast j before)
    · exact second.complete i later isLast j before

/-- **A stream that delivers one token** hands out what stands from its place on. -/
theorem single {token : Token} {place cleared : Nat}
    (drop_eq : whole.drop place = token :: x'.outlook t)
    (custody : Custody whole t x' y (fun i => given i ∨ i ∈ [place]) cleared)
    (complete : x'.outlook t = [] → ∀ j < place, given j) :
    HandsOut whole y given t x' [token :: x'.outlook t] [place] := by
  refine ⟨by rw [List.map_singleton, drop_eq], ⟨cleared, custody⟩, ?_⟩
  intro i mem isLast j before
  obtain rfl := List.mem_singleton.mp mem
  have length := congrArg List.length drop_eq
  rw [List.length_drop, List.length_cons] at length
  exact .inl (complete (List.length_eq_zero_iff.mp (by omega)) j before)

end HandsOut

/-! ## Streams -/

section Streams

variable {whole : List Token} {y : Stream} {given : Nat → Prop} {cleared : Nat}

/-- **A stream that seeks a token** hands one out.  All tokens up to the pending ones are at
given places, so it does no harm to read on; and if an item is read while others are
pending, the other stream has begun and spares its token. -/
theorem Scanner.handsOut_seek {s : Scanner} (count : Nat)
    (drop_eq : whole.drop cleared = s.pending ++ (scanFrom s.line s.rest).tokens)
    (all_given : ∀ i < cleared + s.pending.length, given i)
    (spared : s.pending = [] ∨ y.Spares s.pending.length) :
    ∃ places, HandsOut whole y given (s.seek count).scanner (s.seek count).stream
      (s.seek count).handout places := by
  fun_induction Scanner.seek s count with
  | case1 s ended =>
    have last : whole.drop (cleared + s.pending.length) = [Token.endOfInput s.line] := by
      rw [← List.drop_drop, drop_eq, List.drop_left, tokens_scanFrom_of_nil ended]
    have custody : Custody whole { s with start := s.current } .finished y
        (fun i => given i ∨ i ∈ [cleared + s.pending.length]) cleared := by
      refine ⟨drop_eq, ?_, ?_, Stream.noConfusion, fun _ => .inr trivial⟩
      · exact fun i inside => .inl (all_given i (by omega))
      · exact fun i inside => .inl (.inl (all_given _ (Nat.add_lt_add_left inside _)))
    exact ⟨_, .single last custody fun _ => all_given⟩
  | case2 s c after rest read none_pending ih =>
    have moved : read.1.pending ++ (scanFrom read.1.line read.1.rest).tokens =
        s.pending ++ (scanFrom s.line s.rest).tokens := pending_append_readItem rest
    refine ih (drop_eq.trans moved.symm) ?_ (.inl none_pending)
    intro i before
    rw [none_pending] at before
    exact all_given i (Nat.lt_add_right _ before)
  | case3 s c after rest read token more some_pending =>
    have moved : read.1.pending ++ (scanFrom read.1.line read.1.rest).tokens =
        s.pending ++ (scanFrom s.line s.rest).tokens := pending_append_readItem rest
    have grown : read.1.pending.length ≤ s.pending.length + 1 :=
      s.pending_length_readItem_le c after
    have custody : Custody whole read.1 (.suspended 1 (count + (more.length + 1))) y
        (fun i => given i ∨ i ∈ [cleared]) cleared := by
      refine ⟨drop_eq.trans moved.symm, ?_, ?_, Stream.noConfusion, ?_⟩
      · exact fun i gone => .inl (all_given i (Nat.lt_add_right _ gone))
      · intro i inside
        by_cases old : i < s.pending.length
        · exact .inl (.inl (all_given _ (Nat.add_lt_add_left old _)))
        · -- the token of the item that has been read is the last pending one
          obtain rfl : i = s.pending.length := by omega
          by_cases none_before : s.pending = []
          · exact .inl (.inr (by simp [none_before]))
          · exact .inr ⟨List.length_pos_iff.mpr none_before, spared.resolve_left none_before⟩
      · rw [some_pending]
        exact fun _ => .inr (Nat.le_add_left 1 more.length)
    have outlook : Stream.outlook (.suspended 1 (count + (more.length + 1))) read.1 =
        more ++ (scanFrom read.1.line read.1.rest).tokens := by
      rw [Stream.outlook, some_pending]
      rfl
    have first : whole.drop cleared =
        token :: Stream.outlook (.suspended 1 (count + (more.length + 1))) read.1 := by
      rw [drop_eq, ← moved, some_pending, outlook, List.cons_append]
    refine ⟨_, .single first custody ?_⟩
    intro none_left
    rw [outlook] at none_left
    exact absurd (List.append_eq_nil_iff.mp none_left).2 (tokens_scanFrom_ne_nil _ _)

/-- **A stream that is asked for one token** hands it out. -/
theorem Custody.handsOut_next {s : Scanner} {x : Stream}
    (custody : Custody whole s x y given cleared) :
    ∃ places, HandsOut whole y given (x.next s).scanner (x.next s).stream (x.next s).handout
      places := by
  cases x with
  | fresh =>
    -- nothing that is pending is spared by a stream that has not begun
    exact Scanner.handsOut_seek 0 custody.drop_eq
      (custody.given_of_not_spares fun _ _ spared => spared) (custody.fresh_left rfl)
  | suspended index count =>
    rw [Stream.next]
    split
    · next token present =>
      obtain ⟨inside, rfl⟩ := List.getElem?_eq_some_iff.mp present
      have first : whole.drop (cleared + index) =
          s.pending[index] :: (Stream.suspended (index + 1) count).outlook s := by
        rw [← List.drop_drop, custody.drop_eq, List.drop_append_of_le_length (Nat.le_of_lt inside),
          List.drop_eq_getElem_cons inside]
        rfl
      have moved : Custody whole s (.suspended (index + 1) count) y
          (fun i => given i ∨ i ∈ [cleared + index]) cleared := by
        refine ⟨custody.drop_eq, fun i gone => .inl (custody.cleared_given i gone), ?_,
          Stream.noConfusion, fun _ => .inr inside⟩
        intro i within
        by_cases same : i = index
        · exact .inl (.inr (by simp [same]))
        · refine (custody.pending_given i within).imp .inl fun spared => ⟨?_, spared.2⟩
          exact Nat.lt_of_le_of_ne spared.1 (Ne.symm same)
      refine ⟨_, .single first moved ?_⟩
      intro none_left
      exact absurd (List.append_eq_nil_iff.mp none_left).2 (tokens_scanFrom_ne_nil _ _)
    · next absent =>
      have beyond : s.pending.length ≤ index := List.getElem?_eq_none_iff.mp absent
      have all_given := custody.given_of_not_spares fun i inside spared =>
        absurd spared (Nat.not_le_of_lt (Nat.lt_of_lt_of_le inside beyond))
      have behind : whole.drop (cleared + s.pending.length) = (scanFrom s.line s.rest).tokens := by
        rw [← List.drop_drop, custody.drop_eq, List.drop_left]
      exact Scanner.handsOut_seek (s := { s with pending := [] }) count behind all_given (.inl rfl)
  | finished => exact ⟨[], .of_custody custody⟩

/-- **A stream that is drained** hands out all that it delivers, and has finished. -/
theorem Stream.handsOut_drain (x : Stream) (s : Scanner) (given : Nat → Prop) (cleared : Nat) :
    Custody whole s x y given cleared →
      ∃ places, HandsOut whole y given (x.drain s).scanner .finished (x.handouts s) places := by
  fun_induction Stream.drain x s generalizing given cleared with
  | case1 x s delivery stop =>
    intro custody
    obtain rfl : x = .finished := by
      by_contra unfinished
      obtain ⟨token, found, -⟩ := Stream.exists_token_next s unfinished
      rw [show (x.next s).token = none from stop] at found
      cases found
    rw [handouts_of_none stop]
    exact ⟨[], .of_custody custody⟩
  | case2 x s delivery token found remaining ih =>
    intro custody
    obtain ⟨places, first⟩ := custody.handsOut_next
    obtain ⟨left, between⟩ := first.custody
    obtain ⟨places', second⟩ := ih _ _ between
    rw [handouts_of_some found]
    exact ⟨_, first.trans second⟩

end Streams

/-! ## Steps -/

/-- The steps that ask the stream with a given name for tokens, or close it. -/
def DriveStep.uses (name : String) : DriveStep → Bool
  | .next other | .drain other | .close other => other = name
  | .openStream _ | .scanTokens | .peek | .peekNext | .advance | .accept _ => false

namespace Drive

/-- A step that uses one stream does nothing with another one. -/
theorem unused_of_uses (drive : Drive) {name other : String} (differ : name ≠ other)
    {step : DriveStep} (uses : step.uses name = true) :
    (drive.step step).drive.stream other = drive.stream other ∧
      drive.handoutsIn other step = [] := by
  cases step with
  | next used | drain used =>
    obtain rfl : used = name := by simpa [DriveStep.uses] using uses
    exact ⟨stream_assign_of_ne _ _ _ differ.symm, if_neg differ⟩
  | close used =>
    obtain rfl : used = name := by simpa [DriveStep.uses] using uses
    exact ⟨stream_assign_of_ne _ _ _ differ.symm, rfl⟩
  | openStream | scanTokens | peek | peekNext | advance | accept => cases uses

/-- **A step that uses one of two streams** hands out what this stream delivers. -/
theorem handsOut_step (drive : Drive) {name : String} {step : DriveStep}
    (uses : step.uses name = true) {whole : List Token} {y : Stream} {given : Nat → Prop}
    {cleared : Nat} (custody : Custody whole drive.scanner (drive.stream name) y given cleared) :
    ∃ places, HandsOut whole y given (drive.step step).drive.scanner
      ((drive.step step).drive.stream name) (drive.handoutsIn name step) places := by
  cases step with
  | next used =>
    obtain rfl : used = name := by simpa [DriveStep.uses] using uses
    rw [handoutsIn, if_pos rfl, step, stream_assign_self]
    exact custody.handsOut_next
  | drain used =>
    obtain rfl : used = name := by simpa [DriveStep.uses] using uses
    rw [handoutsIn, if_pos rfl, step, stream_assign_self]
    exact Stream.handsOut_drain _ _ _ _ custody
  | close used =>
    obtain rfl : used = name := by simpa [DriveStep.uses] using uses
    rw [handoutsIn, step, stream_assign_self]
    exact ⟨[], .of_custody custody.close⟩
  | openStream | scanTokens | peek | peekNext | advance | accept => cases uses

/-- **What two streams hand out in some steps**: the tokens of a lone stream from some places
on; and if one of these is the last place, all others are given. -/
structure Shares (whole : List Token) (given : Nat → Prop) (drive : Drive)
    (first second : String) (steps : List DriveStep) (places places' : List Nat) : Prop where
  handouts_eq : drive.handoutsTo first steps = places.map (whole.drop ·)
  handouts_eq' : drive.handoutsTo second steps = places'.map (whole.drop ·)
  complete : ∀ i, i ∈ places ∨ i ∈ places' → i + 1 = whole.length →
    ∀ j < i, given j ∨ j ∈ places ∨ j ∈ places'

section Shares

variable {whole : List Token} {given : Nat → Prop} {cleared : Nat} {drive : Drive}
  {first second : String} {steps : List DriveStep} {places places' : List Nat}

theorem Shares.swap (h : Shares whole given drive first second steps places places') :
    Shares whole given drive second first steps places' places where
  handouts_eq := h.handouts_eq'
  handouts_eq' := h.handouts_eq
  complete i mem isLast j before := (h.complete i mem.symm isLast j before).imp_right Or.symm

/-- A step that uses the first stream, and the steps behind it. -/
theorem Shares.cons {step : DriveStep} {now : List Nat} (differ : first ≠ second)
    (uses : step.uses first = true)
    (handsOut : HandsOut whole (drive.stream second) given (drive.step step).drive.scanner
      ((drive.step step).drive.stream first) (drive.handoutsIn first step) now)
    (later : Shares whole (fun i => given i ∨ i ∈ now) (drive.step step).drive first second
      steps places places') :
    Shares whole given drive first second (step :: steps) (now ++ places) places' where
  handouts_eq := by
    rw [handoutsTo_cons, handsOut.handouts_eq, later.handouts_eq, List.map_append]
  handouts_eq' := by
    rw [handoutsTo_cons, (drive.unused_of_uses differ uses).2, later.handouts_eq', List.nil_append]
  complete := by
    intro i mem isLast j before
    rw [List.mem_append, or_assoc] at mem
    rw [List.mem_append, or_assoc, ← or_assoc]
    rcases mem with earlier | behind
    · exact .inl (handsOut.complete i earlier isLast j before)
    · exact later.complete i behind isLast j before

/-- **Two streams that share a scanner lose no token**, whatever they have delivered before. -/
theorem exists_shares (differ : first ≠ second) (steps : List DriveStep)
    (shared : ∀ step ∈ steps, step.uses first = true ∨ step.uses second = true)
    (custody : Custody whole drive.scanner (drive.stream first) (drive.stream second) given
      cleared) :
    ∃ places places', Shares whole given drive first second steps places places' := by
  -- custody goes through a step with the places that it gives added to the given ones
  induction steps generalizing drive given cleared with
  | nil =>
    refine ⟨[], [], rfl, rfl, ?_⟩
    intro i mem
    simp at mem
  | cons step rest ih =>
    rw [List.forall_mem_cons] at shared
    rcases shared.1 with uses | uses
    · obtain ⟨now, handsOut⟩ := drive.handsOut_step uses custody
      obtain ⟨left, between⟩ := handsOut.custody
      rw [← (drive.unused_of_uses differ uses).1] at between
      obtain ⟨places, places', later⟩ := ih shared.2 between
      exact ⟨_, _, .cons differ uses handsOut later⟩
    · obtain ⟨now, handsOut⟩ := drive.handsOut_step uses custody.swap
      obtain ⟨left, between⟩ := handsOut.custody
      rw [← (drive.unused_of_uses differ.symm uses).1] at between
      obtain ⟨places, places', later⟩ := ih shared.2 between.swap
      exact ⟨_, _, (Shares.cons differ.symm uses handsOut later.swap).swap⟩

end Shares

end Drive

/-! ## Two streams from the beginning -/

/-- A new scanner on which two streams have been opened. -/
def Drive.ofTwo (source : List Char) (first second : String) : Drive :=
  (ofSource source).runState [.openStream first, .openStream second]

/-- Nothing is lost before the two streams are used. -/
theorem custody_ofTwo (source : List Char) {first second : String} (differ : first ≠ second) :
    Custody (Scanner.ofSource source).scanTokens.tokens (Drive.ofTwo source first second).scanner
      ((Drive.ofTwo source first second).stream first)
      ((Drive.ofTwo source first second).stream second) (fun _ => False) 0 := by
  have began : (Drive.ofTwo source first second).stream first = .fresh :=
    (Drive.stream_assign_of_ne _ _ _ differ).trans (Drive.stream_assign_self _ _ _ _)
  have began' : (Drive.ofTwo source first second).stream second = .fresh :=
    Drive.stream_assign_self _ _ _ _
  rw [began, began', (Scanner.scanTokens_ofSource source).1]
  exact ⟨rfl, nofun, nofun, fun _ => .inl rfl, fun _ => .inl rfl⟩

/-- Of the tokens of a lone stream the last one marks the end, and no other one does. -/
theorem kind_getElem?_scanTokens {source : List Char} {place : Nat} {token : Token}
    (stands : (Scanner.ofSource source).scanTokens.tokens[place]? = some token) :
    token.kind = .endOfInput ↔ place + 1 = (Scanner.ofSource source).scanTokens.tokens.length := by
  rw [Scanner.tokens_scanTokens_ofSource] at stands ⊢
  rw [List.length_append, List.length_singleton, Nat.add_right_cancel_iff]
  rcases Nat.lt_or_ge place ((occurrences source).filterMap
    fun occurrence => occurrence.event.token?).length with inside | beyond
  · rw [List.getElem?_append_left inside] at stands
    exact iff_of_false (kind_ne_endOfInput_of_occurs (List.mem_of_getElem? stands))
      (Nat.ne_of_lt inside)
  · rw [List.getElem?_append_right beyond, List.getElem?_singleton] at stands
    obtain ⟨atEnd, marks⟩ := Option.ite_none_right_eq_some.mp stands
    obtain rfl := Option.some.inj marks
    exact iff_of_true rfl (by omega)

/-- **Two streams on one scanner lose no token.**  They are opened on a new scanner and then
asked, drained and closed in any order.  What they hand out with each token that they deliver
are the tokens of a lone stream from that token on.  Once one of them has delivered the token
that marks the end, one of the two has handed out the tokens of the lone stream from every other
token on, and so has delivered each of these tokens. -/
theorem two_streams_lose_nothing (source : List Char) (first second : String)
    (differ : first ≠ second) (steps : List DriveStep)
    (shared : ∀ step ∈ steps, step.uses first = true ∨ step.uses second = true) :
    (∀ name, ((Drive.ofTwo source first second).handoutsTo name steps).filterMap List.head? =
        (Drive.ofTwo source first second).deliveredTo name steps) ∧
      (∀ handout ∈ (Drive.ofTwo source first second).handoutsTo first steps ++
          (Drive.ofTwo source first second).handoutsTo second steps,
        handout <:+ (Scanner.ofSource source).scanTokens.tokens) ∧
      ∀ last ∈ (Drive.ofTwo source first second).deliveredTo first steps ++
          (Drive.ofTwo source first second).deliveredTo second steps,
        last.kind = .endOfInput →
          ∀ (token : Token) (behind : List Token),
            token :: behind <:+ (Scanner.ofSource source).scanTokens.tokens →
              token.kind ≠ .endOfInput →
                token :: behind ∈ (Drive.ofTwo source first second).handoutsTo first steps ∨
                  token :: behind ∈ (Drive.ofTwo source first second).handoutsTo second steps := by
  obtain ⟨places, places', shares⟩ :=
    Drive.exists_shares differ steps shared (custody_ofTwo source differ)
  refine ⟨fun name => Drive.filterMap_head?_handoutsTo _ name steps, ?_, ?_⟩
  · rw [shares.handouts_eq, shares.handouts_eq', ← List.map_append, List.forall_mem_map]
    exact fun i _ => List.drop_suffix _ _
  · intro last delivered marksEnd token behind stands plain
    rw [← Drive.filterMap_head?_handoutsTo, ← Drive.filterMap_head?_handoutsTo,
      ← List.filterMap_append, shares.handouts_eq, shares.handouts_eq', ← List.map_append,
      List.filterMap_map] at delivered
    obtain ⟨i, among, head⟩ := List.mem_filterMap.mp delivered
    have isLast := (kind_getElem?_scanTokens (List.head?_drop.symm.trans head)).mp marksEnd
    obtain ⟨before, split⟩ := stands
    have place : (Scanner.ofSource source).scanTokens.tokens.drop before.length =
        token :: behind := by
      rw [← split, List.drop_left]
    have notLast := mt (kind_getElem?_scanTokens
      (List.head?_drop.symm.trans (congrArg List.head? place))).mpr plain
    have inside := congrArg List.length split
    rw [List.length_append, List.length_cons] at inside
    rw [shares.handouts_eq, shares.handouts_eq', ← place]
    refine ((shares.complete i (List.mem_append.mp among) isLast before.length
      (by omega)).resolve_left id).imp ?_ ?_
    · exact List.mem_map_of_mem
    · exact List.mem_map_of_mem

/-- The second stream begins while the first one is suspended behind the semicolon, so the plus
sign is left behind undelivered.  The first one is closed before it comes to it, and the second
one delivers it. -/
theorem two_streams_lose_nothing_closed :
    (Drive.ofTwo ";+-".toList "x" "y").deliveredTo "x"
        [.next "x", .next "y", .close "x", .drain "y"] = [⟨.semicolon, [';'], none, 1⟩] ∧
      [⟨.plus, ['+'], none, 1⟩, ⟨.minus, ['-'], none, 1⟩, Token.endOfInput 1] ∈
        (Drive.ofTwo ";+-".toList "x" "y").handoutsTo "y"
          [.next "x", .next "y", .close "x", .drain "y"] := by
  obtain ⟨-, -, complete⟩ :=
    two_streams_lose_nothing ";+-".toList "x" "y" (by decide)
      [.next "x", .next "y", .close "x", .drain "y"] (by decide)
  have once : (Drive.ofTwo ";+-".toList "x" "y").handoutsTo "x"
      [.next "x", .next "y", .close "x", .drain "y"] =
      [(Scanner.ofSource ";+-".toList).scanTokens.tokens] := by
    decide +kernel
  have ended : Token.endOfInput 1 ∈
      (Drive.ofTwo ";+-".toList "x" "y").deliveredTo "x"
          [.next "x", .next "y", .close "x", .drain "y"] ++
        (Drive.ofTwo ";+-".toList "x" "y").deliveredTo "y"
          [.next "x", .next "y", .close "x", .drain "y"] := by
    decide +kernel
  have solo : (Scanner.ofSource ";+-".toList).scanTokens.tokens =
      [⟨.semicolon, [';'], none, 1⟩, ⟨.plus, ['+'], none, 1⟩, ⟨.minus, ['-'], none, 1⟩,
        Token.endOfInput 1] := by
    decide +kernel
  refine ⟨by decide +kernel, ?_⟩
  refine (complete _ ended rfl _ _ ?_ (by decide)).resolve_left ?_
  · rw [solo]
    exact List.suffix_cons _ _
  · rw [once, solo]
    decide +kernel

/-- Three streams can lose a token.  The second one clears the tokens that the first one still
counts, the third one leaves the star behind undelivered, and the first one clears it away. -/
example : ∀ name ∈ ["x", "y", "z"],
    ∀ token ∈ (Drive.ofSource ";+-*".toList).deliveredTo name
      [.openStream "x", .openStream "y", .openStream "z", .next "x", .next "y", .next "x",
        .next "y", .next "y", .next "z", .next "x", .drain "y", .drain "z"],
      token.kind ≠ .star := by
  decide +kernel

end LoxScan
