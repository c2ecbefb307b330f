import LoxScan.Session.Step

/-!
# Scopes of configurations and accumulators

A block with a configuration of its own gives the one before it back, a block with an accumulator
of its own gives that one back, and a thread gives both back.  Steps in it may set, reset, enter
and leave whatever they like, and a failure may end it at any step: what is current behind it is
what was current before it.

Blocks lie in blocks, and a failure may come through several of them at once.  What is said about
a whole tree of steps is therefore more: a setting stays what it is if every step that changes
it is inside of a block of that setting or of a thread, however deep in the tree
(`SessionStep.same_run`).

Apart from what it gives back, a block is the list of its steps, done one by one up to the first
that fails (`SessionRun.DoneAs`).

## Main Definitions

* `Setting` — the configuration or the accumulator that is current
* `SessionStep.keeps` — a step that gives back what it changes
* `SessionRun.DoneAs` — a block that does what its steps do one by one
-/

namespace LoxScan

/-- Something that is current in a thread. -/
inductive Setting where
  | config
  | accumulator
deriving DecidableEq, Repr

/-- **A setting is the same in two sessions.** -/
def Setting.Same : Setting → Session → Session → Prop
  | .config, s, t => t.ambient.config = s.ambient.config
  | .accumulator, s, t => t.ambient.accumulator = s.ambient.accumulator

namespace Setting

theorem Same.trans {setting : Setting} {s t u : Session} (first : setting.Same s t)
    (second : setting.Same t u) : setting.Same s u := by
  cases setting with
  | config => exact Eq.trans second first
  | accumulator => exact Eq.trans second first

/-- Sessions with the same ambient have the same settings. -/
theorem same_of_ambient_eq (setting : Setting) {s t : Session} (same : t.ambient = s.ambient) :
    setting.Same s t := by
  cases setting with
  | config => exact congrArg Ambient.config same
  | accumulator => exact congrArg Ambient.accumulator same

end Setting

/-! ## Steps that give back what they change -/

namespace SessionStep

/-- The setting that a step changes for the steps behind it, if it changes one. -/
def changes? : SessionStep → Option Setting
  | .setConfig _ | .resetConfig | .enterConfig .. | .exitConfig _ => some .config
  | .enterProfile _ | .exitProfile _ => some .accumulator
  | _ => none

mutual

/-- **A step gives back what it changes of a setting**: no step in it changes the setting but
inside of a block of that setting or of a thread. -/
def keeps (setting : Setting) : SessionStep → Bool
  | .withConfig _ body => setting == .config || allKeep setting body
  | .withProfile _ body => setting == .accumulator || allKeep setting body
  | .thread _ => true
  | step => step.changes? != some setting

/-- Every step of a block gives back what it changes of a setting. -/
def allKeep (setting : Setting) : List SessionStep → Bool
  | [] => true
  | step :: rest => keeps setting step && allKeep setting rest

end

/-- A step that holds no others changes at most the setting that it says. -/
theorem same_run_of_changes? {setting : Setting} {step : SessionStep}
    (other : step.changes? ≠ some setting)
    (leaf : (∀ choice body, step ≠ .withConfig choice body) ∧
      ∀ name body, step ≠ .withProfile name body) (s : Session) :
    setting.Same s (step.run s).session := by
  cases step with
  | withConfig choice body => exact absurd rfl (leaf.1 choice body)
  | withProfile name body => exact absurd rfl (leaf.2 name body)
  | setConfig | resetConfig | enterConfig =>
    cases setting with
    | config => exact absurd rfl other
    | accumulator => rfl
  | exitConfig name =>
    cases setting with
    | config => exact absurd rfl other
    | accumulator =>
      rw [run, Session.exitConfig_eq]
      rfl
  | enterProfile =>
    cases setting with
    | config => rfl
    | accumulator => exact absurd rfl other
  | exitProfile name =>
    cases setting with
    | config =>
      rw [run, SessionRun.map, Session.exitProfile_eq]
      rfl
    | accumulator => exact absurd rfl other
  | makeReporter name design =>
    apply setting.same_of_ambient_eq
    rw [run, Session.addReporter_eq]
    rfl
  | clear name =>
    apply setting.same_of_ambient_eq
    rw [run, Session.clear_eq]
    rfl
  | record name =>
    apply setting.same_of_ambient_eq
    rw [run, Session.recordAt_eq]
    rfl
  | scan source name sourceFile =>
    apply setting.same_of_ambient_eq
    show (s.scan source _ sourceFile).session.ambient = s.ambient
    rw [Session.session_scan]
  | report | errors | getConfig | accumulator | metrics | newAccumulator | thread =>
    exact setting.same_of_ambient_eq rfl

mutual

/-- **A setting is behind a step what it was before it**, if the step gives back what it
changes.  The induction is on the tree of steps, and it does not matter whether they fail. -/
theorem same_run (setting : Setting) (step : SessionStep) (kept : step.keeps setting = true)
    (s : Session) : setting.Same s (step.run s).session := by
  match step with
  | .withConfig choice body =>
    cases setting with
    -- a block gives its own setting back, and is as good as its steps for the other one
    | config => rfl
    | accumulator => exact same_runBlock .accumulator body kept (s.setConfig (s.configOf choice))
  | .withProfile name body =>
    cases setting with
    | config => exact same_runBlock .config body kept (s.beginProfile name)
    | accumulator => rfl
  | .makeReporter .. | .report .. | .errors .. | .clear .. | .setConfig .. | .resetConfig
  | .getConfig | .enterConfig .. | .exitConfig .. | .enterProfile .. | .exitProfile ..
  | .accumulator | .metrics .. | .newAccumulator .. | .record .. | .scan .. =>
    exact same_run_of_changes? (bne_iff_ne.mp kept) ⟨nofun, nofun⟩ s
  | .thread body => exact setting.same_of_ambient_eq rfl

/-- A setting is behind the steps of a block what it was before them. -/
theorem same_runBlock (setting : Setting) (body : List SessionStep)
    (kept : allKeep setting body = true) (s : Session) :
    setting.Same s (runBlock body s).session := by
  match body with
  | [] => exact setting.same_of_ambient_eq rfl
  | step :: rest =>
    obtain ⟨here, behind⟩ := Bool.and_eq_true_iff.mp kept
    have first := same_run setting step here s
    rw [runBlock]
    cases (step.run s).answer with
    -- the steps behind a failure are not done
    | error failure => exact first
    | ok answer => exact first.trans (same_runBlock setting rest behind (step.run s).session)

end

end SessionStep

/-! ## Blocks and their steps -/

namespace SessionStep

/-- **The steps of a block that are done**: those up to the first one that fails, and that one. -/
def doneOf : List SessionStep → Session → List SessionStep
  | [], _ => []
  | step :: rest, s =>
    step ::
      match (run step s).answer with
      | .error _ => []
      | .ok _ => doneOf rest (run step s).session

theorem doneOf_of_error {step : SessionStep} {rest : List SessionStep} {s : Session}
    {failure : SessionFailure} (answer : (step.run s).answer = .error failure) :
    doneOf (step :: rest) s = [step] := by
  rw [doneOf, answer]

theorem doneOf_of_ok {step : SessionStep} {rest : List SessionStep} {s : Session}
    {value : SessionAnswer} (answer : (step.run s).answer = .ok value) :
    doneOf (step :: rest) s = step :: doneOf rest (step.run s).session := by
  rw [doneOf, answer]

/-- The steps that are done are the first ones. -/
theorem doneOf_isPrefix (body : List SessionStep) (s : Session) : doneOf body s <+: body := by
  induction body generalizing s with
  | nil => exact List.nil_prefix
  | cons step rest ih =>
    cases answer : (step.run s).answer with
    | error failure =>
      rw [doneOf_of_error answer]
      exact ⟨rest, rfl⟩
    | ok value =>
      rw [doneOf_of_ok answer]
      exact List.cons_prefix_cons.mpr ⟨rfl, ih _⟩

/-- Of the steps that are done at most the last one fails. -/
theorem ok_of_mem_dropLast (body : List SessionStep) (s : Session) :
    ∀ outcome ∈ (runEach (doneOf body s) s).1.dropLast, ∃ answer, outcome.1 = .ok answer := by
  induction body generalizing s with
  | nil => exact nofun
  | cons step rest ih =>
    cases answer : (step.run s).answer with
    | error failure =>
      rw [doneOf_of_error answer]
      exact nofun
    | ok value =>
      rw [doneOf_of_ok answer, runEach]
      intro outcome mem
      cases later : (runEach (doneOf rest (step.run s).session) (step.run s).session).1 with
      | nil =>
        rw [later] at mem
        cases mem
      | cons next more =>
        rw [later, List.dropLast_cons_cons] at mem
        rcases List.mem_cons.mp mem with rfl | behind
        · exact ⟨value, answer⟩
        · rw [← later] at behind
          exact ih _ outcome behind

/-- **The steps of a block do what they do one by one**, as far as they are done. -/
theorem runBlock_eq (body : List SessionStep) (s : Session) :
    runBlock body s =
      { answer := ((runEach (doneOf body s) s).1.map Prod.fst).mapM id
        log := (runEach (doneOf body s) s).1.flatMap Prod.snd
        session := (runEach (doneOf body s) s).2 } := by
  induction body generalizing s with
  | nil => rfl
  | cons step rest ih =>
    cases answer : (step.run s).answer with
    | error failure =>
      rw [doneOf_of_error answer, runBlock, runEach, runEach, answer]
      simp only [List.flatMap_singleton]
      rfl
    | ok value =>
      rw [doneOf_of_ok answer, runBlock, runEach, answer, ih]
      simp only [List.flatMap_cons, List.map_cons, List.mapM_cons, id_eq]
      cases ((runEach (doneOf rest (step.run s).session) (step.run s).session).1.map
        Prod.fst).mapM id <;> rfl

/-- A block of which not every step is done has failed. -/
theorem doneOf_eq_or_failed (body : List SessionStep) (s : Session) :
    doneOf body s = body ∨ ∃ failure, (runBlock body s).answer = .error failure := by
  induction body generalizing s with
  | nil => exact .inl rfl
  | cons step rest ih =>
    cases answer : (step.run s).answer with
    | error failure =>
      right
      refine ⟨failure, ?_⟩
      rw [runBlock, answer]
    | ok value =>
      rw [doneOf_of_ok answer, runBlock, answer]
      rcases ih (step.run s).session with all | ⟨failure, failed⟩
      · exact .inl (congrArg (step :: ·) all)
      · right
        refine ⟨failure, ?_⟩
        simp only [failed]
        rfl

end SessionStep

open SessionStep in
/-- **A block does what its steps do one by one**, up to the first one that fails, and gives
back what it has to. -/
structure SessionRun.DoneAs (block : SessionRun SessionFailure SessionAnswer)
    (body done : List SessionStep) (start : Session) (giveBack : Session → Session) : Prop where
  /-- The steps that are done are the first ones. -/
  begins : done <+: body
  /-- None of them fails but perhaps the last one. -/
  succeed : ∀ outcome ∈ (runEach done start).1.dropLast, ∃ answer, outcome.1 = .ok answer
  /-- They are all steps, or the block fails. -/
  ends : done = body ∨ ∃ failure, block.answer = .error failure
  /-- It answers all that they answer, or fails as the one that fails. -/
  answer_eq : block.answer = (((runEach done start).1.map Prod.fst).mapM id).map .block
  /-- It logs what they log. -/
  log_eq : block.log = (runEach done start).1.flatMap Prod.snd
  /-- It leaves what they leave, apart from what it gives back. -/
  session_eq : block.session = giveBack (runEach done start).2

/-- **A block does what its steps do one by one.** -/
theorem SessionRun.doneAs_block (body : List SessionStep) (start : Session)
    (giveBack : Session → Session) :
    (((SessionStep.runBlock body start).map .block).restore giveBack).DoneAs body
      (SessionStep.doneOf body start) start giveBack where
  begins := SessionStep.doneOf_isPrefix body start
  succeed := SessionStep.ok_of_mem_dropLast body start
  ends := by
    rcases SessionStep.doneOf_eq_or_failed body start with all | ⟨failure, failed⟩
    · exact .inl all
    · right
      refine ⟨failure, ?_⟩
      rw [restore, map, failed]
      rfl
  answer_eq := by
    rw [SessionStep.runBlock_eq]
    rfl
  log_eq := by
    rw [SessionStep.runBlock_eq]
    rfl
  session_eq := by
    rw [SessionStep.runBlock_eq]
    rfl

/-- **Blocks and threads give back what was current before them.**  Behind a block with a
configuration of its own the configuration is the one before it, and behind a block with an
accumulator of its own the accumulator is, whatever the block does and wherever it fails.  The
block itself does what its steps do one by one after the configuration has been set, or after
an empty accumulator has been made under its name and has become the current one, up to the
first step that fails.  Behind a thread both are what they were, and what they were makes no
difference to what the thread does.  And however blocks and threads lie in one another, a
setting that is changed only inside of them is what it was before. -/
theorem blocks_and_threads_giveBack (s : Session) :
    (∀ (choice : ConfigChoice) (body : List SessionStep),
      ((SessionStep.withConfig choice body).run s).session.ambient.config = s.ambient.config ∧
        ∃ done, ((SessionStep.withConfig choice body).run s).DoneAs body done
          { s with ambient := { s.ambient with config := s.configOf choice } }
          fun after =>
            { after with ambient := { after.ambient with config := s.ambient.config } }) ∧
      (∀ (name : String) (body : List SessionStep),
        ((SessionStep.withProfile name body).run s).session.ambient.accumulator =
            s.ambient.accumulator ∧
          ∃ done, ((SessionStep.withProfile name body).run s).DoneAs body done
            { s with
              accumulators := s.accumulators ++
                [{ sourceLength := 0, tokenCount := 0, errorCount := 0, scanCalls := 0 }]
              accumulatorNames := s.accumulatorNames.assign name s.accumulators.length
              ambient := { s.ambient with accumulator := some s.accumulators.length } }
            fun after =>
              { after with
                ambient := { after.ambient with accumulator := s.ambient.accumulator } }) ∧
      (∀ (body : List SessionStep) (other : Ambient),
        ((SessionStep.thread body).run s).session.ambient = s.ambient ∧
          (SessionStep.thread body).run { s with ambient := other } =
            ((SessionStep.thread body).run s).restore fun after =>
              { after with ambient := other }) ∧
      ∀ (setting : Setting) (step : SessionStep), step.keeps setting = true →
        setting.Same s (step.run s).session := by
  refine ⟨?_, ?_, ?_, ?_⟩
  · intro choice body
    refine ⟨SessionStep.same_run .config (.withConfig choice body) rfl s,
      SessionStep.doneOf body (s.setConfig (s.configOf choice)), ?_⟩
    rw [SessionStep.run]
    exact SessionRun.doneAs_block body _ _
  · intro name body
    refine ⟨SessionStep.same_run .accumulator (.withProfile name body) rfl s,
      SessionStep.doneOf body (s.beginProfile name), ?_⟩
    rw [SessionStep.run]
    exact SessionRun.doneAs_block body _ _
  · intro body other
    refine ⟨rfl, ?_⟩
    rw [SessionStep.run, SessionStep.run]
    rfl
  · intro setting step kept
    exact SessionStep.same_run setting step kept s

/-- The failure of a run, if it has failed. -/
def SessionRun.failure? {ε α : Type} (run : SessionRun ε α) : Option ε :=
  match run.answer with
  | .error failure => some failure
  | .ok _ => none

/-- Blocks of both kinds and a thread, with steps that fail.  A scan is refused after the
configuration has been reset and a context has been entered, which is never left.  A measuring
context that was entered in a thread cannot be left outside of it.  A failure may also come
through a block of each kind. -/
theorem blocks_and_threads_giveBack_failing :
    let refusing : List SessionStep :=
      [.resetConfig, .enterConfig "c" ⟨none, true⟩, .scan "@".toList none none, .exitConfig "c"]
    let foreign : List SessionStep :=
      [.thread [.enterProfile "q"], .exitProfile "q", .enterProfile "r"]
    let start : Session := { Session.initial with ambient := ⟨⟨none, true⟩, some 7, 0⟩ }
    let config := (SessionStep.withConfig ⟨none, false⟩ refusing).run start
    let profile := (SessionStep.withProfile "p" foreign).run start
    let thread := (SessionStep.thread (refusing ++ foreign)).run start
    let both := (SessionStep.withProfile "p" [.withConfig ⟨none, true⟩ refusing]).run start
    (config.failure? = some (.refused ⟨[⟨"Unexpected character.", 1, none⟩]⟩) ∧
        config.session.ambient.config = ⟨none, true⟩ ∧
        ∃ done, done ≠ refusing ∧ config.DoneAs refusing done
          { start with ambient := ⟨⟨none, false⟩, some 7, 0⟩ }
          fun after => { after with ambient := { after.ambient with config := ⟨none, true⟩ } }) ∧
      (profile.failure? = some .foreignContext ∧
        profile.session.ambient.accumulator = some 7) ∧
      (thread.session.ambient = ⟨⟨none, true⟩, some 7, 0⟩ ∧
        (SessionStep.thread (refusing ++ foreign)).run Session.initial =
          thread.restore fun after => { after with ambient := Ambient.ofThread 0 }) ∧
      both.failure?.isSome = true ∧ both.session.ambient.config = ⟨none, true⟩ ∧
      both.session.ambient.accumulator = some 7 := by
  intro refusing foreign start config profile thread both
  obtain ⟨inConfig, inProfile, inThread, same⟩ := blocks_and_threads_giveBack start
  obtain ⟨configBack, done, doneAs⟩ := inConfig ⟨none, false⟩ refusing
  obtain ⟨threadBack, independent⟩ := inThread (refusing ++ foreign) (Ambient.ofThread 0)
  refine ⟨⟨by decide +kernel, configBack, done, ?_, doneAs⟩,
    ⟨by decide +kernel, (inProfile "p" foreign).1⟩, ⟨threadBack, independent⟩, by decide +kernel,
    same .config (.withProfile "p" [.withConfig ⟨none, true⟩ refusing]) rfl,
    same .accumulator (.withProfile "p" [.withConfig ⟨none, true⟩ refusing]) rfl⟩
  -- if all steps had been done, the scan would not have been the last one
  rintro rfl
  have failed : ¬ ∀ outcome ∈ (SessionStep.runEach refusing
      { start with ambient := ⟨⟨none, false⟩, some 7, 0⟩ }).1.dropLast,
        outcome.1.isOk = true := by
    decide +kernel
  refine failed fun outcome mem => ?_
  obtain ⟨answer, ok⟩ := doneAs.succeed outcome mem
  rw [ok]
  rfl

end LoxScan
