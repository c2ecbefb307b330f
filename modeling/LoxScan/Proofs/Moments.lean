import LoxScan.Session.Step

/-!
# Moments of a session

Steps of a session may hold other steps, in blocks and in threads, and a failure in a block
keeps the rest of the block from being done.  What has been done is a list all the same: the
steps that have begun, one after the other, each with the session as it was then.  This module
makes that list, and gives one induction for whatever is the case at every moment of it.

Such an induction need not go through the tree of steps.  Its cases are that one more step
begins, and that a block or a thread ends and gives back what was current when it began
(`Session.Timeline`).

## Main Definitions

* `Moment` — a step that is about to be done, and the session then
* `SessionStep.moments`, `SessionStep.eachMoments` — the moments of a step and of several steps
* `Session.During` — a session at some time while steps are done
* `Session.Timeline` — what can be the case at such a time
-/

namespace LoxScan

/-- A step that is about to be done, and the session then. -/
structure Moment where
  step : SessionStep
  session : Session

namespace SessionStep

mutual

/-- **The moments of a step**: its own, and those of the steps inside of it that are done. -/
def moments : SessionStep → Session → List Moment
  | .withConfig choice body, s =>
    ⟨.withConfig choice body, s⟩ :: blockMoments body (s.setConfig (s.configOf choice))
  | .withProfile name body, s =>
    ⟨.withProfile name body, s⟩ :: blockMoments body (s.beginProfile name)
  | .thread body, s =>
    ⟨.thread body, s⟩ :: eachMoments body s.beginThread
  | step, s => [⟨step, s⟩]

/-- The moments of the steps of a block, up to the first failure. -/
def blockMoments : List SessionStep → Session → List Moment
  | [], _ => []
  | step :: rest, s =>
    moments step s ++
      match (run step s).answer with
      | .error _ => []
      | .ok _ => blockMoments rest (run step s).session

/-- The moments of independent steps. -/
def eachMoments : List SessionStep → Session → List Moment
  | [], _ => []
  | step :: rest, s => moments step s ++ eachMoments rest (run step s).session

end

/-- The session as it is when a step has begun: a block or a thread has set what is current in
it, and any other step is done. -/
def opening : SessionStep → Session → Session
  | .withConfig choice _, s => s.setConfig (s.configOf choice)
  | .withProfile name _, s => s.beginProfile name
  | .thread _, s => s.beginThread
  | step, s => (step.run s).session

end SessionStep

namespace Session

/-- **A session at some time while steps are done**, where the given moments have passed:
either one more step is about to begin, or all steps are done. -/
def During (now : Session) (steps : List SessionStep) (past : List Moment) : Prop :=
  (∃ (step : SessionStep) (later : List Moment),
      SessionStep.eachMoments steps Session.initial = past ++ ⟨step, now⟩ :: later) ∨
    (past = SessionStep.eachMoments steps Session.initial ∧
      now = (SessionStep.runEach steps Session.initial).2)

/-- **What can be the case during a session**, where the given moments have passed. -/
inductive Timeline : List Moment → Session → Prop where
  /-- Nothing has happened. -/
  | initial : Timeline [] Session.initial
  /-- One more step has begun. -/
  | step {past : List Moment} {s : Session} (step : SessionStep) :
    Timeline past s → Timeline (past ++ [⟨step, s⟩]) (step.opening s)
  /-- The configuration is again what it was before. -/
  | restoreConfig {past later : List Moment} {s t : Session} :
    Timeline past s → Timeline (past ++ later) t →
      Timeline (past ++ later) (t.setConfig s.ambient.config)
  /-- The accumulator is again what it was before. -/
  | restoreAccumulator {past later : List Moment} {s t : Session} :
    Timeline past s → Timeline (past ++ later) t →
      Timeline (past ++ later) (t.setAccumulator s.ambient.accumulator)
  /-- All that is current is again what it was before, and so is the thread that runs. -/
  | restoreAmbient {past later : List Moment} {s t : Session} :
    Timeline past s → Timeline (past ++ later) t →
      Timeline (past ++ later) { t with ambient := s.ambient }

/-- **A session goes through some moments** and is as given when they have passed. -/
structure GoesThrough (past moments : List Moment) (t : Session) : Prop where
  at_moment : ∀ before moment after, moments = before ++ moment :: after →
    Timeline (past ++ before) moment.session
  at_end : Timeline (past ++ moments) t

namespace GoesThrough

variable {past moments later : List Moment} {s t : Session}

/-- Going through no moments. -/
theorem nil (now : Timeline past t) : GoesThrough past [] t where
  at_moment := by
    intro before moment after split
    simp at split
  at_end := by rwa [List.append_nil]

/-- Going through one moment and then some more. -/
theorem cons {step : SessionStep} (now : Timeline past s)
    (further : GoesThrough (past ++ [⟨step, s⟩]) moments t) :
    GoesThrough past (⟨step, s⟩ :: moments) t where
  at_moment := by
    intro before moment after split
    cases before with
    | nil =>
      obtain ⟨rfl, -⟩ := List.cons.inj split
      rwa [List.append_nil]
    | cons first rest =>
      obtain ⟨rfl, tail⟩ := List.cons.inj split
      have reached := further.at_moment rest moment after tail
      rwa [List.append_assoc] at reached
  at_end := by
    have reached := further.at_end
    rwa [List.append_assoc] at reached

/-- Going through some moments and then some more. -/
theorem append (first : GoesThrough past moments s)
    (second : GoesThrough (past ++ moments) later t) :
    GoesThrough past (moments ++ later) t where
  at_moment := by
    intro before moment after split
    rcases List.append_eq_append_iff.mp split with ⟨rest, rfl, split'⟩ | ⟨rest, split', last⟩
    · have reached := second.at_moment rest moment after split'
      rwa [List.append_assoc] at reached
    · cases rest with
      | nil =>
        rw [List.append_nil] at split'
        have reached := second.at_moment [] moment after last.symm
        rwa [List.append_nil, split'] at reached
      | cons head tail =>
        obtain ⟨rfl, -⟩ := List.cons.inj last
        exact first.at_moment before moment tail split'
  at_end := by
    have reached := second.at_end
    rwa [List.append_assoc] at reached

/-- A block with a configuration of its own ends. -/
theorem restoreConfig (before : Timeline past s) (through : GoesThrough past moments t) :
    GoesThrough past moments (t.setConfig s.ambient.config) :=
  { through with at_end := .restoreConfig before through.at_end }

/-- A block with an accumulator of its own ends. -/
theorem restoreAccumulator (before : Timeline past s) (through : GoesThrough past moments t) :
    GoesThrough past moments (t.setAccumulator s.ambient.accumulator) :=
  { through with at_end := .restoreAccumulator before through.at_end }

/-- A thread ends. -/
theorem restoreAmbient (before : Timeline past s) (through : GoesThrough past moments t) :
    GoesThrough past moments { t with ambient := s.ambient } :=
  { through with at_end := .restoreAmbient before through.at_end }

end GoesThrough

end Session

/-! ## Sessions go through their moments -/

namespace SessionStep

open Session (Timeline GoesThrough)

/-- A step that holds no others goes through its own moment. -/
theorem goesThrough_leaf {past : List Moment} {s : Session} {step : SessionStep}
    (now : Timeline past s) (moments_eq : step.moments s = [⟨step, s⟩])
    (opening_eq : step.opening s = (step.run s).session) :
    GoesThrough past (step.moments s) (step.run s).session := by
  rw [moments_eq, ← opening_eq]
  exact .cons now (.nil (now.step step))

mutual

/-- **A step goes through its moments.** -/
theorem goesThrough_run {past : List Moment} {s : Session} (step : SessionStep)
    (now : Timeline past s) : GoesThrough past (step.moments s) (step.run s).session := by
  match step with
  | .withConfig choice body =>
    have inside := goesThrough_runBlock body (now.step (.withConfig choice body))
    rw [moments, run]
    exact (GoesThrough.cons now inside).restoreConfig now
  | .withProfile name body =>
    have inside := goesThrough_runBlock body (now.step (.withProfile name body))
    rw [moments, run]
    exact (GoesThrough.cons now inside).restoreAccumulator now
  | .thread body =>
    have inside := goesThrough_runEach body (now.step (.thread body))
    rw [moments, run]
    exact (GoesThrough.cons now inside).restoreAmbient now
  | .makeReporter .. | .report .. | .errors .. | .clear .. | .setConfig .. | .resetConfig
  | .getConfig | .enterConfig .. | .exitConfig .. | .enterProfile .. | .exitProfile ..
  | .accumulator | .metrics .. | .newAccumulator .. | .record .. | .scan .. =>
    exact goesThrough_leaf now rfl rfl

/-- **A block goes through its moments**, up to the first failure. -/
theorem goesThrough_runBlock {past : List Moment} {s : Session} (body : List SessionStep)
    (now : Timeline past s) :
    GoesThrough past (blockMoments body s) (runBlock body s).session := by
  match body with
  | [] => exact .nil now
  | step :: rest =>
    have first := goesThrough_run step now
    rw [blockMoments, runBlock]
    cases answer : (step.run s).answer with
    | error failure =>
      simp only [List.append_nil]
      exact first
    | ok value => exact first.append (goesThrough_runBlock rest first.at_end)

/-- **Independent steps go through their moments.** -/
theorem goesThrough_runEach {past : List Moment} {s : Session} (steps : List SessionStep)
    (now : Timeline past s) :
    GoesThrough past (eachMoments steps s) (runEach steps s).2 := by
  match steps with
  | [] => exact .nil now
  | step :: rest =>
    have first := goesThrough_run step now
    rw [eachMoments, runEach]
    exact first.append (goesThrough_runEach rest first.at_end)

end

end SessionStep

/-- **Whatever holds of all that can be the case holds at every time while steps are done.** -/
theorem Session.During.timeline {now : Session} {steps : List SessionStep} {past : List Moment}
    (during : now.During steps past) : Timeline past now := by
  have through := SessionStep.goesThrough_runEach steps Timeline.initial
  rcases during with ⟨step, later, split⟩ | ⟨rfl, rfl⟩
  · exact through.at_moment past ⟨step, now⟩ later split
  · exact through.at_end

end LoxScan
