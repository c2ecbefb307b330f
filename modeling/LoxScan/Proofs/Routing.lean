import LoxScan.Report.Reporter
import Mathlib.Data.List.Induction
import Mathlib.Data.Set.Card

/-!
# Where reports go

A reporter is a tree: its tees are the inner nodes, and its leaves are the collectors and the
logging reporters that an error ends up at.  The same collector may be at the end of many
paths, and then it keeps the error once for each of them.

A path is a list of numbers, each of which names a target of the tee that the ones before it
have led to.  Paths that are compared as lists, number by number, come in the order in which
a tee passes an error on, so the order of what a reporter does is the order of its paths.

## Main Definitions

* `Reporter.follow?` — the reporter at the end of a path
* `Reporter.routes` — the paths to the leaves, depth first
* `Reporter.pathsTo` — the paths to a collector
* `Reporter.WarnsAlong` — the paths to the logging reporters, in order
* `Reporter.Among` — a reporter whose collectors are those of a list
-/

namespace LoxScan

/-! ## Paths -/

namespace Reporter

/-- **The reporter at the end of a path**, each number of which names a target. -/
def follow? : Reporter → List Nat → Option Reporter
  | reporter, [] => some reporter
  | .tee targets, index :: path => targets[index]?.bind fun target => target.follow? path
  | .collector _ _, _ :: _ => none
  | .logging _, _ :: _ => none

/-- What a leaf does with one error. -/
def leafEffect? (line : Int) (message : String) : Reporter → Option Effect
  | .collector slot sourceFile => some (.collect slot ⟨message, line, sourceFile⟩)
  | .logging sourceFile => some (.log (errorLog sourceFile line message))
  | .tee _ => none

mutual

/-- The paths to the leaves of a reporter, depth first. -/
def routes : Reporter → List (List Nat)
  | .collector _ _ => [[]]
  | .logging _ => [[]]
  | .tee targets => routesFrom 0 targets

/-- The paths through some targets of a tee, the first of which has a given number. -/
def routesFrom (index : Nat) : List Reporter → List (List Nat)
  | [] => []
  | target :: rest => target.routes.map (index :: ·) ++ routesFrom (index + 1) rest

end

/-- **The paths to the collector at a slot.** -/
def pathsTo (reporter : Reporter) (slot : Nat) : Set (List Nat) :=
  {path | ∃ sourceFile, reporter.follow? path = some (.collector slot sourceFile)}

/-- **The paths to the logging reporters, in order**, each with the file that the reporter at
its end was made for. -/
structure WarnsAlong (reporter : Reporter) (loggers : List (List Nat × Option String)) :
    Prop where
  depthFirst : loggers.Pairwise fun earlier later => List.Lex (· < ·) earlier.1 later.1
  complete : ∀ path sourceFile,
    (path, sourceFile) ∈ loggers ↔ reporter.follow? path = some (.logging sourceFile)

/-- The collectors of a reporter are among those whose files are given, slot by slot. -/
def Among (files : List (Option String)) (reporter : Reporter) : Prop :=
  ∀ path slot sourceFile, reporter.follow? path = some (.collector slot sourceFile) →
    files[slot]? = some sourceFile

/-! ## Induction over a reporter -/

/-- What holds of a tee whenever it holds of its targets holds of all reporters. -/
@[elab_as_elim]
theorem induction {motive : Reporter → Prop}
    (collector : ∀ slot sourceFile, motive (.collector slot sourceFile))
    (logging : ∀ sourceFile, motive (.logging sourceFile))
    (tee : ∀ targets, (∀ target ∈ targets, motive target) → motive (.tee targets)) :
    ∀ reporter, motive reporter
  | .collector slot sourceFile => collector slot sourceFile
  | .logging sourceFile => logging sourceFile
  | .tee targets => tee targets fun target _ => induction collector logging tee target

@[simp] theorem follow?_nil (reporter : Reporter) : reporter.follow? [] = some reporter := by
  cases reporter <;> rfl

theorem follow?_tee_cons (targets : List Reporter) (index : Nat) (path : List Nat) :
    (tee targets).follow? (index :: path) =
      targets[index]?.bind fun target => target.follow? path := rfl

theorem follow?_tee_eq_some_iff {targets : List Reporter} {path : List Nat} {leaf : Reporter}
    (isLeaf : ∀ targets, leaf ≠ .tee targets) :
    (tee targets).follow? path = some leaf ↔
      ∃ index rest target, path = index :: rest ∧ targets[index]? = some target ∧
        target.follow? rest = some leaf := by
  cases path with
  | nil =>
    rw [follow?_nil]
    constructor
    · intro same
      exact absurd (Option.some.inj same).symm (isLeaf targets)
    · rintro ⟨index, rest, target, impossible, -⟩
      cases impossible
  | cons index rest =>
    rw [follow?_tee_cons, Option.bind_eq_some_iff]
    constructor
    · rintro ⟨target, present, further⟩
      exact ⟨index, rest, target, rfl, present, further⟩
    · rintro ⟨_, _, target, same, present, further⟩
      obtain ⟨rfl, rfl⟩ := List.cons.inj same
      exact ⟨target, present, further⟩

theorem routesFrom_eq (index : Nat) (targets : List Reporter) :
    routesFrom index targets =
      (targets.zipIdx index).flatMap fun entry => entry.1.routes.map (entry.2 :: ·) := by
  induction targets generalizing index with
  | nil => rfl
  | cons target rest ih => rw [routesFrom, ih, List.zipIdx_cons, List.flatMap_cons]

/-- The paths through a tee are those through its targets. -/
theorem routes_tee (targets : List Reporter) :
    (tee targets).routes =
      targets.zipIdx.flatMap fun entry => entry.1.routes.map (entry.2 :: ·) :=
  routesFrom_eq 0 targets

/-! ## The order of paths -/

/-- The targets of a tee are numbered in order. -/
theorem pairwise_zipIdx (targets : List Reporter) (index : Nat) :
    (targets.zipIdx index).Pairwise fun earlier later => earlier.2 < later.2 := by
  induction targets generalizing index with
  | nil => exact .nil
  | cons target rest ih =>
    rw [List.zipIdx_cons, List.pairwise_cons]
    refine ⟨?_, ih (index + 1)⟩
    intro later mem
    exact List.le_snd_of_mem_zipIdx mem

/-- **The paths to the leaves come in the order of a dictionary.** -/
theorem pairwise_routes (reporter : Reporter) :
    reporter.routes.Pairwise (List.Lex (· < ·)) := by
  induction reporter using Reporter.induction with
  | collector | logging => exact List.pairwise_singleton _ _
  | tee targets ih =>
    rw [routes_tee, List.pairwise_flatMap]
    constructor
    · -- two paths through one target
      rintro ⟨target, index⟩ mem
      rw [List.pairwise_map]
      refine (ih target (List.fst_mem_of_mem_zipIdx mem)).imp ?_
      intro earlier later before
      exact .cons before
    · -- two paths through different targets
      refine (pairwise_zipIdx targets 0).imp ?_
      rintro ⟨_, first⟩ ⟨_, second⟩ less _ mem _ mem'
      obtain ⟨earlier, -, rfl⟩ := List.mem_map.mp mem
      obtain ⟨later, -, rfl⟩ := List.mem_map.mp mem'
      exact .rel less

/-- No path comes twice. -/
theorem nodup_routes (reporter : Reporter) : reporter.routes.Nodup := by
  refine reporter.pairwise_routes.imp ?_
  rintro path _ before rfl
  exact List.lex_irrefl Nat.lt_irrefl path before

/-- **The paths to the leaves are all of them.** -/
theorem mem_routes {reporter : Reporter} {path : List Nat} :
    path ∈ reporter.routes ↔
      ∃ leaf, reporter.follow? path = some leaf ∧ ∀ targets, leaf ≠ .tee targets := by
  induction reporter using Reporter.induction generalizing path with
  | collector slot sourceFile =>
    cases path with
    | nil => simp [routes]
    | cons index rest => simp [routes, follow?]
  | logging sourceFile =>
    cases path with
    | nil => simp [routes]
    | cons index rest => simp [routes, follow?]
  | tee targets ih =>
    simp only [routes_tee, List.mem_flatMap, List.mem_map, Prod.exists]
    constructor
    · rintro ⟨target, index, mem, rest, through, rfl⟩
      have present := List.mem_zipIdx_iff_getElem?.mp mem
      obtain ⟨leaf, further, isLeaf⟩ := (ih target (List.mem_of_getElem? present)).mp through
      refine ⟨leaf, ?_, isLeaf⟩
      exact (follow?_tee_eq_some_iff isLeaf).mpr ⟨index, rest, target, rfl, present, further⟩
    · rintro ⟨leaf, reached, isLeaf⟩
      obtain ⟨index, rest, target, rfl, present, further⟩ :=
        (follow?_tee_eq_some_iff isLeaf).mp reached
      have through := (ih target (List.mem_of_getElem? present)).mpr ⟨leaf, further, isLeaf⟩
      exact ⟨target, index, List.mem_zipIdx_iff_getElem?.mpr present, rest, through, rfl⟩

/-! ## Effects along paths -/

/-- What the leaf at the end of a path does with one error. -/
def effectAlong? (reporter : Reporter) (line : Int) (message : String) (path : List Nat) :
    Option Effect :=
  (reporter.follow? path).bind fun leaf => leaf.leafEffect? line message

/-- **What a reporter does is what the leaves at the ends of its paths do**, path by path. -/
theorem effects_eq_routes (reporter : Reporter) (line : Int) (message : String) :
    reporter.effects line message =
      reporter.routes.filterMap (reporter.effectAlong? line message) := by
  induction reporter using Reporter.induction with
  | collector | logging => rfl
  | tee targets ih =>
    have through : ∀ entry ∈ targets.zipIdx,
        (entry.1.routes.map (entry.2 :: ·)).filterMap ((tee targets).effectAlong? line message) =
          entry.1.effects line message := by
      rintro ⟨target, index⟩ mem
      have present := List.mem_zipIdx_iff_getElem?.mp mem
      rw [ih target (List.mem_of_getElem? present), List.filterMap_map]
      refine List.filterMap_congr ?_
      intro path _
      simp only [Function.comp_apply, effectAlong?, follow?_tee_cons, present, Option.bind_some]
    rw [effects_tee, routes_tee, List.filterMap_flatMap, List.flatMap_congr through]
    conv_lhs => rw [← List.zipIdx_map_fst 0 targets, List.flatMap_map]

end Reporter

/-! ## What a collector is given -/

/-- The record that an effect adds to the collector at a slot. -/
def Effect.recordAt? (slot : Nat) : Effect → Option ErrorRecord
  | .collect place record => if place = slot then some record else none
  | .log _ => none

/-- The records that some effects add to the collector at a slot. -/
def recordsAt (slot : Nat) (effects : List Effect) : List ErrorRecord :=
  effects.filterMap (Effect.recordAt? slot)

/-- A list of which only equal values are kept. -/
theorem filterMap_eq_replicate {α β : Type} {l : List α} {f : α → Option β} {b : β}
    (only : ∀ a ∈ l, ∀ c, f a = some c → c = b) :
    l.filterMap f = List.replicate (l.countP fun a => (f a).isSome) b := by
  rw [List.eq_replicate_iff]
  constructor
  · exact List.length_filterMap_eq_countP
  · intro c mem
    obtain ⟨a, member, kept⟩ := List.mem_filterMap.mp mem
    exact only a member c kept

namespace Reporter

variable {reporter : Reporter} {files : List (Option String)} {slot : Nat}

/-- The record that an error adds to a collector by a given path. -/
def recordAlong? (reporter : Reporter) (slot : Nat) (line : Int) (message : String)
    (path : List Nat) : Option ErrorRecord :=
  (reporter.effectAlong? line message path).bind (Effect.recordAt? slot)

/-- An error comes to the collector at a slot by the paths to it. -/
theorem recordAlong?_eq_some_iff {line : Int} {message : String} {path : List Nat}
    {record : ErrorRecord} :
    reporter.recordAlong? slot line message path = some record ↔
      ∃ sourceFile, reporter.follow? path = some (.collector slot sourceFile) ∧
        record = ⟨message, line, sourceFile⟩ := by
  rw [recordAlong?, effectAlong?]
  cases reporter.follow? path with
  | none => simp
  | some leaf =>
    cases leaf with
    | collector other sourceFile =>
      by_cases same : other = slot
      · simp [leafEffect?, Effect.recordAt?, same, eq_comm]
      · simp [leafEffect?, Effect.recordAt?, same]
    | logging | tee => simp [leafEffect?, Effect.recordAt?]

/-- The paths to a collector are among those to the leaves. -/
theorem pathsTo_eq (reporter : Reporter) (slot : Nat) (line : Int) (message : String) :
    reporter.pathsTo slot =
      {path | path ∈ reporter.routes.filter fun path =>
        (reporter.recordAlong? slot line message path).isSome} := by
  ext path
  simp only [pathsTo, Set.mem_ofPred_eq, List.mem_filter, Option.isSome_iff_exists,
    recordAlong?_eq_some_iff]
  constructor
  · rintro ⟨sourceFile, reached⟩
    exact ⟨mem_routes.mpr ⟨_, reached, nofun⟩, _, sourceFile, reached, rfl⟩
  · rintro ⟨-, _, sourceFile, reached, -⟩
    exact ⟨sourceFile, reached⟩

/-- The number of paths to a collector. -/
theorem ncard_pathsTo (reporter : Reporter) (slot : Nat) (line : Int) (message : String) :
    (reporter.pathsTo slot).ncard =
      reporter.routes.countP fun path =>
        (reporter.recordAlong? slot line message path).isSome := by
  rw [reporter.pathsTo_eq slot line message, List.countP_eq_length_filter]
  have distinct := reporter.nodup_routes.filter fun path =>
    (reporter.recordAlong? slot line message path).isSome
  rw [← List.toFinset_card_of_nodup distinct, ← Set.ncard_coe_finset]
  congr 1
  ext path
  simp

/-- **One error comes to a collector once for each path**, on the line and with the message
that were reported, and with the file of the collector. -/
theorem recordsAt_effects (among : reporter.Among files) (line : Int) (message : String) :
    recordsAt slot (reporter.effects line message) =
      List.replicate (reporter.pathsTo slot).ncard ⟨message, line, files[slot]?.join⟩ := by
  have only : ∀ path ∈ reporter.routes, ∀ record,
      reporter.recordAlong? slot line message path = some record →
        record = ⟨message, line, files[slot]?.join⟩ := by
    intro path _ record found
    obtain ⟨sourceFile, reached, rfl⟩ := recordAlong?_eq_some_iff.mp found
    rw [among path slot sourceFile reached]
    rfl
  rw [recordsAt, effects_eq_routes, List.filterMap_filterMap, ncard_pathsTo _ _ line message]
  exact filterMap_eq_replicate only

/-- No error comes to a collector to which there is no path. -/
theorem recordsAt_effects_of_unreachable (unreachable : reporter.pathsTo slot = ∅) (line : Int)
    (message : String) : recordsAt slot (reporter.effects line message) = [] := by
  rw [recordsAt, effects_eq_routes, List.filterMap_filterMap, List.filterMap_eq_nil_iff]
  intro path _
  rw [Option.eq_none_iff_forall_ne_some]
  intro record found
  obtain ⟨sourceFile, reached, -⟩ := recordAlong?_eq_some_iff.mp found
  have member : path ∈ reporter.pathsTo slot := ⟨sourceFile, reached⟩
  rw [unreachable] at member
  exact member

end Reporter

/-! ## What collectors hold -/

namespace Collections

variable (held : Collections)

@[simp] theorem length_applyAll (effects : List Effect) :
    (held.applyAll effects).length = held.length := by
  rw [applyAll]
  induction effects generalizing held with
  | nil => rfl
  | cons effect rest ih =>
    rw [List.foldl_cons, ih]
    cases effect with
    | collect => exact List.length_modify ..
    | log => rfl

/-- There is no collector behind the last slot. -/
theorem errorsAt_of_length_le {slot : Nat} (outside : held.length ≤ slot) :
    held.errorsAt slot = [] := by
  rw [errorsAt, List.getElem?_eq_none outside, Option.getD_none]

/-- One effect adds its record to the collector that it is for, and to no other one. -/
theorem errorsAt_apply {slot : Nat} (inside : slot < held.length) (effect : Effect) :
    (held.apply effect).errorsAt slot =
      held.errorsAt slot ++ (effect.recordAt? slot).toList := by
  cases effect with
  | log => simp [apply, Effect.recordAt?]
  | collect place record =>
    by_cases same : place = slot
    · simp [apply, errorsAt, Effect.recordAt?, same, inside]
    · simp [apply, errorsAt, Effect.recordAt?, same]

/-- **A collector holds what it held before and what was added to it**, in order. -/
theorem errorsAt_applyAll {slot : Nat} (inside : slot < held.length) (effects : List Effect) :
    (held.applyAll effects).errorsAt slot = held.errorsAt slot ++ recordsAt slot effects := by
  induction effects generalizing held with
  | nil => exact (List.append_nil _).symm
  | cons effect rest ih =>
    have same : (held.apply effect).length = held.length := held.length_applyAll [effect]
    have further := ih (held.apply effect) (by rwa [same])
    rw [held.errorsAt_apply inside, List.append_assoc] at further
    refine further.trans ?_
    rw [recordsAt, recordsAt, List.filterMap_cons]
    cases effect.recordAt? slot <;> rfl

/-- Nothing is added to a collector that no record is for. -/
theorem errorsAt_applyAll_of_nil {slot : Nat} {effects : List Effect}
    (nothing : recordsAt slot effects = []) :
    (held.applyAll effects).errorsAt slot = held.errorsAt slot := by
  by_cases inside : slot < held.length
  · rw [held.errorsAt_applyAll inside, nothing, List.append_nil]
  · have outside := Nat.le_of_not_lt inside
    rw [held.errorsAt_of_length_le outside]
    exact errorsAt_of_length_le _ (by rwa [length_applyAll])

/-- More collectors change nothing about those that there are. -/
theorem errorsAt_append_of_lt {slot : Nat} (inside : slot < held.length) (more : Collections) :
    errorsAt (held ++ more) slot = held.errorsAt slot := by
  rw [errorsAt, errorsAt, List.getElem?_append_left inside]

/-- What the last collector holds. -/
@[simp] theorem errorsAt_concat (last : List ErrorRecord) :
    errorsAt (held ++ [last]) held.length = last := by
  rw [errorsAt, List.getElem?_concat_length, Option.getD_some]

variable {held}

/-- Collectors that hold the same errors, slot by slot. -/
theorem ext_errorsAt {other : Collections} (length : held.length = other.length)
    (errors : ∀ slot < held.length, held.errorsAt slot = other.errorsAt slot) : held = other := by
  refine List.ext_getElem length ?_
  intro slot inside inside'
  have same := errors slot inside
  rwa [errorsAt, errorsAt, List.getElem?_eq_getElem inside,
    List.getElem?_eq_getElem inside'] at same

end Collections

/-! ## What is logged -/

namespace Reporter

/-- A logging reporter at the end of a path, with the path and the file of the reporter. -/
def loggerAlong? (reporter : Reporter) (path : List Nat) : Option (List Nat × Option String) :=
  match reporter.follow? path with
  | some (.logging sourceFile) => some (path, sourceFile)
  | _ => none

/-- The logging reporters at the ends of the paths. -/
def loggers (reporter : Reporter) : List (List Nat × Option String) :=
  reporter.routes.filterMap reporter.loggerAlong?

theorem loggerAlong?_eq_some_iff {reporter : Reporter} {path : List Nat}
    {logger : List Nat × Option String} :
    reporter.loggerAlong? path = some logger ↔
      logger.1 = path ∧ reporter.follow? path = some (.logging logger.2) := by
  obtain ⟨stop, sourceFile⟩ := logger
  rw [loggerAlong?]
  split
  · next file reached =>
    simp [reached, eq_comm]
  · next other =>
    simp only [false_iff, not_and, reduceCtorEq]
    intro _ reached
    exact other sourceFile reached

/-- The paths to the logging reporters come in order, and they are all of them. -/
theorem warnsAlong_loggers (reporter : Reporter) : reporter.WarnsAlong reporter.loggers where
  depthFirst := by
    rw [loggers, List.pairwise_filterMap]
    refine reporter.pairwise_routes.imp ?_
    intro earlier later before first found second found'
    rw [(loggerAlong?_eq_some_iff.mp found).1, (loggerAlong?_eq_some_iff.mp found').1]
    exact before
  complete := by
    intro path sourceFile
    rw [loggers, List.mem_filterMap]
    constructor
    · rintro ⟨_, -, found⟩
      obtain ⟨rfl, reached⟩ := loggerAlong?_eq_some_iff.mp found
      exact reached
    · intro reached
      exact ⟨path, mem_routes.mpr ⟨_, reached, nofun⟩, loggerAlong?_eq_some_iff.mpr ⟨rfl, reached⟩⟩

/-- **Each logging reporter warns once for each path to it**, in the order of the paths. -/
theorem logRecords_effects (reporter : Reporter) (line : Int) (message : String) :
    logRecords (reporter.effects line message) =
      reporter.loggers.map fun logger => errorLog logger.2 line message := by
  rw [logRecords, effects_eq_routes, List.filterMap_filterMap, loggers, List.map_filterMap]
  refine List.filterMap_congr ?_
  intro path _
  rw [effectAlong?, loggerAlong?]
  cases reporter.follow? path with
  | none => rfl
  | some leaf => cases leaf <;> rfl

end Reporter

/-! ## Flat tees -/

namespace Reporter

/-- **A tee of tees does what the flat tee of their targets does**, in the same order. -/
theorem effects_tee_tees (groups : List (List Reporter)) (line : Int) (message : String) :
    (tee (groups.map tee)).effects line message = (tee groups.flatten).effects line message := by
  rw [effects_tee, effects_tee, List.flatMap_map, List.flatten_eq_flatMap, List.flatMap_assoc]
  refine List.flatMap_congr ?_
  intro targets _
  exact effects_tee line message targets

end Reporter

end LoxScan
