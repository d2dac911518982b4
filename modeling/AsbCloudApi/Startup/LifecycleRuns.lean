import AsbCloudApi.Base.Advance
import AsbCloudApi.Startup.Lifecycle

/-!
# From startup to shutdown

Library `Startup`. The startup of a new process and a shutdown after it, whatever raises. The steps
of the startup are in a fixed order, cut at the first that raises; what is left after the shutdown
belongs to the component of that step, which no global names, or comes after a stop that has
raised. Starlette itself runs no shutdown after a startup that has raised.
-/

namespace AsbCloudApi.Startup

open Base Api Providers Workers

/-- What the environment answers. No assignment raises. -/
def answered (answer : LifeOp → Except PyError Unit) : LifeOp → Except PyError Unit
  | .assign _ => .ok ()
  | o => answer o

/-- The process after an operation. What raises has not started; what is asked to stop is done with,
whether that raises or not. -/
def Process.after (p : Process) : LifeOp → Except PyError Unit → Process
  | .start x, .ok _ => { p with started := p.started ++ [x] }
  | .stop x, _ => { p with started := p.started.filter (· ≠ x) }
  | .assign c, _ => { p with globals := p.globals ++ [c] }
  | _, _ => p

/-- The process serves an operation. -/
def serve (answer : LifeOp → Except PyError Unit) (o : LifeOp) (p : Process) :
    Except PyError Unit × Process :=
  (answered answer o, p.after o (answered answer o))

/-- How the startup of a new process ends, and the process then. -/
def started (st : Settings) (answer : LifeOp → Except PyError Unit) :
    Except PyError WorkerBreakers × Process :=
  Prog.run (serve answer) (startup st) ⟨[], []⟩

/-- How a shutdown after it ends, and the process then. -/
def ended (st : Settings) (answer : LifeOp → Except PyError Unit) : Except PyError Unit × Process :=
  Prog.run (serve answer) ((started st answer).2.shutdown st) (started st answer).2

/-- The refresh tasks of the providers that have one. -/
def refreshTasks (r : ProviderRegistry) : List Resource :=
  r.items.flatMap fun q ↦ if q.2.hasStart then [.refreshTask q.1] else []

/-- Everything that is started, in order. -/
def resources (st : Settings) : List Resource :=
  (if st.dsn = "" then [] else [.connections]) ++ (refreshTasks st.registry ++
    (.checkTask :: st.pool.refs.flatMap fun w ↦ [.playwright w, .browser w]))

/-- What a component stops of a process, in order. -/
def Process.closings (p : Process) (st : Settings) : Component → List Resource
  | .database => [.connections].filter (· ∈ p.started)
  | .providers => (refreshTasks st.registry).filter (· ∈ p.started)
  | .healthChecker => [.checkTask].filter (· ∈ p.started)
  | .workerPool => (st.pool.closings p.runner).map .ofClose

/-! ### The steps of the startup -/

/-- A step of the startup: an operation, or the choice of the breakers. -/
inductive StartStep where
  | op (o : LifeOp)
  | selectBreakers

namespace StartStep

/-- The component that a step belongs to. -/
def component : StartStep → Option Component
  | .op (.start x) => some x.component
  | .op (.fetchPool _) => some .providers
  | .op (.assign c) => some c
  | _ => none

/-- What a step starts. -/
def starts : StartStep → Option Resource
  | .op (.start x) => some x
  | _ => none

/-- The global that a step assigns. -/
def assigns : StartStep → Option Component
  | .op (.assign c) => some c
  | _ => none

end StartStep

/-- The steps of the database, if there is one. -/
def connectSteps (st : Settings) : List StartStep :=
  if st.dsn = "" then []
  else [.op (.assign .database), .op (.start .connections), .op .runMigrations]

/-- Those of the providers, before their global is assigned. -/
def providerSteps (r : ProviderRegistry) : List StartStep :=
  r.items.flatMap fun q ↦
    if q.2.hasStart then [.op (.fetchPool q.1), .op (.start (.refreshTask q.1))] else []

/-- Those of the workers, before theirs is. -/
def workerSteps (p : RegionWorkerPool) : List StartStep :=
  p.refs.flatMap fun w ↦ [.op (.start (.playwright w)), .op (.start (.browser w))]

/-- Those after everything has started. -/
def wireSteps : List StartStep :=
  [.op (.construct .security), .op (.construct .keyStore), .op .createDefaultKey,
    .op (.construct .stores)]

/-- The steps of the startup, in order. -/
def startSteps (st : Settings) : List StartStep :=
  .op .loadConfig :: (connectSteps st ++ .op (.construct .providers) ::
  (providerSteps st.registry ++ .op (.assign .providers) :: .selectBreakers ::
  .op (.start .checkTask) :: .op (.assign .healthChecker) ::
  .op (.construct .fingerprints) :: .op (.construct .workers) ::
  (workerSteps st.pool ++ .op (.assign .workerPool) :: wireSteps)))

/-- Whether the startup goes on after a step. With a database, the default key may fail. -/
def passes (st : Settings) (answer : LifeOp → Except PyError Unit) : StartStep → Bool
  | .selectBreakers => (selectBreakers st.registry st.primary st.fallback).isOk
  | .op .createDefaultKey => st.dsn ≠ "" || (answer .createDefaultKey).isOk
  | .op o => (answered answer o).isOk

/-- The steps before the first that raises. -/
def taken (st : Settings) (answer : LifeOp → Except PyError Unit) : List StartStep :=
  (startSteps st).takeWhile (passes st answer)

/-- The step that raises, if any. -/
def raised? (st : Settings) (answer : LifeOp → Except PyError Unit) : Option StartStep :=
  (startSteps st).find? (!passes st answer ·)

/-- The process after a step that does not raise. -/
def Process.note (p : Process) (s : StartStep) : Process :=
  ⟨p.started ++ s.starts.toList, p.globals ++ s.assigns.toList⟩

section Startup

variable (st : Settings) {answer : LifeOp → Except PyError Unit}

private abbrev Takes {α : Type} (answer : LifeOp → Except PyError Unit) (p : LifeProg α)
    (ss : List StartStep) : Prop :=
  Prog.Advances (serve answer) (passes st answer) Process.note p ss

/-- An operation that is a step: neither a stop nor the creation of the default key. -/
private def LifeOp.step : LifeOp → Bool
  | .stop _ => false
  | .createDefaultKey => false
  | _ => true

private theorem takes_op {o : LifeOp} (ho : o.step = true) :
    Takes st answer (.perform o) [.op o] := by
  have hpasses : passes st answer (.op o) = (answered answer o).isOk := by
    cases o with
    | createDefaultKey => cases ho
    | _ => rfl
  apply Prog.advances_one
  · intro p
    rw [hpasses]
    rfl
  · intro p
    rw [hpasses]
    change p.after o (answered answer o) = _
    cases o with
    | stop x => cases ho
    | start x =>
      change p.after (.start x) (answer (.start x)) = if (answer (.start x)).isOk then _ else p
      cases answer (.start x) with
      | ok _ => simp [Process.after, Process.note, StartStep.starts, StartStep.assigns,
          Except.isOk, Except.toBool]
      | error e => rfl
    | assign c => simp [answered, Process.after, Process.note, StartStep.starts,
        StartStep.assigns, Except.isOk, Except.toBool]
    | _ =>
      have hnote : ∀ (b : Bool) (q : Process), q = p → p = if b then q else p := by
        rintro b q rfl
        exact (ite_self _).symm
      exact hnote _ _ (by simp [Process.note, StartStep.starts, StartStep.assigns])

private theorem takes_op_bind {α : Type} {o : LifeOp} {f : Unit → LifeProg α} {ss : List StartStep}
    (ho : o.step = true) (hf : ∀ a, Takes st answer (f a) ss) :
    Takes st answer (.perform o >>= f) (.op o :: ss) := (takes_op st ho).bind hf

private theorem takes_connectDatabase :
    Takes st answer (connectDatabase st) (connectSteps st) := by
  unfold connectDatabase connectSteps
  split
  · exact Prog.advances_pure _
  · refine takes_op_bind st rfl fun _ ↦ ?_
    refine takes_op_bind st rfl fun _ ↦ ?_
    exact takes_op st rfl

private theorem takes_startProviders (r : ProviderRegistry) :
    Takes st answer (startProviders r) (providerSteps r) := by
  apply Prog.Advances.forEach
  intro q _
  split
  · refine takes_op_bind st rfl fun _ ↦ ?_
    exact takes_op st rfl
  · exact Prog.advances_pure _

private theorem takes_selectBreakers :
    Takes st answer (.done (selectBreakers st.registry st.primary st.fallback))
      [.selectBreakers] := by
  apply Prog.advances_one
  · intro p
    rfl
  · intro p
    have hnote : p.note .selectBreakers = p := by
      simp [Process.note, StartStep.starts, StartStep.assigns]
    rw [hnote, ite_self]
    rfl

private theorem takes_startWorkers (p : RegionWorkerPool) :
    Takes st answer (startWorkers p) (workerSteps p) := by
  unfold startWorkers workerSteps RegionWorkerPool.refs
  rw [List.flatMap_assoc]
  apply Prog.Advances.forEach
  intro q _
  rw [List.flatMap_map]
  apply Prog.Advances.forEach
  intro i _
  refine takes_op_bind st rfl fun _ ↦ ?_
  exact takes_op st rfl

private theorem takes_defaultKey : Takes st answer (defaultKey st) [.op .createDefaultKey] := by
  have hnote (p : Process) : p.note (.op .createDefaultKey) = p := by
    simp [Process.note, StartStep.starts, StartStep.assigns]
  apply Prog.advances_one
  · intro p
    unfold defaultKey
    split
    · next hdsn => simp [passes, hdsn, Prog.run_perform, serve, answered]
    · next hdsn => simp [passes, hdsn, Prog.run_bind, Prog.run_attempt, Except.isOk, Except.toBool]
  · intro p
    rw [hnote, ite_self]
    unfold defaultKey
    split
    · rfl
    · rfl

private theorem takes_wireStores : Takes st answer (wireStores st) wireSteps := by
  refine takes_op_bind st rfl fun _ ↦ ?_
  refine takes_op_bind st rfl fun _ ↦ ?_
  apply (takes_defaultKey st).bind
  intro _
  exact takes_op st rfl

private theorem takes_startup : Takes st answer (startup st) (startSteps st) := by
  refine takes_op_bind st rfl fun _ ↦ ?_
  apply (takes_connectDatabase st).bind
  intro _
  refine takes_op_bind st rfl fun _ ↦ ?_
  apply (takes_startProviders st _).bind
  intro _
  refine takes_op_bind st rfl fun _ ↦ ?_
  apply (takes_selectBreakers st).bind
  intro _
  have hchecker : Takes st answer startHealthChecker
      [.op (.start .checkTask), .op (.assign .healthChecker)] := by
    refine takes_op_bind st rfl fun _ ↦ ?_
    exact takes_op st rfl
  apply hchecker.bind
  intro _
  refine takes_op_bind st rfl fun _ ↦ ?_
  refine takes_op_bind st rfl fun _ ↦ ?_
  apply (takes_startWorkers st _).bind
  intro _
  refine takes_op_bind st rfl fun _ ↦ ?_
  rw [← List.append_nil wireSteps]
  apply (takes_wireStores st).bind
  intro _
  exact Prog.advances_pure _

private theorem foldl_note (ss : List StartStep) (p : Process) : ss.foldl Process.note p =
    ⟨p.started ++ ss.filterMap StartStep.starts, p.globals ++ ss.filterMap StartStep.assigns⟩ := by
  induction ss generalizing p with
  | nil => simp
  | cons s ss ih =>
    rw [List.foldl_cons, ih]
    cases hstarts : s.starts <;> cases hassigns : s.assigns <;>
      simp [Process.note, hstarts, hassigns]

/-- The startup takes its steps up to the first that raises, and returns exactly if none does. -/
private theorem started_spec (answer : LifeOp → Except PyError Unit) :
    (Startup.started st answer).2 = ⟨(taken st answer).filterMap StartStep.starts,
      (taken st answer).filterMap StartStep.assigns⟩ ∧
    ((Startup.started st answer).1.isOk = true ↔
      ∀ s ∈ startSteps st, passes st answer s = true) := by
  have htakes : Takes st answer (startup st) (startSteps st) := takes_startup st
  obtain ⟨hstate, hreturns⟩ := htakes ⟨[], []⟩
  rw [foldl_note] at hstate
  exact ⟨hstate, hreturns⟩

private theorem taken_of_isOk (h : (Startup.started st answer).1.isOk = true) :
    taken st answer = startSteps st :=
  List.takeWhile_eq_self_iff.mpr ((started_spec st answer).2.mp h)

private theorem filterMap_starts_startSteps :
    (startSteps st).filterMap StartStep.starts = resources st := by
  have hproviders : (providerSteps st.registry).filterMap StartStep.starts =
      refreshTasks st.registry := by
    rw [providerSteps, List.filterMap_flatMap]
    apply List.flatMap_congr
    intro q _
    split <;> rfl
  have hworkers : (workerSteps st.pool).filterMap StartStep.starts =
      st.pool.refs.flatMap fun w ↦ [.playwright w, .browser w] := by
    rw [workerSteps, List.filterMap_flatMap]
    rfl
  have hdatabase : (connectSteps st).filterMap StartStep.starts =
      if st.dsn = "" then [] else [.connections] := by
    unfold connectSteps
    split <;> rfl
  unfold startSteps resources wireSteps
  simp [List.filterMap_cons, StartStep.starts, hdatabase, hproviders, hworkers]

private theorem mem_filterMap_assigns_iff {ss : List StartStep} {c : Component} :
    c ∈ ss.filterMap StartStep.assigns ↔ .op (.assign c) ∈ ss := by
  rw [List.mem_filterMap]
  constructor
  · rintro ⟨s, hs, hc⟩
    obtain rfl : s = .op (.assign c) := by
      unfold StartStep.assigns at hc
      split at hc
      · obtain rfl := Option.some.inj hc
        rfl
      · cases hc
    exact hs
  · intro hs
    exact ⟨_, hs, rfl⟩

private theorem mem_filterMap_starts_iff {ss : List StartStep} {x : Resource} :
    x ∈ ss.filterMap StartStep.starts ↔ .op (.start x) ∈ ss := by
  rw [List.mem_filterMap]
  constructor
  · rintro ⟨s, hs, hx⟩
    obtain rfl : s = .op (.start x) := by
      unfold StartStep.starts at hx
      split at hx
      · obtain rfl := Option.some.inj hx
        rfl
      · cases hx
    exact hs
  · intro hs
    exact ⟨_, hs, rfl⟩

/-- The steps of a component belong to it, but for the migrations. -/
private theorem component_connectSteps {s : StartStep} (hs : s ∈ connectSteps st) :
    s.component = some .database ∨ s.component = none := by
  unfold connectSteps at hs
  split at hs
  · cases hs
  · simp only [List.mem_cons, List.not_mem_nil, or_false] at hs
    rcases hs with rfl | rfl | rfl
    · exact Or.inl rfl
    · exact Or.inl rfl
    · exact Or.inr rfl

private theorem component_providerSteps {r : ProviderRegistry} {s : StartStep}
    (hs : s ∈ providerSteps r) : s.component = some .providers := by
  obtain ⟨q, -, hq⟩ := List.mem_flatMap.mp hs
  split at hq
  · simp only [List.mem_cons, List.not_mem_nil, or_false] at hq
    rcases hq with rfl | rfl <;> rfl
  · cases hq

private theorem component_workerSteps {p : RegionWorkerPool} {s : StartStep}
    (hs : s ∈ workerSteps p) : s.component = some .workerPool := by
  obtain ⟨w, -, hw⟩ := List.mem_flatMap.mp hs
  simp only [List.mem_cons, List.not_mem_nil, or_false] at hw
  rcases hw with rfl | rfl <;> rfl

private theorem mem_globals_startSteps {c : Component} :
    c ∈ (startSteps st).filterMap StartStep.assigns ↔ (c = .database → st.dsn ≠ "") := by
  have hproviders : (providerSteps st.registry).filterMap StartStep.assigns = [] := by
    rw [providerSteps, List.filterMap_flatMap, List.flatMap_eq_nil_iff]
    intro q _
    split <;> rfl
  have hworkers : (workerSteps st.pool).filterMap StartStep.assigns = [] := by
    rw [workerSteps, List.filterMap_flatMap, List.flatMap_eq_nil_iff]
    intro w _
    rfl
  have hall : (startSteps st).filterMap StartStep.assigns =
      (if st.dsn = "" then [] else [.database]) ++ [.providers, .healthChecker, .workerPool] := by
    unfold startSteps connectSteps wireSteps
    split <;> simp [List.filterMap_cons, StartStep.assigns, hproviders, hworkers]
  rw [hall]
  cases c <;> by_cases hdsn : st.dsn = "" <;> simp [hdsn]

/-- What has started is the first part of what is started. -/
private theorem started_isPrefix (answer : LifeOp → Except PyError Unit) :
    (Startup.started st answer).2.started <+: resources st := by
  rw [(started_spec st answer).1, ← filterMap_starts_startSteps]
  exact (List.takeWhile_prefix _).filterMap _

/-- If a component has started something, its global is assigned or one of its own steps raises. -/
private theorem assigned_or_raised {front between back : List StartStep} {x : Resource}
    (hsteps : startSteps st = front ++ (between ++ .op (.assign x.component) :: back))
    (hfront : ∀ s ∈ front, s.component ≠ some x.component)
    (hx : .op (.start x) ∈ taken st answer) :
    .op (.assign x.component) ∈ taken st answer ∨
      ∃ s ∈ between, raised? st answer = some s := by
  by_cases hassigned : .op (.assign x.component) ∈ taken st answer
  · exact Or.inl hassigned
  · unfold taken at hx hassigned
    rw [hsteps] at hx hassigned
    rw [raised?, hsteps]
    exact Or.inr (Prog.exists_find?_of_takeWhile hx (fun hmem ↦ hfront _ hmem rfl) hassigned rfl)

/-- The steps before those of the providers. -/
private def beforeProviders : List StartStep :=
  .op .loadConfig :: (connectSteps st ++ [.op (.construct .providers)])

/-- Those before the health checker's. -/
private def beforeChecker : List StartStep :=
  beforeProviders st ++ (providerSteps st.registry ++ [.op (.assign .providers), .selectBreakers])

/-- Those before the workers'. -/
private def beforeWorkers : List StartStep :=
  beforeChecker st ++ [.op (.start .checkTask), .op (.assign .healthChecker),
    .op (.construct .fingerprints), .op (.construct .workers)]

private theorem startSteps_eq_workers : startSteps st =
    beforeWorkers st ++ (workerSteps st.pool ++ .op (.assign .workerPool) :: wireSteps) := by
  simp [startSteps, beforeWorkers, beforeChecker, beforeProviders]

private theorem startSteps_eq_checker : ∃ back, startSteps st =
    beforeChecker st ++ ([.op (.start .checkTask)] ++ .op (.assign .healthChecker) :: back) := by
  rw [startSteps_eq_workers, beforeWorkers, List.append_assoc]
  exact ⟨_, rfl⟩

private theorem startSteps_eq_providers : ∃ back, startSteps st =
    beforeProviders st ++ (providerSteps st.registry ++ .op (.assign .providers) :: back) := by
  obtain ⟨back, hsteps⟩ := startSteps_eq_checker st
  rw [hsteps, beforeChecker, List.append_assoc, List.append_assoc]
  exact ⟨_, rfl⟩

section Before

variable {s : StartStep} {c : Component}

private theorem component_beforeProviders (hc : c ≠ .database) (hs : s ∈ beforeProviders st) :
    s.component ≠ some c := by
  simp only [beforeProviders, List.mem_cons, List.mem_append, List.not_mem_nil, or_false] at hs
  rcases hs with rfl | hs | rfl
  · exact nofun
  · intro hcomponent
    rcases component_connectSteps st hs with hdatabase | hnone
    · rw [hdatabase] at hcomponent
      exact hc (Option.some.inj hcomponent).symm
    · rw [hnone] at hcomponent
      cases hcomponent
  · exact nofun

private theorem component_beforeChecker (hc : c ≠ .database) (hproviders : c ≠ .providers)
    (hs : s ∈ beforeChecker st) : s.component ≠ some c := by
  rcases List.mem_append.mp hs with hs | hs
  · exact component_beforeProviders st hc hs
  · have hcomponent : s.component = some .providers ∨ s.component = none := by
      simp only [List.mem_append, List.mem_cons, List.not_mem_nil, or_false] at hs
      rcases hs with hs | rfl | rfl
      · exact Or.inl (component_providerSteps hs)
      · exact Or.inl rfl
      · exact Or.inr rfl
    intro hsome
    rcases hcomponent with hc' | hnone
    · rw [hc'] at hsome
      exact hproviders (Option.some.inj hsome).symm
    · rw [hnone] at hsome
      cases hsome

private theorem component_beforeWorkers (hs : s ∈ beforeWorkers st) :
    s.component ≠ some .workerPool := by
  rcases List.mem_append.mp hs with hs | hs
  · exact component_beforeChecker st (by decide) (by decide) hs
  · simp only [List.mem_cons, List.not_mem_nil, or_false] at hs
    rcases hs with rfl | rfl | rfl | rfl <;> exact nofun

end Before

/-- The health checker's global is assigned right after its task has started. -/
private theorem assigned_of_checkTask (hx : .op (.start .checkTask) ∈ taken st answer) :
    .op (.assign .healthChecker) ∈ taken st answer := by
  obtain ⟨back, hsteps⟩ := startSteps_eq_checker st
  have hcases := assigned_or_raised (x := .checkTask) st hsteps
    (fun s ↦ component_beforeChecker st (by decide) (by decide)) hx
  refine hcases.resolve_right ?_
  rintro ⟨s, hs, hraised⟩
  obtain rfl := List.mem_singleton.mp hs
  have hfailed := List.find?_some hraised
  rw [List.mem_takeWhile_imp hx] at hfailed
  cases hfailed

/-- That of the database is assigned before anything starts. -/
private theorem assigned_of_connections (hdsn : st.dsn ≠ "")
    (hx : .op (.start .connections) ∈ taken st answer) :
    .op (.assign .database) ∈ taken st answer := by
  unfold taken startSteps connectSteps at hx ⊢
  rw [if_neg hdsn, List.takeWhile_cons] at hx ⊢
  split at hx
  · next hload =>
    rw [if_pos hload]
    exact List.mem_cons_of_mem _ List.mem_cons_self
  · cases hx

/-- What has started is named by a global, or belongs to the component of the step that raises. -/
private theorem component_mem_globals (answer : LifeOp → Except PyError Unit) {x : Resource}
    (hx : x ∈ (Startup.started st answer).2.started) :
    x.component ∈ (Startup.started st answer).2.globals ∨
      ∃ s, raised? st answer = some s ∧ s.component = some x.component ∧
        (x.component = .providers ∨ x.component = .workerPool) := by
  have hresource := (started_isPrefix st answer).subset hx
  rw [(started_spec st answer).1] at hx ⊢
  rw [mem_filterMap_assigns_iff]
  have htaken := mem_filterMap_starts_iff.mp hx
  have hworker (hc : x.component = .workerPool) : .op (.assign x.component) ∈ taken st answer ∨
      ∃ s, raised? st answer = some s ∧ s.component = some x.component ∧
        (x.component = .providers ∨ x.component = .workerPool) := by
    refine (assigned_or_raised st (hc ▸ startSteps_eq_workers st)
      (fun s ↦ hc ▸ component_beforeWorkers st) htaken).imp id ?_
    rintro ⟨s, hs, hraised⟩
    exact ⟨s, hraised, hc ▸ component_workerSteps hs, Or.inr hc⟩
  cases x with
  | connections =>
    refine Or.inl (assigned_of_connections st ?_ htaken)
    intro hdsn
    simp [resources, refreshTasks, hdsn] at hresource
  | checkTask => exact Or.inl (assigned_of_checkTask st htaken)
  | refreshTask name =>
    obtain ⟨back, hsteps⟩ := startSteps_eq_providers st
    refine (assigned_or_raised st hsteps
      (fun s ↦ component_beforeProviders (c := .providers) st (by decide)) htaken).imp id ?_
    rintro ⟨s, hs, hraised⟩
    exact ⟨s, hraised, component_providerSteps hs, Or.inl rfl⟩
  | playwright w => exact hworker rfl
  | browser w => exact hworker rfl

/-- A startup that returns has chosen the breakers. -/
private theorem selectBreakers_of_started (answer : LifeOp → Except PyError Unit)
    {b : WorkerBreakers} (h : (Startup.started st answer).1 = .ok b) :
    selectBreakers st.registry st.primary st.fallback = .ok b := by
  unfold Startup.started startup at h
  obtain ⟨_, -, h⟩ := Prog.run_bind_ok _ h
  obtain ⟨_, -, h⟩ := Prog.run_bind_ok _ h
  obtain ⟨_, -, h⟩ := Prog.run_bind_ok _ h
  obtain ⟨_, -, h⟩ := Prog.run_bind_ok _ h
  obtain ⟨_, -, h⟩ := Prog.run_bind_ok _ h
  obtain ⟨b', hselect, h⟩ := Prog.run_bind_ok _ h
  obtain ⟨_, -, h⟩ := Prog.run_bind_ok _ h
  obtain ⟨_, -, h⟩ := Prog.run_bind_ok _ h
  obtain ⟨_, -, h⟩ := Prog.run_bind_ok _ h
  obtain ⟨_, -, h⟩ := Prog.run_bind_ok _ h
  obtain ⟨_, -, h⟩ := Prog.run_bind_ok _ h
  obtain ⟨_, -, h⟩ := Prog.run_bind_ok _ h
  obtain rfl := Except.ok.inj h
  exact hselect

end Startup

/-! ### What the shutdown asks to stop -/

section Shutdown

variable (st : Settings) (p : Process) (answer : LifeOp → Except PyError Unit)

private theorem stopping_eq (x : Resource) :
    p.stopping x = Prog.performAll (([x].filter (· ∈ p.started)).map .stop) := by
  unfold Process.stopping
  by_cases hx : x ∈ p.started
  · rw [if_pos hx, List.filter_cons_of_pos (by simpa using hx)]
    exact (Prog.performAll_singleton _).symm
  · rw [if_neg hx, List.filter_cons_of_neg (by simpa using hx)]
    rfl

private theorem stopWorkers_eq : p.stopWorkers st =
    Prog.performAll ((p.closings st .workerPool).map .stop) := by
  unfold Process.stopWorkers Process.closings
  rw [stopAll_eq_performAll, List.map_map]
  exact Prog.embed_performAll _ _

private theorem stopProviders_eq (r : ProviderRegistry) : p.stopProviders r =
    Prog.performAll (((refreshTasks r).filter (· ∈ p.started)).map .stop) := by
  have heach : ∀ q : String × Provider,
      (if q.2.hasStart then p.stopping (.refreshTask q.1) else pure ()) =
        Prog.performAll (((if q.2.hasStart then [Resource.refreshTask q.1] else []).filter
          (· ∈ p.started)).map .stop) := by
    intro q
    split
    · exact stopping_eq p _
    · rfl
  unfold Process.stopProviders refreshTasks
  simp only [heach, Prog.performAll, Prog.forEach_forEach, List.filter_flatMap, List.map_flatMap]

/-- What a component is asked to stop by the shutdown. -/
private def asks (c : Component) : List LifeOp :=
  if c ∈ p.globals then
    Prog.asked (answered answer) (Prog.performAll ((p.closings st c).map .stop))
  else []

private theorem run_ifSet (c : Component) {stop : LifeProg Unit}
    (hstop : stop = Prog.performAll ((p.closings st c).map .stop)) (q : Process) :
    Prog.run (serve answer) (p.ifSet c stop) q =
      (.ok (), (asks st p answer c).foldl (fun s o ↦ (serve answer o s).2) q) := by
  unfold Process.ifSet asks
  split
  · rw [Prog.run_bind, Prog.run_attempt, hstop,
      Prog.run_snd_eq_foldl (answered answer) fun _ _ ↦ rfl]
    rfl
  · rfl

private theorem eq_stop_of_mem_asks {c : Component} {o : LifeOp} (ho : o ∈ asks st p answer c) :
    ∃ x, o = .stop x := by
  unfold asks at ho
  split at ho
  · obtain ⟨x, -, rfl⟩ := List.mem_map.mp ((Prog.asked_performAll_isPrefix _ _).subset ho)
    exact ⟨x, rfl⟩
  · cases ho

private theorem mem_foldl_serve {os : List LifeOp} (hos : ∀ o ∈ os, ∃ y, o = .stop y)
    (q : Process) (x : Resource) :
    x ∈ (os.foldl (fun s o ↦ (serve answer o s).2) q).started ↔
      x ∈ q.started ∧ .stop x ∉ os := by
  induction os generalizing q with
  | nil => simp
  | cons o os ih =>
    obtain ⟨⟨y, rfl⟩, hrest⟩ := List.forall_mem_cons.mp hos
    rw [List.foldl_cons, ih hrest]
    simp [serve, Process.after, and_assoc]

private theorem mem_foldl_asks (c : Component) (q : Process) (x : Resource) :
    x ∈ ((asks st p answer c).foldl (fun s o ↦ (serve answer o s).2) q).started ↔
      x ∈ q.started ∧ .stop x ∉ asks st p answer c :=
  mem_foldl_serve answer (fun _ ho ↦ eq_stop_of_mem_asks st p answer ho) q x

/-- The shutdown returns, and what it leaves is what no component was asked to stop. -/
private theorem run_shutdown : (Prog.run (serve answer) (p.shutdown st) p).1 = .ok () ∧
    ∀ x, x ∈ (Prog.run (serve answer) (p.shutdown st) p).2.started ↔
      x ∈ p.started ∧ ∀ c, .stop x ∉ asks st p answer c := by
  have hchecker : p.stopHealthChecker =
      Prog.performAll ((p.closings st .healthChecker).map .stop) := stopping_eq p _
  have hproviders : p.stopProviders st.registry =
      Prog.performAll ((p.closings st .providers).map .stop) := stopProviders_eq p _
  have hdatabase : p.disconnect =
      Prog.performAll ((p.closings st .database).map .stop) := stopping_eq p _
  unfold Process.shutdown
  simp only [Prog.run_bind, run_ifSet st p answer .healthChecker hchecker,
    run_ifSet st p answer .workerPool (stopWorkers_eq st p),
    run_ifSet st p answer .providers hproviders, run_ifSet st p answer .database hdatabase,
    mem_foldl_asks, true_and]
  intro x
  constructor
  · rintro ⟨⟨⟨⟨hx, hchecker⟩, hpool⟩, hproviders⟩, hdatabase⟩
    refine ⟨hx, fun c ↦ ?_⟩
    cases c with
    | database => exact hdatabase
    | providers => exact hproviders
    | healthChecker => exact hchecker
    | workerPool => exact hpool
  · rintro ⟨hx, hall⟩
    exact ⟨⟨⟨⟨hx, hall _⟩, hall _⟩, hall _⟩, hall _⟩

/-- A component stops only what has started of it. -/
private theorem mem_closings_spec {c : Component} {x : Resource} (hx : x ∈ p.closings st c) :
    x ∈ p.started ∧ x.component = c := by
  cases c with
  | database =>
    obtain ⟨hmem, hstarted⟩ := List.mem_filter.mp hx
    obtain rfl := List.mem_singleton.mp hmem
    exact ⟨by simpa using hstarted, rfl⟩
  | providers =>
    obtain ⟨hmem, hstarted⟩ := List.mem_filter.mp hx
    refine ⟨by simpa using hstarted, ?_⟩
    obtain ⟨q, -, hq⟩ := List.mem_flatMap.mp hmem
    split at hq
    · obtain rfl := List.mem_singleton.mp hq
      rfl
    · cases hq
  | healthChecker =>
    obtain ⟨hmem, hstarted⟩ := List.mem_filter.mp hx
    obtain rfl := List.mem_singleton.mp hmem
    exact ⟨by simpa using hstarted, rfl⟩
  | workerPool =>
    obtain ⟨o, ho, rfl⟩ := List.mem_map.mp hx
    obtain ⟨w, -, ho⟩ := List.mem_flatMap.mp ho
    rcases mem_closings.mp ho with ⟨hbrowser, rfl⟩ | ⟨hplaywright, rfl⟩
    · exact ⟨of_decide_eq_true hbrowser, rfl⟩
    · exact ⟨of_decide_eq_true hplaywright, rfl⟩

/-- A resource is asked to stop if its component is set and no stop before its own raises. -/
private theorem stop_mem_asks_iff {c : Component} {x : Resource} :
    .stop x ∈ asks st p answer c ↔ c ∈ p.globals ∧ ∃ before after,
      p.closings st c = before ++ x :: after ∧
        ∀ y ∈ before, (answer (.stop y)).isOk = true := by
  unfold asks
  split
  · next hc =>
    rw [Prog.mem_asked_performAll_iff]
    constructor
    · rintro ⟨before, after, hsplit, hall⟩
      obtain ⟨before', rest, hclosings, rfl, hrest⟩ := List.map_eq_append_iff.mp hsplit
      obtain ⟨y, after', rfl, hy, -⟩ := List.map_eq_cons_iff.mp hrest
      obtain rfl := LifeOp.stop.inj hy
      exact ⟨hc, before', after', hclosings, fun z hz ↦ hall _ (List.mem_map_of_mem hz)⟩
    · rintro ⟨-, before, after, hclosings, hall⟩
      refine ⟨before.map .stop, after.map .stop, ?_, fun o ho ↦ ?_⟩
      · rw [hclosings, List.map_append, List.map_cons]
      · obtain ⟨y, hy, rfl⟩ := List.mem_map.mp ho
        exact hall y hy
  · next hc =>
    constructor
    · intro hx
      cases hx
    · rintro ⟨hmem, -⟩
      exact absurd hmem hc

/-- A component stops all that has started of it. -/
private theorem mem_closings_component {x : Resource} (hx : x ∈ p.started)
    (hres : x ∈ resources st) : x ∈ p.closings st x.component := by
  have hpool : ∀ w o, o.worker = w → x = .ofClose o → w ∈ st.pool.refs →
      o ∈ (⟨decide (.playwright w ∈ p.started), decide (.browser w ∈ p.started)⟩ :
        ASBRunner).closings w → x ∈ p.closings st .workerPool := by
    rintro w o - rfl hw ho
    exact List.mem_map.mpr ⟨o, List.mem_flatMap.mpr ⟨w, hw, ho⟩, rfl⟩
  unfold resources at hres
  simp only [List.mem_append, List.mem_cons, List.mem_flatMap] at hres
  rcases hres with hdatabase | htask | rfl | ⟨w, hw, hworker⟩
  · split at hdatabase
    · cases hdatabase
    · obtain rfl := List.mem_singleton.mp hdatabase
      exact List.mem_filter.mpr ⟨List.mem_cons_self, by simpa using hx⟩
  · have hcomponent : x.component = .providers := by
      obtain ⟨q, -, hq⟩ := List.mem_flatMap.mp htask
      split at hq
      · obtain rfl := List.mem_singleton.mp hq
        rfl
      · cases hq
    rw [hcomponent]
    exact List.mem_filter.mpr ⟨htask, by simpa using hx⟩
  · exact List.mem_filter.mpr ⟨List.mem_cons_self, by simpa using hx⟩
  · simp only [List.not_mem_nil, or_false] at hworker
    rcases hworker with rfl | rfl
    · exact hpool w (.stopPlaywright w) rfl rfl hw (mem_closings.mpr (Or.inr ⟨by simpa, rfl⟩))
    · exact hpool w (.closeBrowser w) rfl rfl hw (mem_closings.mpr (Or.inl ⟨by simpa, rfl⟩))

end Shutdown

/-! ### From startup to shutdown -/

/-- What holds of a startup, whatever raises, and of a shutdown after it. -/
structure LifecycleExact (st : Settings) (answer : LifeOp → Except PyError Unit) : Prop where
  starts : (started st answer).2.started = (taken st answer).filterMap StartStep.starts
  assigns : (started st answer).2.globals = (taken st answer).filterMap StartStep.assigns
  succeeds : (started st answer).1.isOk = true ↔ raised? st answer = none
  inOrder : (started st answer).2.started <+: resources st
  complete : (started st answer).1.isOk = true → (started st answer).2.started = resources st ∧
    ∀ c, c ∈ (started st answer).2.globals ↔ (c = .database → st.dsn ≠ "")
  breakers : ∀ b, (started st answer).1 = .ok b → ∃ name ∈ st.registry.listProviders,
    b.primary = .watched name ∧ ∀ f, b.fallback = some f →
      ∃ name' ∈ st.registry.listProviders, f = .watched name' ∧ name' ≠ name
  known : ∀ x ∈ (started st answer).2.started, x.component ∈ (started st answer).2.globals ∨
    ∃ s, raised? st answer = some s ∧ s.component = some x.component ∧
      (x.component = .providers ∨ x.component = .workerPool)
  returns : (ended st answer).1 = .ok ()
  closings : ∀ c x, x ∈ (started st answer).2.closings st c ↔
    x ∈ (started st answer).2.started ∧ x.component = c
  stopped : ∀ x ∈ (started st answer).2.started, x ∉ (ended st answer).2.started ↔
    x.component ∈ (started st answer).2.globals ∧ ∃ before after,
      (started st answer).2.closings st x.component = before ++ x :: after ∧
        ∀ y ∈ before, (answer (.stop y)).isOk = true

/-- A startup takes its steps in a fixed order: what has started and which globals are set are the
starts and the assignments before the first step that raises, and it returns exactly if none does.
One that returns has started everything and given the workers breakers that the health checker
watches. A shutdown after it returns, and asks all to stop of which it knows, but for what comes in
its component after a stop that raises. It knows of all that has started but for the refresh tasks
or the workers of the one component to which the step that has raised belongs. -/
theorem lifecycle_exact (st : Settings) (answer : LifeOp → Except PyError Unit) :
    LifecycleExact st answer where
  starts := congrArg Process.started (started_spec st answer).1
  assigns := congrArg Process.globals (started_spec st answer).1
  succeeds := by
    rw [(started_spec st answer).2, raised?, List.find?_eq_none]
    exact forall₂_congr fun s _ ↦ by simp
  inOrder := started_isPrefix st answer
  complete hok := by
    rw [(started_spec st answer).1, taken_of_isOk st hok]
    exact ⟨filterMap_starts_startSteps st, fun c ↦ mem_globals_startSteps st⟩
  breakers b hb := selectBreakers_watched _ _ _ (selectBreakers_of_started st answer hb)
  known x hx := component_mem_globals st answer hx
  returns := (run_shutdown st _ answer).1
  closings c x := by
    constructor
    · exact mem_closings_spec st _
    · rintro ⟨hx, rfl⟩
      exact mem_closings_component st _ hx ((started_isPrefix st answer).subset hx)
  stopped x hx := by
    unfold ended
    rw [(run_shutdown st _ answer).2, ← stop_mem_asks_iff]
    constructor
    · intro hleft
      by_contra hasked
      refine hleft ⟨hx, fun c hc ↦ hasked ?_⟩
      obtain ⟨-, before, after, hsplit, -⟩ := (stop_mem_asks_iff st _ answer).mp hc
      have hmem : x ∈ (started st answer).2.closings st c := by
        rw [hsplit]
        exact List.mem_append_right before List.mem_cons_self
      rwa [(mem_closings_spec st _ hmem).2]
    · rintro hasked ⟨-, hnone⟩
      exact hnone _ hasked

end AsbCloudApi.Startup
