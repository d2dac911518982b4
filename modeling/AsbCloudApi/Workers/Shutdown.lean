import AsbCloudApi.Workers.Pool
import AsbCloudApi.Workers.Runner

/-!
# Shutdown of the pool

Library `Workers`. Models `stop_all` of `src/asb_api/workers/pool.py:92–95` with the calls below it,
`ASBWorker.stop` and `ASBRunner.close`. What they close is one list; a closing that raises is the
last one.
-/

namespace AsbCloudApi.Workers

open Base Api

/-- What is closed: the browser and the Playwright driver of a worker's runner. -/
inductive CloseOp where
  | closeBrowser (worker : WorkerRef)
  | stopPlaywright (worker : WorkerRef)
  deriving DecidableEq

/-- The worker that an operation is about. -/
def CloseOp.worker : CloseOp → WorkerRef
  | .closeBrowser w => w
  | .stopPlaywright w => w

/-- A coroutine of the shutdown. -/
abbrev CloseProg := Prog PyError (fun _ : CloseOp ↦ Unit)

namespace ASBRunner

/-- `__aexit__`; `src/asb_api/workers/asb_runner.py:19–23`. -/
def aexit (r : ASBRunner) (w : WorkerRef) : CloseProg Unit := do
  if r.browser then .perform (CloseOp.closeBrowser w)
  if r.playwright then .perform (CloseOp.stopPlaywright w)

/-- `close`; `src/asb_api/workers/asb_runner.py:25–26`. -/
def close (r : ASBRunner) (w : WorkerRef) : CloseProg Unit := r.aexit w

/-- What there is to close of a runner, in order. -/
def closings (r : ASBRunner) (w : WorkerRef) : List CloseOp :=
  (if r.browser then [.closeBrowser w] else []) ++
    if r.playwright then [.stopPlaywright w] else []

end ASBRunner

/-- `ASBWorker.stop`; `src/asb_api/workers/worker.py:31–33`. -/
def stopWorker (runner : Option ASBRunner) (w : WorkerRef) : CloseProg Unit :=
  match runner with
  | none => pure ()
  | some r => r.close w

namespace RegionWorkerPool

variable (p : RegionWorkerPool) (runners : WorkerRef → Option ASBRunner)

/-- `stop_all`; `src/asb_api/workers/pool.py:92–95`. `runners` are the runners of the workers. -/
def stopAll : CloseProg Unit :=
  Prog.forEach p.workers.items fun q ↦ Prog.forEach (List.range q.2.length) fun i ↦
    stopWorker (runners ⟨q.1, i⟩) ⟨q.1, i⟩

/-- The worker objects, in the order of `stop_all`. -/
def refs : List WorkerRef :=
  p.workers.items.flatMap fun q ↦ (List.range q.2.length).map fun i ↦ ⟨q.1, i⟩

/-- What there is to close of the pool, in order. -/
def closings : List CloseOp :=
  p.refs.flatMap fun w ↦ (runners w).elim [] (·.closings w)

/-- The browser and the driver of every worker that has them were asked to close. -/
structure Stopped (asked : List CloseOp) : Prop where
  browser : ∀ w r, (p.slot w).isSome → runners w = some r → r.browser = true →
    .closeBrowser w ∈ asked
  playwright : ∀ w r, (p.slot w).isSome → runners w = some r → r.playwright = true →
    .stopPlaywright w ∈ asked

end RegionWorkerPool

/-! ### The closings as one list -/

theorem close_eq_performAll (r : ASBRunner) (w : WorkerRef) :
    r.close w = Prog.performAll (r.closings w) := by
  obtain ⟨playwright, browser⟩ := r
  cases browser with
  | false =>
    cases playwright with
    | false => rfl
    | true => exact (Prog.performAll_singleton _).symm
  | true =>
    cases playwright with
    | false => rfl
    | true =>
      change _ = (Prog.perform _ >>= fun _ ↦ Prog.performAll [CloseOp.stopPlaywright w])
      rw [Prog.performAll_singleton]
      rfl

theorem mem_closings {r : ASBRunner} {w : WorkerRef} {o : CloseOp} :
    o ∈ r.closings w ↔ (r.browser = true ∧ o = .closeBrowser w) ∨
      (r.playwright = true ∧ o = .stopPlaywright w) := by
  unfold ASBRunner.closings
  rw [List.mem_append]
  cases r.browser <;> cases r.playwright <;> simp

theorem worker_of_mem_closings {r : ASBRunner} {w : WorkerRef} {o : CloseOp}
    (h : o ∈ r.closings w) : o.worker = w := by
  rcases mem_closings.mp h with ⟨-, rfl⟩ | ⟨-, rfl⟩
  · rfl
  · rfl

section Pool

variable (p : RegionWorkerPool) (runners : WorkerRef → Option ASBRunner)

theorem stopAll_eq_performAll : p.stopAll runners = Prog.performAll (p.closings runners) := by
  have hworker : ∀ w, stopWorker (runners w) w =
      Prog.performAll ((runners w).elim [] (·.closings w)) := by
    intro w
    cases runners w with
    | none => rfl
    | some r => exact close_eq_performAll r w
  unfold RegionWorkerPool.stopAll RegionWorkerPool.closings RegionWorkerPool.refs
  simp only [hworker, Prog.performAll, Prog.forEach_forEach, List.flatMap_assoc, List.flatMap_map]

/-- The worker objects are those that have a place in the pool. -/
theorem mem_refs {w : WorkerRef} : w ∈ p.refs ↔ (p.slot w).isSome = true := by
  unfold RegionWorkerPool.refs RegionWorkerPool.slot
  rw [List.mem_flatMap]
  constructor
  · rintro ⟨⟨region, ws⟩, hq, hw⟩
    obtain ⟨i, hi, rfl⟩ := List.mem_map.mp hw
    rw [(Dict.mem_items_iff _ _ _).mp hq]
    simpa using hi
  · intro hw
    cases hregion : p.workers.get? w.region with
    | none =>
      rw [hregion] at hw
      cases hw
    | some ws =>
      rw [hregion] at hw
      refine ⟨(w.region, ws), (Dict.mem_items_iff _ _ _).mpr hregion, ?_⟩
      exact List.mem_map.mpr ⟨w.index, by simpa using hw, rfl⟩

theorem nodup_refs : p.refs.Nodup := by
  unfold RegionWorkerPool.refs
  rw [List.nodup_flatMap]
  constructor
  · intro q _
    apply List.nodup_range.map
    intro i j hij
    exact (WorkerRef.mk.inj hij).2
  · have hkeys := List.pairwise_map.mp p.workers.nodup
    apply hkeys.imp
    intro q q' hne w hw hw'
    obtain ⟨i, -, rfl⟩ := List.mem_map.mp hw
    obtain ⟨j, -, hj⟩ := List.mem_map.mp hw'
    exact hne (WorkerRef.mk.inj hj).1.symm

/-- Nothing is closed twice. -/
theorem nodup_closings : (p.closings runners).Nodup := by
  unfold RegionWorkerPool.closings
  rw [List.nodup_flatMap]
  constructor
  · intro w _
    cases runners w with
    | none => exact List.nodup_nil
    | some r =>
      change (r.closings w).Nodup
      unfold ASBRunner.closings
      cases r.browser <;> cases r.playwright <;> simp
  · apply (nodup_refs p).imp
    intro w w' hne o ho ho'
    have hworker : ∀ v, o ∈ (runners v).elim [] (·.closings v) → o.worker = v := by
      intro v hv
      cases hr : runners v with
      | none =>
        rw [hr] at hv
        cases hv
      | some r =>
        rw [hr] at hv
        exact worker_of_mem_closings hv
    exact hne ((hworker w ho).symm.trans (hworker w' ho'))

theorem stopped_iff_forall_mem (asked : List CloseOp) :
    p.Stopped runners asked ↔ ∀ o ∈ p.closings runners, o ∈ asked := by
  constructor
  · intro h o ho
    obtain ⟨w, hw, ho⟩ := List.mem_flatMap.mp ho
    have hslot := (mem_refs p).mp hw
    cases hr : runners w with
    | none =>
      rw [hr] at ho
      cases ho
    | some r =>
      rw [hr] at ho
      rcases mem_closings.mp ho with ⟨hbrowser, rfl⟩ | ⟨hplaywright, rfl⟩
      · exact h.browser w r hslot hr hbrowser
      · exact h.playwright w r hslot hr hplaywright
  · intro h
    have hmem : ∀ w r o, (p.slot w).isSome → runners w = some r → o ∈ r.closings w → o ∈ asked := by
      intro w r o hslot hr ho
      refine h o (List.mem_flatMap.mpr ⟨w, (mem_refs p).mpr hslot, ?_⟩)
      rw [hr]
      exact ho
    refine ⟨fun w r hslot hr hbrowser ↦ ?_, fun w r hslot hr hplaywright ↦ ?_⟩
    · exact hmem w r _ hslot hr (mem_closings.mpr (Or.inl ⟨hbrowser, rfl⟩))
    · exact hmem w r _ hslot hr (mem_closings.mpr (Or.inr ⟨hplaywright, rfl⟩))

end Pool

/-- A shutdown closes what there is to close exactly if no closing but the last one raises. -/
theorem stopped_iff (p : RegionWorkerPool) (runners : WorkerRef → Option ASBRunner)
    (answer : CloseOp → Except PyError Unit) :
    p.Stopped runners (Prog.asked answer (p.stopAll runners)) ↔
      ∀ o ∈ (p.closings runners).dropLast, (answer o).isOk = true := by
  rw [stopAll_eq_performAll, stopped_iff_forall_mem,
    Prog.asked_performAll_iff answer (nodup_closings p runners)]

/-- With two workers, a browser that does not close leaves everything after it running. -/
theorem not_stopped : ¬ ∀ (p : RegionWorkerPool) (runners : WorkerRef → Option ASBRunner)
    (answer : CloseOp → Except PyError Unit),
    p.Stopped runners (Prog.asked answer (p.stopAll runners)) := by
  intro h
  have hstopped := (h (.new (Dict.ofList [("jp", 2)]) "jp") (fun _ ↦ some ⟨true, true⟩)
    fun _ ↦ .error ⟨.other, "Connection closed"⟩).browser ⟨"jp", 1⟩ _ rfl rfl rfl
  revert hstopped
  decide +kernel

end AsbCloudApi.Workers
