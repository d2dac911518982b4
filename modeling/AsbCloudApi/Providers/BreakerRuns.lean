import AsbCloudApi.Providers.Health
import Mathlib.Data.List.Infix
import Mathlib.Tactic.Linarith

/-!
# Breakers under concurrent requests and health checks

Library `Providers`. What a breaker guarantees after any interleaving of requests and health
checks. Its counter follows the failed requests unless a health check lowers it, it is ready to
reopen unless a late success or a raising health check has left it `DOWN` with a low counter, and
it recovers by timeout once a failure has been recorded.
-/

namespace AsbCloudApi.Providers

open Base Api

/-- A breaker as it is built, for a threshold and a timeout. -/
def newBreaker (name : String) (failureThreshold : Nat) (recoveryTimeout : Int) : CircuitBreaker :=
  { name, failureThreshold, recoveryTimeout }

/-- The recorded outcomes of `get_proxy`, oldest first: whether each was a failure. -/
def outcomes (h : BreakerHistory) : List Bool :=
  h.filterMap fun e ↦
    match e.2 with
    | .recordSuccess => some false
    | .recordFailure => some true
    | _ => none

theorem failureThreshold_recordFailure (b : CircuitBreaker) (now : ℚ) :
    (b.recordFailure now).failureThreshold = b.failureThreshold :=
  b.failureThreshold_step (now, .recordFailure)

theorem outcomes_append (g h : BreakerHistory) : outcomes (g ++ h) = outcomes g ++ outcomes h :=
  List.filterMap_append

/-! ### Consecutive failures -/

/-- Right after a recorded failure that makes the last `failure_threshold` outcomes all failures,
the breaker is `DOWN`. -/
def OpensAfterFailures (s : Monitored) : Prop :=
  ∀ h now, s.history = h ++ [(now, .recordFailure)] →
    List.replicate s.breaker.failureThreshold true <:+ outcomes s.history →
    s.breaker.state = .down

/-- No health check lowers the counter: one that finds the breaker `UP` and not healthy finds at
most one failure counted. -/
def CountKept (b : CircuitBreaker) (e : ℚ × BreakerMove) : Prop :=
  e.2 = .healthChecked false → b.state = .up → b.failures ≤ 1

private theorem replicate_suffix_concat {α : Type} {k : Nat} {a x : α} {xs : List α}
    (h : List.replicate k a <:+ xs ++ [x]) :
    k = 0 ∨ a = x ∧ ∃ j, k = j + 1 ∧ List.replicate j a <:+ xs := by
  cases k with
  | zero => exact Or.inl rfl
  | succ j =>
    right
    rw [List.replicate_succ', List.suffix_concat_iff] at h
    rcases h with h | ⟨t, ht, hs⟩
    · simp at h
    · obtain ⟨rfl, hx⟩ := List.append_inj' ht rfl
      exact ⟨by simpa using hx, j, rfl, hs⟩

/-- As long as no health check lowers it, the counter is at least the number of failures since the
last success. -/
theorem failures_ge_of_countKept {b : CircuitBreaker} {h : BreakerHistory}
    (hok : Along CircuitBreaker.step CountKept b h) :
    ∀ k, List.replicate k true <:+ outcomes h → k ≤ (final CircuitBreaker.step b h).failures := by
  apply Along.final_induction (P := fun h b ↦
    ∀ k, List.replicate k true <:+ outcomes h → k ≤ b.failures) ?_ ?_ hok
  · rintro h b ⟨now, m⟩ hb hkept k hk
    rw [outcomes_append] at hk
    cases m with
    | checkState =>
      have hkb := hb k (by simpa [outcomes] using hk)
      show k ≤ (b.checkState now).2.failures
      rwa [CircuitBreaker.failures_checkState]
    | recordSuccess =>
      rcases replicate_suffix_concat hk with rfl | ⟨hfalse, -⟩
      · exact Nat.zero_le _
      · cases hfalse
    | recordFailure =>
      show k ≤ (b.recordFailure now).failures
      rw [CircuitBreaker.failures_recordFailure]
      rcases replicate_suffix_concat hk with rfl | ⟨-, j, rfl, hj⟩
      · exact Nat.zero_le _
      · have hle := hb j hj
        omega
    | healthChecked healthy =>
      have hkb := hb k (by simpa [outcomes] using hk)
      show k ≤ (b.healthChecked healthy).failures
      rw [CircuitBreaker.failures_healthChecked]
      split
      · next hlow =>
        -- the counter becomes one, which is no less than before
        have hle := hkept (by rw [hlow.1]) hlow.2
        omega
      · exact hkb
    | healthCheckRaised => exact hb k (by simpa [outcomes] using hk)
  · intro k hk
    have hnil := List.suffix_nil.mp hk
    simp only [List.replicate_eq_nil_iff] at hnil
    omega

section Consecutive

variable {I : Type} [DecidableEq I] {name : String} {threshold : Nat} {timeout : Int}

/-- In every run in which no health check lowers the counter, the breaker opens after
`failure_threshold` consecutive failures. -/
theorem opensAfterFailures_of_countKept {actors : I → Actor} {c : Breakers I}
    (hc : BreakerReach (startBreaker (newBreaker name threshold timeout) actors) c)
    (hkept : Along CircuitBreaker.step CountKept (newBreaker name threshold timeout)
      c.shared.history) : OpensAfterFailures c.shared := by
  intro h now hh hfail
  have hb := breaker_eq_final hc
  have hcount := failures_ge_of_countKept hkept _ hfail
  rw [hh, final_append] at hb hcount
  generalize final CircuitBreaker.step (newBreaker name threshold timeout) h = b at hb hcount
  change c.shared.breaker = b.recordFailure now at hb
  change _ ≤ (b.recordFailure now).failures at hcount
  rw [hb, failureThreshold_recordFailure, CircuitBreaker.failures_recordFailure] at hcount
  rw [hb, CircuitBreaker.state_recordFailure, if_pos hcount]

end Consecutive

private def failing {α : Type} : Except PyError α := .error ⟨.providerError, "no proxy"⟩

/-- Two requests fail, and a health check between them finds the provider unhealthy: a threshold of
two opens the breaker. -/
theorem opensAfterFailures_of_countKept_sample : ∃ c : Breakers (Fin 3),
    BreakerReach (startBreaker (newBreaker "decodo" 2 60)
      ![.request none, .healthCheck, .request none]) c ∧
      OpensAfterFailures c.shared ∧ c.shared.breaker.state = .down := by
  obtain ⟨c, hc, hs⟩ := exists_breakerReach (newBreaker "decodo" 2 60)
    ![.request none, .healthCheck, .request none] ![1, 2, 3] (fun _ ↦ failing)
    (fun _ ↦ .ok false) [0, 1, 2] (by decide)
  have hh : c.shared.history = [(1, .checkState), (1, .recordFailure), (2, .healthChecked false),
      (3, .checkState), (3, .recordFailure)] := by
    rw [hs]
    rfl
  refine ⟨c, hc, opensAfterFailures_of_countKept hc ?_, by rw [hs]; rfl⟩
  rw [hh]
  simp only [Along, CountKept, reduceCtorEq, false_implies, true_and, and_true, true_implies]
  -- the health check finds one failure counted, and counts one
  decide +kernel

/-- Two requests fail, a health check finds the provider unhealthy, and a third request fails: the
breaker is `DEGRADED`. -/
theorem not_opensAfterFailures : ∃ c : Breakers (Fin 4),
    BreakerReach (startBreaker (newBreaker "decodo" 3 60)
      ![.request none, .request none, .healthCheck, .request none]) c ∧
      ¬ OpensAfterFailures c.shared := by
  obtain ⟨c, hc, hs⟩ := exists_breakerReach (newBreaker "decodo" 3 60)
    ![.request none, .request none, .healthCheck, .request none] ![1, 2, 3, 4]
    (fun _ ↦ failing) (fun _ ↦ .ok false) [0, 1, 2, 3] (by decide)
  have hh : c.shared.history = [(1, .checkState), (1, .recordFailure), (2, .checkState),
      (2, .recordFailure), (3, .healthChecked false), (4, .checkState)] ++
        [(4, .recordFailure)] := by
    rw [hs]
    rfl
  have hb : c.shared.breaker.state = .degraded := by
    rw [hs]
    rfl
  have ht : c.shared.breaker.failureThreshold = 3 := by
    rw [hs]
    rfl
  refine ⟨c, hc, fun hopens ↦ ?_⟩
  have hdown := hopens _ _ hh (by rw [hh, ht]; decide)
  rw [hb] at hdown
  cases hdown

/-! ### Reopening -/

/-- If the first outcome recorded after the breaker went from `DOWN` to `RECOVERING` is a failure,
the breaker is `DOWN` right after it. -/
def ReopensOnFailure (b : CircuitBreaker) (s : Monitored) : Prop :=
  ∀ h e h' now, s.history = h ++ e :: h' ++ [(now, .recordFailure)] →
    (final CircuitBreaker.step b h).state = .down →
    (final CircuitBreaker.step b (h ++ [e])).state = .recovering → outcomes h' = [] →
    s.breaker.state = .down

/-- One more failure brings the counter to the threshold. -/
def OneFailureShort (b : CircuitBreaker) : Prop := b.failureThreshold ≤ b.failures + 1

/-- The step does not leave a breaker `DOWN` that is more than one failure short: no success comes
in while it is `DOWN`, and no health check raises before enough failures are counted. -/
def DownCounted (b : CircuitBreaker) (e : ℚ × BreakerMove) : Prop :=
  (e.2 = .recordSuccess → b.state = .down → b.failureThreshold ≤ 1) ∧
    (e.2 = .healthCheckRaised → b.state ≠ .down → OneFailureShort b)

private theorem oneFailureShort_of_failures {b : CircuitBreaker} {e : ℚ × BreakerMove}
    (hf : b.failures ≤ (b.step e).2.failures) (h : OneFailureShort b) :
    OneFailureShort (b.step e).2 := by
  unfold OneFailureShort at h ⊢
  rw [CircuitBreaker.failureThreshold_step]
  omega

/-- As long as no step leaves it so, no breaker is `DOWN` and more than one failure short. -/
theorem oneFailureShort_step {b : CircuitBreaker} {e : ℚ × BreakerMove} (hok : DownCounted b e)
    (h : b.state = .down → OneFailureShort b) (hd : (b.step e).2.state = .down) :
    OneFailureShort (b.step e).2 := by
  obtain ⟨now, m⟩ := e
  cases m with
  | checkState =>
    change (b.checkState now).2.state = .down at hd
    apply oneFailureShort_of_failures (le_of_eq (b.failures_checkState now).symm)
    rcases b.state_checkState now with hs | ⟨-, hs⟩
    · exact h (hs ▸ hd)
    · rw [hs] at hd
      cases hd
  | recordSuccess =>
    change b.recordSuccess.state = .down at hd
    rw [CircuitBreaker.state_recordSuccess] at hd
    split at hd
    · cases hd
    · unfold OneFailureShort
      rw [CircuitBreaker.failureThreshold_step]
      have hone := hok.1 rfl hd
      omega
  | recordFailure =>
    change (b.recordFailure now).state = .down at hd
    have hfail : b.failures ≤ (b.recordFailure now).failures := by
      rw [CircuitBreaker.failures_recordFailure]
      omega
    rw [CircuitBreaker.state_recordFailure] at hd
    split at hd
    · next hcount => exact oneFailureShort_of_failures hfail hcount
    · exact oneFailureShort_of_failures hfail (h hd)
  | healthChecked healthy =>
    change (b.healthChecked healthy).state = .down at hd
    rw [CircuitBreaker.state_healthChecked] at hd
    split at hd
    · cases hd
    · split at hd
      · cases hd
      · next hlow =>
        apply oneFailureShort_of_failures _ (h hd)
        show b.failures ≤ (b.healthChecked healthy).failures
        rw [CircuitBreaker.failures_healthChecked, if_neg hlow]
  | healthCheckRaised =>
    by_cases hb : b.state = .down
    · exact h hb
    · exact hok.2 rfl hb

/-- Still `DOWN` or already `RECOVERING`, and ready to open again. -/
def Reopening (b : CircuitBreaker) : Prop :=
  (b.state = .down ∨ b.state = .recovering) ∧ OneFailureShort b

/-- Nothing but an outcome ends that. -/
theorem reopening_step {b : CircuitBreaker} {e : ℚ × BreakerMove} (he : outcomes [e] = [])
    (h : Reopening b) : Reopening (b.step e).2 := by
  obtain ⟨hs, hshort⟩ := h
  obtain ⟨now, m⟩ := e
  cases m with
  | checkState =>
    constructor
    · show (b.checkState now).2.state = _ ∨ (b.checkState now).2.state = _
      rcases b.state_checkState now with hsame | ⟨-, hrec⟩
      · rwa [hsame]
      · exact Or.inr hrec
    · exact oneFailureShort_of_failures (le_of_eq (b.failures_checkState now).symm) hshort
  | recordSuccess => cases he
  | recordFailure => cases he
  | healthChecked healthy =>
    have hup : ¬ (healthy = false ∧ b.state = .up) := by
      rintro ⟨-, hup⟩
      rw [hup] at hs
      simp at hs
    constructor
    · show (b.healthChecked healthy).state = _ ∨ (b.healthChecked healthy).state = _
      rw [CircuitBreaker.state_healthChecked, if_neg hup]
      split
      · exact Or.inr rfl
      · exact hs
    · apply oneFailureShort_of_failures _ hshort
      show b.failures ≤ (b.healthChecked healthy).failures
      rw [CircuitBreaker.failures_healthChecked, if_neg hup]
  | healthCheckRaised => exact ⟨Or.inl rfl, hshort⟩

private theorem reopening_final {b : CircuitBreaker} {h : BreakerHistory} (hh : outcomes h = [])
    (hb : Reopening b) : Reopening (final CircuitBreaker.step b h) := by
  induction h generalizing b with
  | nil => exact hb
  | cons e h ih =>
    have hsplit := outcomes_append [e] h
    rw [List.singleton_append, hh] at hsplit
    obtain ⟨he, hrest⟩ := List.append_eq_nil_iff.mp hsplit.symm
    exact ih hrest (reopening_step he hb)

/-- A step from `DOWN` to `RECOVERING` is no outcome. -/
private theorem outcomes_of_recovers {b : CircuitBreaker} {e : ℚ × BreakerMove}
    (hd : b.state = .down) (hr : (b.step e).2.state = .recovering) : outcomes [e] = [] := by
  obtain ⟨now, m⟩ := e
  cases m with
  | recordSuccess =>
    change b.recordSuccess.state = _ at hr
    rw [CircuitBreaker.state_recordSuccess, hd] at hr
    cases hr
  | recordFailure =>
    change (b.recordFailure now).state = _ at hr
    rw [CircuitBreaker.state_recordFailure, hd, ite_self] at hr
    cases hr
  | _ => rfl

/-- In every run in which no step leaves the breaker `DOWN` and more than one failure short, a
recovering breaker opens again on its first failure. -/
theorem reopensOnFailure_of_downCounted {I : Type} [DecidableEq I] {name : String}
    {threshold : Nat} {timeout : Int} {actors : I → Actor} {c : Breakers I}
    (hc : BreakerReach (startBreaker (newBreaker name threshold timeout) actors) c)
    (hok : Along CircuitBreaker.step DownCounted (newBreaker name threshold timeout)
      c.shared.history) : ReopensOnFailure (newBreaker name threshold timeout) c.shared := by
  intro h e h' now hh hd hr hnone
  have hb := breaker_eq_final hc
  rw [hh] at hb hok
  rw [List.append_assoc, along_append] at hok
  have hshort := Along.final_induction
    (P := fun _ b ↦ b.state = .down → OneFailureShort b)
    (fun _ b _ hb hok ↦ oneFailureShort_step hok hb) (by simp [newBreaker]) hok.1
  rw [List.append_assoc, final_append, List.cons_append, final_cons, final_append] at hb
  rw [final_append] at hr
  generalize final CircuitBreaker.step (newBreaker name threshold timeout) h = b₁ at *
  have hopen := reopening_step (outcomes_of_recovers hd hr) ⟨Or.inl hd, hshort hd⟩
  obtain ⟨-, hlast⟩ := reopening_final hnone hopen
  generalize final CircuitBreaker.step (b₁.step e).2 h' = b₂ at *
  change c.shared.breaker = b₂.recordFailure now at hb
  rw [hb, CircuitBreaker.state_recordFailure]
  exact if_pos hlast

/-- A threshold of one: a failed request, a good health check, and another failed request. -/
theorem reopensOnFailure_of_downCounted_sample : ∃ c : Breakers (Fin 3),
    BreakerReach (startBreaker (newBreaker "decodo" 1 60)
      ![.request none, .healthCheck, .request none]) c ∧
      ReopensOnFailure (newBreaker "decodo" 1 60) c.shared ∧ c.shared.breaker.state = .down := by
  obtain ⟨c, hc, hs⟩ := exists_breakerReach (newBreaker "decodo" 1 60)
    ![.request none, .healthCheck, .request none] ![1, 2, 3]
    (fun _ ↦ failing) (fun _ ↦ .ok true) [0, 1, 2] (by decide)
  have hh : c.shared.history = [(1, .checkState), (1, .recordFailure), (2, .healthChecked true),
      (3, .checkState), (3, .recordFailure)] := by
    rw [hs]
    rfl
  refine ⟨c, hc, reopensOnFailure_of_downCounted hc ?_, by rw [hs]; rfl⟩
  rw [hh]
  simp [Along, DownCounted]

/-- A health check raises, the next one finds the provider healthy, and a request fails: the
breaker is still `RECOVERING`. -/
theorem not_reopensOnFailure : ∃ c : Breakers (Fin 3),
    BreakerReach (startBreaker (newBreaker "decodo" 3 60)
      ![.healthCheck, .healthCheck, .request none]) c ∧
      ¬ ReopensOnFailure (newBreaker "decodo" 3 60) c.shared := by
  obtain ⟨c, hc, hs⟩ := exists_breakerReach (newBreaker "decodo" 3 60)
    ![.healthCheck, .healthCheck, .request none] ![1, 2, 3] (fun _ ↦ failing)
    ![failing, .ok true, .ok true] [0, 1, 2] (by decide)
  have hh : c.shared.history = [(1, .healthCheckRaised)] ++
      (2, .healthChecked true) :: [(3, .checkState)] ++ [(3, .recordFailure)] := by
    rw [hs]
    rfl
  have hb : c.shared.breaker.state = .recovering := by
    rw [hs]
    rfl
  refine ⟨c, hc, fun hreopens ↦ ?_⟩
  have hdown := hreopens _ _ _ _ hh rfl rfl rfl
  rw [hb] at hdown
  cases hdown

/-! ### Recovery by timeout -/

/-- When the last failed `get_proxy` was recorded. -/
def lastFailed (h : BreakerHistory) : Option ℚ :=
  (h.filterMap fun e ↦ if e.2 = .recordFailure then some e.1 else none).getLast?

/-- When the breaker last became `DOWN`. -/
def downSince (b : CircuitBreaker) : BreakerHistory → Option ℚ
  | [] => none
  | e :: h =>
    (downSince (b.step e).2 h).or
      (if b.state ≠ .down ∧ (b.step e).2.state = .down then some e.1 else none)

/-- A call of `get_proxy` at an instant gets through to the provider. -/
def Forwards (b : CircuitBreaker) (now : ℚ) (region : Option String) : Prop :=
  ∃ k k', getProxy region = .call (.move .checkState) k ∧
    k (b.step (now, .checkState)).1 = .call (.getProxy region) k'

/-- While the breaker is `DOWN`, a call gets through once the timeout has passed since it became
so and since the last failure. -/
def RecoversByTimeout (b : CircuitBreaker) (s : Monitored) : Prop :=
  s.breaker.state = .down → ∀ region now,
    (∀ t ∈ downSince b s.history, s.breaker.recoveryTimeout < now - t) →
    (∀ t ∈ lastFailed s.history, s.breaker.recoveryTimeout < now - t) →
    Forwards s.breaker now region

private theorem checkState_fst (b : CircuitBreaker) (now : ℚ) :
    (b.checkState now).1 = .ok () ↔ (b.state = .down → b.timedOut now = true) := by
  unfold CircuitBreaker.checkState
  split
  · next hd =>
    split
    · next ht => simp [ht]
    · next ht => simp [hd, ht]
  · next hd => simp [hd]

theorem forwards_iff {b : CircuitBreaker} {now : ℚ} {region : Option String} :
    Forwards b now region ↔ (b.state = .down → b.timedOut now = true) := by
  rw [← checkState_fst]
  constructor
  · rintro ⟨k, k', hk, hf⟩
    cases hk
    change Prog.resume (.done (b.checkState now).1) _ = _ at hf
    cases hc : (b.checkState now).1 with
    | ok u => rfl
    | error e =>
      rw [hc] at hf
      cases hf
  · intro hok
    have hstep : (b.step (now, .checkState)).1 = .ok () := hok
    unfold Forwards
    rw [hstep]
    exact ⟨_, _, rfl, rfl⟩

private theorem lastFailed_concat (h : BreakerHistory) (e : ℚ × BreakerMove) :
    lastFailed (h ++ [e]) = if e.2 = .recordFailure then some e.1 else lastFailed h := by
  unfold lastFailed
  rw [List.filterMap_append]
  split
  · next hf => simp [hf]
  · next hf => simp [hf]

theorem lastFailure_step (b : CircuitBreaker) (e : ℚ × BreakerMove) :
    (b.step e).2.lastFailure = if e.2 = .recordFailure then some e.1 else b.lastFailure := by
  obtain ⟨now, m⟩ := e
  cases m with
  | checkState =>
    show (b.checkState now).2.lastFailure = b.lastFailure
    unfold CircuitBreaker.checkState
    split
    · split <;> rfl
    · rfl
  | recordSuccess =>
    show b.recordSuccess.lastFailure = b.lastFailure
    unfold CircuitBreaker.recordSuccess
    dsimp only
    split <;> rfl
  | recordFailure => exact b.lastFailure_recordFailure now
  | healthChecked healthy =>
    show (b.healthChecked healthy).lastFailure = b.lastFailure
    unfold CircuitBreaker.healthChecked
    split
    · rfl
    · split <;> rfl
  | healthCheckRaised => rfl

/-- `last_failure` is the time of the last recorded failure. -/
theorem lastFailure_final {b : CircuitBreaker} (hb : b.lastFailure = none) (h : BreakerHistory) :
    (final CircuitBreaker.step b h).lastFailure = lastFailed h := by
  induction h using List.reverseRecOn with
  | nil => exact hb
  | append_singleton h e ih =>
    rw [final_append, lastFailed_concat, ← ih]
    exact lastFailure_step _ e

private theorem exists_late (d : ℚ) (s s' : Option ℚ) :
    ∃ now : ℚ, (∀ t ∈ s, d < now - t) ∧ ∀ t ∈ s', d < now - t := by
  have hlate (s : Option ℚ) : ∀ t ∈ s, t ≤ s.getD 0 := by
    rintro t rfl
    rfl
  refine ⟨max (s.getD 0) (s'.getD 0) + d + 1, ?_, ?_⟩
  · intro t ht
    have hle := (hlate s t ht).trans (le_max_left _ (s'.getD 0))
    linarith
  · intro t ht
    have hle := (hlate s' t ht).trans (le_max_right (s.getD 0) _)
    linarith

/-- A `DOWN` breaker recovers by timeout exactly if a failure has been recorded, at an instant
other than zero. -/
theorem recoversByTimeout_iff_failureRecorded {I : Type} [DecidableEq I] {name : String}
    {threshold : Nat} {timeout : Int} {actors : I → Actor} {c : Breakers I}
    (hc : BreakerReach (startBreaker (newBreaker name threshold timeout) actors) c) :
    RecoversByTimeout (newBreaker name threshold timeout) c.shared ↔
      (c.shared.breaker.state = .down → ∃ t ∈ lastFailed c.shared.history, t ≠ 0) := by
  have hlast : c.shared.breaker.lastFailure = lastFailed c.shared.history := by
    rw [breaker_eq_final hc]
    exact lastFailure_final rfl _
  constructor
  · intro hrec hd
    obtain ⟨now, hsince, hfail⟩ := exists_late c.shared.breaker.recoveryTimeout
      (downSince (newBreaker name threshold timeout) c.shared.history)
      (lastFailed c.shared.history)
    have hout := forwards_iff.mp (hrec hd none now hsince hfail) hd
    unfold CircuitBreaker.timedOut at hout
    rw [hlast, Option.any_eq_true] at hout
    obtain ⟨t, ht, hpos⟩ := hout
    exact ⟨t, ht, (of_decide_eq_true hpos).1⟩
  · intro hrecorded hd region now _ hfail
    rw [forwards_iff]
    intro _
    obtain ⟨t, ht, hpos⟩ := hrecorded hd
    unfold CircuitBreaker.timedOut
    rw [hlast, Option.any_eq_true]
    exact ⟨t, ht, decide_eq_true ⟨hpos, hfail t ht⟩⟩

/-- A threshold of one: a failed request opens the breaker, and a later one gets through. -/
theorem recoversByTimeout_iff_failureRecorded_sample : ∃ c : Breakers (Fin 1),
    BreakerReach (startBreaker (newBreaker "decodo" 1 60) fun _ ↦ .request none) c ∧
      c.shared.breaker.state = .down ∧
      RecoversByTimeout (newBreaker "decodo" 1 60) c.shared := by
  obtain ⟨c, hc, hs⟩ := exists_breakerReach (newBreaker "decodo" 1 60)
    (fun _ ↦ .request none) ![1] (fun _ ↦ failing) (fun _ ↦ .ok true) [0] (by decide)
  refine ⟨c, hc, by rw [hs]; rfl, ?_⟩
  apply (recoversByTimeout_iff_failureRecorded hc).mpr
  intro _
  rw [hs]
  exact ⟨1, rfl, one_ne_zero⟩

/-- A health check raises before anything else, and no call ever gets through. -/
theorem not_recoversByTimeout : ∃ c : Breakers (Fin 1),
    BreakerReach (startBreaker (newBreaker "decodo" 3 60) fun _ ↦ .healthCheck) c ∧
      ¬ RecoversByTimeout (newBreaker "decodo" 3 60) c.shared := by
  obtain ⟨c, hc, hs⟩ := exists_breakerReach (newBreaker "decodo" 3 60)
    (fun _ ↦ .healthCheck) ![1] (fun _ ↦ failing) (fun _ ↦ failing) [0] (by decide)
  refine ⟨c, hc, fun hrec ↦ ?_⟩
  rw [hs] at hrec
  obtain ⟨now, hsince, hfail⟩ := exists_late 60 (some 1) none
  have hout := forwards_iff.mp (hrec rfl none now hsince hfail) rfl
  cases hout

end AsbCloudApi.Providers
