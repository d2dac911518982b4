import AsbCloudApi.Base.Prog
import AsbCloudApi.Base.Run
import AsbCloudApi.Providers.Base
import Mathlib.Algebra.Order.Ring.Rat

/-!
# Circuit breaker and health checks

Library `Providers`. Models `src/asb_api/providers/health.py`. What a breaker does under its lock
holds no `await`, so it is one step. What the health loop does to a breaker after its `await` is
one step too; it does not take the lock.
-/

namespace AsbCloudApi.Providers

open Base Api

/-- `CircuitBreaker.state`. -/
inductive BreakerState where
  | up
  | degraded
  | down
  | recovering
  deriving DecidableEq

/-- `CircuitBreaker`, its provider given by the name; `src/asb_api/providers/health.py:7–15`. -/
structure CircuitBreaker where
  name : String
  failureThreshold : Nat := 3
  recoveryTimeout : Int := 60
  failures : Nat := 0
  lastFailure : Option ℚ := none
  state : BreakerState := .up
  deriving DecidableEq

/-- What is done to a breaker in one step. -/
inductive BreakerMove where
  | checkState
  | recordSuccess
  | recordFailure
  | healthChecked (healthy : Bool)
  | healthCheckRaised
  deriving DecidableEq

namespace CircuitBreaker

/-- `record_success`; `src/asb_api/providers/health.py:17–21`. -/
def recordSuccess (b : CircuitBreaker) : CircuitBreaker :=
  let b := { b with failures := 0 }
  if b.state = .recovering then { b with state := .up } else b

/-- `record_failure`; `src/asb_api/providers/health.py:23–28`. -/
def recordFailure (b : CircuitBreaker) (now : ℚ) : CircuitBreaker :=
  let b := { b with failures := b.failures + 1, lastFailure := some now }
  if b.failureThreshold ≤ b.failures then { b with state := .down } else b

/-- `last_failure and (now - last_failure) > recovery_timeout`: an instant of zero is false. -/
def timedOut (b : CircuitBreaker) (now : ℚ) : Bool :=
  b.lastFailure.any fun t ↦ t ≠ 0 ∧ b.recoveryTimeout < now - t

/-- The locked part of `get_proxy`; `src/asb_api/providers/health.py:31–36`. -/
def checkState (b : CircuitBreaker) (now : ℚ) : Except PyError Unit × CircuitBreaker :=
  if b.state = .down then
    if b.timedOut now then (.ok (), { b with state := .recovering })
    else (.error ⟨.poolExhaustedError, "Provider " ++ b.name ++ " is DOWN, try fallback"⟩, b)
  else (.ok (), b)

/-- What a health check that answers does; `src/asb_api/providers/health.py:68–72`. -/
def healthChecked (b : CircuitBreaker) (healthy : Bool) : CircuitBreaker :=
  if healthy ∧ (b.state = .down ∨ b.state = .degraded) then { b with state := .recovering }
  else if !healthy ∧ b.state = .up then { b with state := .degraded, failures := 1 }
  else b

/-- What a health check that raises does; `src/asb_api/providers/health.py:73–74`. -/
def healthCheckRaised (b : CircuitBreaker) : CircuitBreaker := { b with state := .down }

/-- One step, at an instant. -/
def step (b : CircuitBreaker) : ℚ × BreakerMove → Except PyError Unit × CircuitBreaker
  | (now, .checkState) => b.checkState now
  | (_, .recordSuccess) => (.ok (), b.recordSuccess)
  | (now, .recordFailure) => (.ok (), b.recordFailure now)
  | (_, .healthChecked healthy) => (.ok (), b.healthChecked healthy)
  | (_, .healthCheckRaised) => (.ok (), b.healthCheckRaised)

section Step

variable (b : CircuitBreaker)

@[simp] theorem failures_recordSuccess : b.recordSuccess.failures = 0 := by
  unfold recordSuccess
  dsimp only
  split <;> rfl

@[simp] theorem state_recordSuccess :
    b.recordSuccess.state = if b.state = .recovering then .up else b.state := by
  unfold recordSuccess
  dsimp only
  split <;> rfl

@[simp] theorem failures_recordFailure (now : ℚ) :
    (b.recordFailure now).failures = b.failures + 1 := by
  unfold recordFailure
  dsimp only
  split <;> rfl

@[simp] theorem state_recordFailure (now : ℚ) : (b.recordFailure now).state =
    if b.failureThreshold ≤ b.failures + 1 then .down else b.state := by
  unfold recordFailure
  dsimp only
  split <;> rfl

@[simp] theorem lastFailure_recordFailure (now : ℚ) :
    (b.recordFailure now).lastFailure = some now := by
  unfold recordFailure
  dsimp only
  split <;> rfl

@[simp] theorem failures_checkState (now : ℚ) : (b.checkState now).2.failures = b.failures := by
  unfold checkState
  split
  · split <;> rfl
  · rfl

/-- A check leads out of `DOWN` only, and only to `RECOVERING`. -/
theorem state_checkState (now : ℚ) : (b.checkState now).2.state = b.state ∨
    b.state = .down ∧ (b.checkState now).2.state = .recovering := by
  unfold checkState
  split
  · next hd =>
    split
    · exact Or.inr ⟨hd, rfl⟩
    · exact Or.inl rfl
  · exact Or.inl rfl

@[simp] theorem failures_healthChecked (healthy : Bool) : (b.healthChecked healthy).failures =
    if healthy = false ∧ b.state = .up then 1 else b.failures := by
  cases healthy <;> cases hb : b.state <;> simp [healthChecked, hb]

@[simp] theorem state_healthChecked (healthy : Bool) : (b.healthChecked healthy).state =
    if healthy ∧ (b.state = .down ∨ b.state = .degraded) then .recovering
    else if healthy = false ∧ b.state = .up then .degraded else b.state := by
  cases healthy <;> cases hb : b.state <;> simp [healthChecked, hb]

@[simp] theorem failureThreshold_step (e : ℚ × BreakerMove) :
    (b.step e).2.failureThreshold = b.failureThreshold := by
  rcases e with ⟨now, m⟩
  cases m with
  | checkState =>
    simp only [step, checkState]
    split
    · split <;> rfl
    · rfl
  | recordSuccess =>
    simp only [step, recordSuccess]
    split <;> rfl
  | recordFailure =>
    simp only [step, recordFailure]
    split <;> rfl
  | healthChecked healthy =>
    simp only [step, healthChecked]
    split
    · rfl
    · split <;> rfl
  | healthCheckRaised => rfl

end Step

end CircuitBreaker

/-! ### Requests and health checks as coroutines -/

/-- The operations of a request or a health check. -/
inductive BreakerOp where
  | move (m : BreakerMove)
  | getProxy (region : Option String)
  | healthCheck

/-- What each of them answers. -/
abbrev BreakerOp.Ans : BreakerOp → Type
  | .move _ => Unit
  | .getProxy _ => ProxyConfig
  | .healthCheck => Bool

/-- A coroutine that uses a breaker. -/
abbrev BreakerProg := Prog PyError BreakerOp.Ans

/-- `CircuitBreaker.get_proxy`; `src/asb_api/providers/health.py:30–43`. -/
def getProxy (region : Option String) : BreakerProg ProxyConfig := do
  let _ ← .perform (BreakerOp.move .checkState)
  let result ← Prog.attempt do
    let result ← .perform (BreakerOp.getProxy region)
    let _ ← .perform (BreakerOp.move .recordSuccess)
    pure result
  match result with
  | .ok result => pure result
  | .error e =>
    if isProviderFailure e then
      let _ ← .perform (BreakerOp.move .recordFailure)
      .raise e
    else .raise e

/-- One breaker in one iteration of `_check_loop`; `src/asb_api/providers/health.py:66–74`. -/
def checkBreaker : BreakerProg Unit := do
  let healthy ← Prog.attempt (.perform BreakerOp.healthCheck)
  match healthy with
  | .ok healthy => .perform (BreakerOp.move (.healthChecked healthy))
  | .error _ => .perform (BreakerOp.move .healthCheckRaised)

/-- Who uses a breaker: a call of `get_proxy`, or an iteration of the health loop. -/
inductive Actor where
  | request (region : Option String)
  | healthCheck

/-- What each of them runs. -/
def Actor.prog : Actor → BreakerProg (Option ProxyConfig)
  | .request region => do
    let proxy ← getProxy region
    pure (some proxy)
  | .healthCheck => do
    let _ ← checkBreaker
    pure none

/-! ### Interleavings -/

/-- What was done to a breaker so far, oldest first. -/
abbrev BreakerHistory := List (ℚ × BreakerMove)

/-- A breaker and its history. -/
structure Monitored where
  breaker : CircuitBreaker
  history : BreakerHistory

/-- The breaker makes a move. -/
def Monitored.move (s : Monitored) (now : ℚ) (m : BreakerMove) : Monitored :=
  ⟨(s.breaker.step (now, m)).2, s.history ++ [(now, m)]⟩

/-- A step of an actor. The provider answers as it likes or raises. -/
inductive BreakerExec : (o : BreakerOp) → Monitored → Except PyError o.Ans → Monitored → Prop
  | move {s : Monitored} {m : BreakerMove} (now : ℚ) :
      BreakerExec (.move m) s (s.breaker.step (now, m)).1 (s.move now m)
  | getProxy {s : Monitored} {region : Option String} (r : Except PyError ProxyConfig) :
      BreakerExec (.getProxy region) s r s
  | healthCheck {s : Monitored} (r : Except PyError Bool) : BreakerExec .healthCheck s r s

section Interleaving

variable {I : Type} [DecidableEq I]

/-- A breaker with its history, and what each actor has still to do. -/
abbrev Breakers (I : Type) :=
  Prog.Config PyError BreakerOp.Ans (Option ProxyConfig) I Monitored Unit

/-- A breaker and actors that have not started. -/
def startBreaker (b : CircuitBreaker) (actors : I → Actor) : Breakers I where
  shared := ⟨b, []⟩
  stage _ := ()
  prog i := (actors i).prog

/-- Any interleaving of the actors. -/
def BreakerReach : Breakers I → Breakers I → Prop :=
  Relation.ReflTransGen (Prog.Step (fun _ ↦ BreakerExec) Prog.Protocol.free)

/-- A breaker is what its history has made of it. -/
theorem breaker_eq_final {b : CircuitBreaker} {actors : I → Actor} {c : Breakers I}
    (hc : BreakerReach (startBreaker b actors) c) :
    c.shared.breaker = final CircuitBreaker.step b c.shared.history := by
  apply Prog.interleaving_state (J := fun s ↦ s.breaker = final CircuitBreaker.step b s.history)
    ?_ hc rfl
  intro s _ o r s' hs he
  cases he with
  | @move _ m now =>
    change (s.breaker.step (now, m)).2 = final _ _ (s.history ++ [(now, m)])
    rw [final_append, ← hs]
    rfl
  | getProxy => exact hs
  | healthCheck => exact hs

/-- What a coroutine meets that runs at one instant: the provider's proxy and its health. -/
def answering (now : ℚ) (proxy : Except PyError ProxyConfig) (healthy : Except PyError Bool) :
    (o : BreakerOp) → Monitored → Except PyError o.Ans × Monitored
  | .move m, s => ((s.breaker.step (now, m)).1, s.move now m)
  | .getProxy _, s => (proxy, s)
  | .healthCheck, s => (healthy, s)

/-- Actors may run one after the other. -/
theorem exists_breakerReach (b : CircuitBreaker) (actors : I → Actor) (now : I → ℚ)
    (proxy : I → Except PyError ProxyConfig) (healthy : I → Except PyError Bool) (is : List I)
    (hn : is.Nodup) : ∃ c, BreakerReach (startBreaker b actors) c ∧ c.shared =
      is.foldl (fun s i ↦
        (Prog.run (answering (now i) (proxy i) (healthy i)) (actors i).prog s).2) ⟨b, []⟩ := by
  apply Prog.reach_runs ?_ hn
  intro i o s
  cases o with
  | move m => exact .move (now i)
  | getProxy region => exact .getProxy (proxy i)
  | healthCheck => exact .healthCheck (healthy i)

end Interleaving

end AsbCloudApi.Providers
