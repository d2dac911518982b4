import AsbCloudApi.Providers.BreakerRuns
import Mathlib.Data.List.DropRight

/-!
# Breakers under one call after another

Library `Providers`. What `CircuitBreaker.get_proxy` does when calls do not overlap and no health
check runs. Its states, counter and timestamp then come to one rule about the answers that the
provider has given: a call is refused while enough failures have followed the last success and
the latest of them is recent.
-/

namespace AsbCloudApi.Providers

open Base Api

/-- A call of `get_proxy`: when it is made, and when and what the provider answers if asked. -/
structure BreakerCall where
  region : Option String
  start : ℚ
  answered : ℚ
  outcome : Except PyError ProxyConfig

/-- What a provider has answered, and when, oldest first. -/
abbrev Answers := List (ℚ × Except PyError ProxyConfig)

/-- A breaker and what its provider has answered. -/
structure Served where
  breaker : CircuitBreaker
  answers : Answers

/-- The operations of a call: the check when it is made, the rest when the provider has
answered. -/
def serving (c : BreakerCall) : (o : BreakerOp) → Served → Except PyError o.Ans × Served
  | .move .checkState, s =>
    ((s.breaker.checkState c.start).1, { s with breaker := (s.breaker.checkState c.start).2 })
  | .move m, s =>
    ((s.breaker.step (c.answered, m)).1, { s with breaker := (s.breaker.step (c.answered, m)).2 })
  | .getProxy _, s => (c.outcome, { s with answers := s.answers ++ [(c.answered, c.outcome)] })
  | .healthCheck, s => (.ok true, s)

/-- One call from start to end. -/
def serve (s : Served) (c : BreakerCall) : Except PyError ProxyConfig × Served :=
  Prog.run (serving c) (getProxy c.region) s

/-! ### The rule -/

/-- A failure that counts: `PoolExhaustedError` or `ProviderError`. -/
def counted (a : ℚ × Except PyError ProxyConfig) : Bool :=
  match a.2 with
  | .ok _ => false
  | .error e => isProviderFailure e

/-- Counted failures since the last success, or since the start. -/
def countedFailures (answers : Answers) : Nat :=
  (answers.rtakeWhile fun a ↦ !a.2.isOk).countP counted

/-- When the last counted failure came. -/
def lastCounted (answers : Answers) : Option ℚ := ((answers.filter counted).map Prod.fst).getLast?

/-- Enough failures have followed the last success, and the last of them is not further back than
the timeout. -/
def Refuses (threshold : Nat) (timeout : Int) (answers : Answers) (now : ℚ) : Prop :=
  threshold ≤ countedFailures answers ∧ ∃ t ∈ lastCounted answers, now - t ≤ timeout

theorem countedFailures_concat (answers : Answers) (a : ℚ × Except PyError ProxyConfig) :
    countedFailures (answers ++ [a]) =
      if a.2.isOk then 0 else countedFailures answers + (counted a).toNat := by
  unfold countedFailures
  rw [List.rtakeWhile_concat]
  cases hok : a.2.isOk with
  | true => simp
  | false => cases hc : counted a <;> simp [hc]

theorem lastCounted_concat (answers : Answers) (a : ℚ × Except PyError ProxyConfig) :
    lastCounted (answers ++ [a]) = if counted a then some a.1 else lastCounted answers := by
  unfold lastCounted
  rw [List.filter_append, List.map_append]
  cases hc : counted a <;> simp [hc]

/-! ### One call -/

/-- What the breaker records of an outcome. -/
def recordOutcome (b : CircuitBreaker) (c : BreakerCall) : CircuitBreaker :=
  match c.outcome with
  | .ok _ => b.recordSuccess
  | .error e => if isProviderFailure e then b.recordFailure c.answered else b

/-- A call that the check refuses ends there; any other one hands on what the provider answers. -/
theorem serve_eq (s : Served) (c : BreakerCall) : serve s c =
    match s.breaker.checkState c.start with
    | (.error e, b) => (.error e, ⟨b, s.answers⟩)
    | (.ok _, b) => (c.outcome, ⟨recordOutcome b c, s.answers ++ [(c.answered, c.outcome)]⟩) := by
  unfold serve getProxy
  rw [Prog.run_bind, Prog.run_perform, serving]
  rcases s.breaker.checkState c.start with ⟨e | u, b⟩
  · rfl
  · dsimp only
    rw [Prog.run_bind, Prog.run_attempt, Prog.run_bind, Prog.run_perform, serving]
    unfold recordOutcome
    cases c.outcome with
    | ok proxy => rfl
    | error e =>
      dsimp only
      split
      · rfl
      · rfl

/-! ### The breaker follows the rule -/

/-- The state says whether enough failures are counted, and if it is `RECOVERING`, that the timeout
has passed. -/
def Standing (b : CircuitBreaker) (now : ℚ) : Prop :=
  match b.state with
  | .up => b.failures < b.failureThreshold
  | .down => b.failureThreshold ≤ b.failures ∧ b.lastFailure.isSome
  | .recovering =>
    b.failureThreshold ≤ b.failures ∧ ∃ t ∈ b.lastFailure, b.recoveryTimeout < now - t
  | .degraded => False

/-- Counter and timestamp of the breaker are those of the answers, and its state suits them. -/
structure FollowsRule (name : String) (threshold : Nat) (timeout : Int) (s : Served) (now : ℚ) :
    Prop where
  name_eq : s.breaker.name = name
  threshold_eq : s.breaker.failureThreshold = threshold
  timeout_eq : s.breaker.recoveryTimeout = timeout
  failures_eq : s.breaker.failures = countedFailures s.answers
  lastFailure_eq : s.breaker.lastFailure = lastCounted s.answers
  positive : ∀ t ∈ s.breaker.lastFailure, 0 < t
  standing : Standing s.breaker now

/-- The exception of a call that the breaker refuses. -/
def downError (name : String) : PyError :=
  ⟨.poolExhaustedError, "Provider " ++ name ++ " is DOWN, try fallback"⟩

variable {name : String} {threshold : Nat} {timeout : Int} {s : Served} {now : ℚ}

theorem followsRule_newBreaker (h : 1 ≤ threshold) (now : ℚ) :
    FollowsRule name threshold timeout ⟨newBreaker name threshold timeout, []⟩ now where
  name_eq := rfl
  threshold_eq := rfl
  timeout_eq := rfl
  failures_eq := rfl
  lastFailure_eq := rfl
  positive _ ht := nomatch ht
  standing := h

/-- Only a `DOWN` breaker may be past its timeout without knowing it. -/
theorem Standing.mono {b : CircuitBreaker} {now' : ℚ} (h : Standing b now) (hle : now ≤ now') :
    Standing b now' := by
  unfold Standing at h ⊢
  cases hb : b.state with
  | recovering =>
    rw [hb] at h
    obtain ⟨hcount, t, ht, hpast⟩ := h
    exact ⟨hcount, t, ht, by linarith⟩
  | _ =>
    rw [hb] at h
    exact h

/-- Time may pass. -/
theorem FollowsRule.mono {now' : ℚ} (h : FollowsRule name threshold timeout s now)
    (hle : now ≤ now') : FollowsRule name threshold timeout s now' :=
  ⟨h.name_eq, h.threshold_eq, h.timeout_eq, h.failures_eq, h.lastFailure_eq, h.positive,
    h.standing.mono hle⟩

/-- The rule in terms of the breaker's own counter and timestamp. -/
theorem FollowsRule.refuses_iff (h : FollowsRule name threshold timeout s now) (t : ℚ) :
    Refuses threshold timeout s.answers t ↔ s.breaker.failureThreshold ≤ s.breaker.failures ∧
      ∃ l ∈ s.breaker.lastFailure, t - l ≤ s.breaker.recoveryTimeout := by
  rw [h.threshold_eq, h.failures_eq, h.lastFailure_eq, h.timeout_eq]
  exact Iff.rfl

/-- The check refuses a call by the rule, and then changes nothing. -/
theorem FollowsRule.check_refused (h : FollowsRule name threshold timeout s now) {t : ℚ}
    (hle : now ≤ t) (hr : Refuses threshold timeout s.answers t) :
    s.breaker.checkState t = (.error (downError name), s.breaker) := by
  obtain ⟨hcount, l, hl, hrecent⟩ := (h.refuses_iff t).mp hr
  have hstanding := h.standing.mono hle
  unfold Standing at hstanding
  have hdown : s.breaker.state = .down := by
    cases hb : s.breaker.state with
    | up =>
      rw [hb] at hstanding
      exact absurd hcount (not_le.mpr hstanding)
    | degraded =>
      rw [hb] at hstanding
      cases hstanding
    | down => rfl
    | recovering =>
      rw [hb] at hstanding
      obtain ⟨-, l', hl', hpast⟩ := hstanding
      obtain rfl := Option.some.inj (hl.symm.trans hl')
      exact absurd hrecent (not_le.mpr hpast)
  have htimed : s.breaker.timedOut t = false := by
    unfold CircuitBreaker.timedOut
    rw [hl, Option.any_some, decide_eq_false_iff_not]
    exact fun hboth ↦ absurd hrecent (not_le.mpr hboth.2)
  unfold CircuitBreaker.checkState downError
  rw [if_pos hdown, htimed, h.name_eq]
  rfl

/-- Otherwise the check lets the call through, and the breaker is not `DOWN` then. -/
theorem FollowsRule.check_forwarded (h : FollowsRule name threshold timeout s now) {t : ℚ}
    (hle : now ≤ t) (hr : ¬ Refuses threshold timeout s.answers t) :
    ∃ b, s.breaker.checkState t = (.ok (), b) ∧ b.state ≠ .down ∧
      FollowsRule name threshold timeout ⟨b, s.answers⟩ t := by
  rw [h.refuses_iff] at hr
  have hstanding := h.standing.mono hle
  unfold CircuitBreaker.checkState
  by_cases hdown : s.breaker.state = .down
  · unfold Standing at hstanding
    rw [hdown] at hstanding
    obtain ⟨hcount, hsome⟩ := hstanding
    obtain ⟨l, hl⟩ := Option.isSome_iff_exists.mp hsome
    have hpast : s.breaker.recoveryTimeout < t - l := by
      by_contra hrecent
      exact hr ⟨hcount, l, hl, not_lt.mp hrecent⟩
    have htimed : s.breaker.timedOut t = true := by
      unfold CircuitBreaker.timedOut
      rw [hl, Option.any_some, decide_eq_true_eq]
      exact ⟨(h.positive l hl).ne', hpast⟩
    refine ⟨{ s.breaker with state := .recovering }, ?_, ?_, ?_⟩
    · rw [if_pos hdown, if_pos htimed]
    · rintro ⟨⟩
    · exact ⟨h.name_eq, h.threshold_eq, h.timeout_eq, h.failures_eq, h.lastFailure_eq, h.positive,
        hcount, l, hl, hpast⟩
  · refine ⟨s.breaker, if_neg hdown, hdown, ?_⟩
    exact ⟨h.name_eq, h.threshold_eq, h.timeout_eq, h.failures_eq, h.lastFailure_eq, h.positive,
      hstanding⟩

/-- Recording an outcome leaves the settings alone. -/
theorem settings_recordOutcome (b : CircuitBreaker) (c : BreakerCall) :
    (recordOutcome b c).name = b.name ∧
      (recordOutcome b c).failureThreshold = b.failureThreshold ∧
      (recordOutcome b c).recoveryTimeout = b.recoveryTimeout := by
  unfold recordOutcome CircuitBreaker.recordSuccess CircuitBreaker.recordFailure
  dsimp only
  split
  · split <;> exact ⟨rfl, rfl, rfl⟩
  · split
    · split <;> exact ⟨rfl, rfl, rfl⟩
    · exact ⟨rfl, rfl, rfl⟩

/-- A success closes a breaker that is not `DOWN`. -/
theorem Standing.recordSuccess {b : CircuitBreaker} (h : Standing b now) (hup : b.state ≠ .down)
    (hthreshold : 1 ≤ b.failureThreshold) (now' : ℚ) : Standing b.recordSuccess now' := by
  have hstate : b.recordSuccess.state = .up := by
    rw [CircuitBreaker.state_recordSuccess]
    unfold Standing at h
    cases hb : b.state with
    | up => rfl
    | recovering => rfl
    | down => exact absurd hb hup
    | degraded =>
      rw [hb] at h
      cases h
  have hkept : b.recordSuccess.failureThreshold = b.failureThreshold :=
    CircuitBreaker.failureThreshold_step b (now', .recordSuccess)
  unfold Standing
  rw [hstate]
  dsimp only
  rw [CircuitBreaker.failures_recordSuccess, hkept]
  exact hthreshold

/-- A failure opens it, unless there are fewer than the threshold. -/
theorem Standing.recordFailure {b : CircuitBreaker} (h : Standing b now) (hup : b.state ≠ .down)
    (t now' : ℚ) : Standing (b.recordFailure t) now' := by
  unfold Standing
  rw [CircuitBreaker.state_recordFailure, CircuitBreaker.failures_recordFailure,
    CircuitBreaker.lastFailure_recordFailure, failureThreshold_recordFailure]
  by_cases hcount : b.failureThreshold ≤ b.failures + 1
  · rw [if_pos hcount]
    exact ⟨hcount, rfl⟩
  · rw [if_neg hcount]
    -- fewer failures than the threshold leave the breaker `UP`
    unfold Standing at h
    cases hb : b.state with
    | up => exact not_le.mp hcount
    | down => exact absurd hb hup
    | recovering =>
      rw [hb] at h
      have hmany := h.1
      omega
    | degraded =>
      rw [hb] at h
      cases h

/-- The breaker keeps to the rule when the outcome of a call is recorded. -/
theorem FollowsRule.record (h : FollowsRule name threshold timeout s now)
    (hup : s.breaker.state ≠ .down) (hthreshold : 1 ≤ threshold) {c : BreakerCall}
    (hle : now ≤ c.answered) (hpos : 0 < c.answered) : FollowsRule name threshold timeout
      ⟨recordOutcome s.breaker c, s.answers ++ [(c.answered, c.outcome)]⟩ c.answered := by
  obtain ⟨hname, hthr, htime⟩ := settings_recordOutcome s.breaker c
  rw [h.name_eq] at hname
  rw [h.threshold_eq] at hthr
  rw [h.timeout_eq] at htime
  cases ho : c.outcome with
  | ok proxy =>
    have hrec : recordOutcome s.breaker c = s.breaker.recordSuccess := by
      rw [recordOutcome, ho]
    have hlast : s.breaker.recordSuccess.lastFailure = s.breaker.lastFailure :=
      lastFailure_step s.breaker (c.answered, .recordSuccess)
    rw [← h.threshold_eq] at hthreshold
    rw [hrec] at hname hthr htime ⊢
    refine ⟨hname, hthr, htime, ?_, ?_, ?_, h.standing.recordSuccess hup hthreshold _⟩
    · rw [countedFailures_concat, CircuitBreaker.failures_recordSuccess]
      rfl
    · rw [lastCounted_concat, hlast, h.lastFailure_eq]
      rfl
    · rw [hlast]
      exact h.positive
  | error e =>
    cases he : isProviderFailure e with
    | true =>
      have hrec : recordOutcome s.breaker c = s.breaker.recordFailure c.answered := by
        simp only [recordOutcome, ho, he, if_true]
      rw [hrec] at hname hthr htime ⊢
      refine ⟨hname, hthr, htime, ?_, ?_, ?_, h.standing.recordFailure hup _ _⟩
      · rw [countedFailures_concat, CircuitBreaker.failures_recordFailure, h.failures_eq]
        simp [counted, he, Except.isOk, Except.toBool]
      · rw [lastCounted_concat, CircuitBreaker.lastFailure_recordFailure]
        simp [counted, he]
      · rintro t ht
        rw [CircuitBreaker.lastFailure_recordFailure] at ht
        rwa [← Option.some.inj ht]
    | false =>
      have hrec : recordOutcome s.breaker c = s.breaker := by
        simp only [recordOutcome, ho, he, Bool.false_eq_true, if_false]
      rw [hrec] at hname hthr htime ⊢
      refine ⟨hname, hthr, htime, ?_, ?_, h.positive, h.standing.mono hle⟩
      · rw [countedFailures_concat, h.failures_eq]
        simp [counted, he, Except.isOk, Except.toBool]
      · rw [lastCounted_concat, h.lastFailure_eq]
        simp [counted, he]

/-! ### Runs of calls -/

/-- The calls do not overlap, and the clock is positive. -/
structure OneAfterAnother (calls : List BreakerCall) : Prop where
  ordered : calls.Pairwise fun c d ↦ c.answered ≤ d.start
  clock : ∀ c ∈ calls, 0 < c.start ∧ c.start ≤ c.answered

/-- What a call does by the rule: it is refused without the provider being asked, or the provider
is asked once and its answer handed on. -/
def AnswersByRule (name : String) (threshold : Nat) (timeout : Int) (s : Served)
    (c : BreakerCall) : Prop :=
  (Refuses threshold timeout s.answers c.start →
    serve s c = (.error (downError name), s)) ∧
  (¬ Refuses threshold timeout s.answers c.start →
    (serve s c).1 = c.outcome ∧ (serve s c).2.answers = s.answers ++ [(c.answered, c.outcome)])

/-- A call keeps the breaker to the rule. -/
theorem FollowsRule.serve (h : FollowsRule name threshold timeout s now)
    (hthreshold : 1 ≤ threshold) {c : BreakerCall} (hle : now ≤ c.start)
    (hc : 0 < c.start ∧ c.start ≤ c.answered) :
    AnswersByRule name threshold timeout s c ∧
      FollowsRule name threshold timeout (serve s c).2 c.answered := by
  by_cases hr : Refuses threshold timeout s.answers c.start
  · have hserve : Providers.serve s c = (.error (downError name), s) := by
      rw [serve_eq, h.check_refused hle hr]
    refine ⟨⟨fun _ ↦ hserve, fun hn ↦ absurd hr hn⟩, ?_⟩
    rw [hserve]
    exact h.mono (hle.trans hc.2)
  · obtain ⟨b, hcheck, hup, hb⟩ := h.check_forwarded hle hr
    have hserve : Providers.serve s c =
        (c.outcome, ⟨recordOutcome b c, s.answers ++ [(c.answered, c.outcome)]⟩) := by
      rw [serve_eq, hcheck]
    rw [AnswersByRule, hserve]
    refine ⟨⟨fun hyes ↦ absurd hyes hr, fun _ ↦ ⟨rfl, rfl⟩⟩, ?_⟩
    exact hb.record hup hthreshold hc.2 (hc.1.trans_le hc.2)

/-- After a run of calls the breaker keeps to the rule. -/
theorem FollowsRule.run {calls : List BreakerCall} (h : FollowsRule name threshold timeout s now)
    (hthreshold : 1 ≤ threshold) (hcalls : OneAfterAnother calls)
    (hlo : ∀ c ∈ calls, now ≤ c.start) {now' : ℚ} (hhi : ∀ c ∈ calls, c.answered ≤ now')
    (hle : now ≤ now') :
    FollowsRule name threshold timeout (final Providers.serve s calls) now' := by
  induction calls generalizing s now with
  | nil => exact h.mono hle
  | cons c calls ih =>
    obtain ⟨hfirst, hrest⟩ := List.pairwise_cons.mp hcalls.ordered
    have hclock := hcalls.clock c List.mem_cons_self
    have hstep := (h.serve hthreshold (hlo c List.mem_cons_self) hclock).2
    exact ih hstep ⟨hrest, fun d hd ↦ hcalls.clock d (List.mem_cons_of_mem _ hd)⟩ hfirst
      (fun d hd ↦ hhi d (List.mem_cons_of_mem _ hd)) (hhi c List.mem_cons_self)

/-- In every run of calls one after another, a new breaker answers each of them by the rule. -/
theorem getProxy_answersByRule (name : String) {threshold : Nat} (hthreshold : 1 ≤ threshold)
    (timeout : Int) {calls : List BreakerCall} (hcalls : OneAfterAnother calls)
    {before after : List BreakerCall} {c : BreakerCall} (hsplit : calls = before ++ c :: after) :
    AnswersByRule name threshold timeout
      (final Providers.serve ⟨newBreaker name threshold timeout, []⟩ before) c := by
  subst hsplit
  obtain ⟨hbefore, -, hcross⟩ := List.pairwise_append.mp hcalls.ordered
  have hclock := hcalls.clock c (List.mem_append_right _ List.mem_cons_self)
  have hlo : ∀ d ∈ before, 0 ≤ d.start := fun d hd ↦
    (hcalls.clock d (List.mem_append_left _ hd)).1.le
  have hnew : FollowsRule name threshold timeout ⟨newBreaker name threshold timeout, []⟩ 0 :=
    followsRule_newBreaker hthreshold 0
  have hrun := hnew.run hthreshold
    ⟨hbefore, fun d hd ↦ hcalls.clock d (List.mem_append_left _ hd)⟩ hlo
    (fun d hd ↦ hcross d hd c List.mem_cons_self) hclock.1.le
  exact (hrun.serve hthreshold le_rfl hclock).1

private def noProxy : Except PyError ProxyConfig := .error ⟨.providerError, "no proxy"⟩

private def afterMinute : BreakerCall :=
  ⟨none, 64, 65, .ok { host := "proxy.example", port := 8080 }⟩

private def twoFailures : List BreakerCall := [⟨none, 1, 2, noProxy⟩, ⟨none, 3, 4, noProxy⟩]

/-- Two failures open the breaker for a minute. -/
theorem getProxy_answersByRule_sample :
    (serve (final serve ⟨newBreaker "decodo" 2 60, []⟩ twoFailures) afterMinute).1 =
      .error (downError "decodo") := by
  have hcalls : OneAfterAnother (twoFailures ++ afterMinute :: []) := ⟨by decide, by decide⟩
  have hrule := getProxy_answersByRule "decodo" (show 1 ≤ 2 from by decide) 60 hcalls rfl
  rw [hrule.1 ⟨by decide, 4, rfl, by decide +kernel⟩]

end AsbCloudApi.Providers
