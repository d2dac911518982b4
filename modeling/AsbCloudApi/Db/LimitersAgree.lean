import AsbCloudApi.Db.RateLimiter

/-!
# The two rate limiters on one history

Library `Db`. Both limiters of `src/docs/REDIS_RATE_LIMITING.md` count the units of a sliding
window. The in-memory one keeps a unit that is exactly `window_seconds` old, the query of the
PostgreSQL one (`created_at > $2`) drops it. Each answer is one verdict on the units the
limiter counts, so the two differ only through units on the window's edge.
-/

namespace AsbCloudApi.Db

open Base Api

/-- The answer to a request of `n` units when the units that count are those of `live`. -/
def verdict (M : Int) (W now : ℚ) (n : Int) (live : List ℚ) :
    Except RateLimitExceeded CheckResult :=
  if M - live.length < n then
    .error ⟨M, max 0 (M - live.length), pyInt (live.head?.getD now + W)⟩
  else .ok ⟨true, M - live.length - n, pyInt (now + W)⟩

/-- The in-memory limiter gives the verdict on what its eviction leaves. -/
theorem memory_eq_verdict {s : SlidingWindowLimiter} {k tier : String} {M : Int} {W : ℚ}
    (hl : getLimits s.limitsByTier tier = (M, W)) (hM : M ≠ -1) (count : Int) (now : ℚ) :
    (s.checkMany k tier count now).1 =
      verdict M W now (max 1 count) (Window.evict (now - W) (s.window k)) := by
  have hlen : (((max 1 count).toNat : Nat) : Int) = max 1 count :=
    Int.toNat_of_nonneg (by omega)
  unfold SlidingWindowLimiter.checkMany verdict
  simp only [hl, hM, if_false]
  by_cases hr : M - ((Window.evict (now - W) (s.window k)).length : Int) < max 1 count
  · simp only [hr, if_true]
  · simp only [hr, if_false, List.length_append, List.length_replicate, Nat.cast_add, hlen,
      sub_add_eq_sub_sub]

/-- The instants of the rows of a key, in the order of the table. -/
def stamps (db : UsageDb) (k : String) : List ℚ :=
  (db.usageRecords.filter (fun r ↦ r.keyId = k)).map UsageRecord.createdAt

private theorem stamps_newer (db : UsageDb) (k : String) (cutoff : ℚ) :
    (db.usageRecords.filter (fun r ↦ decide (r.keyId = k ∧ cutoff < r.createdAt))).map
      UsageRecord.createdAt = (stamps db k).filter (fun a ↦ decide (cutoff < a)) := by
  rw [stamps, List.filter_map, List.filter_filter]
  congr 1
  apply List.filter_congr
  intro r _
  simp [Bool.and_comm]

/-- The count query counts the later units of the log. -/
theorem countNewer_eq_length {db : UsageDb} {k : String} {log : List ℚ}
    (h : (stamps db k).Perm log) (cutoff : ℚ) :
    countNewer db k cutoff = (log.filter (fun a ↦ decide (cutoff < a))).length := by
  rw [countNewer, List.countP_eq_length_filter, ← List.length_map UsageRecord.createdAt,
    stamps_newer]
  exact (h.filter _).length_eq

/-- The ordered query returns the first of the later units of a sorted log. -/
theorem oldestNewer_eq_head {db : UsageDb} {k : String} {log : List ℚ}
    (h : (stamps db k).Perm log) (hsorted : log.Pairwise (· ≤ ·)) (cutoff : ℚ) :
    oldestNewer db k cutoff = (log.filter (fun a ↦ decide (cutoff < a))).head? := by
  have hperm := h.filter (fun a ↦ decide (cutoff < a))
  have hlater := hsorted.filter (fun a ↦ decide (cutoff < a))
  rw [oldestNewer, stamps_newer]
  revert hperm hlater
  generalize log.filter (fun a ↦ decide (cutoff < a)) = newer
  intro hperm hlater
  cases newer with
  | nil => rw [hperm.eq_nil, List.head?_nil, List.min?_nil]
  | cons a newer =>
    rw [List.head?_cons, List.min?_eq_some_iff]
    constructor
    · exact hperm.mem_iff.mpr (by simp)
    · intro b hb
      rcases List.mem_cons.mp (hperm.mem_iff.mp hb) with rfl | hb
      · exact le_rfl
      · exact (List.pairwise_cons.mp hlater).1 b hb

/-- Without overage only the window decides. -/
theorem checkMany_eq_checkWindow {limitsByTier : Dict String TierCfg} {db : UsageDb}
    {env : PostgresRateLimiter.CheckEnv} {k tier : String} {M : Int} {W : ℚ}
    (hl : getLimits limitsByTier tier = (M, W))
    (hover : ∀ n cost, env.overage ≠ some (true, n, cost)) (count : Int) (now : ℚ) :
    PostgresRateLimiter.checkMany limitsByTier db env k tier count now =
      PostgresRateLimiter.checkWindow db env k M W (max 1 count) now := by
  unfold PostgresRateLimiter.checkMany
  rw [hl]
  rcases ho : env.overage with _ | ⟨_ | _, n, cost⟩
  · rfl
  · rfl
  · exact absurd ho (hover n cost)

/-- With the lock and no overage, the PostgreSQL limiter gives the verdict on the units later
than the cutoff. -/
theorem postgres_eq_verdict {limitsByTier : Dict String TierCfg} {db : UsageDb}
    {env : PostgresRateLimiter.CheckEnv} {k tier : String} {M : Int} {W : ℚ} {log : List ℚ}
    (hl : getLimits limitsByTier tier = (M, W)) (hM : M ≠ -1)
    (hlock : (env.lockFirst || env.lockSecond) = true)
    (hover : ∀ n cost, env.overage ≠ some (true, n, cost)) (count : Int) (now : ℚ)
    (hrows : (stamps db k).Perm log) (hsorted : log.Pairwise (· ≤ ·)) :
    PostgresRateLimiter.checkMany limitsByTier db env k tier count now =
      (verdict M W now (max 1 count) (log.filter (fun a ↦ decide (now - W < a)))).mapError
        .rateLimitExceeded := by
  have hheld : (!env.lockFirst && !env.lockSecond) = false := by
    rw [← Bool.not_or, hlock, Bool.not_true]
  rw [checkMany_eq_checkWindow hl hover, PostgresRateLimiter.checkWindow, if_neg hM, hheld]
  dsimp only
  rw [countNewer_eq_length hrows, oldestNewer_eq_head hrows hsorted]
  generalize log.filter (fun a ↦ decide (now - W < a)) = newer
  simp only [verdict, Bool.false_eq_true, if_false]
  have hone : 1 ≤ max 1 count := le_max_left 1 count
  by_cases hfull : M ≤ (newer.length : Int)
  · rw [if_pos hfull, if_pos (by omega), max_eq_left (by omega)]
    cases newer <;> rfl
  · rw [if_neg hfull]
    by_cases hroom : M - (newer.length : Int) < max 1 count
    · rw [if_pos hroom, if_pos hroom]
      cases newer <;> rfl
    · rw [if_neg hroom, if_neg hroom, max_eq_right (by omega)]
      rfl

/-- One history of a key in both limiters: its queue serves the window that ends now, and its
rows carry the instants of the same admitted units. -/
structure SameHistory (s : SlidingWindowLimiter) (db : UsageDb) (k : String) (W now : ℚ)
    (log : List ℚ) : Prop where
  queue : Window.Tracks W now (s.window k) log
  rows : (stamps db k).Perm log

/-- A limited key has one history in both when every unit a run admitted has its row. -/
theorem sameHistory_final (limits : Dict String TierCfg) (k tier : String) {M : Int} {W now : ℚ}
    (hl : getLimits limits tier = (M, W)) (hM : 0 ≤ M) (cs : List SlidingWindowLimiter.Call)
    (htier : ∀ c ∈ cs, c.keyId = k → c.tier = tier)
    (hsorted : cs.Pairwise (fun c d ↦ c.now ≤ d.now)) (hnow : ∀ c ∈ cs, c.now ≤ now)
    (db : UsageDb)
    (hrows : (stamps db k).Perm ((SlidingWindowLimiter.new limits).admitted cs k)) :
    SameHistory (final SlidingWindowLimiter.step (SlidingWindowLimiter.new limits) cs) db k W now
      ((SlidingWindowLimiter.new limits).admitted cs k) :=
  ⟨(SlidingWindowLimiter.keyInv_final hl hM htier hsorted hnow).tracks, hrows⟩

/-- The units on the window's edge decide nothing: the tier is unlimited; or there are none;
or the later units fill the limit by themselves, and the oldest of them (now, if there is none)
leaves the window within the current second. -/
def EdgeIdle (M : Int) (W now : ℚ) (log : List ℚ) : Prop :=
  let newer := log.filter (fun a ↦ decide (now - W < a))
  M = -1 ∨ now - W ∉ log ∨ M ≤ newer.length ∧ pyInt now = pyInt (newer.head?.getD now + W)

private theorem verdict_edge_iff {M : Int} {W now : ℚ} {n : Int} (hn : 1 ≤ n) {e : Nat}
    (he : 0 < e) (newer : List ℚ) :
    verdict M W now n newer = verdict M W now n (List.replicate e (now - W) ++ newer) ↔
      M ≤ newer.length ∧ pyInt now = pyInt (newer.head?.getD now + W) := by
  have hhead : (List.replicate e (now - W) ++ newer).head?.getD now + W = now := by
    obtain ⟨d, rfl⟩ : ∃ d, e = d + 1 := ⟨e - 1, by omega⟩
    rw [List.replicate_succ, List.cons_append, List.head?_cons, Option.getD_some, sub_add_cancel]
  have hlen : ((List.replicate e (now - W) ++ newer).length : Int) = e + newer.length := by
    rw [List.length_append, List.length_replicate, Nat.cast_add]
  unfold verdict
  rw [hhead, hlen]
  by_cases hroom : M - (newer.length : Int) < n
  · -- Both refuse; the edge units take away room that the first still reports.
    rw [if_pos hroom, if_pos (by omega), Except.error.injEq, RateLimitExceeded.mk.injEq]
    constructor
    · rintro ⟨_, hrem, hreset⟩
      exact ⟨by omega, hreset.symm⟩
    · rintro ⟨hfull, hreset⟩
      exact ⟨rfl, by omega, hreset.symm⟩
  · -- The first admits, and leaves room that the edge units take away.
    have hnot : ¬ M ≤ (newer.length : Int) := by omega
    simp only [hnot, false_and, iff_false]
    rw [if_neg hroom]
    intro heq
    split at heq
    · cases heq
    · rw [Except.ok.injEq, CheckResult.mk.injEq] at heq
      omega

private theorem mapError_injective {α ε ε' : Type} {f : ε → ε'} (hf : Function.Injective f)
    {x y : Except ε α} : x.mapError f = y.mapError f ↔ x = y := by
  cases x with
  | error e =>
    cases y with
    | error e' => simp [Except.mapError, hf.eq_iff]
    | ok a => simp [Except.mapError]
  | ok a =>
    cases y with
    | error e => simp [Except.mapError]
    | ok b => simp [Except.mapError]

/-- On one history of a key, with the lock free and no overage, the two limiters give one answer
exactly when the units on the window's edge decide nothing. -/
theorem limitersAgree_iff_edgeIdle (limits : Dict String TierCfg) (s : SlidingWindowLimiter)
    (hs : s.limitsByTier = limits) (db : UsageDb) (env : PostgresRateLimiter.CheckEnv)
    (hlock : (env.lockFirst || env.lockSecond) = true)
    (hover : ∀ n cost, env.overage ≠ some (true, n, cost)) (k tier : String) (count : Int)
    (now : ℚ) (log : List ℚ)
    (h : (getLimits limits tier).1 ≠ -1 →
      SameHistory s db k (getLimits limits tier).2 now log) :
    PostgresRateLimiter.checkMany limits db env k tier count now =
        (s.checkMany k tier count now).1.mapError .rateLimitExceeded ↔
      EdgeIdle (getLimits limits tier).1 (getLimits limits tier).2 now log := by
  subst hs
  rcases hl : getLimits s.limitsByTier tier with ⟨M, W⟩
  rw [hl] at h
  dsimp only at h ⊢
  by_cases hM : M = -1
  · subst hM
    have hmemory : (s.checkMany k tier count now).1 = .ok ⟨true, -1, 0⟩ := by
      rw [SlidingWindowLimiter.checkMany, hl]
      rfl
    have hpostgres : PostgresRateLimiter.checkMany s.limitsByTier db env k tier count now =
        .ok ⟨true, -1, 0⟩ := checkMany_eq_checkWindow hl hover count now
    rw [hmemory, hpostgres]
    exact ⟨fun _ ↦ .inl rfl, fun _ ↦ rfl⟩
  · obtain ⟨hqueue, hrows⟩ := h hM
    rw [postgres_eq_verdict hl hM hlock hover count now hrows hqueue.sorted,
      memory_eq_verdict hl hM, hqueue.evict_eq,
      Window.filter_le_eq_replicate_append _ _ hqueue.sorted,
      mapError_injective (fun _ _ h ↦ LimitError.rateLimitExceeded.inj h)]
    unfold EdgeIdle
    by_cases hedge : now - W ∈ log
    · rw [verdict_edge_iff (le_max_left 1 count) (List.count_pos_iff.mpr hedge)]
      simp [hM, hedge]
    · rw [List.count_eq_zero_of_not_mem hedge, List.replicate_zero, List.nil_append]
      simp [hedge]

private def edgeLimits : Dict String TierCfg := Dict.ofList [("free", ⟨some 1, some 10⟩)]

private def edgeDb : UsageDb :=
  ⟨["key_a"], [⟨"key_a", "req_1", none, "success", 5, false, none, 0⟩]⟩

private def edgeEnv : PostgresRateLimiter.CheckEnv := ⟨none, true, false⟩

/-- One unit admitted at 0 under a limit of one in ten seconds. -/
private def edgeLimiter : SlidingWindowLimiter :=
  final SlidingWindowLimiter.step (.new edgeLimits) [.check "key_a" "free" 0]

private theorem edgeLimiter_admitted :
    (SlidingWindowLimiter.new edgeLimits).admitted [.check "key_a" "free" 0] "key_a" = [0] := by
  decide +kernel

private theorem edge_sameHistory {now : ℚ} (hnow : 0 ≤ now) :
    SameHistory edgeLimiter edgeDb "key_a" 10 now [0] := by
  have hl : getLimits edgeLimits "free" = (1, 10) := by decide +kernel
  have h := sameHistory_final edgeLimits "key_a" "free" hl (by decide) [.check "key_a" "free" 0]
    (by simp [SlidingWindowLimiter.Call.tier]) (by simp)
    (by simpa [SlidingWindowLimiter.Call.now] using hnow) edgeDb
    (by rw [edgeLimiter_admitted]; decide +kernel)
  rw [edgeLimiter_admitted] at h
  exact h

/-- Eleven seconds after the only unit both limiters admit alike. -/
theorem limitersAgree_iff_edgeIdle_sample :
    PostgresRateLimiter.checkMany edgeLimits edgeDb edgeEnv "key_a" "free" 1 11 =
      (edgeLimiter.checkMany "key_a" "free" 1 11).1.mapError .rateLimitExceeded := by
  refine (limitersAgree_iff_edgeIdle edgeLimits edgeLimiter rfl edgeDb edgeEnv
    (by decide) (by simp [edgeEnv]) "key_a" "free" 1 11 [0] ?_).mpr ?_
  · intro _
    exact edge_sameHistory (by decide +kernel)
  · exact .inr (.inl (by decide +kernel))

/-- Ten seconds after the only unit the in-memory limiter refuses, the PostgreSQL one admits. -/
theorem not_limitersAgree :
    SameHistory edgeLimiter edgeDb "key_a" 10 10 [0] ∧
    PostgresRateLimiter.checkMany edgeLimits edgeDb edgeEnv "key_a" "free" 1 10 =
      .ok ⟨true, 0, 20⟩ ∧
    (edgeLimiter.checkMany "key_a" "free" 1 10).1 = .error ⟨1, 0, 10⟩ :=
  ⟨edge_sameHistory (by decide +kernel), by decide +kernel, by decide +kernel⟩

end AsbCloudApi.Db
