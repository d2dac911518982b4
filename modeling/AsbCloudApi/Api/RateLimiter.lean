import AsbCloudApi.Api.Errors
import AsbCloudApi.Base.Run
import AsbCloudApi.Base.Window
import Mathlib.Algebra.Order.Ring.Rat

/-!
# In-memory sliding-window rate limiter

Library `Api`. Models `src/asb_api/api/rate_limiter.py`. Instants are exact rationals.
The critical section holds no `await`, so a call is one step. The limiter
refines the exact log: it admits a call exactly when the units already admitted for the
key in the closed window leave room, whatever other keys do in between.
-/

namespace AsbCloudApi.Api

open Base

/-- One tier of the `rate_limits` configuration; absent entries take defaults on use. -/
structure TierCfg where
  requests : Option Int
  windowSeconds : Option ℚ

/-- `RateLimitExceeded.__init__` arguments; `src/asb_api/api/rate_limiter.py:23–24`. -/
structure RateLimitExceeded where
  limit : Int
  remaining : Int
  resetAt : Int
  deriving DecidableEq

/-- The exception FastAPI sees; `src/asb_api/api/rate_limiter.py:25–39`. -/
def RateLimitExceeded.toHTTP (e : RateLimitExceeded) : HTTPException where
  statusCode := 429
  detail := .dict (Dict.ofList
    [("error_code", .str "RATE_LIMIT_EXCEEDED"), ("message", .str "Rate limit reached"),
      ("limit", .int e.limit), ("remaining", .int e.remaining), ("reset_at", .int e.resetAt)])
  headers := Dict.ofList
    [("X-RateLimit-Limit", toString e.limit), ("X-RateLimit-Remaining", toString e.remaining),
      ("X-RateLimit-Reset", toString e.resetAt)]

/-- `OverageLimitExceeded`; `src/asb_api/api/rate_limiter.py:42–51`. -/
def OverageLimitExceeded (overageCostUsd : ℚ) : HTTPException where
  statusCode := 402
  detail := .dict (Dict.ofList
    [("error_code", .str "OVERAGE_LIMIT_EXCEEDED"),
      ("message", .str "Usage limit exceeded. Upgrade or pay overage."),
      ("overage_cost_usd", .float overageCostUsd)])
  headers := Dict.empty

/-- The tuple `(allowed, remaining, reset_at)` of an admitted call. -/
structure CheckResult where
  allowed : Bool
  remaining : Int
  resetAt : Int
  deriving DecidableEq

/-- `_get_limits`, shared by both limiters: an unknown tier reads the `free` entry, a missing
entry or field its default; `src/asb_api/api/rate_limiter.py:60–64`. -/
def getLimits (limitsByTier : Dict String TierCfg) (tier : String) : Int × ℚ :=
  let tierCfg := (limitsByTier.get? tier).getD ((limitsByTier.get? "free").getD ⟨none, none⟩)
  (tierCfg.requests.getD 500, tierCfg.windowSeconds.getD 3600)

/-- `SlidingWindowLimiter`: configuration and one queue of instants for each key, oldest first;
`src/asb_api/api/rate_limiter.py:54–58`. -/
structure SlidingWindowLimiter where
  limitsByTier : Dict String TierCfg
  windows : Dict String (List ℚ)

namespace SlidingWindowLimiter

/-- `SlidingWindowLimiter.__init__`. -/
def new (limitsByTier : Dict String TierCfg) : SlidingWindowLimiter := ⟨limitsByTier, Dict.empty⟩

/-- The queue of a key; a key without one gets an empty queue on first use. -/
def window (s : SlidingWindowLimiter) (keyId : String) : List ℚ :=
  (s.windows.get? keyId).getD []

/-- `check_many`; `src/asb_api/api/rate_limiter.py:69–95`. The queue is evicted before the
decision, so a rejected call evicts too. -/
def checkMany (s : SlidingWindowLimiter) (keyId tier : String) (count : Int) (now : ℚ) :
    Except RateLimitExceeded CheckResult × SlidingWindowLimiter :=
  let (maxRequests, windowSeconds) := getLimits s.limitsByTier tier
  if maxRequests = -1 then (.ok ⟨true, -1, 0⟩, s) else
    let count := max 1 count
    let cutoff := now - windowSeconds
    let window := Window.evict cutoff (s.window keyId)
    let remainingBefore := maxRequests - window.length
    if remainingBefore < count then
      let resetBase := window.head?.getD now
      (.error ⟨maxRequests, max 0 remainingBefore, pyInt (resetBase + windowSeconds)⟩,
        { s with windows := s.windows.set keyId window })
    else
      let window := window ++ List.replicate count.toNat now
      (.ok ⟨true, maxRequests - window.length, pyInt (now + windowSeconds)⟩,
        { s with windows := s.windows.set keyId window })

/-- `check`; `src/asb_api/api/rate_limiter.py:66–67`. -/
def check (s : SlidingWindowLimiter) (keyId tier : String) (now : ℚ) :
    Except RateLimitExceeded CheckResult × SlidingWindowLimiter :=
  s.checkMany keyId tier 1 now

/-- A call of the limiter with the clock reading it takes. -/
inductive Call where
  | check (keyId tier : String) (now : ℚ)
  | checkMany (keyId tier : String) (count : Int) (now : ℚ)

/-- The key a call is made for. -/
def Call.keyId : Call → String
  | .check k _ _ => k
  | .checkMany k _ _ _ => k

/-- The tier a call is made under. -/
def Call.tier : Call → String
  | .check _ t _ => t
  | .checkMany _ t _ _ => t

/-- The clock reading of a call. -/
def Call.now : Call → ℚ
  | .check _ _ t => t
  | .checkMany _ _ _ t => t

/-- The units a call asks for: `max(1, count)`. -/
def Call.units : Call → Int
  | .check _ _ _ => 1
  | .checkMany _ _ n _ => max 1 n

/-- Run one call. -/
def step (s : SlidingWindowLimiter) :
    Call → Except RateLimitExceeded CheckResult × SlidingWindowLimiter
  | .check k tier now => s.check k tier now
  | .checkMany k tier n now => s.checkMany k tier n now

/-- Units a run admits, each with its key and instant, read off the answers alone. -/
def admittedUnits (s : SlidingWindowLimiter) : List Call → List (String × ℚ)
  | [] => []
  | c :: cs =>
    let r := s.step c
    (if r.1.isOk then List.replicate c.units.toNat (c.keyId, c.now) else []) ++
      admittedUnits r.2 cs

/-- Instants of the units a run admits for one key. -/
def admitted (s : SlidingWindowLimiter) (cs : List Call) (keyId : String) : List ℚ :=
  ((s.admittedUnits cs).filter (fun u ↦ u.1 = keyId)).map Prod.snd

/-- Answers a run gives to the calls for one key. -/
def answersFor (s : SlidingWindowLimiter) (cs : List Call) (keyId : String) :
    List (Except RateLimitExceeded CheckResult) :=
  ((cs.zip (outputs step s cs)).filter (fun p ↦ p.1.keyId = keyId)).map Prod.snd

/-! ### One call seen from one queue -/

private def room (M : Int) (W now : ℚ) (w : List ℚ) : Int :=
  M - (Window.evict (now - W) w).length

private def answer (M : Int) (W now : ℚ) (n : Int) (w : List ℚ) :
    Except RateLimitExceeded CheckResult :=
  if room M W now w < n then
    .error ⟨M, max 0 (room M W now w),
      pyInt ((Window.evict (now - W) w).head?.getD now + W)⟩
  else .ok ⟨true, room M W now w - n, pyInt (now + W)⟩

private def queueAfter (M : Int) (W now : ℚ) (n : Int) (w : List ℚ) : List ℚ :=
  if room M W now w < n then Window.evict (now - W) w
  else Window.evict (now - W) w ++ List.replicate n.toNat now

theorem units_pos (c : Call) : 1 ≤ c.units := by
  cases c with
  | check k tier now => exact le_rfl
  | checkMany k tier n now => exact le_max_left 1 n

private theorem step_eq_checkMany (s : SlidingWindowLimiter) (c : Call) :
    s.step c = s.checkMany c.keyId c.tier c.units c.now := by
  cases c with
  | check k tier now => rfl
  | checkMany k tier n now =>
    have hn : max 1 (max 1 n) = max 1 n := max_eq_right (le_max_left 1 n)
    simp only [step, checkMany, Call.keyId, Call.tier, Call.units, Call.now, hn]

private theorem step_unlimited (s : SlidingWindowLimiter) (c : Call)
    (h : (getLimits s.limitsByTier c.tier).1 = -1) : s.step c = (.ok ⟨true, -1, 0⟩, s) := by
  rw [step_eq_checkMany, checkMany]
  simp only [h, if_true]

private theorem step_limited (s : SlidingWindowLimiter) (c : Call) {M : Int} {W : ℚ}
    (h : getLimits s.limitsByTier c.tier = (M, W)) (hM : M ≠ -1) :
    s.step c = (answer M W c.now c.units (s.window c.keyId), ⟨s.limitsByTier,
      s.windows.set c.keyId (queueAfter M W c.now c.units (s.window c.keyId))⟩) := by
  have hn : max 1 c.units = c.units := max_eq_right (units_pos c)
  have hlen : ((c.units.toNat : Nat) : Int) = c.units :=
    Int.toNat_of_nonneg (by have := units_pos c; omega)
  rw [step_eq_checkMany, checkMany]
  simp only [h, hM, if_false, hn, answer, queueAfter, room]
  by_cases hr : M - ((Window.evict (c.now - W) (s.window c.keyId)).length : Int) < c.units
  · simp only [hr, if_true]
  · simp only [hr, if_false, List.length_append, List.length_replicate, Nat.cast_add, hlen,
      sub_add_eq_sub_sub]

@[simp] theorem limitsByTier_step (s : SlidingWindowLimiter) (c : Call) :
    (s.step c).2.limitsByTier = s.limitsByTier := by
  rcases hl : getLimits s.limitsByTier c.tier with ⟨M, W⟩
  by_cases hM : M = -1
  · rw [step_unlimited s c (by rw [hl, hM])]
  · rw [step_limited s c hl hM]

/-- No call changes the limits. -/
theorem limitsByTier_final (s : SlidingWindowLimiter) (cs : List Call) :
    (final step s cs).limitsByTier = s.limitsByTier :=
  final_induction step (P := fun t ↦ t.limitsByTier = s.limitsByTier)
    (fun t c ht ↦ by rw [limitsByTier_step, ht]) rfl cs

/-- A call leaves the queues of other keys alone. -/
theorem window_step_ne (s : SlidingWindowLimiter) (c : Call) {k : String} (h : c.keyId ≠ k) :
    (s.step c).2.window k = s.window k := by
  rcases hl : getLimits s.limitsByTier c.tier with ⟨M, W⟩
  by_cases hM : M = -1
  · rw [step_unlimited s c (by rw [hl, hM])]
  · rw [step_limited s c hl hM]
    exact congrArg (fun o ↦ o.getD []) (Dict.get?_set_ne s.windows _ h)

private theorem window_step_self (s : SlidingWindowLimiter) (c : Call) {M : Int} {W : ℚ}
    (h : getLimits s.limitsByTier c.tier = (M, W)) (hM : M ≠ -1) :
    (s.step c).2.window c.keyId = queueAfter M W c.now c.units (s.window c.keyId) := by
  rw [step_limited s c h hM, window, Dict.get?_set_self, Option.getD_some]

/-- A call of a limited tier is admitted exactly if the evicted queue leaves room. -/
theorem isOk_step_iff {s : SlidingWindowLimiter} {c : Call} {M : Int} {W : ℚ}
    (h : getLimits s.limitsByTier c.tier = (M, W)) (hM : M ≠ -1) : (s.step c).1.isOk = true ↔
      (Window.evict (c.now - W) (s.window c.keyId)).length + c.units ≤ M := by
  rw [step_limited s c h hM, answer]
  by_cases hr : room M W c.now (s.window c.keyId) < c.units
  · rw [if_pos hr]
    unfold room at hr
    exact iff_of_false Bool.false_ne_true (by omega)
  · rw [if_neg hr]
    unfold room at hr
    exact iff_of_true rfl (by omega)

/-- A rejected call is one of a limited tier. It reports when the oldest unit of the evicted queue
leaves the window, in whole seconds. -/
theorem resetAt_of_rejected {s : SlidingWindowLimiter} {c : Call} {e : RateLimitExceeded}
    {M : Int} {W : ℚ} (hl : getLimits s.limitsByTier c.tier = (M, W))
    (h : (s.step c).1 = .error e) : M ≠ -1 ∧ e.resetAt =
      pyInt ((Window.evict (c.now - W) (s.window c.keyId)).head?.getD c.now + W) := by
  by_cases hM : M = -1
  · rw [step_unlimited s c (by rw [hl, hM])] at h
    cases h
  · refine ⟨hM, ?_⟩
    rw [step_limited s c hl hM, answer] at h
    split at h
    · cases h
      rfl
    · cases h

/-- A rejected call leaves the evicted queue. -/
theorem window_step_of_rejected {s : SlidingWindowLimiter} {c : Call} {M : Int} {W : ℚ}
    (h : getLimits s.limitsByTier c.tier = (M, W)) (hM : M ≠ -1)
    (hno : ¬ (s.step c).1.isOk = true) :
    (s.step c).2.window c.keyId = Window.evict (c.now - W) (s.window c.keyId) := by
  rw [isOk_step_iff h hM] at hno
  rw [window_step_self s c h hM, queueAfter, room, if_pos (by omega)]

/-- A call that is not admitted leaves a queue without its front. -/
theorem window_step_suffix {s : SlidingWindowLimiter} {c : Call} {k : String}
    (h : c.keyId = k → ¬ (s.step c).1.isOk = true) : (s.step c).2.window k <:+ s.window k := by
  by_cases hk : c.keyId = k
  · subst hk
    rcases hl : getLimits s.limitsByTier c.tier with ⟨M, W⟩
    by_cases hM : M = -1
    · have hsame : (s.step c).2 = s := by rw [step_unlimited s c (by rw [hl, hM])]
      exact hsame.symm ▸ List.suffix_rfl
    · rw [window_step_of_rejected hl hM (h rfl)]
      exact List.dropWhile_suffix _
  · exact (window_step_ne s c hk).symm ▸ List.suffix_rfl

/-- Every queue is sorted, and no unit in it is later than the instant. -/
def QueuesSorted (s : SlidingWindowLimiter) (t : ℚ) : Prop :=
  ∀ k, (s.window k).Pairwise (· ≤ ·) ∧ ∀ a ∈ s.window k, a ≤ t

theorem QueuesSorted.step {s : SlidingWindowLimiter} {t : ℚ} (h : s.QueuesSorted t) {c : Call}
    (ht : t ≤ c.now) : (s.step c).2.QueuesSorted c.now := by
  intro k
  obtain ⟨hsorted, hle⟩ := h k
  have hlater : ∀ a ∈ s.window k, a ≤ c.now := fun a ha ↦ (hle a ha).trans ht
  by_cases hadmit : c.keyId = k ∧ (s.step c).1.isOk = true
  · obtain ⟨rfl, hok⟩ := hadmit
    rcases hl : getLimits s.limitsByTier c.tier with ⟨M, W⟩
    by_cases hM : M = -1
    · rw [step_unlimited s c (by rw [hl, hM])]
      exact ⟨hsorted, hlater⟩
    · rw [isOk_step_iff hl hM] at hok
      rw [window_step_self s c hl hM, queueAfter, room, if_neg (by omega)]
      have hfront : ∀ a ∈ Window.evict (c.now - W) (s.window c.keyId), a ≤ c.now :=
        fun a ha ↦ hlater a ((List.dropWhile_suffix _).subset ha)
      refine ⟨?_, ?_⟩
      · rw [List.pairwise_append]
        refine ⟨hsorted.sublist (List.dropWhile_suffix _).sublist,
          List.pairwise_replicate.mpr (Or.inr le_rfl), ?_⟩
        intro a ha b hb
        rw [List.eq_of_mem_replicate hb]
        exact hfront a ha
      · intro a ha
        rcases List.mem_append.mp ha with ha | ha
        · exact hfront a ha
        · exact (List.eq_of_mem_replicate ha).le
  · have hsuffix := window_step_suffix fun hk hok ↦ hadmit ⟨hk, hok⟩
    exact ⟨hsorted.sublist hsuffix.sublist, fun a ha ↦ hlater a (hsuffix.subset ha)⟩

/-- The queues of every reachable state are sorted. -/
theorem queuesSorted_final {limits : Dict String TierCfg} {cs : List Call} {t : ℚ}
    (hsorted : cs.Pairwise (fun c d ↦ c.now ≤ d.now)) (ht : ∀ c ∈ cs, c.now ≤ t) :
    (final step (new limits) cs).QueuesSorted t := by
  induction cs using List.reverseRecOn generalizing t with
  | nil => exact fun k ↦ ⟨List.Pairwise.nil, fun _ ha ↦ nomatch ha⟩
  | append_singleton cs c ih =>
    obtain ⟨hcs, -, hcross⟩ := List.pairwise_append.mp hsorted
    have hstep := (ih hcs fun d hd ↦ hcross d hd c List.mem_cons_self).step le_rfl
    rw [final_append]
    intro k
    refine ⟨(hstep k).1, fun a ha ↦ ((hstep k).2 a ha).trans ?_⟩
    exact ht c (List.mem_append_right _ List.mem_cons_self)

/-! ### The queue tracks the log of admitted units -/

/-- The queue of key `k` serves every window of length `W` that ends at `t` or later, and
no window of the log holds more than `M` units. -/
structure KeyInv (s : SlidingWindowLimiter) (k : String) (M : Int) (W t : ℚ)
    (log : List ℚ) : Prop where
  tracks : Window.Tracks W t (s.window k) log
  bounded : (Window.closed W).Bounded M.toNat log

theorem keyInv_new (limits : Dict String TierCfg) (k : String) (M : Int) (W t : ℚ) :
    KeyInv (new limits) k M W t [] :=
  ⟨Window.tracks_nil W t, Window.Shape.bounded_nil _ _⟩

theorem KeyInv.mono {s : SlidingWindowLimiter} {k : String} {M : Int} {W t t' : ℚ}
    {log : List ℚ} (h : KeyInv s k M W t log) (ht : t ≤ t') : KeyInv s k M W t' log :=
  ⟨h.tracks.mono ht, h.bounded⟩

/-- The room left in the queue is the limit less the units in the closed window. -/
theorem KeyInv.room_eq {s : SlidingWindowLimiter} {k : String} {M : Int} {W t : ℚ}
    {log : List ℚ} (h : KeyInv s k M W t log) :
    room M W t (s.window k) = M - (Window.closed W).count t log := by
  rw [room, h.tracks.count_eq_length le_rfl]

/-- The answer of a limited key is that of the exact log. -/
theorem KeyInv.answer_eq {s : SlidingWindowLimiter} {c : Call} {M : Int} {W : ℚ}
    {log : List ℚ} (h : KeyInv s c.keyId M W c.now log)
    (hl : getLimits s.limitsByTier c.tier = (M, W)) (hM : 0 ≤ M) :
    (s.step c).1 =
      if (Window.closed W).count c.now log + c.units ≤ M then
        .ok ⟨true, M - (Window.closed W).count c.now log - c.units, pyInt (c.now + W)⟩
      else .error ⟨M, M - (Window.closed W).count c.now log,
        pyInt ((Window.evict (c.now - W) (s.window c.keyId)).head?.getD c.now + W)⟩ := by
  have hb := h.bounded c.now
  rw [step_limited s c hl (by omega)]
  simp only [answer, h.room_eq]
  by_cases hfit : ((Window.closed W).count c.now log : Int) + c.units ≤ M
  · rw [if_neg (by omega), if_pos hfit]
  · rw [if_pos (by omega), if_neg hfit, max_eq_right (by omega)]

/-- What a call adds to the log of a key: its units, if they are admitted. -/
def unitsOf (s : SlidingWindowLimiter) (c : Call) (k : String) : List ℚ :=
  if (s.step c).1.isOk ∧ c.keyId = k then List.replicate c.units.toNat c.now else []

theorem admitted_cons (s : SlidingWindowLimiter) (c : Call) (cs : List Call)
    (k : String) :
    s.admitted (c :: cs) k = s.unitsOf c k ++ (s.step c).2.admitted cs k := by
  simp only [admitted, admittedUnits, List.filter_append, List.map_append, unitsOf]
  congr 1
  by_cases hok : (s.step c).1.isOk = true
  · by_cases hk : c.keyId = k
    · simp [hok, hk]
    · simp [hok, hk]
  · simp [hok]

/-- The units that a last call adds. -/
theorem admitted_concat (s : SlidingWindowLimiter) (cs : List Call) (c : Call) (k : String) :
    s.admitted (cs ++ [c]) k = s.admitted cs k ++ (final step s cs).unitsOf c k := by
  induction cs generalizing s with
  | nil =>
    rw [List.nil_append, admitted_cons]
    exact List.append_nil _
  | cons d cs ih =>
    rw [List.cons_append, admitted_cons, ih, admitted_cons, List.append_assoc, final_cons]

/-- One call keeps the invariant of a limited key, whatever key the call is for. -/
theorem KeyInv.step {s : SlidingWindowLimiter} {k : String} {M : Int} {W t : ℚ}
    {log : List ℚ} (h : KeyInv s k M W t log) {c : Call} (ht : t ≤ c.now)
    (hl : c.keyId = k → getLimits s.limitsByTier c.tier = (M, W)) (hM : 0 ≤ M) :
    KeyInv (s.step c).2 k M W c.now (log ++ s.unitsOf c k) := by
  have hnow := h.mono ht
  by_cases hk : c.keyId = k
  · subst hk
    have hans := hnow.answer_eq (hl rfl) hM
    have hwin := window_step_self s c (hl rfl) (by omega)
    have hpos := units_pos c
    by_cases hfit : ((Window.closed W).count c.now log : Int) + c.units ≤ M
    · rw [if_pos hfit] at hans
      have hu : s.unitsOf c c.keyId = List.replicate c.units.toNat c.now := by
        simp [unitsOf, hans, Except.isOk, Except.toBool]
      rw [queueAfter, hnow.room_eq, if_neg (by omega)] at hwin
      rw [hu]
      refine ⟨?_, hnow.bounded.append hnow.tracks.le (by omega)⟩
      rw [hwin]
      exact (hnow.tracks.evict le_rfl).append _
    · rw [if_neg hfit] at hans
      have hu : s.unitsOf c c.keyId = [] := by
        simp [unitsOf, hans, Except.isOk, Except.toBool]
      rw [queueAfter, hnow.room_eq, if_pos (by omega)] at hwin
      rw [hu, List.append_nil]
      refine ⟨?_, hnow.bounded⟩
      rw [hwin]
      exact hnow.tracks.evict le_rfl
  · have hu : s.unitsOf c k = [] := by simp [unitsOf, hk]
    rw [hu, List.append_nil]
    exact ⟨by rw [window_step_ne s c hk]; exact hnow.tracks, hnow.bounded⟩

/-- A whole run keeps the invariant of a limited key, with the log read off the answers. -/
theorem KeyInv.run {k : String} {M : Int} {W : ℚ} (hM : 0 ≤ M) {tier : String}
    {cs : List Call} {s : SlidingWindowLimiter} {t t' : ℚ} {log : List ℚ}
    (h : KeyInv s k M W t log) (hl : getLimits s.limitsByTier tier = (M, W))
    (htier : ∀ c ∈ cs, c.keyId = k → c.tier = tier)
    (hsorted : cs.Pairwise (fun c d ↦ c.now ≤ d.now))
    (hlo : ∀ c ∈ cs, t ≤ c.now) (hhi : ∀ c ∈ cs, c.now ≤ t') (ht : t ≤ t') :
    KeyInv (final SlidingWindowLimiter.step s cs) k M W t' (log ++ s.admitted cs k) := by
  induction cs generalizing s t log with
  | nil =>
    have hn : s.admitted [] k = [] := rfl
    rw [hn, List.append_nil]
    exact h.mono ht
  | cons c cs ih =>
    obtain ⟨hc, hcs⟩ := List.pairwise_cons.mp hsorted
    have hstep := h.step (hlo c (by simp)) (c := c)
      (fun hk ↦ by rw [htier c (by simp) hk]; exact hl) hM
    rw [final_cons, admitted_cons, ← List.append_assoc]
    exact ih hstep (by rw [limitsByTier_step]; exact hl)
      (fun d hd ↦ htier d (by simp [hd])) hcs hc (fun d hd ↦ hhi d (by simp [hd]))
      (hhi c (by simp))

private theorem exists_clock_bound (cs : List Call) (t : ℚ) :
    ∃ b, t ≤ b ∧ ∀ c ∈ cs, c.now ≤ b := by
  induction cs with
  | nil => exact ⟨t, le_rfl, by simp⟩
  | cons c cs ih =>
    obtain ⟨b, ht, hb⟩ := ih
    refine ⟨max c.now b, le_trans ht (le_max_right _ _), ?_⟩
    intro d hd
    rcases List.mem_cons.mp hd with rfl | hd
    · exact le_max_left _ _
    · exact le_trans (hb d hd) (le_max_right _ _)

/-- After a run from the empty limiter, the queue of a limited key serves every later window. -/
theorem keyInv_final {limits : Dict String TierCfg} {k tier : String} {M : Int} {W t' : ℚ}
    (hl : getLimits limits tier = (M, W)) (hM : 0 ≤ M) {cs : List Call}
    (htier : ∀ c ∈ cs, c.keyId = k → c.tier = tier)
    (hsorted : cs.Pairwise (fun c d ↦ c.now ≤ d.now)) (hhi : ∀ c ∈ cs, c.now ≤ t') :
    KeyInv (final step (new limits) cs) k M W t' ((new limits).admitted cs k) := by
  cases cs with
  | nil => exact keyInv_new limits k M W t'
  | cons c cs =>
    have hnew := keyInv_new limits k M W c.now
    have hlo : ∀ d ∈ c :: cs, c.now ≤ d.now := by
      intro d hd
      rcases List.mem_cons.mp hd with rfl | hd
      · exact le_rfl
      · exact (List.pairwise_cons.mp hsorted).1 d hd
    exact hnew.run hM hl htier hsorted hlo hhi (hhi c (by simp))

/-! ### What a call cannot see -/

private theorem step_congr {s t : SlidingWindowLimiter} {c : Call} {M : Int} {W : ℚ}
    (hs : getLimits s.limitsByTier c.tier = (M, W)) (ht : s.limitsByTier = t.limitsByTier)
    (hM : M ≠ -1) (he : Window.evict (c.now - W) (s.window c.keyId) =
      Window.evict (c.now - W) (t.window c.keyId)) :
    (s.step c).1 = (t.step c).1 ∧
      (s.step c).2.window c.keyId = (t.step c).2.window c.keyId := by
  have htl : getLimits t.limitsByTier c.tier = (M, W) := by rw [← ht]; exact hs
  rw [window_step_self s c hs hM, window_step_self t c htl hM, step_limited s c hs hM,
    step_limited t c htl hM]
  have hroom : room M W c.now (s.window c.keyId) = room M W c.now (t.window c.keyId) := by
    unfold room
    rw [he]
  constructor
  · rw [answer, answer, hroom, he]
  · rw [queueAfter, queueAfter, hroom, he]

private theorem step_congr_of_window_eq {s t : SlidingWindowLimiter} {c : Call}
    (hl : s.limitsByTier = t.limitsByTier) (hw : s.window c.keyId = t.window c.keyId) :
    (s.step c).1 = (t.step c).1 ∧
      (s.step c).2.window c.keyId = (t.step c).2.window c.keyId := by
  rcases hs : getLimits s.limitsByTier c.tier with ⟨M, W⟩
  by_cases hM : M = -1
  · have hu : (getLimits t.limitsByTier c.tier).1 = -1 := by rw [← hl, hs, hM]
    rw [step_unlimited s c (by rw [hs, hM]), step_unlimited t c hu]
    exact ⟨rfl, hw⟩
  · exact step_congr hs hl hM (by rw [hw])

/-- Equal but for entries of key `k` that every call still to come evicts first. -/
private structure Alike (k tier : String) (W now : ℚ) (cs : List Call)
    (s t : SlidingWindowLimiter) : Prop where
  limits : s.limitsByTier = t.limitsByTier
  others : ∀ j, j ≠ k → s.window j = t.window j
  own : ∀ d, now ≤ d → Window.evict (d - W) (s.window k) = Window.evict (d - W) (t.window k)
  later : ∀ c ∈ cs, now ≤ c.now
  tiered : ∀ c ∈ cs, c.keyId = k → c.tier = tier

private theorem alike_step {k tier : String} {M : Int} {W now : ℚ} (hM : M ≠ -1) {c : Call}
    {cs : List Call} {s t : SlidingWindowLimiter} (h : Alike k tier W now (c :: cs) s t)
    (hl : getLimits s.limitsByTier tier = (M, W)) :
    (s.step c).1 = (t.step c).1 ∧ Alike k tier W now cs (s.step c).2 (t.step c).2 := by
  have hlim : (s.step c).2.limitsByTier = (t.step c).2.limitsByTier := by
    rw [limitsByTier_step, limitsByTier_step, h.limits]
  have hlater : ∀ d ∈ cs, now ≤ d.now := fun d hd ↦ h.later d (by simp [hd])
  have htiered : ∀ d ∈ cs, d.keyId = k → d.tier = tier := fun d hd ↦ h.tiered d (by simp [hd])
  by_cases hk : c.keyId = k
  · subst hk
    obtain ⟨hans, hwin⟩ := step_congr (by rw [h.tiered c (by simp) rfl]; exact hl) h.limits hM
      (h.own c.now (h.later c (by simp)))
    refine ⟨hans, hlim, ?_, fun d _ ↦ by rw [hwin], hlater, htiered⟩
    intro j hj
    rw [window_step_ne s c (Ne.symm hj), window_step_ne t c (Ne.symm hj), h.others j hj]
  · obtain ⟨hans, hwin⟩ := step_congr_of_window_eq h.limits (h.others c.keyId hk)
    refine ⟨hans, hlim, ?_, ?_, hlater, htiered⟩
    · intro j hj
      by_cases hjc : c.keyId = j
      · subst hjc
        exact hwin
      · rw [window_step_ne s c hjc, window_step_ne t c hjc, h.others j hj]
    · intro d hd
      rw [window_step_ne s c hk, window_step_ne t c hk, h.own d hd]

/-- A rejected call of a limited key changes no later answer, for any key. -/
theorem outputs_after_rejected {s : SlidingWindowLimiter} {c : Call} {cs : List Call}
    {M : Int} {W : ℚ} (hl : getLimits s.limitsByTier c.tier = (M, W)) (hM : 0 ≤ M)
    {e : RateLimitExceeded} (hrej : (s.step c).1 = .error e) (hlater : ∀ d ∈ cs, c.now ≤ d.now)
    (htier : ∀ d ∈ cs, d.keyId = c.keyId → d.tier = c.tier) :
    outputs step (s.step c).2 cs = outputs step s cs := by
  have hne : M ≠ -1 := by omega
  have hroom : room M W c.now (s.window c.keyId) < c.units := by
    by_contra hn
    rw [step_limited s c hl hne, answer, if_neg hn] at hrej
    cases hrej
  have hwin := window_step_self s c hl hne
  rw [queueAfter, if_pos hroom] at hwin
  let R := fun (is : List Call) (u v : SlidingWindowLimiter) ↦
    Alike c.keyId c.tier W c.now is u v ∧ getLimits u.limitsByTier c.tier = (M, W)
  have hstep : ∀ d ds u v, R (d :: ds) u v →
      (u.step d).1 = (v.step d).1 ∧ R ds (u.step d).2 (v.step d).2 := by
    rintro d ds u v ⟨ha, hu⟩
    obtain ⟨hans, halike⟩ := alike_step hne ha hu
    exact ⟨hans, halike, by rw [limitsByTier_step]; exact hu⟩
  apply outputs_eq_of_related step step (R := R) hstep
  refine ⟨⟨limitsByTier_step s c, ?_, ?_, hlater, htier⟩, by rw [limitsByTier_step]; exact hl⟩
  · intro j hj
    exact window_step_ne s c (Ne.symm hj)
  · intro d hd
    rw [hwin, Window.evict_evict (sub_le_sub_right hd W)]

/-- The answers for a key are those of the run with all other keys' calls left out. -/
theorem answersFor_eq_outputs_filter {k : String} (cs : List Call) {s t : SlidingWindowLimiter}
    (hl : s.limitsByTier = t.limitsByTier) (hw : s.window k = t.window k) :
    s.answersFor cs k = outputs step t (cs.filter (fun c ↦ c.keyId = k)) := by
  induction cs generalizing s t with
  | nil => rfl
  | cons c cs ih =>
    have hcons : s.answersFor (c :: cs) k =
        (if c.keyId = k then [(s.step c).1] else []) ++ (s.step c).2.answersFor cs k := by
      simp only [answersFor, outputs_cons, List.zip_cons_cons, List.filter_cons]
      by_cases hk : c.keyId = k <;> simp [hk]
    have hlim : (s.step c).2.limitsByTier = t.limitsByTier := by rw [limitsByTier_step, hl]
    rw [hcons]
    by_cases hk : c.keyId = k
    · subst hk
      obtain ⟨hans, hwin⟩ := step_congr_of_window_eq hl hw
      rw [if_pos rfl, List.filter_cons_of_pos (by simp), outputs_cons, hans,
        ih (by rw [hlim, limitsByTier_step]) hwin, List.singleton_append]
    · rw [if_neg hk, List.filter_cons_of_neg (by simpa using hk), List.nil_append]
      exact ih hlim (by rw [window_step_ne s c hk, hw])

/-! ### The limiter refines the exact log -/

/-- Take any key checked under one limited tier, in any run with a non-decreasing clock.
A call for it is admitted exactly when the units admitted for the key in the closed window
leave room, with the exact remaining count; a rejected call reports the room left and changes
no later answer; no closed window holds more than the limit; and the calls of other keys
can be left out without changing an answer for the key. -/
theorem slidingWindowLimiter_exact (limits : Dict String TierCfg) (k tier : String)
    (hM : 0 ≤ (getLimits limits tier).1) (cs : List Call)
    (htier : ∀ c ∈ cs, c.keyId = k → c.tier = tier)
    (hsorted : cs.Pairwise (fun c d ↦ c.now ≤ d.now)) :
    let M := (getLimits limits tier).1
    let W := (getLimits limits tier).2
    let s₀ := new limits
    (∀ pre c post, cs = pre ++ c :: post → c.keyId = k →
      let s := final step s₀ pre
      let used := (Window.closed W).count c.now (s₀.admitted pre k)
      ((s.step c).1.isOk = true ↔ used + c.units ≤ M) ∧
      (∀ r, (s.step c).1 = .ok r → r.allowed = true ∧ r.remaining = M - used - c.units) ∧
      (∀ e, (s.step c).1 = .error e → e.remaining = M - used ∧
        outputs step (s.step c).2 post = outputs step s post)) ∧
    (∀ t, (Window.closed W).count t (s₀.admitted cs k) ≤ M) ∧
    s₀.answersFor cs k = outputs step s₀ (cs.filter (fun c ↦ c.keyId = k)) := by
  intro M W s₀
  have hl : getLimits limits tier = (M, W) := rfl
  refine ⟨?_, ?_, answersFor_eq_outputs_filter cs rfl rfl⟩
  · intro pre c post hcs hk s used
    subst hk
    subst hcs
    obtain ⟨hpre, hpost, hcross⟩ := List.pairwise_append.mp hsorted
    have hct : c.tier = tier := htier c (by simp) rfl
    have hlim : s.limitsByTier = limits := limitsByTier_final s₀ pre
    have hls : getLimits s.limitsByTier c.tier = (M, W) := by rw [hlim, hct]
    have hinv : KeyInv s c.keyId M W c.now (s₀.admitted pre c.keyId) :=
      keyInv_final hl hM (fun d hd ↦ htier d (by simp [hd])) hpre
        (fun d hd ↦ hcross d hd c (by simp))
    have hans := hinv.answer_eq hls hM
    refine ⟨?_, ?_, ?_⟩
    · rw [hans]
      by_cases hfit : (used : Int) + c.units ≤ M
      · rw [if_pos hfit]
        exact ⟨fun _ ↦ hfit, fun _ ↦ rfl⟩
      · rw [if_neg hfit]
        exact ⟨fun h ↦ (Bool.false_ne_true h).elim, fun h ↦ absurd h hfit⟩
    · intro r hr
      rw [hans] at hr
      split at hr
      · cases hr
        exact ⟨rfl, rfl⟩
      · cases hr
    · intro e he
      refine ⟨?_, outputs_after_rejected hls hM he
        (List.pairwise_cons.mp hpost).1 (fun d hd hdk ↦ ?_)⟩
      · rw [hans] at he
        split at he
        · cases he
        · cases he
          rfl
      · rw [htier d (by simp [hd]) hdk, hct]
  · intro t
    obtain ⟨b, _, hb⟩ := exists_clock_bound cs 0
    have hbound := (keyInv_final hl hM htier hsorted hb).bounded t
    have hnat : (M.toNat : Int) = M := Int.toNat_of_nonneg hM
    calc ((Window.closed W).count t (s₀.admitted cs k) : Int) ≤ M.toNat := Int.ofNat_le.mpr hbound
      _ = M := hnat

private def sampleLimits : Dict String TierCfg :=
  Dict.ofList [("starter", ⟨some 2, some 10⟩), ("enterprise", ⟨some (-1), some 10⟩)]

private def sampleCalls : List Call :=
  [.check "key_a" "starter" 0, .checkMany "key_b" "enterprise" 7 1,
    .checkMany "key_a" "starter" 2 4, .check "key_a" "starter" 10, .check "key_a" "starter" 11]

/-- A limit of two in ten seconds: the batch of two is refused, the unit on the window's edge
still counts. -/
theorem slidingWindowLimiter_exact_sample :
    (∀ t, (Window.closed (10 : ℚ)).count t
      ((new sampleLimits).admitted sampleCalls "key_a") ≤ (2 : Int)) ∧
    outputs step (new sampleLimits) (sampleCalls.filter (fun c ↦ c.keyId = "key_a")) =
      [.ok ⟨true, 1, 10⟩, .error ⟨2, 1, 10⟩, .ok ⟨true, 0, 20⟩, .ok ⟨true, 0, 21⟩] := by
  have h := slidingWindowLimiter_exact sampleLimits "key_a" "starter" (by decide) sampleCalls
    (by decide) (by decide)
  refine ⟨h.2.1, ?_⟩
  decide +kernel

end SlidingWindowLimiter
end AsbCloudApi.Api
