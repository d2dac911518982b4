import AsbCloudApi.Api.RateLimiter
import AsbCloudApi.Api.Usage
import Mathlib.Data.List.Perm.Subperm
import Mathlib.Data.Rat.Floor
import Mathlib.Tactic.Linarith

/-!
# Reported usage and the limit beside it

Library `Api`. Models `get_usage_info` of `src/asb_api/api/usage.py`, which the route of
`src/asb_api/api/routes/usage.py` returns. The count is that of a UTC day, the limit that of a
window of the limiter. They fit together for windows of a day or longer.
-/

namespace AsbCloudApi.Api

open Base

/-- What `get_usage_info` returns; `reset_at` is the last second of the day. -/
structure UsageInfo where
  tier : String
  requestsUsed : Int
  requestsLimit : Int
  resetAt : Int
  deriving DecidableEq

namespace UsageTracker

/-- `_today`; `src/asb_api/api/usage.py:11–12`. -/
def today (now : ℚ) : Int := ⌊now / 86400⌋

/-- `get_usage_info`; `src/asb_api/api/usage.py:30–39`. -/
def getUsageInfo (t : UsageTracker) (keyId tier : String) (limitsCfg : Dict String TierCfg)
    (now : ℚ) : UsageInfo × UsageTracker :=
  let (count, t) := t.get keyId (today now)
  let tierCfg := (limitsCfg.get? tier).getD ((limitsCfg.get? "free").getD ⟨none, none⟩)
  let limit := tierCfg.requests.getD 500
  (⟨tier, count, limit, today now * 86400 + 86399⟩, t)

theorem today_mono {s t : ℚ} (h : s ≤ t) : today s ≤ today t :=
  Int.floor_mono (div_le_div_of_nonneg_right h (by decide))

/-- Two instants of a day are less than a day apart. -/
theorem sub_lt_of_today_eq {s t : ℚ} (h : today s = today t) : t - s < 86400 := by
  have hlow : (today t : ℚ) ≤ s / 86400 := by
    rw [← h]
    exact Int.floor_le _
  have hhigh : t / 86400 < today t + 1 := Int.lt_floor_add_one _
  linarith

end UsageTracker

open UsageTracker SlidingWindowLimiter

/-! ### Runs of limiter and tracker -/

/-- The limiter and the tracker of the service without a database. -/
structure Metered where
  limiter : SlidingWindowLimiter
  tracker : UsageTracker

/-- What requests do with them. -/
inductive UsageMove where
  | check (c : Call)
  | increment (keyId : String) (now : ℚ)
  | getUsageInfo (keyId tier : String) (now : ℚ)

/-- The clock reading of a move. -/
def UsageMove.now : UsageMove → ℚ
  | .check c => c.now
  | .increment _ now => now
  | .getUsageInfo _ _ now => now

/-- One move. Only a report has an answer here. -/
def Metered.step (s : Metered) : UsageMove → Option UsageInfo × Metered
  | .check c => (none, { s with limiter := (s.limiter.step c).2 })
  | .increment keyId now => (none, { s with tracker := s.tracker.increment keyId (today now) })
  | .getUsageInfo keyId tier now =>
    let (info, tracker) := s.tracker.getUsageInfo keyId tier s.limiter.limitsByTier now
    (some info, { s with tracker })

/-- A report may start a day for its key, no more. -/
theorem tracker_step_getUsageInfo (s : Metered) (keyId tier : String) (now : ℚ) :
    (s.step (.getUsageInfo keyId tier now)).2.tracker =
      s.tracker.normalizeDay keyId (today now) := rfl

/-- Nothing has happened yet. -/
def Metered.new (limits : Dict String TierCfg) : Metered := ⟨.new limits, .new⟩

/-- The limiter calls of a run. -/
def callsOf (run : List UsageMove) : List Call :=
  run.filterMap fun m ↦
    match m with
    | .check c => some c
    | _ => none

/-- When a key was counted. -/
def incrementsOf (run : List UsageMove) (k : String) : List ℚ :=
  run.filterMap fun m ↦
    match m with
    | .increment keyId now => if keyId = k then some now else none
    | _ => none

/-- An increment of the key follows an admitted check of the key at the same instant that no other
increment has followed. -/
def FollowsCheck (limits : Dict String TierCfg) (k : String) (before : List UsageMove)
    (m : UsageMove) : Prop :=
  ∀ now, m = .increment k now →
    (incrementsOf before k).count now < ((new limits).admitted (callsOf before) k).count now

/-- A run of a key that is checked under one tier, and counted for admitted checks only. -/
structure KeptWithinLimit (limits : Dict String TierCfg) (k tier : String)
    (run : List UsageMove) : Prop where
  ordered : run.Pairwise fun m n ↦ m.now ≤ n.now
  tiered : ∀ c ∈ callsOf run, c.keyId = k → c.tier = tier
  checked : Justified (FollowsCheck limits k) run

/-- After every such run, the usage reported for the key does not exceed the limit reported. -/
def UsageWithinLimit (limits : Dict String TierCfg) (k tier : String) : Prop :=
  ∀ run now, KeptWithinLimit limits k tier run → (∀ m ∈ run, m.now ≤ now) →
    let info := ((final Metered.step (.new limits) run).tracker.getUsageInfo k tier limits now).1
    info.requestsUsed ≤ info.requestsLimit

/-- The limit reported is that of the limiter. -/
theorem requestsLimit_getUsageInfo (t : UsageTracker) (k tier : String)
    (limits : Dict String TierCfg) (now : ℚ) :
    (t.getUsageInfo k tier limits now).1.requestsLimit = (getLimits limits tier).1 := rfl

section Parts

variable (run : List UsageMove) (m : UsageMove) (k : String)

theorem callsOf_concat : callsOf (run ++ [m]) = callsOf run ++ callsOf [m] := List.filterMap_append

theorem incrementsOf_concat :
    incrementsOf (run ++ [m]) k = incrementsOf run k ++ incrementsOf [m] k :=
  List.filterMap_append

/-- The calls of a run are made when its moves are. -/
theorem ordered_callsOf {run : List UsageMove} (h : run.Pairwise fun m n ↦ m.now ≤ n.now) :
    (callsOf run).Pairwise fun c d ↦ c.now ≤ d.now := by
  unfold callsOf
  rw [List.pairwise_filterMap]
  apply h.imp
  intro m n hmn c hc d hd
  cases m with
  | check c' =>
    cases n with
    | check d' =>
      cases hc
      cases hd
      exact hmn
    | _ => cases hd
  | _ => cases hc

theorem mem_callsOf {run : List UsageMove} {c : Call} (h : c ∈ callsOf run) : .check c ∈ run := by
  obtain ⟨m, hm, hc⟩ := List.mem_filterMap.mp h
  cases m with
  | check d =>
    cases hc
    exact hm
  | _ => cases hc

/-- Increments of a run are among its moves. -/
theorem mem_incrementsOf {run : List UsageMove} {k : String} {t : ℚ} (h : t ∈ incrementsOf run k) :
    .increment k t ∈ run := by
  obtain ⟨m, hm, ht⟩ := List.mem_filterMap.mp h
  cases m with
  | increment keyId now =>
    dsimp only at ht
    split at ht
    · next hk =>
      cases ht
      rwa [← hk]
    · cases ht
  | _ => cases ht

theorem incrementsOf_increment (keyId k : String) (now : ℚ) :
    incrementsOf [.increment keyId now] k = if keyId = k then [now] else [] := by
  by_cases hk : keyId = k
  · simp [incrementsOf, hk]
  · simp [incrementsOf, hk]

end Parts

/-! ### What is counted -/

/-- A run that ends before the day has no increment on it. -/
theorem countP_incrementsOf_eq_zero {run : List UsageMove} {last day : Int}
    (hrun : ∀ m ∈ run, today m.now ≤ last) (hday : last < day) (k : String) :
    (incrementsOf run k).countP (fun t ↦ today t = day) = 0 := by
  apply List.countP_eq_zero.mpr
  intro t ht
  have hle : today t ≤ last := hrun _ (mem_incrementsOf ht)
  rw [decide_eq_true_eq]
  omega

/-- The count of a day is the number of increments in it, as long as the dates have not passed
it. -/
theorem get_final (limits : Dict String TierCfg) (k : String) {run : List UsageMove}
    (hdates : run.Pairwise fun m n ↦ today m.now ≤ today n.now) {day : Int}
    (hday : ∀ m ∈ run, today m.now ≤ day) :
    (((final Metered.step (.new limits) run).tracker.get k day).1 : Int) =
      (incrementsOf run k).countP fun t ↦ today t = day := by
  induction run using List.reverseRecOn with
  | nil =>
    rw [get_fst]
    rfl
  | append_singleton run m ih =>
    obtain ⟨hrun, -, hcross⟩ := List.pairwise_append.mp hdates
    have hbefore := ih hrun fun n hn ↦ hday n (List.mem_append_left _ hn)
    have hm : today m.now ≤ day := hday m (List.mem_append_right _ List.mem_cons_self)
    have hnone : today m.now ≠ day →
        (incrementsOf run k).countP (fun t ↦ today t = day) = 0 := fun hne ↦
      countP_incrementsOf_eq_zero (fun n hn ↦ hcross n hn m List.mem_cons_self)
        (lt_of_le_of_ne hm hne) k
    rw [final_append, incrementsOf_concat, List.countP_append, Nat.cast_add]
    cases m with
    | check c =>
      have hnil : incrementsOf [.check c] k = [] := rfl
      rw [hnil, List.countP_nil, Nat.cast_zero, add_zero]
      exact hbefore
    | increment keyId now =>
      simp only [UsageMove.now] at hm hnone
      simp only [final_cons, final_nil, Metered.step]
      rw [get_increment_day, hbefore, incrementsOf_increment]
      by_cases hk : keyId = k
      · rw [if_pos hk, if_pos hk]
        by_cases hd : today now = day
        · simp [hd]
        · simp [hd, hnone hd]
      · rw [if_neg hk, if_neg hk, List.countP_nil, Nat.cast_zero, add_zero]
    | getUsageInfo keyId tier now =>
      simp only [UsageMove.now] at hm hnone
      have hnil : incrementsOf [.getUsageInfo keyId tier now] k = [] := rfl
      rw [final_cons, final_nil, tracker_step_getUsageInfo, get_normalizeDay, hbefore, hnil,
        List.countP_nil, Nat.cast_zero, add_zero]
      split
      · next hother =>
        rw [hnone hother.2, Nat.cast_zero]
      · rfl

/-- A key counted for admitted checks only has no more increments at an instant than units. -/
theorem count_incrementsOf_le {limits : Dict String TierCfg} {k : String} {run : List UsageMove}
    (h : Justified (FollowsCheck limits k) run) (t : ℚ) :
    (incrementsOf run k).count t ≤ ((new limits).admitted (callsOf run) k).count t := by
  induction run using List.reverseRecOn with
  | nil => exact Nat.zero_le _
  | append_singleton run m ih =>
    obtain ⟨hrun, hm⟩ := h.of_concat
    have hbefore := ih hrun
    rw [incrementsOf_concat, callsOf_concat, List.count_append]
    cases m with
    | check c =>
      have hcall : callsOf [.check c] = [c] := rfl
      have hnil : incrementsOf [.check c] k = [] := rfl
      rw [hcall, admitted_concat, List.count_append, hnil, List.count_nil]
      omega
    | increment keyId now =>
      have hcall : callsOf [.increment keyId now] = [] := rfl
      rw [hcall, List.append_nil, incrementsOf_increment]
      by_cases hk : keyId = k
      · subst hk
        rw [if_pos rfl, List.count_singleton]
        split
        · next heq =>
          obtain rfl := eq_of_beq heq
          exact hm now rfl
        · exact hbefore
      · rw [if_neg hk, List.count_nil]
        exact hbefore
    | getUsageInfo keyId tier now =>
      have hcall : callsOf [.getUsageInfo keyId tier now] = [] := rfl
      have hnil : incrementsOf [.getUsageInfo keyId tier now] k = [] := rfl
      rw [hcall, hnil, List.append_nil, List.count_nil]
      exact hbefore

/-! ### A kept run -/

section Kept

variable {limits : Dict String TierCfg} {k tier : String} {M : Int} {W now : ℚ}

/-- The limiter of a run of both is that of its calls. -/
theorem KeptWithinLimit.keyInv {run : List UsageMove} (h : KeptWithinLimit limits k tier run)
    (hl : getLimits limits tier = (M, W)) (hM : 0 ≤ M) (hnow : ∀ m ∈ run, m.now ≤ now) :
    KeyInv (final SlidingWindowLimiter.step (new limits) (callsOf run)) k M W now
      ((new limits).admitted (callsOf run) k) :=
  keyInv_final hl hM h.tiered (ordered_callsOf h.ordered) fun _ hc ↦ hnow _ (mem_callsOf hc)

/-- A day's increments are no more than its admitted units. -/
theorem KeptWithinLimit.used_le {run : List UsageMove} (h : KeptWithinLimit limits k tier run)
    (hnow : ∀ m ∈ run, m.now ≤ now) :
    ((final Metered.step (.new limits) run).tracker.getUsageInfo k tier limits now).1.requestsUsed ≤
      ((new limits).admitted (callsOf run) k).countP fun t ↦ today t = today now := by
  have hused := get_final limits k (h.ordered.imp today_mono) fun m hm ↦ today_mono (hnow m hm)
  have hsub : (incrementsOf run k).Subperm ((new limits).admitted (callsOf run) k) :=
    List.subperm_ext_iff.mpr fun t _ ↦ count_incrementsOf_le h.checked t
  have hle := hsub.countP_le fun t ↦ today t = today now
  calc _ = ((incrementsOf run k).countP fun t ↦ today t = today now : Int) := hused
    _ ≤ _ := Int.ofNat_le.mpr hle

/-- The units of a day are in every window of a day or longer that ends on it. -/
theorem countP_today_le_count (hW : 86400 ≤ W) {log : List ℚ} (hle : ∀ a ∈ log, a ≤ now) :
    log.countP (fun t ↦ today t = today now) ≤ (Window.closed W).count now log := by
  apply List.countP_mono_left
  intro a ha hday
  rw [decide_eq_true_eq] at hday ⊢
  have hage := sub_lt_of_today_eq hday
  exact Window.mem_closed.mpr ⟨by linarith, hle a ha⟩

/-- With nothing to admit, nothing is counted. -/
theorem admitted_eq_nil {s : SlidingWindowLimiter} {log : List ℚ} (hW : 0 < W)
    (h : KeyInv s k 0 W now log) : log = [] := by
  apply List.eq_nil_iff_forall_not_mem.mpr
  intro a ha
  have hnone : (Window.closed W).count a log = 0 := Nat.le_zero.mp (h.bounded a)
  have hmem : (Window.closed W).mem a a := Window.mem_closed.mpr ⟨by linarith, le_rfl⟩
  exact List.countP_eq_zero.mp hnone a ha (decide_eq_true hmem)

/-- One more move. -/
theorem KeptWithinLimit.concat {run : List UsageMove} {m : UsageMove}
    (h : KeptWithinLimit limits k tier run) (hnow : ∀ n ∈ run, n.now ≤ m.now)
    (htier : ∀ c, m = .check c → c.keyId = k → c.tier = tier)
    (hm : FollowsCheck limits k run m) : KeptWithinLimit limits k tier (run ++ [m]) := by
  refine ⟨?_, ?_, h.checked.concat hm⟩
  · rw [List.pairwise_append]
    refine ⟨h.ordered, List.pairwise_singleton _ _, fun n hn m' hm' ↦ ?_⟩
    rw [List.mem_singleton.mp hm']
    exact hnow n hn
  · intro c hc
    rcases List.mem_append.mp (mem_callsOf hc) with hc | hc
    · exact h.tiered c (List.mem_filterMap.mpr ⟨_, hc, rfl⟩)
    · exact htier c (List.mem_singleton.mp hc).symm

/-- A key that asks for one unit, gets it, and is counted for it. -/
theorem KeptWithinLimit.request {run : List UsageMove} (h : KeptWithinLimit limits k tier run)
    (hcounted : incrementsOf run k = (new limits).admitted (callsOf run) k)
    (hl : getLimits limits tier = (M, W)) (hM : 0 ≤ M) (hnow : ∀ m ∈ run, m.now ≤ now)
    (hroom : (Window.closed W).count now (incrementsOf run k) + 1 ≤ M) :
    ∃ run', KeptWithinLimit limits k tier run' ∧ (∀ m ∈ run', m.now ≤ now) ∧
      incrementsOf run' k = incrementsOf run k ++ [now] ∧
      incrementsOf run' k = (new limits).admitted (callsOf run') k := by
  have hlim : (final SlidingWindowLimiter.step (new limits) (callsOf run)).limitsByTier = limits :=
    limitsByTier_final (new limits) (callsOf run)
  have hans := (h.keyInv hl hM hnow).answer_eq (c := .check k tier now) (by rw [hlim]; exact hl) hM
  rw [if_pos (by rw [← hcounted]; exact hroom)] at hans
  have hunits : (final SlidingWindowLimiter.step (new limits) (callsOf run)).unitsOf
      (.check k tier now) k = [now] := by
    rw [unitsOf, hans, if_pos ⟨rfl, rfl⟩]
    rfl
  let checked := run ++ [.check (.check k tier now)]
  have hadmitted : (new limits).admitted (callsOf checked) k = incrementsOf run k ++ [now] := by
    have hcall : callsOf [.check (.check k tier now)] = [.check k tier now] := rfl
    rw [callsOf_concat, hcall, admitted_concat, hunits, hcounted]
  have hsame : incrementsOf checked k = incrementsOf run k := by
    rw [incrementsOf_concat]
    exact List.append_nil _
  have hone : incrementsOf (checked ++ [.increment k now]) k = incrementsOf run k ++ [now] := by
    rw [incrementsOf_concat, hsame, incrementsOf_increment, if_pos rfl]
  have hkept : KeptWithinLimit limits k tier checked := by
    refine h.concat hnow ?_ ?_
    · intro c hc _
      cases hc
      rfl
    · intro t ht
      cases ht
  have hlater : ∀ m ∈ checked, m.now ≤ now :=
    List.forall_mem_append.mpr ⟨hnow, List.forall_mem_singleton.mpr le_rfl⟩
  refine ⟨checked ++ [.increment k now], ?_, ?_, hone, ?_⟩
  · refine hkept.concat hlater ?_ ?_
    · intro c hc
      cases hc
    · intro t ht
      cases ht
      rw [hsame, hadmitted, List.count_append, List.count_singleton_self]
      exact Nat.lt_succ_self _
  · exact List.forall_mem_append.mpr ⟨hlater, List.forall_mem_singleton.mpr le_rfl⟩
  · have hcall : callsOf (checked ++ [.increment k now]) = callsOf checked := by
      rw [callsOf_concat]
      exact List.append_nil _
    rw [hone, hcall, hadmitted]

/-- A key can use up its limit at the start of a day. -/
theorem exists_kept_replicate (hl : getLimits limits tier = (M, W)) {n : Nat} (hn : n ≤ M) :
    ∃ run, KeptWithinLimit limits k tier run ∧ (∀ m ∈ run, m.now ≤ 0) ∧
      incrementsOf run k = List.replicate n 0 ∧
      incrementsOf run k = (new limits).admitted (callsOf run) k := by
  induction n with
  | zero =>
    refine ⟨[], ⟨List.Pairwise.nil, ?_, justified_nil⟩, ?_, rfl, rfl⟩
    · intro c hc
      cases hc
    · intro m hm
      cases hm
  | succ n ih =>
    obtain ⟨run, hkept, hnow, hused, hcounted⟩ := ih (by omega)
    have hcount : (Window.closed W).count 0 (incrementsOf run k) ≤ n := by
      rw [hused]
      exact List.countP_le_length.trans_eq List.length_replicate
    obtain ⟨run', hkept', hnow', hone, hcounted'⟩ :=
      hkept.request hcounted hl (by omega) hnow (by omega)
    refine ⟨run', hkept', hnow', ?_, hcounted'⟩
    rw [hone, hused, List.replicate_succ']

/-- A window shorter than a day admits, once it has passed, more on the same day. -/
theorem not_usageWithinLimit_of_lt (hl : getLimits limits tier = (M, W)) (hM : 0 < M)
    (hW : 0 < W) (hday : W < 86400) : ¬ UsageWithinLimit limits k tier := by
  intro h
  have hn : (M.toNat : Int) = M := Int.toNat_of_nonneg hM.le
  obtain ⟨run, hkept, hnow, hused, hcounted⟩ := exists_kept_replicate (k := k) hl hn.le
  let later := (W + 86400) / 2
  have hpast : W < later := by simp only [later]; linarith
  have hsame : later < 86400 := by simp only [later]; linarith
  have hempty : (Window.closed W).count later (incrementsOf run k) = 0 := by
    rw [hused]
    apply List.countP_eq_zero.mpr
    intro a ha hmem
    rw [List.eq_of_mem_replicate ha, decide_eq_true_eq] at hmem
    have hage := (Window.mem_closed.mp hmem).1
    linarith
  have hlater : ∀ m ∈ run, m.now ≤ later := fun m hm ↦ (hnow m hm).trans (by linarith)
  obtain ⟨run', hkept', hnow', hone, -⟩ :=
    hkept.request hcounted hl hM.le hlater (by rw [hempty]; omega)
  have hle : _ ≤ (getLimits limits tier).1 := h run' later hkept' hnow'
  have htoday : today later = 0 := by
    rw [today, Int.floor_eq_zero_iff]
    exact ⟨div_nonneg (by linarith) (by norm_num), (div_lt_one (by norm_num)).mpr hsame⟩
  have hzero : today 0 = 0 := by rw [today, zero_div, Int.floor_zero]
  have hday : ∀ m ∈ run', today m.now ≤ today later := fun m hm ↦ today_mono (hnow' m hm)
  have hcount := get_final limits k (hkept'.ordered.imp today_mono) hday
  rw [hone, hused, List.countP_append, List.countP_replicate, htoday] at hcount
  rw [hl] at hle
  simp only [getUsageInfo, htoday] at hle
  simp only [hzero, htoday, decide_true, if_true, List.countP_singleton] at hcount
  omega

end Kept

/-- For limits and windows that are not negative, the usage reported never exceeds the limit
reported exactly if nothing is admitted at all or the window is a day or longer. -/
theorem usageWithinLimit_iff (limits : Dict String TierCfg) (k tier : String)
    (hM : 0 ≤ (getLimits limits tier).1) (hW : 0 < (getLimits limits tier).2) :
    UsageWithinLimit limits k tier ↔
      (getLimits limits tier).1 = 0 ∨ 86400 ≤ (getLimits limits tier).2 := by
  rcases hl : getLimits limits tier with ⟨M, W⟩
  rw [hl] at hM hW
  dsimp only at hM hW ⊢
  constructor
  · intro h
    by_contra hcon
    rw [not_or, not_le] at hcon
    exact not_usageWithinLimit_of_lt hl (by omega) hW hcon.2 h
  · intro hcase run now hkept hnow info
    have hinv := hkept.keyInv hl hM hnow
    have hused := hkept.used_le hnow
    have hlimit : info.requestsLimit = M := by rw [requestsLimit_getUsageInfo, hl]
    rw [hlimit]
    rcases hcase with rfl | hlong
    · rw [admitted_eq_nil hW hinv, List.countP_nil] at hused
      exact hused
    · have hcount := countP_today_le_count hlong hinv.tracks.le
      have hbound := hinv.bounded now
      exact hused.trans (by omega)

private def shippedTiers : Dict String TierCfg :=
  Dict.ofList [("free", ⟨some 500, some 3600⟩), ("starter", ⟨some 25000, some 86400⟩)]

/-- The starter tier of the shipped configuration counts over a day. -/
theorem usageWithinLimit_iff_sample : UsageWithinLimit shippedTiers "key_a" "starter" :=
  (usageWithinLimit_iff shippedTiers "key_a" "starter" (by decide +kernel)
    (by decide +kernel)).mpr (Or.inr (by decide +kernel))

private def onePerTen : Dict String TierCfg := Dict.ofList [("free", ⟨some 1, some 10⟩)]

private def twiceADay : List UsageMove :=
  [.check (.check "key_a" "free" 0), .increment "key_a" 0, .check (.check "key_a" "free" 11),
    .increment "key_a" 11]

private theorem keptWithinLimit_twiceADay :
    KeptWithinLimit onePerTen "key_a" "free" twiceADay := by
  refine ⟨?_, ?_, ?_⟩
  · simp [twiceADay, UsageMove.now, Call.now]
  · simp [twiceADay, callsOf, Call.tier]
  · refine (((justified_nil.concat ?_).concat ?_).concat ?_).concat ?_
    · rintro t ⟨⟩
    · rintro t ⟨⟩
      decide +kernel
    · rintro t ⟨⟩
    · rintro t ⟨⟩
      decide +kernel

/-- One unit in ten seconds, used at 0 and again at 11: two requests of a day are reported against
a limit of one. -/
theorem not_usageWithinLimit : ¬ ∀ (limits : Dict String TierCfg) (k tier : String),
    0 ≤ (getLimits limits tier).1 → 0 < (getLimits limits tier).2 →
      UsageWithinLimit limits k tier := by
  intro h
  have hle := h onePerTen "key_a" "free" (by decide +kernel) (by decide +kernel) twiceADay 11
    keptWithinLimit_twiceADay (by simp [twiceADay, UsageMove.now, Call.now])
  revert hle
  decide +kernel

end AsbCloudApi.Api
