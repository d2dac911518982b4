import AsbCloudApi.Api.RateLimiter
import Mathlib.Data.Rat.Floor
import Mathlib.Tactic.Linarith

/-!
# The reset time of a rejected call

Library `Api`. `check_many` of `src/asb_api/api/rate_limiter.py` reports when the oldest unit of the
window leaves it, cut to whole seconds. At that second the unit still counts: the cut is
downwards, and eviction keeps a unit that is exactly as old as the window.
-/

namespace AsbCloudApi.Api

open Base

/-- `int()` of a number that is not negative rounds down. -/
theorem pyInt_le {q : ℚ} (h : 0 ≤ q) : (pyInt q : ℚ) ≤ q := by
  have hfloor : pyInt q = ⌊q⌋ := by
    rw [Rat.floor_def', pyInt, Int.tdiv_eq_ediv_of_nonneg (Rat.num_nonneg.mpr h)]
  rw [hfloor]
  exact Int.floor_le q

/-- `int()` of a negative number rounds up. -/
theorem pyInt_of_neg {q : ℚ} (h : q < 0) : pyInt q = ⌈q⌉ := by
  have hnum : 0 ≤ -q.num := by
    have hneg := Rat.num_neg.mpr h
    omega
  rw [Rat.ceil_def', pyInt, ← Int.tdiv_eq_ediv_of_nonneg hnum, Int.neg_tdiv, neg_neg]

namespace SlidingWindowLimiter

/-- The same call at another instant. -/
def Call.again : Call → ℚ → Call
  | .check k tier _, t => .check k tier t
  | .checkMany k tier n _, t => .checkMany k tier n t

theorem Call.again_eq (c : Call) (t : ℚ) : (c.again t).keyId = c.keyId ∧
    (c.again t).tier = c.tier ∧ (c.again t).units = c.units ∧ (c.again t).now = t := by
  cases c with
  | check k tier now => exact ⟨rfl, rfl, rfl, rfl⟩
  | checkMany k tier n now => exact ⟨rfl, rfl, rfl, rfl⟩

/-- The call, repeated at the reset time or later, is admitted, provided that nothing was admitted
for its key in between. -/
def ResetSufficient (s : SlidingWindowLimiter) (c : Call) (resetAt : Int) : Prop :=
  ∀ between t, (c :: between).Pairwise (fun c d ↦ c.now ≤ d.now) →
    (∀ d ∈ c :: between, d.now ≤ t) → resetAt ≤ t →
    (s.step c).2.admitted between c.keyId = [] →
    ((final step (s.step c).2 between).step (c.again t)).1.isOk = true

/-- The oldest unit leaves the window before 1970, and with it, by the next whole second, enough
units for `n` more. -/
def FreesBeforeEpoch (M : Int) (W : ℚ) (n : Int) (window : List ℚ) : Prop :=
  ∃ oldest ∈ window.head?, oldest + W < 0 ∧
    (Window.evict (⌈oldest + W⌉ - W) window).length + n ≤ M

/-- Calls that admit nothing for a key leave of its queue what was at the end. -/
theorem window_final_suffix {k : String} {cs : List Call} {s : SlidingWindowLimiter}
    (h : s.admitted cs k = []) : (final step s cs).window k <:+ s.window k := by
  induction cs generalizing s with
  | nil => exact List.suffix_rfl
  | cons c cs ih =>
    rw [admitted_cons, List.append_eq_nil_iff] at h
    obtain ⟨hnone, hrest⟩ := h
    refine (ih hrest).trans (window_step_suffix fun hk hok ↦ ?_)
    rw [unitsOf, if_pos ⟨hok, hk⟩, List.replicate_eq_nil_iff] at hnone
    have hpos := units_pos c
    omega

section Rejected

variable {s : SlidingWindowLimiter} {c : Call} {M : Int} {W : ℚ}

/-- A repeated call is decided on what is left of the queue then. -/
theorem isOk_again_iff (hl : getLimits s.limitsByTier c.tier = (M, W)) (hM : M ≠ -1)
    (between : List Call) (t : ℚ) :
    ((final step (s.step c).2 between).step (c.again t)).1.isOk = true ↔
      (Window.evict (t - W) ((final step (s.step c).2 between).window c.keyId)).length +
        c.units ≤ M := by
  obtain ⟨hkey, htier, hunits, hnow⟩ := c.again_eq t
  rw [isOk_step_iff (M := M) (W := W) _ hM, hkey, hunits, hnow]
  rw [limitsByTier_final, limitsByTier_step, htier, hl]

/-- The head of what an eviction leaves is not before its cutoff. -/
theorem le_of_mem_head_evict {cutoff a : ℚ} {w : List ℚ}
    (h : a ∈ (Window.evict cutoff w).head?) : cutoff ≤ a := by
  have hnot := List.head?_dropWhile_not (fun a ↦ decide (a < cutoff)) w
  unfold Window.evict at h
  rw [Option.mem_def.mp h] at hnot
  simpa using hnot

/-- An eviction that leaves less of a queue takes its head. -/
theorem head_lt_of_length_evict_lt {cutoff a : ℚ} {w : List ℚ} (ha : a ∈ w.head?)
    (h : (Window.evict cutoff w).length < w.length) : a < cutoff := by
  cases w with
  | nil => cases ha
  | cons b w =>
    obtain rfl := Option.some.inj ha
    by_contra hle
    have hkeep : Window.evict cutoff (b :: w) = b :: w := by simp [Window.evict, hle]
    rw [hkeep] at h
    exact absurd h (lt_irrefl _)

/-- Right at the reset time, or at once if that has passed, a rejected call is rejected again,
unless the time was rounded up and enough units have left. -/
theorem freesBeforeEpoch_of_resetSufficient (hl : getLimits s.limitsByTier c.tier = (M, W))
    (hM : M ≠ -1) (hno : ¬ (s.step c).1.isOk = true) (hfits : c.units ≤ M)
    (h : ResetSufficient s c
      (pyInt ((Window.evict (c.now - W) (s.window c.keyId)).head?.getD c.now + W))) :
    FreesBeforeEpoch M W c.units (Window.evict (c.now - W) (s.window c.keyId)) := by
  have hfull := hno
  rw [isOk_step_iff hl hM] at hfull
  have hwin := window_step_of_rejected hl hM hno
  generalize hw : Window.evict (c.now - W) (s.window c.keyId) = w at *
  obtain ⟨oldest, hold⟩ : ∃ oldest, w.head? = some oldest := by
    cases w with
    | nil =>
      simp only [List.length_nil, Nat.cast_zero, zero_add] at hfull
      exact absurd hfits hfull
    | cons a w => exact ⟨a, rfl⟩
  have hage : c.now - W ≤ oldest :=
    le_of_mem_head_evict (w := s.window c.keyId) (by rw [hw, hold]; rfl)
  rw [hold, Option.getD_some] at h
  generalize hreset : pyInt (oldest + W) = reset at h
  have hagain := h [] (max c.now reset) (List.pairwise_singleton _ _) (by simp)
    (le_max_right _ _) rfl
  rw [isOk_again_iff hl hM, final_nil, hwin] at hagain
  have hless : oldest < max c.now reset - W := by
    apply head_lt_of_length_evict_lt (w := w) hold
    omega
  -- the oldest unit is still there at the instant of the call
  have hlater : oldest + W < reset := by
    rcases max_choice c.now (reset : ℚ) with hmax | hmax
    · rw [hmax] at hless
      exact absurd hage (not_le.mpr hless)
    · rw [hmax] at hless
      linarith
  have hneg : oldest + W < 0 := by
    by_contra hnn
    have hcut := pyInt_le (not_lt.mp hnn)
    rw [hreset] at hcut
    exact absurd hcut (not_le.mpr hlater)
  refine ⟨oldest, hold, hneg, ?_⟩
  rw [← pyInt_of_neg hneg, hreset]
  have hmax : max c.now (reset : ℚ) = reset := max_eq_right (by linarith)
  rwa [hmax] at hagain

/-- If enough units leave by the reset time, the queue has room from then on. -/
theorem resetSufficient_of_freesBeforeEpoch (hl : getLimits s.limitsByTier c.tier = (M, W))
    (hM : M ≠ -1) (hno : ¬ (s.step c).1.isOk = true)
    (hsorted : (s.window c.keyId).Pairwise (· ≤ ·))
    (h : FreesBeforeEpoch M W c.units (Window.evict (c.now - W) (s.window c.keyId))) :
    ResetSufficient s c
      (pyInt ((Window.evict (c.now - W) (s.window c.keyId)).head?.getD c.now + W)) := by
  obtain ⟨oldest, hold, hneg, hroom⟩ := h
  have hreset : pyInt ((Window.evict (c.now - W) (s.window c.keyId)).head?.getD c.now + W) =
      ⌈oldest + W⌉ := by
    rw [Option.mem_def.mp hold, Option.getD_some, pyInt_of_neg hneg]
  rw [hreset]
  intro between t _ _ ht hnone
  rw [isOk_again_iff hl hM]
  have hsuffix := window_final_suffix hnone
  rw [window_step_of_rejected hl hM hno] at hsuffix
  have hle := Window.length_evict_le (sub_le_sub_right ht W) hsuffix
    (hsorted.sublist (List.dropWhile_suffix _).sublist)
  omega

end Rejected

/-- In every reachable state, the reset time that a rejected call reports is sufficient only if
the oldest unit leaves the window before 1970 and enough others leave by the next whole second. -/
theorem resetSufficient_iff (limits : Dict String TierCfg) {cs : List Call} {c : Call}
    {e : RateLimitExceeded} (hclock : (cs ++ [c]).Pairwise fun c d ↦ c.now ≤ d.now)
    (hrejected : ((final step (new limits) cs).step c).1 = .error e)
    (hfits : c.units ≤ (getLimits limits c.tier).1) :
    let s := final step (new limits) cs
    let M := (getLimits limits c.tier).1
    let W := (getLimits limits c.tier).2
    ResetSufficient s c e.resetAt ↔
      FreesBeforeEpoch M W c.units (Window.evict (c.now - W) (s.window c.keyId)) := by
  intro s M W
  have hl : getLimits s.limitsByTier c.tier = (M, W) := by rw [limitsByTier_final]; rfl
  obtain ⟨hM, hreset⟩ := resetAt_of_rejected hl hrejected
  have hno : ¬ (s.step c).1.isOk = true := by
    rw [hrejected]
    exact Bool.false_ne_true
  obtain ⟨hcs, -, hcross⟩ := List.pairwise_append.mp hclock
  have hsorted : s.QueuesSorted c.now := queuesSorted_final hcs fun d hd ↦
    hcross d hd c List.mem_cons_self
  rw [hreset]
  exact ⟨freesBeforeEpoch_of_resetSufficient hl hM hno hfits,
    resetSufficient_of_freesBeforeEpoch hl hM hno (hsorted c.keyId).1⟩

/-- With a clock that reads 1970 or later it never is. -/
theorem not_freesBeforeEpoch {now : ℚ} (h : 0 ≤ now) (M : Int) (W : ℚ) (n : Int) (w : List ℚ) :
    ¬ FreesBeforeEpoch M W n (Window.evict (now - W) w) := by
  rintro ⟨oldest, hold, hneg, -⟩
  have hage := le_of_mem_head_evict hold
  linarith

private def oneInTen : Dict String TierCfg := Dict.ofList [("starter", ⟨some 1, some 10⟩)]

/-- A clock before 1970: the unit of instant -20.5 leaves the window at -10.5, and -10 is
reported. -/
theorem resetSufficient_iff_sample : ResetSufficient
    (final step (new oneInTen) [.check "key_a" "starter" (-41 / 2)])
    (.check "key_a" "starter" (-20)) (-10) := by
  have hrejected : ((final step (new oneInTen) [.check "key_a" "starter" (-41 / 2)]).step
      (.check "key_a" "starter" (-20))).1 = .error ⟨1, 0, -10⟩ := by
    decide +kernel
  have hiff := resetSufficient_iff oneInTen (by decide +kernel) hrejected (by decide +kernel)
  exact hiff.mpr ⟨-41 / 2, by decide +kernel, by decide +kernel, by decide +kernel⟩

/-- One unit in ten seconds, taken at 0: the rejected call at 5 reports 10, and is rejected again
at 10. -/
theorem not_resetSufficient : ¬ ∀ (limits : Dict String TierCfg) (cs : List Call) (c : Call)
    (e : RateLimitExceeded), (cs ++ [c]).Pairwise (fun c d ↦ c.now ≤ d.now) →
      ((final step (new limits) cs).step c).1 = .error e →
      c.units ≤ (getLimits limits c.tier).1 →
      ResetSufficient (final step (new limits) cs) c e.resetAt := by
  intro h
  have hsuff := h oneInTen [.check "key_a" "starter" 0] (.check "key_a" "starter" 5) ⟨1, 0, 10⟩
    (by decide +kernel) (by decide +kernel) (by decide +kernel)
  have hagain := hsuff [] 10 (by decide +kernel) (by decide +kernel) (by decide +kernel) rfl
  revert hagain
  decide +kernel

end SlidingWindowLimiter
end AsbCloudApi.Api
