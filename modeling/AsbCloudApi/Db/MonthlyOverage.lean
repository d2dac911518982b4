import AsbCloudApi.Base.Calendar
import AsbCloudApi.Db.DailyUsage
import AsbCloudApi.Db.RateLimiter

/-!
# Monthly overage

Library `Db`. Models `check_overage` of `src/asb_api/db/usage.py:114–131` with the allowances of
`src/asb_api/billing/__init__.py:62–74`, and the check of the rate limiter with that tracker. The
allowance is one of a month, but what is held against it is the usage of the current date; and
asyncpg refuses the text of the date, so that the tracker raises, which the limiter ignores.
-/

namespace AsbCloudApi.Db

open Base Api PostgresUsageTracker

/-- `TIER_MONTHLY_REQUESTS`. -/
def tierMonthlyRequests : Dict String Int :=
  Dict.ofList [("free", 500), ("starter", 25000), ("pro", 200000), ("enterprise", 9999999999)]

/-- `TIER_OVERAGE_RATE`. -/
def tierOverageRate : Dict String ℚ :=
  Dict.ofList [("free", 0), ("starter", 2 / 1000), ("pro", 1 / 1000), ("enterprise", 0)]

/-- `check_overage`: whether there is overage, the requests and the cost;
`src/asb_api/db/usage.py:114–131`. -/
def PostgresUsageTracker.checkOverage (driver : Driver) (db : UsageTables) (keyId tier : String)
    (now : ℚ) : Except DbError (Bool × Int × ℚ) := do
  let limit := (tierMonthlyRequests.get? tier).getD 0
  if tier = "free" ∨ tier = "enterprise" then .ok (false, 0, 0)
  else
    let usage ← getDailyUsage driver db keyId (isoDate (dayOf now))
    let total := usage.totalRequests
    if total ≤ limit then .ok (false, 0, 0)
    else
      let overage := total - limit
      let rate := (tierOverageRate.get? tier).getD 0
      .ok (true, overage, overage * rate)

/-- `check_many` of a limiter with this tracker, given the attempts at the lock;
`src/asb_api/db/rate_limiter.py:36–46`. What the tracker raises is ignored, and the check proceeds
with the window. -/
def PostgresRateLimiter.checkManyTracked (driver : Driver) (limitsByTier : Dict String TierCfg)
    (db : UsageTables) (lockFirst lockSecond : Bool) (keyId tier : String) (count : Int)
    (now : ℚ) : Except LimitError CheckResult :=
  let overage :=
    match checkOverage driver db keyId tier now with
    | .ok answer => some answer
    | .error _ => none
  checkMany limitsByTier db.usage ⟨overage, lockFirst, lockSecond⟩ keyId tier count now

/-- The check of the window raises no overage. -/
theorem checkWindow_ne_overage (db : UsageDb) (env : PostgresRateLimiter.CheckEnv)
    (keyId : String) (maxRequests : Int) (windowSeconds : ℚ) (requested : Int) (now cost : ℚ) :
    PostgresRateLimiter.checkWindow db env keyId maxRequests windowSeconds requested now ≠
      .error (.overageLimitExceeded cost) := by
  unfold PostgresRateLimiter.checkWindow
  split
  · simp
  · dsimp only
    split
    · simp
    · split
      · simp
      · split <;> simp

/-- A check raises an overage exactly if the tracker reports one. -/
theorem checkManyTracked_overage_iff (driver : Driver) (limitsByTier : Dict String TierCfg)
    (db : UsageTables) (lockFirst lockSecond : Bool) (keyId tier : String) (count : Int)
    (now cost : ℚ) :
    PostgresRateLimiter.checkManyTracked driver limitsByTier db lockFirst lockSecond keyId tier
        count now = .error (.overageLimitExceeded cost) ↔
      ∃ requests, checkOverage driver db keyId tier now = .ok (true, requests, cost) := by
  unfold PostgresRateLimiter.checkManyTracked PostgresRateLimiter.checkMany
  rcases getLimits limitsByTier tier with ⟨M, W⟩
  rcases checkOverage driver db keyId tier now with e | ⟨_ | _, n, c⟩
  · simp [checkWindow_ne_overage]
  · simp [checkWindow_ne_overage]
  · simp

/-- The requests of a key recorded in a month. -/
def inMonth (keyId : String) (month : Month) (r : UsageRecord) : Bool :=
  r.keyId = keyId ∧ month.contains (dayOf r.createdAt)

/-- What an allowance demands, when the requests of the month are `total`: beyond it, the tracker
reports the requests in excess and the check raises their cost; up to it, no overage is raised. -/
def OverageEnforced (limit total : Int) (rate : ℚ) (answer : Except DbError (Bool × Int × ℚ))
    (r : Except LimitError CheckResult) : Prop :=
  (limit < total → answer = .ok (true, total - limit, (total - limit : Int) * rate) ∧
    r = .error (.overageLimitExceeded ((total - limit : Int) * rate))) ∧
  (total ≤ limit → ∀ cost, r ≠ .error (.overageLimitExceeded cost))

/-- For a tier that is billed, the tracker compares the requests of the date with the allowance. -/
theorem checkOverage_of_paid (driver : Driver) (db : UsageTables) (keyId : String) {tier : String}
    (now : ℚ) (ht : tier = "starter" ∨ tier = "pro") :
    checkOverage driver db keyId tier now =
      getDailyUsage driver db keyId (isoDate (dayOf now)) >>= fun usage ↦
        let limit := (tierMonthlyRequests.get? tier).getD 0
        let today := usage.totalRequests
        if today ≤ limit then .ok (false, 0, 0)
        else .ok (true, today - limit,
          (today - limit : Int) * (tierOverageRate.get? tier).getD 0) := by
  have hpaid : ¬ (tier = "free" ∨ tier = "enterprise") := by
    rcases ht with rfl | rfl <;> decide
  unfold checkOverage
  rw [if_neg hpaid]

/-- What a tracker reports that counts `today` requests of the date. -/
theorem checkOverage_iff_of_paid {driver : Driver} {db : UsageTables} {keyId tier : String}
    {now : ℚ} (ht : tier = "starter" ∨ tier = "pro") (requests : Int) (cost : ℚ) :
    checkOverage driver db keyId tier now = .ok (true, requests, cost) ↔
      ∃ usage, getDailyUsage driver db keyId (isoDate (dayOf now)) = .ok usage ∧ 0 < requests ∧
        usage.totalRequests = (tierMonthlyRequests.get? tier).getD 0 + requests ∧
        cost = requests * (tierOverageRate.get? tier).getD 0 := by
  rw [checkOverage_of_paid driver db keyId now ht, bind_eq_ok_iff]
  refine exists_congr fun usage ↦ and_congr_right fun _ ↦ ?_
  dsimp only
  split
  · next hle =>
    constructor
    · intro h
      cases h
    · rintro ⟨hpos, htotal, -⟩
      omega
  · next hover =>
    simp only [Except.ok.injEq, Prod.mk.injEq, true_and]
    constructor
    · rintro ⟨rfl, rfl⟩
      exact ⟨by omega, by omega, rfl⟩
    · rintro ⟨hpos, htotal, rfl⟩
      obtain rfl : requests = usage.totalRequests - (tierMonthlyRequests.get? tier).getD 0 := by
        omega
      exact ⟨rfl, rfl⟩

/-- The allowance is enforced exactly if the requests of the month do not exceed it, or the date
is read and none of them is missing from those of the date. -/
theorem overageEnforced_of_today {driver : Driver} {db : UsageTables} {keyId tier : String}
    {now : ℚ} (ht : tier = "starter" ∨ tier = "pro") {total : Int}
    (hle : ∀ usage, getDailyUsage driver db keyId (isoDate (dayOf now)) = .ok usage →
      usage.totalRequests ≤ total)
    (limitsByTier : Dict String TierCfg) (lockFirst lockSecond : Bool) (count : Int) :
    let limit := (tierMonthlyRequests.get? tier).getD 0
    OverageEnforced limit total ((tierOverageRate.get? tier).getD 0)
        (checkOverage driver db keyId tier now)
        (PostgresRateLimiter.checkManyTracked driver limitsByTier db lockFirst lockSecond keyId
          tier count now) ↔
      total ≤ limit ∨ ∃ usage, getDailyUsage driver db keyId (isoDate (dayOf now)) = .ok usage ∧
        usage.totalRequests = total := by
  intro limit
  constructor
  · rintro ⟨hover, -⟩
    by_cases hlimit : total ≤ limit
    · exact .inl hlimit
    · obtain ⟨usage, husage, -, htotal, -⟩ :=
        (checkOverage_iff_of_paid ht _ _).mp (hover (not_le.mp hlimit)).1
      exact .inr ⟨usage, husage, by omega⟩
  · intro h
    refine ⟨fun hover ↦ ?_, fun hlimit cost herr ↦ ?_⟩
    · -- beyond the allowance, the date has all the requests of the month
      obtain ⟨usage, husage, htotal⟩ := h.resolve_left (not_le.mpr hover)
      have hreport : checkOverage driver db keyId tier now = .ok (true, total - limit, _) :=
        (checkOverage_iff_of_paid ht _ _).mpr ⟨usage, husage, by omega, by omega, rfl⟩
      exact ⟨hreport, (checkManyTracked_overage_iff ..).mpr ⟨_, hreport⟩⟩
    · obtain ⟨requests, hreport⟩ := (checkManyTracked_overage_iff ..).mp herr
      obtain ⟨usage, husage, hpos, htotal, -⟩ := (checkOverage_iff_of_paid ht _ _).mp hreport
      have hmost := hle usage husage
      omega

/-- The requests of a date are some of those of its month, and all of them exactly if no other
date of the month has any. -/
theorem countP_onDate_le_inMonth (rows : List UsageRecord) (keyId : String) {month : Month}
    {today : Int} (hm : month.contains today) :
    rows.countP (onDate keyId today) ≤ rows.countP (inMonth keyId month) ∧
      (rows.countP (onDate keyId today) = rows.countP (inMonth keyId month) ↔
        ∀ r ∈ rows, inMonth keyId month r = true → dayOf r.createdAt = today) := by
  have hsub (r : UsageRecord) : (inMonth keyId month r && onDate keyId today r) = true ↔
      onDate keyId today r = true := by
    simp only [inMonth, onDate, Bool.and_eq_true, decide_eq_true_eq]
    constructor
    · exact And.right
    · rintro ⟨hkey, hday⟩
      exact ⟨⟨hkey, hday ▸ hm⟩, hkey, hday⟩
  have hsplit := List.countP_eq_countP_filter_add rows (inMonth keyId month) (onDate keyId today)
  rw [List.countP_filter, List.countP_congr fun r _ ↦ hsub r] at hsplit
  refine ⟨by omega, ?_⟩
  have hrest : rows.countP (onDate keyId today) = rows.countP (inMonth keyId month) ↔
      (rows.filter fun r ↦ !onDate keyId today r).countP (inMonth keyId month) = 0 := by omega
  rw [hrest, List.countP_eq_zero]
  simp only [List.mem_filter, and_imp, Bool.not_eq_true', Bool.not_eq_true]
  refine forall₂_congr fun r _ ↦ ?_
  simp only [inMonth, onDate, decide_eq_true_eq, decide_eq_false_iff_not]
  tauto

/-- In every state that records and rollups lead to, and with any driver, the allowance of the
current month is enforced exactly if the requests of the month do not exceed it, or the driver
takes the text of the date and all of them were recorded today. -/
theorem overageEnforced_iff_of_driver (driver : Driver) (apiKeys : List String)
    (calls : List (ℚ × UsageCall)) (hsorted : calls.Pairwise (fun c d ↦ c.1 ≤ d.1)) (now : ℚ)
    (hnow : ∀ c ∈ calls, c.1 ≤ now) (keyId tier : String) (ht : tier = "starter" ∨ tier = "pro")
    (limitsByTier : Dict String TierCfg) (lockFirst lockSecond : Bool) (count : Int) :
    let db := final (UsageTables.serve driver) (.start apiKeys) calls
    let rows := recorded apiKeys calls
    let month := Month.of (dayOf now)
    let limit := (tierMonthlyRequests.get? tier).getD 0
    let total : Int := rows.countP (inMonth keyId month)
    OverageEnforced limit total ((tierOverageRate.get? tier).getD 0)
        (checkOverage driver db keyId tier now)
        (PostgresRateLimiter.checkManyTracked driver limitsByTier db lockFirst lockSecond keyId
          tier count now) ↔
      total ≤ limit ∨
        (driver.encodeDate 2 (isoDate (dayOf now)) = .ok (dayOf now) ∧ hasNul keyId = false) ∧
          ∀ r ∈ rows, inMonth keyId month r = true → dayOf r.createdAt = dayOf now := by
  intro db rows month limit total
  obtain ⟨hle, hall⟩ := countP_onDate_le_inMonth rows keyId (Month.contains_of (dayOf now))
  have hread := getDailyUsage_ok_iff driver apiKeys hsorted now hnow keyId (dayOf now)
  have htoday : (rawTotals rows keyId (dayOf now)).totalRequests =
      rows.countP (onDate keyId (dayOf now)) := by
    rw [List.countP_eq_length_filter]
    rfl
  refine (overageEnforced_of_today ht (fun usage husage ↦ ?_) limitsByTier lockFirst lockSecond
    count).trans (or_congr_right ?_)
  · obtain ⟨-, rfl⟩ := (hread usage).mp husage
    exact htoday.le.trans (Int.ofNat_le.mpr hle)
  · rw [← hall]
    constructor
    · rintro ⟨usage, husage, htotal⟩
      obtain ⟨htaken, rfl⟩ := (hread usage).mp husage
      exact ⟨htaken, Int.ofNat_inj.mp (htoday.symm.trans htotal)⟩
    · rintro ⟨htaken, htotal⟩
      exact ⟨_, (hread _).mpr ⟨htaken, rfl⟩, htoday.trans (Int.ofNat_inj.mpr htotal)⟩

/-- In every state that records and rollups lead to, the allowance of the current month is enforced
exactly if the requests of the month do not exceed it: beyond it, the tracker raises, and the check
ignores that. -/
theorem overageEnforced_iff (driver : Driver) (hdriver : driver.RefusesTexts)
    (apiKeys : List String) (calls : List (ℚ × UsageCall))
    (hsorted : calls.Pairwise (fun c d ↦ c.1 ≤ d.1)) (now : ℚ) (hnow : ∀ c ∈ calls, c.1 ≤ now)
    (keyId tier : String) (ht : tier = "starter" ∨ tier = "pro")
    (limitsByTier : Dict String TierCfg) (lockFirst lockSecond : Bool) (count : Int) :
    let db := final (UsageTables.serve driver) (.start apiKeys) calls
    let month := Month.of (dayOf now)
    let limit := (tierMonthlyRequests.get? tier).getD 0
    let total : Int := (recorded apiKeys calls).countP (inMonth keyId month)
    OverageEnforced limit total ((tierOverageRate.get? tier).getD 0)
        (checkOverage driver db keyId tier now)
        (PostgresRateLimiter.checkManyTracked driver limitsByTier db lockFirst lockSecond keyId
          tier count now) ↔
      total ≤ limit := by
  intro db month limit total
  refine (overageEnforced_iff_of_driver driver apiKeys calls hsorted now hnow keyId tier ht
    limitsByTier lockFirst lockSecond count).trans (or_iff_left ?_)
  rintro ⟨⟨htaken, -⟩, -⟩
  obtain ⟨message, hrefused⟩ := hdriver 2 (isoDate (dayOf now))
  rw [hrefused] at htaken
  cases htaken

private def requestArgs : UsageArgs := ⟨"key_a", "req_1", none, "success", 5, false, none⟩

/-- Requests of a key on the first day of 1970, and one on the second. -/
private def spread (n : Nat) : List (ℚ × UsageCall) :=
  List.replicate n (10, .record requestArgs) ++ [(90000, .record requestArgs)]

private theorem spread_sorted (n : Nat) : (spread n).Pairwise (fun c d ↦ c.1 ≤ d.1) := by
  refine List.pairwise_append.mpr ⟨List.pairwise_replicate.mpr (.inr le_rfl),
    List.pairwise_singleton _ _, fun c hc d hd ↦ ?_⟩
  obtain rfl := List.eq_of_mem_replicate hc
  obtain rfl := List.mem_singleton.mp hd
  decide +kernel

private theorem spread_le (n : Nat) : ∀ c ∈ spread n, c.1 ≤ 90001 := by
  intro c hc
  rcases List.mem_append.mp hc with hc | hc
  · obtain rfl := List.eq_of_mem_replicate hc
    decide +kernel
  · obtain rfl := List.mem_singleton.mp hc
    decide +kernel

private theorem recorded_spread (n : Nat) : recorded ["key_a"] (spread n) =
    List.replicate n (requestArgs.row 10) ++ [requestArgs.row 90000] := by
  rw [spread, recorded, List.filterMap_append,
    List.filterMap_replicate_of_some (b := requestArgs.row 10) (by decide +kernel)]
  congr 1

private theorem countP_spread (n : Nat) :
    (recorded ["key_a"] (spread n)).countP (inMonth "key_a" (Month.of (dayOf 90001))) = n + 1 := by
  have hfirst : inMonth "key_a" (Month.of (dayOf 90001)) (requestArgs.row 10) = true := by
    decide +kernel
  have hlast : inMonth "key_a" (Month.of (dayOf 90001)) (requestArgs.row 90000) = true := by
    decide +kernel
  rw [recorded_spread]
  simp only [List.countP_append, List.countP_replicate, List.countP_singleton, hfirst, hlast,
    if_true]

/-- The allowance of 25000 requests is enforced on the second of these days. -/
private abbrev SpreadEnforced (n : Nat) : Prop :=
  OverageEnforced 25000 (n + 1 : Nat) (2 / 1000)
    (checkOverage refusingDriver
      (final (UsageTables.serve refusingDriver) (.start ["key_a"]) (spread n)) "key_a" "starter"
      90001)
    (PostgresRateLimiter.checkManyTracked refusingDriver Dict.empty
      (final (UsageTables.serve refusingDriver) (.start ["key_a"]) (spread n)) true true "key_a"
      "starter" 1 90001)

/-- The last request that the allowance includes, and the first beyond it. -/
theorem overageEnforced_iff_sample : SpreadEnforced 24999 ∧ ¬ SpreadEnforced 25000 := by
  have h (n : Nat) := overageEnforced_iff refusingDriver refusesTexts_refusingDriver ["key_a"]
    (spread n) (spread_sorted n) 90001 (spread_le n) "key_a" "starter" (.inl rfl) Dict.empty true
    true 1
  have hlimit : (tierMonthlyRequests.get? "starter").getD 0 = 25000 := by decide +kernel
  have hrate : (tierOverageRate.get? "starter").getD 0 = 2 / 1000 := by decide +kernel
  simp only [countP_spread, hlimit, hrate] at h
  exact ⟨(h 24999).mpr (by decide), fun hover ↦ absurd ((h 25000).mp hover) (by decide)⟩

/-- One request beyond the allowance of the month: the tracker raises, and the check passes. -/
theorem not_overageEnforced :
    (recorded ["key_a"] (spread 25000)).countP (inMonth "key_a" (Month.of (dayOf 90001))) = 25001 ∧
      ¬ SpreadEnforced 25000 := by
  refine ⟨countP_spread 25000, fun h ↦ ?_⟩
  obtain ⟨hreport, -⟩ := h.1 (by decide)
  obtain ⟨usage, hread, -⟩ := (checkOverage_iff_of_paid (.inl rfl) _ _).mp hreport
  obtain ⟨message, hrefused⟩ := getDailyUsage_of_refusesTexts refusesTexts_refusingDriver
    (final (UsageTables.serve refusingDriver) (.start ["key_a"]) (spread 25000)) "key_a"
    (isoDate (dayOf 90001))
  rw [hrefused] at hread
  cases hread

end AsbCloudApi.Db
