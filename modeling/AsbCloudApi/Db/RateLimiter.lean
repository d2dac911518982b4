import AsbCloudApi.Api.RateLimiter
import AsbCloudApi.Db.Usage

/-!
# PostgreSQL rate limiter

Library `Db`. Models `src/asb_api/db/rate_limiter.py`. The advisory lock makes one
`check_many` a single step on the committed rows. The quota is consumed later, by the insert
into `usage_records` after the worker run, so units in flight are invisible to a check.
The limit holds in every run whose checks find room for those units too.
-/

namespace AsbCloudApi.Db

open Base Api

/-- What `check_many` raises. -/
inductive LimitError where
  | rateLimitExceeded (e : RateLimitExceeded)
  | overageLimitExceeded (overageCostUsd : ℚ)
  deriving DecidableEq

/-- `SELECT COUNT(*) … WHERE key_id = $1 AND created_at > $2`. -/
def countNewer (db : UsageDb) (keyId : String) (cutoff : ℚ) : Nat :=
  db.usageRecords.countP (fun r ↦ decide (r.keyId = keyId ∧ cutoff < r.createdAt))

/-- `SELECT created_at … WHERE key_id = $1 AND created_at > $2 ORDER BY created_at ASC LIMIT 1`. -/
def oldestNewer (db : UsageDb) (keyId : String) (cutoff : ℚ) : Option ℚ :=
  ((db.usageRecords.filter (fun r ↦ decide (r.keyId = keyId ∧ cutoff < r.createdAt))).map
    UsageRecord.createdAt).min?

namespace PostgresRateLimiter

/-- What a check learns beside the rows: the monthly overage answer, when a usage tracker is set
and does not raise, and the outcomes of the two attempts at the advisory lock. -/
structure CheckEnv where
  overage : Option (Bool × Int × ℚ)
  lockFirst : Bool
  lockSecond : Bool

/-- The window part of `check_many`; `src/asb_api/db/rate_limiter.py:48–107`. -/
def checkWindow (db : UsageDb) (env : CheckEnv) (keyId : String) (maxRequests : Int)
    (windowSeconds : ℚ) (requested : Int) (now : ℚ) : Except LimitError CheckResult :=
  if maxRequests = -1 then .ok ⟨true, -1, 0⟩ else
    let resetAt := pyInt (now + windowSeconds)
    if !env.lockFirst && !env.lockSecond then
      .error (.rateLimitExceeded ⟨maxRequests, 0, resetAt⟩)
    else
      let cutoff := now - windowSeconds
      let currentCount := countNewer db keyId cutoff
      let resetFromOldest :=
        match oldestNewer db keyId cutoff with
        | some createdAt => pyInt (createdAt + windowSeconds)
        | none => resetAt
      if (currentCount : Int) ≥ maxRequests then
        .error (.rateLimitExceeded ⟨maxRequests, 0, resetFromOldest⟩)
      else
        let remainingBefore := maxRequests - currentCount
        if remainingBefore < requested then
          .error (.rateLimitExceeded ⟨maxRequests, max 0 remainingBefore, resetFromOldest⟩)
        else
          let remaining := maxRequests - currentCount - requested
          .ok ⟨true, max 0 remaining, resetAt⟩

/-- `check_many`; `src/asb_api/db/rate_limiter.py:30–107`. -/
def checkMany (limitsByTier : Dict String TierCfg) (db : UsageDb) (env : CheckEnv)
    (keyId tier : String) (count : Int) (now : ℚ) : Except LimitError CheckResult :=
  let requested := max 1 count
  let (maxRequests, windowSeconds) := getLimits limitsByTier tier
  match env.overage with
  | some (true, _, cost) => .error (.overageLimitExceeded cost)
  | _ => checkWindow db env keyId maxRequests windowSeconds requested now

/-- An admitted check of a limited tier saw room for what it requested. -/
theorem checkMany_ok_room {limitsByTier : Dict String TierCfg} {db : UsageDb} {env : CheckEnv}
    {keyId tier : String} {count : Int} {now : ℚ} {r : CheckResult}
    (h : checkMany limitsByTier db env keyId tier count now = .ok r)
    (hM : (getLimits limitsByTier tier).1 ≠ -1) :
    countNewer db keyId (now - (getLimits limitsByTier tier).2) + max 1 count ≤
      (getLimits limitsByTier tier).1 := by
  unfold checkMany at h
  rcases hl : getLimits limitsByTier tier with ⟨M, W⟩
  rw [hl] at h hM
  have hw : checkWindow db env keyId M W (max 1 count) now = .ok r := by
    cases ho : env.overage with
    | none => simpa only [ho] using h
    | some o =>
      rcases o with ⟨_ | _, n, cost⟩
      · simpa only [ho] using h
      · simp only [ho] at h
        cases h
  unfold checkWindow at hw
  rw [if_neg hM] at hw
  dsimp only at hw
  split at hw
  · cases hw
  split at hw
  · cases hw
  split at hw
  · cases hw
  · next hroom =>
    dsimp only
    omega

/-! ### Concurrent requests of one key -/

/-- A unit admitted by a check and not yet recorded; `ran` after its worker run. -/
structure InFlight where
  checkedAt : ℚ
  ran : Bool

/-- The shared state of all API processes: the database and the clock; the units in flight; and,
for the statement, the check instants of all units admitted so far and the check and insert
instants of those recorded. -/
structure State where
  db : UsageDb
  clock : ℚ
  inFlight : List InFlight
  admitted : List ℚ
  recorded : List (ℚ × ℚ)

/-- Moves of the system; a check carries the units its request asks for. -/
inductive Move where
  | tick
  | check (count : Int)
  | run
  | record
  | foreign

section System

variable (limitsByTier : Dict String TierCfg) (keyId tier : String)

/-- One step of the requests of key `keyId`: time passes, a request checks, a worker runs for an
admitted unit, the unit is recorded; or a row of another key is inserted. -/
inductive Step : State → Move → State → Prop where
  | tick {s : State} {t : ℚ} (h : s.clock ≤ t) : Step s .tick { s with clock := t }
  | grant {s : State} {env : CheckEnv} {count : Int} {r : CheckResult}
      (h : checkMany limitsByTier s.db env keyId tier count s.clock = .ok r) :
      Step s (.check count) { s with
        inFlight := s.inFlight ++ List.replicate (max 1 count).toNat ⟨s.clock, false⟩
        admitted := s.admitted ++ List.replicate (max 1 count).toNat s.clock }
  | refuse {s : State} {env : CheckEnv} {count : Int} {e : LimitError}
      (h : checkMany limitsByTier s.db env keyId tier count s.clock = .error e) :
      Step s (.check count) s
  | run {s : State} {pre post : List InFlight} {c : ℚ}
      (h : s.inFlight = pre ++ ⟨c, false⟩ :: post) :
      Step s .run { s with inFlight := pre ++ ⟨c, true⟩ :: post }
  | record {s : State} {pre post : List InFlight} {c : ℚ} {row : UsageRecord} {db : UsageDb}
      (h : s.inFlight = pre ++ ⟨c, true⟩ :: post) (hk : row.keyId = keyId)
      (ht : row.createdAt = s.clock) (hr : PostgresUsageTracker.record s.db row = .ok db) :
      Step s .record { s with
        db := db
        inFlight := pre ++ post
        recorded := s.recorded ++ [(c, s.clock)] }
  | foreign {s : State} {row : UsageRecord} {db : UsageDb} (hk : row.keyId ≠ keyId)
      (hr : PostgresUsageTracker.record s.db row = .ok db) : Step s .foreign { s with db := db }

/-- Before the first request: any database, nothing in flight. -/
def start (db : UsageDb) (clock : ℚ) : State := ⟨db, clock, [], [], []⟩

/-- Any interleaving of the steps. -/
def Reaches : State → State → Prop :=
  Relation.ReflTransGen (fun s t ↦ ∃ m, Step limitsByTier keyId tier s m t)

/-- No window of `window_seconds`, open at its start, contains the check instants of more than
`max_requests` admitted units. -/
def WithinLimit (s : State) : Prop :=
  ∀ t, (Window.halfOpen (getLimits limitsByTier tier).2).count t s.admitted ≤
    (getLimits limitsByTier tier).1

/-- Units in flight that were checked in the window ending now. -/
def unseen (s : State) : Nat :=
  s.inFlight.countP
    (fun u ↦ decide (s.clock - (getLimits limitsByTier tier).2 < u.checkedAt))

/-- If the rows leave room for a request of `count` units, there is still room once the units in
flight, which no row shows yet, are counted as well. -/
def RoomForUnseen (s : State) (count : Int) : Prop :=
  let M := (getLimits limitsByTier tier).1
  let seen := countNewer s.db keyId (s.clock - (getLimits limitsByTier tier).2)
  seen + max 1 count ≤ M → seen + unseen limitsByTier tier s + max 1 count ≤ M

/-- With nothing in flight that was checked in the window, the rows tell a check everything. -/
theorem roomForUnseen_of_unseen_eq_zero {s : State} (h : unseen limitsByTier tier s = 0)
    (count : Int) : RoomForUnseen limitsByTier keyId tier s count := by
  intro hsaw
  rw [h]
  simpa using hsaw

/-- Interleavings in which every check meets `RoomForUnseen`. -/
def ReachesUnraced : State → State → Prop :=
  Relation.ReflTransGen (fun s t ↦ ∃ m, Step limitsByTier keyId tier s m t ∧
    ∀ count, m = .check count → RoomForUnseen limitsByTier keyId tier s count)

/-- The ghost fields describe the run, and the limit holds. -/
structure Inv (s : State) : Prop where
  past : ∀ a ∈ s.admitted, a ≤ s.clock
  split : s.admitted.Perm (s.recorded.map Prod.fst ++ s.inFlight.map InFlight.checkedAt)
  stamped : ∀ p ∈ s.recorded, p.1 ≤ p.2
  rows : (s.recorded.map Prod.snd).Sublist
    ((s.db.usageRecords.filter (fun r ↦ r.keyId = keyId)).map UsageRecord.createdAt)
  bounded : (Window.halfOpen (getLimits limitsByTier tier).2).Bounded
    (getLimits limitsByTier tier).1.toNat s.admitted

theorem inv_start (db : UsageDb) (clock : ℚ) :
    Inv limitsByTier keyId tier (start db clock) :=
  ⟨by simp [start], by simp [start], by simp [start], by simp [start],
    Window.Shape.bounded_nil _ _⟩

variable {limitsByTier keyId tier}

/-- Units in the window that ends now are either in flight or behind a row the check counts. -/
theorem Inv.count_le {s : State} (h : Inv limitsByTier keyId tier s) :
    (Window.halfOpen (getLimits limitsByTier tier).2).count s.clock s.admitted ≤
      countNewer s.db keyId (s.clock - (getLimits limitsByTier tier).2) +
        unseen limitsByTier tier s := by
  have hperm := h.split.countP_eq
    (fun a ↦ decide ((Window.halfOpen (getLimits limitsByTier tier).2).mem s.clock a))
  rw [List.countP_append] at hperm
  rw [Window.Shape.count, hperm]
  apply Nat.add_le_add
  · have hrows := h.rows.countP_le
      (p := fun a ↦ decide (s.clock - (getLimits limitsByTier tier).2 < a))
    have hseen : ((s.db.usageRecords.filter (fun r ↦ r.keyId = keyId)).map
        UsageRecord.createdAt).countP
          (fun a ↦ decide (s.clock - (getLimits limitsByTier tier).2 < a)) =
        countNewer s.db keyId (s.clock - (getLimits limitsByTier tier).2) := by
      rw [List.countP_map, List.countP_filter, countNewer]
      apply List.countP_congr
      intro r _
      simp [and_comm]
    rw [hseen] at hrows
    refine le_trans ?_ hrows
    rw [List.countP_map, List.countP_map]
    apply List.countP_mono_left
    intro p hp hm
    rw [Function.comp_apply, decide_eq_true_eq] at hm ⊢
    exact lt_of_lt_of_le (Window.mem_halfOpen.mp hm).1 (h.stamped p hp)
  · rw [List.countP_map, unseen]
    apply List.countP_mono_left
    intro u _ hm
    rw [Function.comp_apply, decide_eq_true_eq] at hm
    rw [decide_eq_true_eq]
    exact (Window.mem_halfOpen.mp hm).1

private theorem perm_move (a : List ℚ) (r : List ℚ) (pre post : List InFlight) (c : ℚ) (b : Bool)
    (h : a.Perm (r ++ (pre ++ ⟨c, b⟩ :: post).map InFlight.checkedAt)) :
    a.Perm (r ++ [c] ++ (pre ++ post).map InFlight.checkedAt) := by
  refine h.trans ?_
  rw [List.append_assoc, List.map_append, List.map_cons, List.map_append]
  exact List.Perm.append_left r List.perm_middle

/-- Every step keeps the invariant, a check provided the units in flight leave room for it. -/
theorem Inv.step (hM : 0 ≤ (getLimits limitsByTier tier).1) {s s' : State} {m : Move}
    (h : Inv limitsByTier keyId tier s) (hs : Step limitsByTier keyId tier s m s')
    (hroom : ∀ count, m = .check count → RoomForUnseen limitsByTier keyId tier s count) :
    Inv limitsByTier keyId tier s' := by
  cases hs with
  | tick ht => exact ⟨fun a ha ↦ le_trans (h.past a ha) ht, h.split, h.stamped, h.rows, h.bounded⟩
  | @grant env count r hc =>
    have hsaw := checkMany_ok_room hc (by omega)
    have hunits : 0 ≤ max 1 count := by omega
    have hfit := hroom count rfl hsaw
    have hcount := h.count_le
    refine ⟨?_, ?_, h.stamped, h.rows, h.bounded.append h.past (by omega)⟩
    · intro a ha
      rcases List.mem_append.mp ha with ha | ha
      · exact h.past a ha
      · exact (List.eq_of_mem_replicate ha).le
    · rw [List.map_append, List.map_replicate, ← List.append_assoc]
      exact h.split.append_right _
  | refuse => exact h
  | @run pre post c hf =>
    refine ⟨h.past, ?_, h.stamped, h.rows, h.bounded⟩
    have hsplit := h.split
    rw [hf] at hsplit
    simpa using hsplit
  | @record pre post c row db hf hk ht hr =>
    obtain ⟨_, hdb⟩ := (record_ok_iff s.db db row).mp hr
    have hsplit := h.split
    rw [hf] at hsplit
    have hc : c ≤ s.clock := by
      apply h.past c
      rw [hsplit.mem_iff]
      simp
    refine ⟨h.past, ?_, ?_, ?_, h.bounded⟩
    · rw [List.map_append]
      exact perm_move s.admitted _ pre post c true hsplit
    · intro p hp
      rcases List.mem_append.mp hp with hp | hp
      · exact h.stamped p hp
      · rw [List.mem_singleton] at hp
        rw [hp]
        exact hc
    · rw [hdb, List.map_append, List.filter_append, List.map_append]
      apply h.rows.append
      simp [hk, ht]
  | @foreign row db hk hr =>
    obtain ⟨_, hdb⟩ := (record_ok_iff s.db db row).mp hr
    refine ⟨h.past, h.split, h.stamped, ?_, h.bounded⟩
    rw [hdb, List.filter_append]
    simpa [hk] using h.rows

end System

/-- The limit holds in every state of a run whose checks all find room for the units in flight
as well as for the recorded ones. -/
theorem withinLimit_of_reachesUnraced (limitsByTier : Dict String TierCfg) (keyId tier : String)
    (hM : 0 ≤ (getLimits limitsByTier tier).1) (db : UsageDb) (clock : ℚ) (s : State)
    (h : ReachesUnraced limitsByTier keyId tier (start db clock) s) :
    WithinLimit limitsByTier tier s := by
  have hinv : Inv limitsByTier keyId tier s := by
    refine reachable_induction ?_ (inv_start limitsByTier keyId tier db clock) h
    rintro a b ha ⟨m, hstep, hroom⟩
    exact ha.step hM hstep hroom
  intro t
  have hnat : ((getLimits limitsByTier tier).1.toNat : Int) = (getLimits limitsByTier tier).1 :=
    Int.toNat_of_nonneg hM
  rw [← hnat]
  exact Int.ofNat_le.mpr (hinv.bounded t)

private def raceLimits : Dict String TierCfg := Dict.ofList [("free", ⟨some 1, some 10⟩)]

private def raceDb : UsageDb := ⟨["key_a"], []⟩

private def raceEnv : CheckEnv := ⟨none, true, false⟩

/-- With no row, the one unit is admitted. -/
private theorem raceDb_admits :
    checkMany raceLimits raceDb raceEnv "key_a" "free" 1 0 = .ok ⟨true, 0, 10⟩ := by
  decide +kernel

private def raceRow : UsageRecord := ⟨"key_a", "req_1", none, "success", 5, false, none, 2⟩

/-- A check, the worker run, the insert at time 2, and a refused check at time 5. -/
theorem withinLimit_of_reachesUnraced_sample :
    WithinLimit raceLimits "free" ⟨⟨["key_a"], [raceRow]⟩, 5, [], [0], [(0, 2)]⟩ := by
  apply withinLimit_of_reachesUnraced raceLimits "key_a" "free" (by decide) raceDb 0
  have h₁ : Step raceLimits "key_a" "free" (start raceDb 0) (.check 1)
      ⟨raceDb, 0, [⟨0, false⟩], [0], []⟩ :=
    .grant raceDb_admits
  have h₂ : Step raceLimits "key_a" "free" ⟨raceDb, 0, [⟨0, false⟩], [0], []⟩ .run
      ⟨raceDb, 0, [⟨0, true⟩], [0], []⟩ :=
    @Step.run _ _ _ ⟨raceDb, 0, [⟨0, false⟩], [0], []⟩ [] [] 0 rfl
  have h₃ : Step raceLimits "key_a" "free" ⟨raceDb, 0, [⟨0, true⟩], [0], []⟩ .tick
      ⟨raceDb, 2, [⟨0, true⟩], [0], []⟩ := .tick (by decide)
  have h₄ : Step raceLimits "key_a" "free" ⟨raceDb, 2, [⟨0, true⟩], [0], []⟩ .record
      ⟨⟨["key_a"], [raceRow]⟩, 2, [], [0], [(0, 2)]⟩ :=
    @Step.record _ _ _ ⟨raceDb, 2, [⟨0, true⟩], [0], []⟩ [] [] 0 raceRow _ rfl rfl rfl (by decide)
  have h₅ : Step raceLimits "key_a" "free" ⟨⟨["key_a"], [raceRow]⟩, 2, [], [0], [(0, 2)]⟩ .tick
      ⟨⟨["key_a"], [raceRow]⟩, 5, [], [0], [(0, 2)]⟩ := .tick (by decide)
  have h₆ : Step raceLimits "key_a" "free" ⟨⟨["key_a"], [raceRow]⟩, 5, [], [0], [(0, 2)]⟩
      (.check 1) ⟨⟨["key_a"], [raceRow]⟩, 5, [], [0], [(0, 2)]⟩ :=
    .refuse (show checkMany raceLimits ⟨["key_a"], [raceRow]⟩ raceEnv "key_a" "free" 1 5 =
      .error (.rateLimitExceeded ⟨1, 0, 12⟩) by decide +kernel)
  refine .tail (.tail (.tail (.tail (.tail (.tail .refl ⟨_, h₁, ?_⟩) ⟨_, h₂, ?_⟩) ⟨_, h₃, ?_⟩)
    ⟨_, h₄, ?_⟩) ⟨_, h₅, ?_⟩) ⟨_, h₆, ?_⟩
  · rintro count ⟨⟩
    intro _
    decide +kernel
  · rintro count ⟨⟩
  · rintro count ⟨⟩
  · rintro count ⟨⟩
  · rintro count ⟨⟩
  · rintro count ⟨⟩
    intro hsaw
    exact absurd hsaw (by decide +kernel)

/-- Two checks before either insert: both units of a limit of one are admitted at time 0. -/
theorem not_withinLimit_of_race :
    ¬ ∀ s, Reaches raceLimits "key_a" "free" (start raceDb 0) s →
      WithinLimit raceLimits "free" s := by
  intro h
  have h₁ : Step raceLimits "key_a" "free" (start raceDb 0) (.check 1)
      ⟨raceDb, 0, [⟨0, false⟩], [0], []⟩ :=
    .grant raceDb_admits
  have h₂ : Step raceLimits "key_a" "free" ⟨raceDb, 0, [⟨0, false⟩], [0], []⟩ (.check 1)
      ⟨raceDb, 0, [⟨0, false⟩, ⟨0, false⟩], [0, 0], []⟩ :=
    .grant raceDb_admits
  have hlim := h _ (.tail (.tail .refl ⟨_, h₁⟩) ⟨_, h₂⟩) 0
  exact absurd hlim (by decide +kernel)

end PostgresRateLimiter
end AsbCloudApi.Db
