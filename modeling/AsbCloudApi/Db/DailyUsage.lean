import AsbCloudApi.Base.Calendar
import AsbCloudApi.Base.Dict
import AsbCloudApi.Base.Run
import AsbCloudApi.Db.Usage
import Mathlib.Data.List.Dedup
import Mathlib.Data.Rat.Floor

/-!
# Daily usage

Library `Db`. Models the reads and the rollup of `src/asb_api/db/usage.py:47–112` and the job of
`src/asb_api/jobs/daily_rollup.py`. A date is the number of its day since 1970, in UTC as in the
database session. The source passes its text for a parameter of type `DATE`, and what becomes of
that is up to the driver. With one that takes such a text the reads are exact, since a rollup row
is only ever made for a day that has passed. asyncpg refuses the text, so every read and every
rollup raises.
-/

namespace AsbCloudApi.Db

open Base

/-- `DATE(created_at)`. -/
def dayOf (t : ℚ) : Int := ⌊t / 86400⌋

theorem dayOf_mono {s t : ℚ} (h : s ≤ t) : dayOf s ≤ dayOf t :=
  Int.floor_mono (div_le_div_of_nonneg_right h (by decide))

/-- asyncpg, as far as a text is passed for a parameter of type `DATE`: the day that it sends for
the text of an argument, or the message of the `DataError` that it raises before the statement is
sent. The text of a day is never taken for another day. -/
structure Driver where
  encodeDate (argument : Nat) (text : String) : Except String Int
  sends : ∀ argument day sent, encodeDate argument (isoDate day) = .ok sent → sent = day

/-- The conversions of asyncpg make a `DATE` from a `datetime.date` alone. -/
def Driver.RefusesTexts (driver : Driver) : Prop :=
  ∀ argument text, ∃ message, driver.encodeDate argument text = .error message

/-- A date parameter of a statement. -/
def Driver.bindDate (driver : Driver) (argument : Nat) (text : String) : Except DbError Int :=
  (driver.encodeDate argument text).mapError .dataError

/-- A row of `daily_usage` besides its key and its date; `src/asb_api/db/connection.py:95–102`. -/
structure DailyTotals where
  totalRequests : Int
  totalDurationMs : Int
  blockCount : Int
  deriving DecidableEq

/-- The tables of usage tracking. The primary key of `daily_usage` is a key with a date. -/
structure UsageTables where
  usage : UsageDb
  daily : Dict (String × Int) DailyTotals

/-- A record of a key on a date. -/
def onDate (keyId : String) (date : Int) (r : UsageRecord) : Bool :=
  r.keyId = keyId ∧ dayOf r.createdAt = date

/-- `COUNT(*)`, `SUM(duration_ms)` and the number of blocked requests of a key on a date. -/
def rawTotals (rows : List UsageRecord) (keyId : String) (date : Int) : DailyTotals :=
  let rows := rows.filter (onDate keyId date)
  ⟨rows.length, (rows.map UsageRecord.durationMs).sum, rows.countP UsageRecord.blockDetected⟩

/-- A value of a `BIGINT` column. -/
def checkBigint (column : String) (n : Int) : Except DbError Unit :=
  if -2 ^ 63 ≤ n ∧ n < 2 ^ 63 then .ok () else .error (.numericValueOutOfRange column)

/-- The column checks of a row of `daily_usage`. -/
def checkTotals (t : DailyTotals) : Except DbError Unit := do
  checkInteger "total_requests" t.totalRequests
  checkBigint "total_duration_ms" t.totalDurationMs
  checkInteger "block_count" t.blockCount

namespace PostgresUsageTracker

/-- `get_daily_usage`; `src/asb_api/db/usage.py:47–77`. Both statements have the same parameters. -/
def getDailyUsage (driver : Driver) (db : UsageTables) (keyId date : String) :
    Except DbError DailyTotals := do
  let day ← driver.bindDate 2 date
  if hasNul keyId then .error (.characterNotInRepertoire "key_id")
  else
    match db.daily.get? (keyId, day) with
    | some row => .ok row
    | none => .ok (rawTotals db.usage.usageRecords keyId day)

/-- The keys of the groups of a date. -/
def rollupKeys (rows : List UsageRecord) (date : Int) : List String :=
  ((rows.filter fun r ↦ dayOf r.createdAt = date).map UsageRecord.keyId).dedup

/-- `rollup_daily`: one statement, which replaces the rows of a date or fails as a whole;
`src/asb_api/db/usage.py:92–112`. -/
def rollupDaily (driver : Driver) (db : UsageTables) (date : String) :
    Except DbError UsageTables := do
  let day ← driver.bindDate 1 date
  let rows := db.usage.usageRecords
  (rollupKeys rows day).forM fun keyId ↦ checkTotals (rawTotals rows keyId day)
  .ok { db with
    daily := (rollupKeys rows day).foldl
      (fun daily keyId ↦ daily.set (keyId, day) (rawTotals rows keyId day)) db.daily }

/-- The job `run`: the rollup of yesterday; `src/asb_api/jobs/daily_rollup.py:11–15`. -/
def runRollup (driver : Driver) (db : UsageTables) (now : ℚ) : Except DbError UsageTables :=
  rollupDaily driver db (isoDate (dayOf now - 1))

end PostgresUsageTracker

open PostgresUsageTracker

private theorem get?_foldl_set (f : String → DailyTotals) (date : Int) (keys : List String)
    (daily : Dict (String × Int) DailyTotals) (keyId : String) (d : Int) :
    (keys.foldl (fun daily k ↦ daily.set (k, date) (f k)) daily).get? (keyId, d) =
      if d = date ∧ keyId ∈ keys then some (f keyId) else daily.get? (keyId, d) := by
  induction keys generalizing daily with
  | nil => simp
  | cons k keys ih =>
    rw [List.foldl_cons, ih, Dict.get?_set]
    by_cases hd : d = date
    · subst hd
      by_cases hk : k = keyId
      · subst hk
        simp
      · simp [hk, Ne.symm hk]
    · simp [hd, Ne.symm hd]

theorem Driver.bindDate_eq_ok_iff {driver : Driver} {argument : Nat} {text : String} {day : Int} :
    driver.bindDate argument text = .ok day ↔ driver.encodeDate argument text = .ok day := by
  unfold Driver.bindDate
  cases driver.encodeDate argument text <;> simp [Except.mapError]

theorem Driver.RefusesTexts.bindDate {driver : Driver} (h : driver.RefusesTexts) (argument : Nat)
    (text : String) : ∃ message, driver.bindDate argument text = .error (.dataError message) := by
  obtain ⟨message, hrefused⟩ := h argument text
  exact ⟨message, by rw [Driver.bindDate, hrefused]; rfl⟩

/-- A rollup leaves the records and the other dates alone, and sets the totals of its date. -/
theorem rollupDaily_ok {driver : Driver} {db db' : UsageTables} {date : Int}
    (h : rollupDaily driver db (isoDate date) = .ok db') :
    db'.usage = db.usage ∧ ∀ keyId d, db'.daily.get? (keyId, d) =
      if d = date ∧ keyId ∈ rollupKeys db.usage.usageRecords date then
        some (rawTotals db.usage.usageRecords keyId date)
      else db.daily.get? (keyId, d) := by
  unfold rollupDaily at h
  obtain ⟨sent, hsent, hset⟩ := Api.bind_eq_ok_iff.mp h
  obtain rfl := driver.sends 1 date sent (Driver.bindDate_eq_ok_iff.mp hsent)
  obtain ⟨_, -, hset⟩ := Api.bind_eq_ok_iff.mp hset
  cases hset
  exact ⟨rfl, fun keyId d ↦ get?_foldl_set _ _ _ _ _ _⟩

/-- A record of another day does not count. -/
theorem rawTotals_append_of_ne {rows : List UsageRecord} {row : UsageRecord} {keyId : String}
    {date : Int} (h : dayOf row.createdAt ≠ date) :
    rawTotals (rows ++ [row]) keyId date = rawTotals rows keyId date := by
  have hno : onDate keyId date row = false := by simp [onDate, h]
  simp [rawTotals, List.filter_append, hno]

/-! ### Runs -/

/-- A step on the tables: a request is recorded, the job runs, or a day is read. -/
inductive UsageCall where
  | record (args : UsageArgs)
  | rollup
  | getDailyUsage (keyId date : String)

/-- What a step answers. -/
inductive UsageAnswer where
  | done (r : Except DbError Unit)
  | totals (r : Except DbError DailyTotals)
  deriving DecidableEq

/-- Serve a step at an instant. A statement that fails changes nothing. -/
def UsageTables.serve (driver : Driver) (db : UsageTables) (c : ℚ × UsageCall) :
    UsageAnswer × UsageTables :=
  match c.2 with
  | .record args =>
    match record db.usage (args.row c.1) with
    | .ok usage => (.done (.ok ()), { db with usage := usage })
    | .error e => (.done (.error e), db)
  | .rollup =>
    match runRollup driver db c.1 with
    | .ok db' => (.done (.ok ()), db')
    | .error e => (.done (.error e), db)
  | .getDailyUsage keyId date => (.totals (getDailyUsage driver db keyId date), db)

/-- The rows that the steps record, read off the steps alone. -/
def recorded (apiKeys : List String) (calls : List (ℚ × UsageCall)) : List UsageRecord :=
  calls.filterMap fun c ↦
    match c.2 with
    | .record args =>
      if (checkRow ⟨apiKeys, []⟩ (args.row c.1)).isOk then some (args.row c.1) else none
    | _ => none

/-- The tables before the first step. -/
def UsageTables.start (apiKeys : List String) : UsageTables := ⟨⟨apiKeys, []⟩, Dict.empty⟩

/-- The tables hold the rows recorded up to an instant, and a rollup row is for a day that has
passed and agrees with them. -/
structure DailyInv (db : UsageTables) (apiKeys : List String) (now : ℚ)
    (rows : List UsageRecord) : Prop where
  keys : db.usage.apiKeys = apiKeys
  stored : db.usage.usageRecords = rows
  rolled : ∀ keyId date totals, db.daily.get? (keyId, date) = some totals →
    date < dayOf now ∧ totals = rawTotals rows keyId date

theorem dailyInv_start (apiKeys : List String) (now : ℚ) :
    DailyInv (.start apiKeys) apiKeys now [] :=
  ⟨rfl, rfl, fun _ _ _ h ↦ nomatch h⟩

section Invariant

variable {driver : Driver} {db : UsageTables} {apiKeys : List String} {now : ℚ}
  {rows : List UsageRecord}

/-- What is read is what was recorded, if the driver takes the date. -/
theorem DailyInv.getDailyUsage_eq (h : DailyInv db apiKeys now rows) (driver : Driver)
    (keyId date : String) : getDailyUsage driver db keyId date =
      driver.bindDate 2 date >>= fun day ↦
        if hasNul keyId then .error (.characterNotInRepertoire "key_id")
        else .ok (rawTotals rows keyId day) := by
  unfold getDailyUsage
  congr 1
  funext day
  split
  · rfl
  cases hrow : db.daily.get? (keyId, day) with
  | some totals => exact congrArg _ (h.rolled keyId day totals hrow).2
  | none => exact congrArg (fun rows ↦ Except.ok (rawTotals rows keyId day)) h.stored

theorem DailyInv.mono (h : DailyInv db apiKeys now rows) {later : ℚ} (hle : now ≤ later) :
    DailyInv db apiKeys later rows := by
  refine ⟨h.keys, h.stored, fun keyId date totals hrow ↦ ?_⟩
  obtain ⟨hdate, htotals⟩ := h.rolled keyId date totals hrow
  exact ⟨lt_of_lt_of_le hdate (dayOf_mono hle), htotals⟩

private theorem checkRow_keys (usage : UsageDb) (row : UsageRecord) :
    checkRow usage row = checkRow ⟨usage.apiKeys, []⟩ row := rfl

/-- One step keeps the invariant, with the row that it records. -/
theorem DailyInv.step (h : DailyInv db apiKeys now rows) {c : ℚ × UsageCall} (hle : now ≤ c.1) :
    DailyInv (db.serve driver c).2 apiKeys c.1 (rows ++ recorded apiKeys [c]) := by
  obtain ⟨t, call⟩ := c
  have hnow := h.mono hle
  cases call with
  | record args =>
    have hcheck : checkRow db.usage (args.row t) = checkRow ⟨apiKeys, []⟩ (args.row t) := by
      rw [checkRow_keys, h.keys]
    simp only [UsageTables.serve, record, recorded, List.filterMap_cons, List.filterMap_nil,
      ← hcheck]
    cases checkRow db.usage (args.row t) with
    | error e => simpa [bind, Except.bind, Except.isOk, Except.toBool] using hnow
    | ok u =>
      refine ⟨h.keys, congrArg (· ++ [args.row t]) h.stored, fun keyId date totals hrow ↦ ?_⟩
      obtain ⟨hdate, htotals⟩ := hnow.rolled keyId date totals hrow
      exact ⟨hdate, htotals.trans (rawTotals_append_of_ne hdate.ne').symm⟩
  | rollup =>
    change DailyInv _ apiKeys t (rows ++ [])
    rw [List.append_nil]
    simp only [UsageTables.serve]
    cases hroll : runRollup driver db t with
    | error e => exact hnow
    | ok db' =>
      obtain ⟨husage, hdaily⟩ := rollupDaily_ok hroll
      refine ⟨by rw [husage, h.keys], by rw [husage, h.stored], fun keyId date totals hrow ↦ ?_⟩
      rw [hdaily] at hrow
      split at hrow
      · next hnew =>
        obtain ⟨rfl, -⟩ := hnew
        rw [← h.stored]
        exact ⟨by omega, (Option.some.inj hrow).symm⟩
      · exact hnow.rolled keyId date totals hrow
  | getDailyUsage keyId date =>
    change DailyInv db apiKeys t (rows ++ [])
    rw [List.append_nil]
    exact hnow

/-- A run with a clock that never goes back keeps the invariant. -/
theorem DailyInv.run {calls : List (ℚ × UsageCall)} (h : DailyInv db apiKeys now rows)
    (hsorted : calls.Pairwise (fun c d ↦ c.1 ≤ d.1)) (hlo : ∀ c ∈ calls, now ≤ c.1) {later : ℚ}
    (hhi : ∀ c ∈ calls, c.1 ≤ later) (hle : now ≤ later) :
    DailyInv (final (UsageTables.serve driver) db calls) apiKeys later
      (rows ++ recorded apiKeys calls) := by
  induction calls generalizing db now rows with
  | nil =>
    change DailyInv db apiKeys later (rows ++ [])
    rw [List.append_nil]
    exact h.mono hle
  | cons c calls ih =>
    obtain ⟨hc, hcalls⟩ := List.pairwise_cons.mp hsorted
    have hsplit : recorded apiKeys (c :: calls) =
        recorded apiKeys [c] ++ recorded apiKeys calls := by
      simp only [recorded, ← List.filterMap_append, List.singleton_append]
    rw [final_cons, hsplit, ← List.append_assoc]
    exact ih (h.step (hlo c List.mem_cons_self)) hcalls hc
      (fun d hd ↦ hhi d (List.mem_cons_of_mem c hd)) (hhi c List.mem_cons_self)

end Invariant

/-- After any run from empty tables. -/
theorem dailyInv_final (driver : Driver) (apiKeys : List String) {calls : List (ℚ × UsageCall)}
    (hsorted : calls.Pairwise (fun c d ↦ c.1 ≤ d.1)) (now : ℚ) (hhi : ∀ c ∈ calls, c.1 ≤ now) :
    DailyInv (final (UsageTables.serve driver) (.start apiKeys) calls) apiKeys now
      (recorded apiKeys calls) := by
  cases calls with
  | nil => exact dailyInv_start apiKeys now
  | cons c calls =>
    refine (dailyInv_start apiKeys c.1).run hsorted ?_ hhi (hhi c List.mem_cons_self)
    intro d hd
    rcases List.mem_cons.mp hd with rfl | hd
    · exact le_rfl
    · exact (List.pairwise_cons.mp hsorted).1 d hd

/-- After every run of records, rollups and reads, with a clock that never goes back, a read of a
key and a day answers exactly if the driver takes the text of the day and the key may be sent, and
then with the totals of the rows recorded for this key on this day. -/
theorem getDailyUsage_ok_iff (driver : Driver) (apiKeys : List String)
    {calls : List (ℚ × UsageCall)} (hsorted : calls.Pairwise (fun c d ↦ c.1 ≤ d.1)) (now : ℚ)
    (hhi : ∀ c ∈ calls, c.1 ≤ now) (keyId : String) (day : Int) (totals : DailyTotals) :
    getDailyUsage driver (final (UsageTables.serve driver) (.start apiKeys) calls) keyId
        (isoDate day) = .ok totals ↔
      (driver.encodeDate 2 (isoDate day) = .ok day ∧ hasNul keyId = false) ∧
        totals = rawTotals (recorded apiKeys calls) keyId day := by
  rw [(dailyInv_final driver apiKeys hsorted now hhi).getDailyUsage_eq, Api.bind_eq_ok_iff]
  constructor
  · rintro ⟨sent, hsent, hread⟩
    have htaken := Driver.bindDate_eq_ok_iff.mp hsent
    obtain rfl := driver.sends 2 day sent htaken
    split at hread
    · cases hread
    · next hnul => exact ⟨⟨htaken, by simpa using hnul⟩, (Except.ok.inj hread).symm⟩
  · rintro ⟨⟨htaken, hnul⟩, rfl⟩
    exact ⟨day, Driver.bindDate_eq_ok_iff.mpr htaken, by rw [hnul]; rfl⟩

/-- There are drivers that take the text of every day. -/
private theorem exists_takesTexts :
    ∃ driver : Driver, ∀ argument day, driver.encodeDate argument (isoDate day) = .ok day := by
  classical
  let encode (text : String) : Except String Int :=
    if h : ∃ day, isoDate day = text then .ok h.choose else .error "invalid input"
  have hencode (day : Int) : encode (isoDate day) = .ok day := by
    have h : ∃ day', isoDate day' = isoDate day := ⟨day, rfl⟩
    simp only [encode, dif_pos h, isoDate_injective h.choose_spec]
  refine ⟨⟨fun _ ↦ encode, fun _ day sent h ↦ ?_⟩, fun _ ↦ hencode⟩
  rw [hencode] at h
  exact (Except.ok.inj h).symm

/-- The statements are not at fault: with such a driver every read of a key that may be sent is
exact. -/
theorem exists_exact_driver : ∃ driver : Driver, ∀ (apiKeys : List String)
    (calls : List (ℚ × UsageCall)) (now : ℚ) (keyId : String) (day : Int),
    calls.Pairwise (fun c d ↦ c.1 ≤ d.1) → (∀ c ∈ calls, c.1 ≤ now) → hasNul keyId = false →
    getDailyUsage driver (final (UsageTables.serve driver) (.start apiKeys) calls) keyId
      (isoDate day) = .ok (rawTotals (recorded apiKeys calls) keyId day) := by
  obtain ⟨driver, htakes⟩ := exists_takesTexts
  refine ⟨driver, fun apiKeys calls now keyId day hsorted hhi hkey ↦ ?_⟩
  rw [getDailyUsage_ok_iff driver apiKeys hsorted now hhi]
  exact ⟨⟨htakes 2 day, hkey⟩, rfl⟩

/-- A driver that refuses a text for a date lets no read answer. -/
theorem getDailyUsage_of_refusesTexts {driver : Driver} (h : driver.RefusesTexts)
    (db : UsageTables) (keyId date : String) :
    ∃ message, getDailyUsage driver db keyId date = .error (.dataError message) := by
  obtain ⟨message, hrefused⟩ := h.bindDate 2 date
  exact ⟨message, by rw [getDailyUsage, hrefused]; rfl⟩

/-- After every run of records, rollups and reads, and whatever day the text of a date stands for, a
read of a key and the date does not answer the count, the total duration and the number of blocked
requests of the rows recorded so far for this key on this day: it raises `DataError`. -/
theorem getDailyUsage_raises (driver : Driver) (hdriver : driver.RefusesTexts)
    (apiKeys : List String) (calls : List (ℚ × UsageCall)) (now : ℚ) (keyId date : String)
    (day : Int) :
    let rows := (recorded apiKeys calls).filter fun r ↦ r.keyId = keyId ∧ dayOf r.createdAt = day
    let db := final (UsageTables.serve driver) (.start apiKeys) calls
    let answer := (db.serve driver (now, .getDailyUsage keyId date)).1
    answer ≠ .totals (.ok ⟨rows.length, (rows.map UsageRecord.durationMs).sum,
        rows.countP UsageRecord.blockDetected⟩) ∧
      ∃ message, answer = .totals (.error (.dataError message)) := by
  intro rows db answer
  obtain ⟨message, hread⟩ := getDailyUsage_of_refusesTexts hdriver db keyId date
  have hanswer : answer = .totals (.error (.dataError message)) := congrArg UsageAnswer.totals hread
  refine ⟨?_, message, hanswer⟩
  rw [hanswer]
  intro h
  cases h

/-- A driver that refuses every text, in the words of asyncpg. -/
def refusingDriver : Driver where
  encodeDate argument text := .error ("invalid input for query argument $" ++ toString argument ++
    ": '" ++ text ++ "' ('str' object has no attribute 'toordinal')")
  sends _ _ _ h := nomatch h

theorem refusesTexts_refusingDriver : refusingDriver.RefusesTexts := fun _ _ ↦ ⟨_, rfl⟩

private def sampleArgs (durationMs : Int) (blocked : Bool) : UsageArgs :=
  ⟨"key_a", "req_1", none, "success", durationMs, blocked, none⟩

/-- Midnight of 13 May 2026. -/
private def sampleMidnight : ℚ := 20586 * 86400

/-- Two records on a day, and on the next one its rollup and one more record. -/
private def sampleUsage : List (ℚ × UsageCall) :=
  [(sampleMidnight + 10, .record (sampleArgs 5 false)),
    (sampleMidnight + 20, .record (sampleArgs 7 true)), (sampleMidnight + 90000, .rollup),
    (sampleMidnight + 90001, .record (sampleArgs 9 false))]

/-- The day is not read. -/
theorem getDailyUsage_raises_sample :
    ∃ message, ((final (UsageTables.serve refusingDriver) (.start ["key_a"]) sampleUsage).serve
      refusingDriver (sampleMidnight + 90002, .getDailyUsage "key_a" "2026-05-13")).1 =
        .totals (.error (.dataError message)) :=
  (getDailyUsage_raises refusingDriver refusesTexts_refusingDriver ["key_a"] sampleUsage
    (sampleMidnight + 90002) "key_a" "2026-05-13" 20586).2

/-- The day has two records, and a read of its date does not answer their totals. -/
theorem not_getDailyUsage_exact :
    isoDate 20586 = "2026-05-13" ∧
      rawTotals (recorded ["key_a"] sampleUsage) "key_a" 20586 = ⟨2, 12, 1⟩ ∧
      getDailyUsage refusingDriver
          (final (UsageTables.serve refusingDriver) (.start ["key_a"]) sampleUsage)
          "key_a" "2026-05-13" ≠ .ok ⟨2, 12, 1⟩ := by
  refine ⟨by decide +kernel, by decide +kernel, fun h ↦ ?_⟩
  obtain ⟨message, hread⟩ := getDailyUsage_of_refusesTexts refusesTexts_refusingDriver
    (final (UsageTables.serve refusingDriver) (.start ["key_a"]) sampleUsage) "key_a" "2026-05-13"
  rw [hread] at h
  cases h

end AsbCloudApi.Db
