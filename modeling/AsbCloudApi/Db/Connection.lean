import AsbCloudApi.Base.Borrow
import AsbCloudApi.Db.KeyStore
import AsbCloudApi.Db.MonthlyOverage
import AsbCloudApi.Db.SessionStore

/-!
# Stores over a connection pool

Library `Db`. Models `src/asb_api/db/connection.py` and every method of the PostgreSQL stores as a
coroutine: it borrows a connection, sends its statements one after the other and gives
the connection back. Any acquisition, statement and release may raise. A request is any
program over store calls; no interleaving of requests shares or loses a connection, and
one connection is enough for all requests to finish.
-/

namespace AsbCloudApi.Db

open Base Api Session Billing

/-- A connection: its holder in the pool. -/
abbrev Conn := Nat

/-- The row of `audit_log` that `log` inserts; the metadata are the text that is stored. -/
structure AuditEntry where
  keyId : Option String
  action : String
  domain : Option String
  requestId : Option String
  status : Option String
  durationMs : Option Int
  metadata : Option String

/-- What a coroutine sends over a connection, with its parameters. A date is the text that the
source passes for it, which asyncpg refuses; but any statement may raise here. -/
inductive Statement where
  | insertKey (keyId : String) (keyHash : HexText 64) (tier : String)
      (ownerEmail stripeCustomerId : Option String)
  | selectKeyByHash (keyHash : HexText 64)
  | selectKey (keyId : String)
  | revokeKey (keyId : String)
  | selectKeys
  | upgradeTier (keyId tier : String) (stripeSubscriptionId stripeCustomerId : Option String)
  | insertStripeEvent (eventId eventType : String)
  | selectTier (keyId : String)
  | setLicenseOfKey (licenseType rawLicense keyId : String)
  | setLicenseOfOwner (licenseType rawLicense email : String)
  | setSubscriptionStatus (customerId status : Option String)
  | downgradeToFree (customerId : Option String)
  | insertUsage (args : UsageArgs)
  | selectDaily (keyId date : String)
  | selectRawTotals (keyId date : String)
  | rollup (date : String)
  | insertSession (sessionId keyId region : String) (fingerprint : Option String) (expiresAt : ℚ)
  | selectSession (sessionId : String) (now : ℚ)
  | touchSession (sessionId : String)
  | setCookies (sessionId cookiesEnc : String)
  | countRequest (sessionId : String)
  | deleteSession (sessionId : String)
  | begin
  | commit
  | rollback
  | tryAdvisoryLock (lockId : Nat)
  | advisoryUnlock (lockId : Nat)
  | countUsage (keyId : String) (cutoff : ℚ)
  | oldestUsage (keyId : String) (cutoff : ℚ)
  | insertAudit (entry : AuditEntry)
  | createTables

/-- What each statement answers; a `RETURNING` or `SELECT` without a row answers nothing. -/
abbrev Statement.Ans : Statement → Type
  | .selectKeyByHash _ => Option String
  | .selectKey _ => Option (String × KeyRow)
  | .selectKeys => List (String × KeyRow)
  | .insertStripeEvent _ _ => Option String
  | .selectTier _ => Option String
  | .selectDaily _ _ => Option DailyTotals
  | .selectRawTotals _ _ => DailyTotals
  | .selectSession _ _ => Option SessionRow
  | .tryAdvisoryLock _ => Bool
  | .countUsage _ _ => Nat
  | .oldestUsage _ _ => Option ℚ
  | _ => Unit

/-- What a store method may raise; a cancellation is no `Exception`. -/
inductive StoreExn where
  | limit (e : LimitError)
  | exn (e : Exn)
  | cancelled

/-- What the pool and the server may raise. -/
def StoreExn.fault : StoreExn → Prop
  | .limit _ => False
  | _ => True

theorem StoreExn.fault_cancelled : StoreExn.fault .cancelled := trivial

/-- A store method: what it asks of the pool and of a connection. -/
abbrev StoreProg := Prog StoreExn (Borrow.Ans Conn Statement.Ans)

namespace Pooled

/-- `try: p except Exception: pass`. -/
def ignoring {α : Type} (p : StoreProg α) : StoreProg (Option α) :=
  p.resume fun r ↦
    match r with
    | .ok a => pure (some a)
    | .error .cancelled => .raise .cancelled
    | .error _ => pure none

/-- `conn = await db.pool.acquire()`, then `try: body finally: await db.pool.release(conn)`. -/
def connected {α : Type} (body : Conn → StoreProg α) : StoreProg α := Borrow.lend body

/-- One statement over a connection. -/
def send (conn : Conn) (s : Statement) : StoreProg s.Ans := .perform (Borrow.use conn s)

/-- `run_migrations`; `src/asb_api/db/connection.py:49–133`. -/
def runMigrations : StoreProg Unit := connected fun conn ↦ send conn .createTables

/-- `disconnect`; `src/asb_api/db/connection.py:24–27`. It waits for the connections that are out;
that it is cancelled meanwhile, which would drop them, is left out. -/
def disconnect : StoreProg Unit := .perform Borrow.close

/-- `AuditLogger.log`; `src/asb_api/db/audit.py:6–26`. -/
def log (entry : AuditEntry) : StoreProg Unit := connected fun conn ↦ send conn (.insertAudit entry)

namespace PostgresKeyStore

variable (sha256 : String → HexText 64)

/-- `create`; `src/asb_api/db/auth_store.py:9–34`. -/
def create (i : Issue) (stripeCustomerId : Option String) : StoreProg (String × CreatedKey) := do
  connected fun conn ↦
    send conn (.insertKey i.keyId (sha256 i.raw) i.tier i.ownerEmail stripeCustomerId)
  pure (i.raw, ⟨i.keyId, i.tier, i.ownerEmail, false, stripeCustomerId, none, none, none, none⟩)

/-- `verify`; `src/asb_api/db/auth_store.py:36–48`. -/
def verify (raw : String) : StoreProg (Option String) :=
  connected fun conn ↦ send conn (.selectKeyByHash (sha256 raw))

/-- `get`; `src/asb_api/db/auth_store.py:50–72`. -/
def get (keyId : String) : StoreProg (Option (String × KeyRow)) :=
  connected fun conn ↦ send conn (.selectKey keyId)

/-- `revoke`; `src/asb_api/db/auth_store.py:74–82`. -/
def revoke (keyId : String) : StoreProg Unit := connected fun conn ↦ send conn (.revokeKey keyId)

/-- `list_keys`; `src/asb_api/db/auth_store.py:84–102`. -/
def listKeys : StoreProg (List (String × KeyRow)) := connected fun conn ↦ send conn .selectKeys

/-- `upgrade_tier`; `src/asb_api/db/auth_store.py:104–123`. -/
def upgradeTier (keyId tier : String) (stripeSubscriptionId stripeCustomerId : Option String) :
    StoreProg Unit :=
  connected fun conn ↦ send conn (.upgradeTier keyId tier stripeSubscriptionId stripeCustomerId)

/-- `try_record_stripe_event`; `src/asb_api/db/auth_store.py:125–137`. -/
def tryRecordStripeEvent (eventId eventType : String) : StoreProg Bool :=
  connected fun conn ↦ do
    let row ← send conn (.insertStripeEvent eventId eventType)
    pure row.isSome

/-- `get_tier`; `src/asb_api/db/auth_store.py:139–145`. -/
def getTier (keyId : String) : StoreProg String :=
  connected fun conn ↦ do
    let row ← send conn (.selectTier keyId)
    pure (row.getD "free")

/-- `add_license`; `src/asb_api/db/auth_store.py:147–169`. -/
def addLicense (keyIdOrEmail licenseType rawLicense : String) : StoreProg Unit :=
  connected fun conn ↦
    if "key_".toList.isPrefixOf keyIdOrEmail.toList then
      send conn (.setLicenseOfKey licenseType rawLicense keyIdOrEmail)
    else send conn (.setLicenseOfOwner licenseType rawLicense keyIdOrEmail)

/-- `update_subscription_status`; `src/asb_api/db/auth_store.py:171–180`. -/
def updateSubscriptionStatus (customerId status : Option String) : StoreProg Unit :=
  connected fun conn ↦ send conn (.setSubscriptionStatus customerId status)

/-- `downgrade_to_free`; `src/asb_api/db/auth_store.py:182–191`. -/
def downgradeToFree (customerId : Option String) : StoreProg Unit :=
  connected fun conn ↦ send conn (.downgradeToFree customerId)

end PostgresKeyStore

namespace PostgresUsageTracker

/-- `record`; `src/asb_api/db/usage.py:8–27`. -/
def record (args : UsageArgs) : StoreProg Unit := connected fun conn ↦ send conn (.insertUsage args)

/-- `increment`; `src/asb_api/db/usage.py:29–38`. -/
def increment (keyId : String) : StoreProg Unit := record (.ofIncrement keyId)

/-- `get_daily_usage`; `src/asb_api/db/usage.py:47–77`. -/
def getDailyUsage (keyId date : String) : StoreProg DailyTotals :=
  connected fun conn ↦ do
    let row ← send conn (.selectDaily keyId date)
    match row with
    | some row => pure row
    | none => send conn (.selectRawTotals keyId date)

/-- `get`; `src/asb_api/db/usage.py:40–45`. -/
def get (keyId : String) (now : ℚ) : StoreProg Int := do
  let usage ← getDailyUsage keyId (isoDate (dayOf now))
  pure usage.totalRequests

/-- `rollup_daily`; `src/asb_api/db/usage.py:92–112`. -/
def rollupDaily (date : String) : StoreProg Unit := connected fun conn ↦ send conn (.rollup date)

/-- `check_overage`; `src/asb_api/db/usage.py:114–131`. -/
def checkOverage (keyId tier : String) (now : ℚ) : StoreProg (Bool × Int × ℚ) :=
  let limit := (tierMonthlyRequests.get? tier).getD 0
  if tier = "free" ∨ tier = "enterprise" then pure (false, 0, 0)
  else do
    let usage ← getDailyUsage keyId (isoDate (dayOf now))
    let total := usage.totalRequests
    if total ≤ limit then pure (false, 0, 0)
    else
      let overage := total - limit
      let rate := (tierOverageRate.get? tier).getD 0
      pure (true, overage, overage * rate)

end PostgresUsageTracker

namespace PostgresSessionStore

variable (fernet : Option Fernet) (ttlSeconds : Int)

/-- `create`; `src/asb_api/db/session_store.py:22–46`. -/
def create (env : StoreEnv) (hex keyId region : String) (fingerprint : Option String) :
    StoreProg SessionInfo := do
  let sessionId := "sess_" ++ hex
  let expiresAt := env.now + ttlSeconds
  connected fun conn ↦
    send conn (.insertSession sessionId keyId region fingerprint expiresAt)
  pure ⟨sessionId, keyId, region, fingerprint, Dict.empty, env.now, env.now, 0, expiresAt⟩

/-- `get`; `src/asb_api/db/session_store.py:48–85`. -/
def get (now : ℚ) (sessionId : String) : StoreProg (Option SessionInfo) :=
  connected fun conn ↦ do
    let row ← send conn (.selectSession sessionId now)
    match row with
    | none => pure none
    | some row =>
      let _ ← ignoring (send conn (.touchSession sessionId))
      pure (some ⟨sessionId, row.keyId, orElse row.region "jp", row.fingerprint,
        Db.PostgresSessionStore.rowCookies fernet row, row.createdAt, row.lastUsed,
        row.requestCount, row.expiresAt⟩)

/-- `update_cookies`; `src/asb_api/db/session_store.py:87–97`. -/
def updateCookies (entropy : Nat) (sessionId : String) (cookies : Dict String String) :
    StoreProg Unit :=
  let enc := Db.PostgresSessionStore.encrypt fernet entropy (Json.dumps true cookies)
  connected fun conn ↦ send conn (.setCookies sessionId enc)

/-- `increment_count`; `src/asb_api/db/session_store.py:99–108`. -/
def incrementCount (sessionId : String) : StoreProg Unit :=
  connected fun conn ↦ send conn (.countRequest sessionId)

/-- `delete`; `src/asb_api/db/session_store.py:110–118`. -/
def delete (sessionId : String) : StoreProg Unit :=
  connected fun conn ↦ send conn (.deleteSession sessionId)

end PostgresSessionStore

namespace PostgresRateLimiter

/-- `async with conn.transaction()`: a commit, or a rollback if the body raises. -/
def transaction {α : Type} (conn : Conn) (body : StoreProg α) : StoreProg α := do
  send conn .begin
  body.resume fun r ↦
    match r with
    | .ok a => do
      send conn .commit
      pure a
    | .error e => do
      send conn .rollback
      .raise e

/-- `_lock_id`; `src/asb_api/db/rate_limiter.py:19–21`. -/
def lockId (sha256 : String → HexText 64) (keyId : String) : Nat :=
  Text.ofDigits 16 ((sha256 keyId).chars.take 12) % 2 ^ 31

/-- The attempts at the advisory lock; `src/asb_api/db/rate_limiter.py:64–70`. -/
def tryLockTwice (conn : Conn) (lock : Nat) : StoreProg Bool := do
  let acquired ← send conn (.tryAdvisoryLock lock)
  if acquired then pure true
  else do
    let _ ← (.perform Borrow.pause : StoreProg Unit)
    send conn (.tryAdvisoryLock lock)

/-- What follows the count of the rows; `src/asb_api/db/rate_limiter.py:81–105`. -/
def judge (conn : Conn) (keyId : String) (maxRequests : Int) (windowSeconds : ℚ) (requested : Int)
    (now : ℚ) (currentCount : Nat) : StoreProg CheckResult :=
  let resetAt := pyInt (now + windowSeconds)
  let refuse (remaining : Int) : StoreProg CheckResult := do
    let oldestRow ← send conn (.oldestUsage keyId (now - windowSeconds))
    let resetAt :=
      match oldestRow with
      | some createdAt => pyInt (createdAt + windowSeconds)
      | none => resetAt
    .raise (.limit (.rateLimitExceeded ⟨maxRequests, remaining, resetAt⟩))
  if (currentCount : Int) ≥ maxRequests then refuse 0
  else
    let remainingBefore := maxRequests - currentCount
    if remainingBefore < requested then refuse (max 0 remainingBefore)
    else
      let remaining := maxRequests - currentCount - requested
      pure ⟨true, max 0 remaining, resetAt⟩

/-- What runs over the connection; `src/asb_api/db/rate_limiter.py:60–107`. -/
def checkWindow (conn : Conn) (lock : Nat) (keyId : String) (maxRequests : Int) (windowSeconds : ℚ)
    (requested : Int) (now : ℚ) : StoreProg CheckResult :=
  transaction conn do
    let acquired ← tryLockTwice conn lock
    if !acquired then
      .raise (.limit (.rateLimitExceeded ⟨maxRequests, 0, pyInt (now + windowSeconds)⟩))
    else
      let counted : StoreProg CheckResult := do
        let currentCount ← send conn (.countUsage keyId (now - windowSeconds))
        judge conn keyId maxRequests windowSeconds requested now currentCount
      counted.tryFinally (send conn (.advisoryUnlock lock))

/-- The overage check; an exception of the tracker is ignored;
`src/asb_api/db/rate_limiter.py:36–46`. -/
def checkTracked (tracked : Bool) (keyId tier : String) (now : ℚ) : StoreProg Unit :=
  if tracked then do
    match ← ignoring (PostgresUsageTracker.checkOverage keyId tier now) with
    | some (true, _, cost) => .raise (.limit (.overageLimitExceeded cost))
    | _ => pure ()
  else pure ()

/-- `check_many`, with or without a usage tracker; `src/asb_api/db/rate_limiter.py:30–107`. -/
def checkMany (sha256 : String → HexText 64) (limitsByTier : Dict String TierCfg) (tracked : Bool)
    (keyId tier : String) (count : Int) (now : ℚ) : StoreProg CheckResult := do
  let requested := max 1 count
  checkTracked tracked keyId tier now
  let (maxRequests, windowSeconds) := getLimits limitsByTier tier
  if maxRequests = -1 then pure ⟨true, -1, 0⟩
  else
    connected fun conn ↦
      checkWindow conn (lockId sha256 keyId) keyId maxRequests windowSeconds requested now

end PostgresRateLimiter

/-- A call of a store method, or of the functions of `connection.py`. -/
inductive StoreCall where
  | createKey (i : Issue) (stripeCustomerId : Option String)
  | verify (raw : String)
  | getKey (keyId : String)
  | revoke (keyId : String)
  | listKeys
  | upgradeTier (keyId tier : String) (stripeSubscriptionId stripeCustomerId : Option String)
  | tryRecordStripeEvent (eventId eventType : String)
  | getTier (keyId : String)
  | addLicense (keyIdOrEmail licenseType rawLicense : String)
  | updateSubscriptionStatus (customerId status : Option String)
  | downgradeToFree (customerId : Option String)
  | record (args : UsageArgs)
  | increment (keyId : String)
  | getUsage (keyId : String) (now : ℚ)
  | getDailyUsage (keyId date : String)
  | rollupDaily (date : String)
  | checkOverage (keyId tier : String) (now : ℚ)
  | createSession (env : StoreEnv) (hex keyId region : String) (fingerprint : Option String)
  | getSession (now : ℚ) (sessionId : String)
  | updateCookies (entropy : Nat) (sessionId : String) (cookies : Dict String String)
  | incrementCount (sessionId : String)
  | deleteSession (sessionId : String)
  | checkMany (tracked : Bool) (keyId tier : String) (count : Int) (now : ℚ)
  | log (entry : AuditEntry)
  | runMigrations
  | disconnect

/-- What a call returns. -/
abbrev StoreCall.Ans : StoreCall → Type
  | .createKey _ _ => String × CreatedKey
  | .verify _ => Option String
  | .getKey _ => Option (String × KeyRow)
  | .listKeys => List (String × KeyRow)
  | .tryRecordStripeEvent _ _ => Bool
  | .getTier _ => String
  | .getUsage _ _ => Int
  | .getDailyUsage _ _ => DailyTotals
  | .checkOverage _ _ _ => Bool × Int × ℚ
  | .createSession _ _ _ _ _ => SessionInfo
  | .getSession _ _ => Option SessionInfo
  | .checkMany _ _ _ _ _ => CheckResult
  | _ => Unit

/-- The settings of the stores. -/
structure Stores where
  sha256 : String → HexText 64
  limitsByTier : Dict String TierCfg
  fernet : Option Fernet
  ttlSeconds : Int

/-- The coroutine of a call. -/
def StoreCall.prog (st : Stores) : (c : StoreCall) → StoreProg c.Ans
  | .createKey i customer => PostgresKeyStore.create st.sha256 i customer
  | .verify raw => PostgresKeyStore.verify st.sha256 raw
  | .getKey keyId => PostgresKeyStore.get keyId
  | .revoke keyId => PostgresKeyStore.revoke keyId
  | .listKeys => PostgresKeyStore.listKeys
  | .upgradeTier keyId tier sub customer => PostgresKeyStore.upgradeTier keyId tier sub customer
  | .tryRecordStripeEvent id type => PostgresKeyStore.tryRecordStripeEvent id type
  | .getTier keyId => PostgresKeyStore.getTier keyId
  | .addLicense who type raw => PostgresKeyStore.addLicense who type raw
  | .updateSubscriptionStatus customer status =>
    PostgresKeyStore.updateSubscriptionStatus customer status
  | .downgradeToFree customer => PostgresKeyStore.downgradeToFree customer
  | .record args => PostgresUsageTracker.record args
  | .increment keyId => PostgresUsageTracker.increment keyId
  | .getUsage keyId now => PostgresUsageTracker.get keyId now
  | .getDailyUsage keyId date => PostgresUsageTracker.getDailyUsage keyId date
  | .rollupDaily date => PostgresUsageTracker.rollupDaily date
  | .checkOverage keyId tier now => PostgresUsageTracker.checkOverage keyId tier now
  | .createSession env hex keyId region fingerprint =>
    PostgresSessionStore.create st.ttlSeconds env hex keyId region fingerprint
  | .getSession now sessionId => PostgresSessionStore.get st.fernet now sessionId
  | .updateCookies entropy sessionId cookies =>
    PostgresSessionStore.updateCookies st.fernet entropy sessionId cookies
  | .incrementCount sessionId => PostgresSessionStore.incrementCount sessionId
  | .deleteSession sessionId => PostgresSessionStore.delete sessionId
  | .checkMany tracked keyId tier count now =>
    PostgresRateLimiter.checkMany st.sha256 st.limitsByTier tracked keyId tier count now
  | .log entry => Pooled.log entry
  | .runMigrations => Pooled.runMigrations
  | .disconnect => Pooled.disconnect

/-! ### Every call borrows one connection at a time and gives it back -/

section Within

variable {α β : Type} {conn : Conn}

/-- A coroutine that runs over one connection. -/
abbrev Over (conn : Conn) (p : StoreProg α) : Prop := Prog.Only (Borrow.Within conn) p

theorem over_send (s : Statement) : Over conn (send conn s) := ⟨rfl, fun _ ↦ trivial⟩

theorem over_ignoring {p : StoreProg α} (h : Over conn p) : Over conn (ignoring p) := by
  apply h.resume
  intro r
  rcases r with (e | e | _) | a <;> exact trivial

theorem over_transaction {body : StoreProg α} (h : Over conn body) :
    Over conn (PostgresRateLimiter.transaction conn body) := by
  apply (over_send _).bind
  intro _
  apply h.resume
  intro r
  cases r with
  | ok a => exact (over_send _).bind fun _ ↦ trivial
  | error e => exact (over_send _).bind fun _ ↦ trivial

theorem over_tryLockTwice (lock : Nat) :
    Over conn (PostgresRateLimiter.tryLockTwice conn lock) := by
  apply (over_send _).bind
  intro acquired
  apply Prog.Only.ite
  · exact trivial
  · exact Prog.Only.bind ⟨trivial, fun _ ↦ trivial⟩ fun _ ↦ over_send _

theorem over_judge (keyId : String) (maxRequests : Int) (windowSeconds : ℚ) (requested : Int)
    (now : ℚ) (n : Nat) : Over conn
      (PostgresRateLimiter.judge conn keyId maxRequests windowSeconds requested now n) := by
  apply Prog.Only.ite
  · exact (over_send _).bind fun _ ↦ trivial
  · apply Prog.Only.ite
    · exact (over_send _).bind fun _ ↦ trivial
    · exact trivial

theorem over_checkWindow (lock : Nat) (keyId : String) (maxRequests : Int) (windowSeconds : ℚ)
    (requested : Int) (now : ℚ) : Over conn
      (PostgresRateLimiter.checkWindow conn lock keyId maxRequests windowSeconds requested
        now) := by
  apply over_transaction
  apply (over_tryLockTwice lock).bind
  intro acquired
  apply Prog.Only.ite
  · exact trivial
  · apply Prog.Only.resume
    · exact (over_send _).bind fun n ↦ over_judge keyId maxRequests windowSeconds requested now n
    · exact fun r ↦ (over_send _).bind fun _ ↦ trivial

end Within

section Balanced

variable {α β : Type} (mayClose : Prop)

/-- Without a connection before and after, and with at most one in between. -/
abbrev Balanced (p : StoreProg α) : Prop :=
  Prog.Follows (Borrow.borrowing mayClose) (fun _ g ↦ g = none) p none

variable {mayClose}

theorem balanced_done (r : Except StoreExn α) : Balanced mayClose (.done r : StoreProg α) := rfl

theorem balanced_bind {p : StoreProg α} {f : α → StoreProg β} (hp : Balanced mayClose p)
    (hf : ∀ a, Balanced mayClose (f a)) : Balanced mayClose (p >>= f) := by
  apply Prog.Follows.bind hp
  · rintro a g rfl
    exact hf a
  · rintro e g rfl
    rfl

theorem balanced_ignoring {p : StoreProg α} (hp : Balanced mayClose p) :
    Balanced mayClose (ignoring p) := by
  apply Prog.Follows.resume hp
  rintro r g rfl
  rcases r with (e | e | _) | a <;> rfl

theorem balanced_connected {body : Conn → StoreProg α} (h : ∀ conn, Over conn (body conn)) :
    Balanced mayClose (connected body) := Borrow.follows_lend h

theorem balanced_getDailyUsage (keyId date : String) :
    Balanced mayClose (PostgresUsageTracker.getDailyUsage keyId date) := by
  apply balanced_connected
  intro conn
  apply (over_send _).bind
  intro row
  cases row with
  | some row => exact trivial
  | none => exact over_send _

theorem balanced_checkOverage (keyId tier : String) (now : ℚ) :
    Balanced mayClose (PostgresUsageTracker.checkOverage keyId tier now) := by
  unfold PostgresUsageTracker.checkOverage
  dsimp only
  split
  · exact balanced_done _
  · apply balanced_bind (balanced_getDailyUsage keyId _)
    intro usage
    split
    · exact balanced_done _
    · exact balanced_done _

theorem balanced_getSession (fernet : Option Fernet) (now : ℚ) (sessionId : String) :
    Balanced mayClose (PostgresSessionStore.get fernet now sessionId) := by
  apply balanced_connected
  intro conn
  apply (over_send _).bind
  intro row
  cases row with
  | none => exact trivial
  | some row => exact (over_ignoring (over_send _)).bind fun _ ↦ trivial

theorem balanced_checkMany (sha256 : String → HexText 64) (limitsByTier : Dict String TierCfg)
    (tracked : Bool) (keyId tier : String) (count : Int) (now : ℚ) : Balanced mayClose
      (PostgresRateLimiter.checkMany sha256 limitsByTier tracked keyId tier count now) := by
  unfold PostgresRateLimiter.checkMany
  apply balanced_bind
  · -- the overage check has given its connection back before the window check takes one
    unfold PostgresRateLimiter.checkTracked
    split
    · apply balanced_bind (balanced_ignoring (balanced_checkOverage keyId tier now))
      intro answer
      split
      · exact balanced_done _
      · exact balanced_done _
    · exact balanced_done _
  · intro _
    dsimp only
    split
    · exact balanced_done _
    · exact balanced_connected fun conn ↦ over_checkWindow _ keyId _ _ _ now

/-- Every store call keeps to the discipline; only `disconnect` ends the pool. -/
theorem StoreCall.balanced (st : Stores) (c : StoreCall) (hc : c ≠ .disconnect ∨ mayClose) :
    Balanced mayClose (c.prog st) := by
  cases c with
  | createKey =>
    exact balanced_bind (balanced_connected fun _ ↦ over_send _) fun _ ↦ balanced_done _
  | tryRecordStripeEvent => exact balanced_connected fun _ ↦ (over_send _).bind fun _ ↦ trivial
  | getTier => exact balanced_connected fun _ ↦ (over_send _).bind fun _ ↦ trivial
  | addLicense =>
    exact balanced_connected fun _ ↦ Prog.Only.ite (over_send _) (over_send _)
  | getUsage keyId now =>
    exact balanced_bind (balanced_getDailyUsage keyId _) fun _ ↦ balanced_done _
  | getDailyUsage keyId date => exact balanced_getDailyUsage keyId date
  | checkOverage keyId tier now => exact balanced_checkOverage keyId tier now
  | createSession =>
    exact balanced_bind (balanced_connected fun _ ↦ over_send _) fun _ ↦ balanced_done _
  | getSession now sessionId => exact balanced_getSession st.fernet now sessionId
  | checkMany tracked keyId tier count now => exact balanced_checkMany _ _ _ keyId tier count now
  | disconnect =>
    refine ⟨⟨hc.resolve_left fun h ↦ h rfl, rfl⟩, fun r _ ↦ ?_⟩
    cases r <;> rfl
  | _ => exact balanced_connected fun _ ↦ over_send _

end Balanced

/-! ### Requests -/

/-- What handles a request: any program over store calls. -/
abbrev Request (α : Type) := Prog StoreExn StoreCall.Ans α

/-- Requests in the midst of their work, over one pool and the tables behind it. -/
abbrev Process (I S α : Type) :=
  Prog.Config StoreExn (Borrow.Ans Conn Statement.Ans) α I (Borrow.Pool Conn S) Unit

section Requests

variable {I S α : Type} (st : Stores) (maxPool : Nat)

/-- The connections of `Database(max_pool=n)`; `src/asb_api/db/connection.py:7–21`. -/
def connections : List Conn := List.range maxPool

/-- `connect` has made the pool, and the requests have not started. -/
def start (tables : S) (requests : I → Request α) : Process I S α where
  shared := ⟨connections maxPool, tables, false⟩
  stage _ := ()
  prog i := (requests i).embed (StoreCall.prog st)

/-- Where the pool may be ended, a request may make any call. -/
theorem only_any (p : Request α) : Prog.Only (fun c ↦ c ≠ .disconnect ∨ True) p := by
  induction p with
  | done r => exact trivial
  | call c k ih => exact ⟨.inr trivial, ih⟩

variable {st} in
theorem balanced_embed {mayClose : Prop} {p : Request α}
    (h : Prog.Only (fun c ↦ c ≠ .disconnect ∨ mayClose) p) :
    Balanced mayClose (p.embed (StoreCall.prog st)) := by
  induction p with
  | done r => rfl
  | call c k ih =>
    apply Prog.Follows.resume (c.balanced st h.1)
    rintro r g rfl
    exact ih r (h.2 r)

variable (exec : Conn → (s : Statement) → S → Except StoreExn s.Ans → S → Prop)
  (reset : Conn → S → S) [DecidableEq I]

/-- Any interleaving, in which acquisitions may be refused at any time. -/
def Reaches : Process I S α → Process I S α → Prop :=
  Relation.ReflTransGen (Prog.Step
    (fun _ ↦ Borrow.ServeOrRefuse StoreExn.fault exec reset (connections maxPool))
    Prog.Protocol.free)

/-- An interleaving in which every acquisition is served once a connection is there. -/
def ReachesServed : Process I S α → Process I S α → Prop :=
  Relation.ReflTransGen (Prog.Step
    (fun _ ↦ Borrow.Serve StoreExn.fault exec reset (connections maxPool)) Prog.Protocol.free)

variable {st maxPool exec reset} [Fintype I] {tables : S} {requests : I → Request α}
  {d : Process I S α}

/-- The pool is balanced after any interleaving, as is each request. -/
theorem lent_of_reaches {mayClose : Prop}
    (h : ∀ i, Prog.Only (fun c ↦ c ≠ .disconnect ∨ mayClose) (requests i))
    (hr : Reaches maxPool exec reset (start st maxPool tables requests) d) :
    ∃ stage, Borrow.Lent (connections maxPool) d.shared stage ∧
      ∀ i, Prog.Follows (Borrow.borrowing mayClose) (fun _ g ↦ g = none) (d.prog i) (stage i) := by
  obtain ⟨stage, hr⟩ := Prog.restage (Borrow.borrowing mayClose) hr fun _ ↦ none
  exact ⟨stage, Borrow.lent_sound hr (Borrow.lent_start List.nodup_range tables)
    fun i ↦ balanced_embed (h i)⟩

variable (maxPool) in
/-- What holds of the connections at any time: two requests are never about to use the same one,
one that is about to be given back is missing from a pool that takes it, and once all
requests have ended every connection is back. -/
structure ConnectionsSafe (d : Process I S α) : Prop where
  exclusive : ∀ i j conn s s' k k', d.prog i = .call (.use conn s) k →
    d.prog j = .call (.use conn s') k' → i = j
  returnable : ∀ i conn k, d.prog i = .call (.release conn) k →
    d.shared.closed = false ∧ conn ∉ d.shared.free
  returned : (∀ i, (d.prog i).ended = true) → d.shared.free.Perm (connections maxPool)

/-- Connections are safe in every interleaving of requests, whatever their statements answer and
whichever acquisitions, statements and releases raise, also while the database disconnects. -/
theorem connectionsSafe_of_reaches
    (hr : Reaches maxPool exec reset (start st maxPool tables requests) d) :
    ConnectionsSafe maxPool d := by
  obtain ⟨stage, hl, hf⟩ := lent_of_reaches (fun i ↦ only_any (requests i)) hr
  refine ⟨?_, ?_, ?_⟩
  · intro i j conn s s' k k' hi hj
    have hfi := hf i
    have hfj := hf j
    rw [hi] at hfi
    rw [hj] at hfj
    exact hl.exclusive i j conn hfi.1 hfj.1
  · intro i conn k hi
    have hfi := hf i
    rw [hi] at hfi
    refine ⟨?_, hl.away i conn hfi.1⟩
    by_contra hclosed
    have hnone := hl.ended (by simpa using hclosed) i
    rw [show stage i = some conn from hfi.1] at hnone
    cases hnone
  · intro hall
    apply hl.perm_of_none List.nodup_range
    intro i
    have hfi := hf i
    cases hp : d.prog i with
    | done r =>
      rw [hp] at hfi
      exact hfi
    | call o k =>
      have hend := hall i
      rw [hp] at hend
      cases hend

/-- One connection is enough: whatever has happened so far, requests that do not disconnect the
database can all be served to their ends, if every statement gets an answer. -/
theorem requests_complete (hexec : ∀ conn s tables, ∃ a tables', exec conn s tables a tables')
    (hpool : 0 < maxPool) (h : ∀ i, Prog.Only (fun c ↦ c ≠ .disconnect) (requests i))
    (hr : Reaches maxPool exec reset (start st maxPool tables requests) d) :
    ∃ e, ReachesServed maxPool exec reset d e ∧ ∀ i, (e.prog i).ended = true := by
  have hkeep : ∀ i, Prog.Only (fun c ↦ c ≠ .disconnect ∨ False) (requests i) :=
    fun i ↦ (h i).mono fun _ hc ↦ .inl hc
  obtain ⟨stage, hl, hf⟩ := lent_of_reaches hkeep hr
  have hne : connections maxPool ≠ [] := by
    rw [connections, ne_eq, List.range_eq_nil]
    omega
  obtain ⟨e, he, hend⟩ := Borrow.lent_completes ⟨_, StoreExn.fault_cancelled⟩ hexec hne
    ⟨d.shared, stage, d.prog⟩ hl hf
  obtain ⟨_, hfree⟩ := Prog.restage Prog.Protocol.free he d.stage
  exact ⟨_, hfree, hend⟩

end Requests

section Sample

private def sampleStores : Stores := ⟨fun _ ↦ HexText.zeros 64, Dict.empty, none, 300⟩

/-- Two requests: one revokes a key, the other one counts a request in a session. -/
private def sampleRequests (i : Bool) : Request Unit :=
  match i with
  | true => .perform (StoreCall.revoke "key_a")
  | false => .perform (StoreCall.incrementCount "sess_1")

private theorem sampleRequests_only (i : Bool) :
    Prog.Only (fun c ↦ c ≠ .disconnect) (sampleRequests i) := by
  cases i with
  | true => exact Prog.only_perform StoreCall.noConfusion
  | false => exact Prog.only_perform StoreCall.noConfusion

/-- A database that keeps no tables and answers anything. -/
private def anyAnswer (_ : Conn) (s : Statement) (_ : Unit) (_ : Except StoreExn s.Ans) (_ : Unit) :
    Prop := True

private def keep (_ : Conn) (u : Unit) : Unit := u

/-- The first request has the only connection, and the second one has been refused. -/
private theorem sample_reaches : ∃ d : Process Bool Unit Unit, Reaches 1 anyAnswer keep
    (start sampleStores 1 () sampleRequests) d ∧ d.shared.free = [] := by
  have hserve : Borrow.ServeOrRefuse StoreExn.fault anyAnswer keep (connections 1) Borrow.acquire
      ⟨connections 1, (), false⟩ (.ok (0 : Conn)) ⟨[], (), false⟩ :=
    .serve (.lend : Borrow.Serve StoreExn.fault anyAnswer keep (connections 1) Borrow.acquire
      ⟨[] ++ 0 :: [], (), false⟩ (.ok 0) ⟨[] ++ [], (), false⟩)
  have h₁ : Prog.Step (fun _ ↦ Borrow.ServeOrRefuse StoreExn.fault anyAnswer keep (connections 1))
      Prog.Protocol.free (start sampleStores 1 () sampleRequests) _ := .call true rfl hserve
  have h₂ := Relation.ReflTransGen.tail (.single h₁)
    (.call false rfl (.refuse StoreExn.fault_cancelled))
  exact ⟨_, h₂, rfl⟩

/-- That run is safe. -/
theorem connectionsSafe_of_reaches_sample : ∃ d : Process Bool Unit Unit, d.shared.free = [] ∧
    ConnectionsSafe 1 d := by
  obtain ⟨d, hr, hd⟩ := sample_reaches
  exact ⟨d, hd, connectionsSafe_of_reaches hr⟩

/-- From there both requests can end. -/
theorem requests_complete_sample : ∃ d e : Process Bool Unit Unit, d.shared.free = [] ∧
    ReachesServed 1 anyAnswer keep d e ∧ ∀ i, (e.prog i).ended = true := by
  obtain ⟨d, hr, hd⟩ := sample_reaches
  obtain ⟨e, he, hend⟩ := requests_complete (fun _ s _ ↦ ⟨.error .cancelled, (), trivial⟩)
    Nat.one_pos sampleRequests_only hr
  exact ⟨d, e, hd, he, hend⟩

end Sample
end Pooled
end AsbCloudApi.Db
