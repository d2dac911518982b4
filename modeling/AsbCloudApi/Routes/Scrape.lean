import AsbCloudApi.Api.RateLimiter
import AsbCloudApi.Db.Usage
import AsbCloudApi.Security.UrlSafety
import AsbCloudApi.Workers.Pool

/-!
# Scrape route

Library `Routes`. Models `src/asb_api/api/routes/scrape.py`. A request is a coroutine; what it
awaits or calls in other components are its operations, and each of them may raise.
-/

namespace AsbCloudApi.Routes

open Base Text Api Db Net Security Session Workers

/-- Calls of the key store and the rate limiter. -/
inductive LimitOp where
  | getTier (keyId : String)
  | check (keyId tier : String)
  | checkMany (keyId tier : String) (count : Int)

/-- What each of them answers. -/
abbrev LimitOp.Ans : LimitOp → Type
  | .getTier _ => String
  | .check _ _ => CheckResult
  | .checkMany _ _ _ => CheckResult

/-- Calls of the session store. -/
inductive SessionOp where
  | get (sessionId : String)
  | updateCookies (sessionId : String) (cookies : Dict String String)
  | incrementCount (sessionId : String)

/-- What each of them answers. -/
abbrev SessionOp.Ans : SessionOp → Type
  | .get _ => Option SessionInfo
  | .updateCookies _ _ => Unit
  | .incrementCount _ => Unit

/-- Calls of the usage tracker. -/
inductive UsageOp where
  | record (args : UsageArgs)
  | increment (keyId : String)

/-- The operations of a scrape request. `mergeCookies` builds the headers that carry the cookies
of a session. -/
inductive RouteOp where
  | validateUrl (url : String)
  | limit (o : LimitOp)
  | session (o : SessionOp)
  | pool (o : PoolOp)
  | mergeCookies (headers cookies : Dict String String)
  | scrape (worker : WorkerRef) (request : ScrapeRequest)
  | usage (o : UsageOp)

/-- What each of them answers. -/
abbrev RouteOp.Ans : RouteOp → Type
  | .validateUrl _ => String
  | .limit o => o.Ans
  | .session o => o.Ans
  | .pool o => o.Ans
  | .mergeCookies _ _ => Dict String String
  | .scrape _ _ => ScrapeResponse
  | .usage _ => Unit

/-- The components that an operation may belong to. -/
inductive RouteKind where
  | url
  | limit
  | session
  | pool
  | headers
  | scrape
  | usage
  deriving DecidableEq

/-- The component that an operation belongs to. -/
def RouteOp.kind : RouteOp → RouteKind
  | .validateUrl _ => .url
  | .limit _ => .limit
  | .session _ => .session
  | .pool _ => .pool
  | .mergeCookies _ _ => .headers
  | .scrape _ _ => .scrape
  | .usage _ => .usage

/-- A coroutine of the route. -/
abbrev RouteProg := Prog Exn RouteOp.Ans

/-- The two kinds of usage tracker: with `record`, or with `increment` only. -/
inductive TrackerKind where
  | record
  | increment
  deriving DecidableEq

/-- What has been set up at startup; `src/asb_api/api/routes/scrape.py:18–41`. -/
structure App where
  pool : Bool
  rateLimiter : Bool
  limiterHasCheckMany : Bool
  sessionStore : Bool
  usageTracker : Option TrackerKind
  unicode : UnicodeTables
  security : SecurityConfig

/-- `ensure_session_owner`; `src/asb_api/api/routes/sessions.py:22–24`. -/
def ensureSessionOwner (session : SessionInfo) (keyId : String) : RouteProg Unit :=
  if session.keyId ≠ keyId then
    .raise (.http ⟨404, .str "Session not found", Dict.empty⟩)
  else pure ()

/-- Repeat a single check. -/
def checkTimes (keyId tier : String) : Nat → RouteProg Unit
  | 0 => pure ()
  | n + 1 => do
    let _ ← .perform (.limit (.check keyId tier))
    checkTimes keyId tier n

/-- `_check_rate_limit_units`; `src/asb_api/api/routes/scrape.py:52–61`. -/
def checkRateLimitUnits (app : App) (keyId tier : String) (units : Int) : RouteProg Unit :=
  if !app.rateLimiter then pure ()
  else
    let units := max 1 units
    if 1 < units ∧ app.limiterHasCheckMany then do
      let _ ← .perform (.limit (.checkMany keyId tier units))
      pure ()
    else checkTimes keyId tier units.toNat

/-- `"; ".join(f"{k}={v}" for k, v in cookies.items())`. -/
def cookieHeader (cookies : Dict String String) : String :=
  "; ".intercalate (cookies.items.map fun p ↦ p.1 ++ "=" ++ p.2)

/-- The headers with the cookies of a session; `src/asb_api/api/routes/scrape.py:111–114`. -/
def mergedHeaders (headers cookies : Dict String String) : Dict String String :=
  let existing := headers.get? "Cookie"
  headers.set "Cookie"
    (if truthy existing then existing.getD "" ++ "; " ++ cookieHeader cookies
      else cookieHeader cookies)

/-- The session of a request, with its cookies dropped on a reset;
`src/asb_api/api/routes/scrape.py:95–106`. -/
def openSession (app : App) (request : ScrapeRequest) (keyId : String) :
    RouteProg (Option SessionInfo) :=
  if !truthy request.sessionId then pure none
  else if !app.sessionStore then
    .raise (.http (APIError 503 "SERVICE_NOT_INITIALIZED" "Session store not initialized" []))
  else do
    let sessionId := request.sessionId.getD ""
    let found : Option SessionInfo ← .perform (RouteOp.session (.get sessionId))
    match found with
    | none => .raise (.http (APIError 404 "SESSION_NOT_FOUND"
        "Session does not exist, expired, or is not owned by the key" []))
    | some session =>
      ensureSessionOwner session keyId
      if request.sessionType = .statefulReset then
        let _ ← .perform (.session (.updateCookies sessionId Dict.empty))
        pure (some { session with cookies := Dict.empty })
      else pure (some session)

/-- The arguments of the usage record; `src/asb_api/api/routes/scrape.py:124–143`. -/
def usageArgs (app : App) (request : ScrapeRequest) (keyId : String) (result : ScrapeResponse) :
    UsageArgs where
  keyId := keyId
  requestId := result.metadata.elim "unknown" (·.requestId)
  domain := some (redactUrlForLogging app.unicode app.security request.url (some true))
  status := result.status.text
  durationMs := result.metadata.elim 0 (·.durationMs)
  blockDetected := result.metadata.elim false (·.blockDetected)
  region := result.metadata.elim request.region (·.region)

/-- The request as it goes to the worker; `src/asb_api/api/routes/scrape.py:110–114`. -/
def withSessionCookies (session : Option SessionInfo) (request : ScrapeRequest) :
    RouteProg ScrapeRequest :=
  match session with
  | none => pure request
  | some session =>
    if session.cookies.isEmpty then pure request
    else do
      let headers ← .perform (RouteOp.mergeCookies request.headers session.cookies)
      pure { request with headers := headers }

/-- The session after a scrape; `src/asb_api/api/routes/scrape.py:118–120`. -/
def updateSession (app : App) (request : ScrapeRequest) (result : ScrapeResponse) :
    RouteProg Unit :=
  if truthy request.sessionId ∧ app.sessionStore then do
    let sessionId := request.sessionId.getD ""
    let _ ← .perform (RouteOp.session (.updateCookies sessionId result.cookies))
    .perform (RouteOp.session (.incrementCount sessionId))
  else pure ()

/-- The usage after a scrape; `src/asb_api/api/routes/scrape.py:122–145`. -/
def recordUsage (app : App) (request : ScrapeRequest) (keyId : String) (result : ScrapeResponse) :
    RouteProg Unit :=
  match app.usageTracker with
  | none => pure ()
  | some .record => .perform (RouteOp.usage (.record (usageArgs app request keyId result)))
  | some .increment => .perform (RouteOp.usage (.increment keyId))

/-- What is done with a leased worker; `src/asb_api/api/routes/scrape.py:109–147`. -/
def scrapeWith (app : App) (request : ScrapeRequest) (keyId : String)
    (session : Option SessionInfo) (worker : WorkerRef) : RouteProg ScrapeResponse := do
  let request ← withSessionCookies session request
  let result ← .perform (RouteOp.scrape worker request)
  updateSession app request result
  recordUsage app request keyId result
  pure result

/-- A coroutine of the pool, as part of a request. -/
def onPool {α : Type} (p : Prog Exn PoolOp.Ans α) : RouteProg α :=
  p.embed fun o ↦ .perform (RouteOp.pool o)

/-- The rate limit of a single scrape; `src/asb_api/api/routes/scrape.py:88–90`. -/
def checkRateLimit (app : App) (keyId : String) (skipRateLimitCheck : Bool) : RouteProg Unit :=
  if !skipRateLimitCheck ∧ app.rateLimiter then do
    let tier ← .perform (RouteOp.limit (.getTier keyId))
    checkRateLimitUnits app keyId tier 1
  else pure ()

/-- Everything before the lease; `src/asb_api/api/routes/scrape.py:86–106`. -/
def prelude (app : App) (request : ScrapeRequest) (keyId : String) (skipRateLimitCheck : Bool) :
    RouteProg (Option SessionInfo) := do
  let _ ← .perform (.validateUrl request.url)
  checkRateLimit app keyId skipRateLimitCheck
  if !app.pool then
    .raise (.http (APIError 503 "SERVICE_NOT_INITIALIZED"
      "Worker pool or backing service is unavailable" []))
  else openSession app request keyId

/-- `_execute_one_scrape`; `src/asb_api/api/routes/scrape.py:78–149`. -/
def executeOneScrape (app : App) (request : ScrapeRequest) (keyId : String)
    (skipRateLimitCheck : Bool) : RouteProg ScrapeResponse := do
  let session ← prelude app request keyId skipRateLimitCheck
  let worker ← onPool (RegionWorkerPool.acquire request.region)
  (scrapeWith app request keyId session worker).tryFinally
    (onPool (.perform (PoolOp.release worker request.region)))

/-- An operation of the limiter, the pool or the tracker. -/
theorem RouteOp.of_mem_kind {o : RouteOp} {k : RouteKind}
    (hk : k = .limit ∨ k = .pool ∨ k = .usage) (ho : o.kind ∈ [k]) :
    (∃ l, o = .limit l) ∨ (∃ p, o = .pool p) ∨ ∃ u, o = .usage u := by
  have hkind : o.kind = .limit ∨ o.kind = .pool ∨ o.kind = .usage := by
    rwa [List.mem_singleton.mp ho]
  cases o with
  | limit l => exact Or.inl ⟨l, rfl⟩
  | pool p => exact Or.inr (Or.inl ⟨p, rfl⟩)
  | usage u => exact Or.inr (Or.inr ⟨u, rfl⟩)
  | _ => rcases hkind with hk | hk | hk <;> cases hk

/-! ### Which components each part calls -/

/-- A coroutine that calls some components only. -/
abbrev Calls {α : Type} (kinds : List RouteKind) (p : RouteProg α) : Prop :=
  Prog.Only (fun o ↦ o.kind ∈ kinds) p

theorem calls_onPool {α : Type} (p : Prog Exn PoolOp.Ans α) : Calls [.pool] (onPool p) := by
  unfold onPool
  apply Prog.only_embed
  exact fun o ↦ ⟨List.mem_singleton_self _, fun _ ↦ trivial⟩

private theorem calls_limit (o : LimitOp) : Calls [.limit] (.perform (RouteOp.limit o)) :=
  ⟨List.mem_singleton_self _, fun _ ↦ trivial⟩

private theorem calls_session (o : SessionOp) : Calls [.session] (.perform (RouteOp.session o)) :=
  ⟨List.mem_singleton_self _, fun _ ↦ trivial⟩

theorem calls_checkTimes (keyId tier : String) (n : Nat) :
    Calls [.limit] (checkTimes keyId tier n) := by
  induction n with
  | zero => exact Prog.only_done _
  | succ n ih => exact (calls_limit _).bind fun _ ↦ ih

theorem calls_checkRateLimitUnits (app : App) (keyId tier : String) (units : Int) :
    Calls [.limit] (checkRateLimitUnits app keyId tier units) := by
  unfold checkRateLimitUnits
  apply Prog.Only.ite
  · exact Prog.only_done _
  · apply Prog.Only.ite
    · exact (calls_limit _).bind fun _ ↦ Prog.only_done _
    · exact calls_checkTimes _ _ _

theorem calls_checkRateLimit (app : App) (keyId : String) (skip : Bool) :
    Calls [.limit] (checkRateLimit app keyId skip) := by
  unfold checkRateLimit
  apply Prog.Only.ite
  · exact (calls_limit _).bind fun _ ↦ calls_checkRateLimitUnits _ _ _ _
  · exact Prog.only_done _

theorem calls_openSession (app : App) (request : ScrapeRequest) (keyId : String) :
    Calls [.session] (openSession app request keyId) := by
  unfold openSession
  apply Prog.Only.ite
  · exact Prog.only_done _
  · apply Prog.Only.ite
    · exact Prog.only_done _
    · apply (calls_session _).bind
      intro found
      cases found with
      | none => exact Prog.only_done _
      | some session =>
        apply Prog.Only.bind
        · exact (Prog.only_done _).ite (Prog.only_done _)
        · intro _
          apply Prog.Only.ite
          · exact (calls_session _).bind fun _ ↦ Prog.only_done _
          · exact Prog.only_done _

theorem calls_prelude (app : App) (request : ScrapeRequest) (keyId : String) (skip : Bool) :
    Calls [.url, .limit, .session] (prelude app request keyId skip) := by
  unfold prelude
  apply Prog.Only.bind
  · exact Prog.only_perform List.mem_cons_self
  · intro _
    apply Prog.Only.bind
    · apply (calls_checkRateLimit app keyId skip).mono
      simp +contextual
    · intro _
      apply Prog.Only.ite
      · exact Prog.only_done _
      · apply (calls_openSession app request keyId).mono
        simp +contextual

theorem calls_withSessionCookies (session : Option SessionInfo) (request : ScrapeRequest) :
    Calls [.headers] (withSessionCookies session request) := by
  unfold withSessionCookies
  cases session with
  | none => exact Prog.only_done _
  | some session =>
    apply Prog.Only.ite
    · exact Prog.only_done _
    · apply Prog.Only.bind
      · exact Prog.only_perform (List.mem_singleton_self _)
      · exact fun _ ↦ Prog.only_done _

theorem calls_updateSession (app : App) (request : ScrapeRequest) (result : ScrapeResponse) :
    Calls [.session] (updateSession app request result) := by
  unfold updateSession
  apply Prog.Only.ite
  · exact (calls_session _).bind fun _ ↦ calls_session _
  · exact Prog.only_done _

theorem calls_recordUsage (app : App) (request : ScrapeRequest) (keyId : String)
    (result : ScrapeResponse) : Calls [.usage] (recordUsage app request keyId result) := by
  unfold recordUsage
  split
  · exact Prog.only_done _
  · exact Prog.only_perform (List.mem_singleton_self _)
  · exact Prog.only_perform (List.mem_singleton_self _)

theorem calls_scrapeWith (app : App) (request : ScrapeRequest) (keyId : String)
    (session : Option SessionInfo) (worker : WorkerRef) :
    Calls [.headers, .scrape, .session, .usage] (scrapeWith app request keyId session worker) := by
  unfold scrapeWith
  apply Prog.Only.bind
  · apply (calls_withSessionCookies session request).mono
    simp +contextual
  · intro request
    apply Prog.Only.bind
    · exact Prog.only_perform (List.mem_cons_of_mem _ List.mem_cons_self)
    · intro result
      apply Prog.Only.bind
      · apply (calls_updateSession app request result).mono
        simp +contextual
      · intro _
        apply Prog.Only.bind
        · apply (calls_recordUsage app request keyId result).mono
          simp +contextual
        · exact fun _ ↦ Prog.only_done _

/-! ### Protocols that leave the pool out -/

/-- Where the pool has no stage, what holds of the prelude and of the scrape holds of the whole. -/
theorem follows_executeOneScrape_of_prelude {G : Type} {P : Prog.Protocol Exn RouteOp.Ans G}
    (hpool : ∀ {α : Type} (p : Prog Exn PoolOp.Ans α), Prog.Stays P (onPool p)) {app : App}
    {request : ScrapeRequest} {keyId : String} {skip : Bool}
    {Q : Except Exn (Option SessionInfo) → G → Prop} {R : G → Prop} {g : G}
    (hprelude : Prog.Follows P Q (prelude app request keyId skip) g) (hends : ∀ r g, Q r g → R g)
    (hscrape : ∀ found g worker, Q (.ok found) g →
      Prog.Follows P (fun _ g ↦ R g) (scrapeWith app request keyId found worker) g) :
    Prog.Follows P (fun _ g ↦ R g) (executeOneScrape app request keyId skip) g := by
  unfold executeOneScrape
  apply hprelude.bind
  · intro found g hg
    apply (hpool _ g).bind
    · rintro worker g rfl
      apply (hscrape found g worker hg).tryFinally
      intro r g hr
      apply (hpool _ g).mono
      rintro u g rfl
      cases u with
      | ok u => exact hr
      | error e => exact hr
    · rintro e g rfl
      exact hends _ g hg
  · exact fun e g hg ↦ hends _ g hg

end AsbCloudApi.Routes
