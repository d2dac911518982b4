import AsbCloudApi.Routes.SessionRun

/-!
# Session routes

Library `Routes`. Models `src/asb_api/api/routes/sessions.py`. Together with the scrapes they are
all that calls the session store, which is set up for both at once.
-/

namespace AsbCloudApi.Routes

open Base Api Session

/-- The operations of the session routes and of scrapes. -/
inductive TenantOp where
  | create (keyId region : String) (fingerprint : Option String)
  | delete (sessionId : String)
  | route (o : RouteOp)

/-- What each of them answers. -/
abbrev TenantOp.Ans : TenantOp → Type
  | .create _ _ _ => SessionInfo
  | .delete _ => Unit
  | .route o => o.Ans

/-- A coroutine of either kind of route. -/
abbrev TenantProg := Prog Exn TenantOp.Ans

/-- A coroutine of the scrape route, among the others. -/
def onRoute {α : Type} (p : RouteProg α) : TenantProg α :=
  p.embed fun o ↦ .perform (TenantOp.route o)

/-- `CreateSessionRequest`; `src/asb_api/api/routes/sessions.py:17–19`. -/
structure CreateSessionRequest where
  region : String := "jp"
  fingerprint : Option String := none

/-- The answers of the routes. -/
inductive TenantReply where
  | created (sessionId : String) (createdAt expiresAt : ℚ)
  | shown (sessionId region : String) (fingerprint : Option String) (requestCount : Nat)
      (createdAt lastUsed expiresAt : ℚ)
  | deleted (statusCode : Nat)
  | scraped (response : ScrapeResponse)

/-- Raised by every session route if there is no store. -/
def storeNotInitialized : Exn :=
  .http (APIError 503 "SERVICE_NOT_INITIALIZED" "Session store not initialized" [])

/-- `create_session`; `src/asb_api/api/routes/sessions.py:27–43`. -/
def createSession (app : App) (request : CreateSessionRequest) (keyId : String) :
    TenantProg TenantReply :=
  if !app.sessionStore then .raise storeNotInitialized
  else do
    let session ← .perform (TenantOp.create keyId request.region request.fingerprint)
    pure (.created session.sessionId session.createdAt session.expiresAt)

/-- A session of the key; `src/asb_api/api/routes/sessions.py:48–53` and `67–72`. -/
def ownSession (app : App) (sessionId keyId : String) : RouteProg SessionInfo :=
  if !app.sessionStore then .raise storeNotInitialized
  else do
    let found : Option SessionInfo ← .perform (RouteOp.session (.get sessionId))
    match found with
    | none => .raise (.http (APIError 404 "SESSION_NOT_FOUND"
        "Session does not exist, expired, or is not owned by the key" []))
    | some session =>
      ensureSessionOwner session keyId
      pure session

/-- `get_session`; `src/asb_api/api/routes/sessions.py:46–62`. -/
def getSession (app : App) (sessionId keyId : String) : TenantProg TenantReply := do
  let session ← onRoute (ownSession app sessionId keyId)
  pure (.shown session.sessionId session.region session.fingerprint session.requestCount
    session.createdAt session.lastUsed session.expiresAt)

/-- `delete_session`; `src/asb_api/api/routes/sessions.py:65–74`. -/
def deleteSession (app : App) (sessionId keyId : String) : TenantProg TenantReply := do
  let _ ← onRoute (ownSession app sessionId keyId)
  let _ ← .perform (TenantOp.delete sessionId)
  pure (.deleted 204)

/-! ### Requests of tenants -/

/-- An authenticated request: a session route, a single scrape, or an item of a bulk scrape, which
skips the check of the rate limit. -/
inductive TenantRequest where
  | create (request : CreateSessionRequest) (keyId : String)
  | get (sessionId keyId : String)
  | delete (sessionId keyId : String)
  | scrape (request : ScrapeRequest) (keyId : String) (skipRateLimitCheck : Bool)

namespace TenantRequest

/-- The coroutine that serves a request. -/
def serve (app : App) : TenantRequest → TenantProg TenantReply
  | .create request keyId => createSession app request keyId
  | .get sessionId keyId => getSession app sessionId keyId
  | .delete sessionId keyId => deleteSession app sessionId keyId
  | .scrape request keyId skip => do
    let response ← onRoute (executeOneScrape app request keyId skip)
    pure (.scraped response)

/-- The key of a request. -/
def keyId : TenantRequest → String
  | .create _ keyId => keyId
  | .get _ keyId => keyId
  | .delete _ keyId => keyId
  | .scrape _ keyId _ => keyId

/-- The session that a request names. -/
def sessionId : TenantRequest → Option String
  | .create _ _ => none
  | .get sessionId _ => some sessionId
  | .delete sessionId _ => some sessionId
  | .scrape request _ _ => request.sessionId

end TenantRequest
end AsbCloudApi.Routes
