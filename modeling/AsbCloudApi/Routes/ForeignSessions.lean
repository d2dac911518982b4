import AsbCloudApi.Routes.Bulk
import AsbCloudApi.Routes.Sessions

/-!
# Requests for sessions of other keys

Library `Routes`. Each of the four ways to name a session looks it up first and checks its owner
next (`src/asb_api/api/routes/sessions.py:46–74`, `src/asb_api/api/routes/scrape.py:95–103`).
A request that gets as far as the lookup and is denied does nothing else, which decides what a
stranger learns about a session, and what is left of it.
-/

namespace AsbCloudApi.Routes

open Base Api Db Session Workers

/-! ### One request on its own -/

/-- What a request meets: as for a scrape, and for the calls that create and delete sessions. -/
structure TenantSurroundings where
  route : Surroundings
  createEnv : StoreEnv
  createId : String
  createFails : Option Exn
  deleteEnv : StoreEnv
  deleteFails : Option Exn

/-- Answer the operations of a request. -/
def requestHandler (sur : TenantSurroundings) :
    (o : TenantOp) → SessionState → Except Exn o.Ans × SessionState
  | .create keyId region fingerprint, s =>
    match sur.createFails with
    | some e => (.error e, s)
    | none =>
      let created := s.backend.create sur.createEnv sur.createId keyId region fingerprint
      (created.1, { s with backend := created.2 })
  | .delete sid, s =>
    match sur.deleteFails with
    | some e => (.error e, s)
    | none =>
      let deleted := s.backend.delete sur.deleteEnv sid
      (deleted.1, { s with backend := deleted.2 })
  | .route o, s => sessionHandler sur.route o s

/-- The outcome of a request, and what it leaves. -/
def respond (sur : TenantSurroundings) (app : App) (q : TenantRequest) (b : SessionBackend) :
    Except Exn TenantReply × SessionState :=
  Prog.run (requestHandler sur) (q.serve app) ⟨b, []⟩

theorem run_onRoute (sur : TenantSurroundings) {α : Type} (p : RouteProg α) (s : SessionState) :
    Prog.run (requestHandler sur) (onRoute p) s = Prog.run (sessionHandler sur.route) p s := by
  induction p generalizing s with
  | done r => rfl
  | call o k ih => exact ih _ _

/-! ### Up to the lookup of the session -/

/-- The rate limit of a single scrape lets it pass. -/
def PassesRateLimit (sur : Surroundings) (keyId : String) : Prop :=
  ∃ tier r, sur.answer (.limit (.getTier keyId)) = .ok tier ∧
    sur.answer (.limit (.check keyId tier)) = .ok r

/-- A request gets as far as the lookup of its session: there is a store; a scrape has a URL that
is accepted, passes the rate limit unless it is an item of a batch, and finds a pool. -/
def LooksUp (sur : Surroundings) (app : App) : TenantRequest → Prop
  | .create _ _ => False
  | .get _ _ => app.sessionStore = true
  | .delete _ _ => app.sessionStore = true
  | .scrape request keyId skip =>
    (∃ url, sur.answer (.validateUrl request.url) = .ok url) ∧
      (skip = false → app.rateLimiter = true → PassesRateLimit sur keyId) ∧
      app.pool = true ∧ app.sessionStore = true

/-- The exception for a session that is not there. -/
def sessionNotFound : Exn :=
  .http (APIError 404 "SESSION_NOT_FOUND"
    "Session does not exist, expired, or is not owned by the key" [])

/-- The exception for a session of another key. -/
def notOwner : Exn := .http ⟨404, .str "Session not found", Dict.empty⟩

/-- Why a request may not go on after the lookup. -/
def denial (keyId : String) : Except Exn (Option SessionInfo) → Option Exn
  | .error e => some e
  | .ok none => some sessionNotFound
  | .ok (some session) => if session.keyId ≠ keyId then some notOwner else none

/-- The lookup of a session. -/
def lookup (sur : Surroundings) (sid : String) (b : SessionBackend) :
    Except Exn (Option SessionInfo) × SessionState :=
  sessionHandler sur (.session (.get sid)) ⟨b, []⟩

section Denied

variable {sur : Surroundings} {app : App} {sid keyId : String} {b : SessionBackend} {e : Exn}

private theorem denial_found {session : SessionInfo}
    (h : denial keyId (.ok (some session)) = some e) :
    session.keyId ≠ keyId ∧ e = notOwner := by
  rw [denial] at h
  split at h
  · next hne => exact ⟨hne, (Option.some.inj h).symm⟩
  · cases h

/-- A session of another key is not handed on. -/
private theorem run_owner_denied {α : Type} {session : SessionInfo} (hne : session.keyId ≠ keyId)
    (p : Unit → RouteProg α) (s : SessionState) :
    Prog.run (sessionHandler sur) (ensureSessionOwner session keyId >>= p) s =
      (.error notOwner, s) := by
  rw [Prog.run_bind, ensureSessionOwner, if_pos hne, Prog.run_raise]
  rfl

/-- What checks the owner of the session that it looks up does nothing else when denied. -/
private theorem run_lookup_denied {α : Type} {p : Option SessionInfo → RouteProg α}
    (hnone : p none = .raise sessionNotFound)
    (hsome : ∀ session, ∃ rest, p (some session) = ensureSessionOwner session keyId >>= rest)
    (hd : denial keyId (lookup sur sid b).1 = some e) :
    Prog.run (sessionHandler sur) (.perform (RouteOp.session (.get sid)) >>= p) ⟨b, []⟩ =
      (.error e, (lookup sur sid b).2) := by
  rw [Prog.run_bind, Prog.run_perform]
  unfold lookup at *
  revert hd
  rcases sessionHandler sur (.session (.get sid)) ⟨b, []⟩ with ⟨_ | _ | session, s⟩
  · rintro ⟨⟩
    rfl
  · rintro ⟨⟩
    exact congrArg (Prog.run _ · s) hnone
  · intro hd
    obtain ⟨hne, rfl⟩ := denial_found hd
    obtain ⟨rest, hrest⟩ := hsome session
    exact (congrArg (Prog.run _ · s) hrest).trans (run_owner_denied hne _ s)

private theorem run_ownSession_denied (hstore : app.sessionStore = true)
    (hd : denial keyId (lookup sur sid b).1 = some e) :
    Prog.run (sessionHandler sur) (ownSession app sid keyId) ⟨b, []⟩ =
      (.error e, (lookup sur sid b).2) := by
  unfold ownSession
  rw [hstore, Bool.not_true, if_neg (by decide)]
  exact run_lookup_denied rfl (fun _ ↦ ⟨_, rfl⟩) hd

private theorem run_openSession_denied {request : ScrapeRequest}
    (hsid : request.sessionId = some sid) (hne : sid ≠ "") (hstore : app.sessionStore = true)
    (hd : denial keyId (lookup sur sid b).1 = some e) :
    Prog.run (sessionHandler sur) (openSession app request keyId) ⟨b, []⟩ =
      (.error e, (lookup sur sid b).2) := by
  obtain ⟨htruthy, hget⟩ := given_of_eq_some hsid hne
  unfold openSession
  rw [htruthy, hstore, Bool.not_true, if_neg (by decide), if_neg (by decide)]
  dsimp only
  rw [hget]
  exact run_lookup_denied rfl (fun _ ↦ ⟨_, rfl⟩) hd

/-- Without a session store there is no session to own. -/
private theorem run_ownSession_refused (sur : Surroundings) (hstore : app.sessionStore = false)
    (s : SessionState) :
    Prog.run (sessionHandler sur) (ownSession app sid keyId) s =
      (.error storeNotInitialized, s) := by
  rw [ownSession, hstore]
  rfl

private theorem run_checkOnce (hlim : app.rateLimiter = true) (tier : String) (s : SessionState) :
    Prog.run (sessionHandler sur) (checkRateLimitUnits app keyId tier 1) s =
      ((sur.answer (.limit (.check keyId tier))).map fun _ ↦ (), s) := by
  unfold checkRateLimitUnits
  rw [hlim, Bool.not_true, if_neg (by decide)]
  dsimp only
  rw [if_neg (by simp), max_self, Int.toNat_one, checkTimes, Prog.run_bind, Prog.run_perform]
  dsimp only [sessionHandler]
  cases sur.answer (.limit (.check keyId tier)) <;> rfl

/-- The check of the rate limit leaves everything as it is, and raises unless the limit lets the
request pass. -/
private theorem run_checkRateLimit (sur : Surroundings) (app : App) (keyId : String)
    (skip : Bool) :
    (skip = false → app.rateLimiter = true → PassesRateLimit sur keyId) ∧
        (∀ s, Prog.run (sessionHandler sur) (checkRateLimit app keyId skip) s = (.ok (), s)) ∨
      ¬(skip = false → app.rateLimiter = true → PassesRateLimit sur keyId) ∧
        ∃ e, ∀ s,
          Prog.run (sessionHandler sur) (checkRateLimit app keyId skip) s = (.error e, s) := by
  unfold checkRateLimit
  by_cases hc : (!skip) = true ∧ app.rateLimiter = true
  · obtain ⟨hskip, hlim⟩ : skip = false ∧ app.rateLimiter = true := by simpa using hc
    simp only [if_pos hc, Prog.run_bind, Prog.run_perform, sessionHandler]
    cases htier : sur.answer (.limit (.getTier keyId)) with
    | error e =>
      right
      refine ⟨fun hp ↦ ?_, e, fun _ ↦ rfl⟩
      obtain ⟨tier, r, ht, -⟩ := hp hskip hlim
      cases htier.symm.trans ht
    | ok tier =>
      simp only [run_checkOnce hlim]
      cases hcheck : sur.answer (.limit (.check keyId tier)) with
      | error e =>
        right
        refine ⟨fun hp ↦ ?_, e, fun _ ↦ rfl⟩
        obtain ⟨tier', r, ht, hr⟩ := hp hskip hlim
        cases htier.symm.trans ht
        cases hcheck.symm.trans hr
      | ok r => exact Or.inl ⟨fun _ _ ↦ ⟨tier, r, htier, hcheck⟩, fun _ ↦ rfl⟩
  · left
    simp only [if_neg hc]
    refine ⟨fun hskip hlim ↦ absurd ⟨by rw [hskip]; rfl, hlim⟩ hc, fun _ ↦ rfl⟩

/-- A scrape that is denied its session does nothing after the lookup. -/
private theorem run_scrape_denied {request : ScrapeRequest} {skip : Bool}
    (hsid : request.sessionId = some sid) (hne : sid ≠ "")
    (hl : LooksUp sur app (.scrape request keyId skip))
    (hd : denial keyId (lookup sur sid b).1 = some e) :
    Prog.run (sessionHandler sur) (executeOneScrape app request keyId skip) ⟨b, []⟩ =
      (.error e, (lookup sur sid b).2) := by
  obtain ⟨⟨url, hurl⟩, hlimit, hpool, hstore⟩ := hl
  rcases run_checkRateLimit sur app keyId skip with ⟨-, hpass⟩ | ⟨hno, -⟩
  · have hprelude : Prog.run (sessionHandler sur) (prelude app request keyId skip) ⟨b, []⟩ =
        (.error e, (lookup sur sid b).2) := by
      unfold prelude
      rw [Prog.run_bind, Prog.run_perform]
      dsimp only [sessionHandler]
      rw [hurl]
      dsimp only
      rw [Prog.run_bind, hpass]
      dsimp only
      rw [hpool, Bool.not_true, if_neg (by decide)]
      exact run_openSession_denied hsid hne hstore hd
    unfold executeOneScrape
    rw [Prog.run_bind, hprelude]
  · exact absurd hlimit hno

/-- A scrape that does not get as far as the lookup leaves everything as it is. -/
private theorem run_scrape_refused {request : ScrapeRequest} {skip : Bool}
    (hsid : request.sessionId = some sid) (hne : sid ≠ "")
    (hl : ¬ LooksUp sur app (.scrape request keyId skip)) :
    ∃ e, ∀ s, Prog.run (sessionHandler sur) (executeOneScrape app request keyId skip) s =
      (.error e, s) := by
  obtain ⟨htruthy, -⟩ := given_of_eq_some hsid hne
  have hprelude : ∃ e, ∀ s, Prog.run (sessionHandler sur) (prelude app request keyId skip) s =
      (.error e, s) := by
    unfold prelude
    simp only [Prog.run_bind, Prog.run_perform, sessionHandler]
    cases hurl : sur.answer (.validateUrl request.url) with
    | error e => exact ⟨e, fun _ ↦ rfl⟩
    | ok url =>
      rcases run_checkRateLimit sur app keyId skip with ⟨hlimit, hpass⟩ | ⟨-, e, hrefused⟩
      · simp only [hpass]
        cases hpool : app.pool with
        | false => exact ⟨_, fun _ ↦ rfl⟩
        | true =>
          have hstore : app.sessionStore = false := by
            by_contra hs
            exact hl ⟨⟨url, hurl⟩, hlimit, hpool, by simpa using hs⟩
          simp only [openSession, htruthy, hstore]
          exact ⟨_, fun _ ↦ rfl⟩
      · simp only [hrefused]
        exact ⟨e, fun _ ↦ rfl⟩
  obtain ⟨e, hprelude⟩ := hprelude
  refine ⟨e, fun s ↦ ?_⟩
  unfold executeOneScrape
  rw [Prog.run_bind, hprelude]

end Denied

section Respond

variable {sur : TenantSurroundings} {app : App} {q : TenantRequest} {sid : String}

/-- A request that is denied its session ends with the lookup. -/
theorem respond_denied (hq : q.sessionId = some sid) (hne : sid ≠ "")
    (hl : LooksUp sur.route app q) {b : SessionBackend} {e : Exn}
    (hd : denial q.keyId (lookup sur.route sid b).1 = some e) :
    respond sur app q b = (.error e, (lookup sur.route sid b).2) := by
  unfold respond
  cases q with
  | create request keyId => exact False.elim hl
  | get sessionId keyId =>
    cases hq
    have hd : denial keyId (lookup sur.route sid b).1 = some e := hd
    change Prog.run _ (onRoute (ownSession app sid keyId) >>= _) _ = _
    rw [Prog.run_bind, run_onRoute, run_ownSession_denied hl hd]
  | delete sessionId keyId =>
    cases hq
    have hd : denial keyId (lookup sur.route sid b).1 = some e := hd
    change Prog.run _ (onRoute (ownSession app sid keyId) >>= _) _ = _
    rw [Prog.run_bind, run_onRoute, run_ownSession_denied hl hd]
  | scrape request keyId skip =>
    have hd : denial keyId (lookup sur.route sid b).1 = some e := hd
    change Prog.run _ (onRoute (executeOneScrape app request keyId skip) >>= _) _ = _
    rw [Prog.run_bind, run_onRoute, run_scrape_denied hq hne hl hd]

/-- A request that is refused before the lookup of its session is so whatever the store holds,
and leaves it as it is. -/
theorem respond_refused (hq : q.sessionId = some sid) (hne : sid ≠ "")
    (hl : ¬ LooksUp sur.route app q) :
    ∃ e, ∀ b, respond sur app q b = (.error e, ⟨b, []⟩) := by
  unfold respond
  cases q with
  | create request keyId => cases hq
  | get sessionId keyId =>
    have hstore : app.sessionStore = false := by simpa [LooksUp] using hl
    refine ⟨storeNotInitialized, fun b ↦ ?_⟩
    change Prog.run _ (onRoute (ownSession app sessionId keyId) >>= _) _ = _
    rw [Prog.run_bind, run_onRoute, run_ownSession_refused sur.route hstore]
  | delete sessionId keyId =>
    have hstore : app.sessionStore = false := by simpa [LooksUp] using hl
    refine ⟨storeNotInitialized, fun b ↦ ?_⟩
    change Prog.run _ (onRoute (ownSession app sessionId keyId) >>= _) _ = _
    rw [Prog.run_bind, run_onRoute, run_ownSession_refused sur.route hstore]
  | scrape request keyId skip =>
    obtain ⟨e, he⟩ := run_scrape_refused hq hne hl
    refine ⟨e, fun b ↦ ?_⟩
    change Prog.run _ (onRoute (executeOneScrape app request keyId skip) >>= _) _ = _
    rw [Prog.run_bind, run_onRoute, he]

end Respond

/-! ### What a stranger learns -/

/-- What a client sees: a reply; an error by its status, code and message; a plain server error;
or, for an item of a batch, its error object. -/
inductive Shown where
  | reply (r : TenantReply)
  | error (statusCode : Nat) (errorCode message : Option PyVal)
  | serverError
  | itemError (error : Option (Dict String PyVal))

/-- The response to a request of its own. -/
def shownResponse (f : TextFunctions) : Except Exn TenantReply → Shown
  | .ok r => .reply r
  | .error (.http e) =>
    let response := structuredHttpExceptionHandler f e
    .error response.statusCode (response.content.get? "error_code")
      (response.content.get? "message")
  | .error (.py _) => .serverError

/-- The entry of an item. -/
def shownItem (f : TextFunctions) : Except Exn TenantReply → Shown
  | .ok r => .reply r
  | .error e => .itemError (bulkItemResult f 0 (.error e)).error

/-- What the client sees of an outcome; only the items of a batch skip the rate limit. -/
def shownTo (f : TextFunctions) (q : TenantRequest) (r : Except Exn TenantReply) : Shown :=
  match q with
  | .scrape _ _ true => shownItem f r
  | _ => shownResponse f r

/-- The two denials read differently, as responses and as error objects. -/
private theorem shown_ne (f : TextFunctions) (q : TenantRequest) :
    shownTo f q (.error notOwner) ≠ shownTo f q (.error sessionNotFound) := by
  have hresponse :
      shownResponse f (.error notOwner) ≠ shownResponse f (.error sessionNotFound) := by
    intro h
    have hmessage : some (PyVal.str "Session not found") =
        some (.str "Session does not exist, expired, or is not owned by the key") := by
      rw [notOwner, shownResponse, handler_of_text] at h
      exact (Shown.error.inj h).2.2
    exact absurd hmessage (by decide)
  have hitem : shownItem f (.error notOwner) ≠ shownItem f (.error sessionNotFound) := by
    intro h
    have hcode : some (PyVal.str "BAD_REQUEST") = some (.str "SESSION_NOT_FOUND") :=
      congrArg (fun d ↦ d.bind fun d : Dict String PyVal ↦ d.get? "error_code")
        (Shown.itemError.inj h)
    exact absurd hcode (by decide)
  unfold shownTo
  split
  · exact hitem
  · exact hresponse

/-- A session of another key is shown as one that does not exist exactly if the request does not
get as far as the lookup of the session, or the lookup fails. -/
theorem foreignShownAsMissing_iff (f : TextFunctions) (sur : TenantSurroundings) (app : App)
    (q : TenantRequest) (sid : String) (hq : q.sessionId = some sid) (hne : sid ≠ "")
    (foreign missing : SessionBackend) (session : SessionInfo)
    (hforeign : ((SessionOp.get sid).exec (sur.route.env (.get sid)) foreign).1 =
      .ok (some session)) (howner : session.keyId ≠ q.keyId)
    (hmissing : ((SessionOp.get sid).exec (sur.route.env (.get sid)) missing).1 = .ok none) :
    shownTo f q (respond sur app q foreign).1 = shownTo f q (respond sur app q missing).1 ↔
      ¬ LooksUp sur.route app q ∨ (sur.route.storeFails (.get sid)).isSome = true := by
  by_cases hl : LooksUp sur.route app q
  · cases hfail : sur.route.storeFails (.get sid) with
    | some e =>
      have hlookup (b : SessionBackend) : denial q.keyId (lookup sur.route sid b).1 = some e := by
        simp [lookup, sessionHandler, hfail, denial]
      rw [respond_denied hq hne hl (hlookup foreign), respond_denied hq hne hl (hlookup missing)]
      simp
    | none =>
      have hf : denial q.keyId (lookup sur.route sid foreign).1 = some notOwner := by
        simp [lookup, sessionHandler, hfail, hforeign, denial, howner]
      have hm : denial q.keyId (lookup sur.route sid missing).1 = some sessionNotFound := by
        simp [lookup, sessionHandler, hfail, hmissing, denial]
      rw [respond_denied hq hne hl hf, respond_denied hq hne hl hm]
      simp [hl, shown_ne f q]
  · obtain ⟨e, he⟩ := respond_refused hq hne hl
    rw [he foreign, he missing]
    simp [hl]

private def strangerApp : App := ⟨true, false, false, true, none, ⟨id, id, some, some⟩, {}⟩

private def strangerTexts : TextFunctions := ⟨⟨id, id, some, some⟩, fun _ ↦ ""⟩

/-- Nothing fails but the lookup of a session, if that does. -/
private def strangerSur (lookupFails : Option Exn) (now : ℚ) : TenantSurroundings where
  route := {
    answer
      | .validateUrl url => .ok url
      | _ => .error (.py ⟨.other, ""⟩)
    storeFails _ := lookupFails
    env _ := ⟨now, 0⟩ }
  createEnv := ⟨now, 0⟩
  createId := ""
  createFails := none
  deleteEnv := ⟨now, 0⟩
  deleteFails := none

/-- A session that `key_b` created at 0. -/
private def strangerRecord : SessionRecord :=
  ⟨"sess_1", "key_b", "jp", none, .plain Dict.empty, 0, 0, 0, 300⟩

private def strangerStore : SessionStore := ⟨none, 300, Dict.ofList [("sess_1", strangerRecord)]⟩

private def missingStore : SessionStore := ⟨none, 300, Dict.empty⟩

/-- An item of a batch on the session. -/
private def strangerItem : TenantRequest :=
  .scrape { url := "https://example.com", sessionId := some "sess_1" } "key_a" true

/-- If the lookup fails, both are answered alike. -/
theorem foreignShownAsMissing_iff_sample :
    let sur := strangerSur (some (.py ⟨.other, "connection lost"⟩)) 5
    shownTo strangerTexts strangerItem
        (respond sur strangerApp strangerItem (.memory strangerStore)).1 =
      shownTo strangerTexts strangerItem
        (respond sur strangerApp strangerItem (.memory missingStore)).1 := by
  intro sur
  refine (foreignShownAsMissing_iff strangerTexts sur strangerApp strangerItem "sess_1" rfl
    (by decide) (.memory strangerStore) (.memory missingStore)
    ⟨"sess_1", "key_b", "jp", none, Dict.empty, 0, 5, 0, 300⟩ ?_ (by decide) ?_).mpr (Or.inr rfl)
  · rfl
  · rfl

/-- Otherwise they differ: a stranger who reads the session is told another message. -/
theorem not_foreignShownAsMissing : ¬ ∀ (f : TextFunctions) (sur : TenantSurroundings) (app : App)
    (q : TenantRequest) (sid : String) (foreign missing : SessionBackend) (session : SessionInfo),
    q.sessionId = some sid → sid ≠ "" →
    ((SessionOp.get sid).exec (sur.route.env (.get sid)) foreign).1 = .ok (some session) →
    session.keyId ≠ q.keyId →
    ((SessionOp.get sid).exec (sur.route.env (.get sid)) missing).1 = .ok none →
    shownTo f q (respond sur app q foreign).1 = shownTo f q (respond sur app q missing).1 := by
  intro h
  have hsame := h strangerTexts (strangerSur none 5) strangerApp (.get "sess_1" "key_a") "sess_1"
    (.memory strangerStore) (.memory missingStore)
    ⟨"sess_1", "key_b", "jp", none, Dict.empty, 0, 5, 0, 300⟩ rfl (by decide) rfl (by decide) rfl
  have hmessage : some (PyVal.str "Session not found") =
      some (.str "Session does not exist, expired, or is not owned by the key") :=
    (Shown.error.inj hsame).2.2
  exact absurd hmessage (by decide)

/-! ### What a stranger leaves behind -/

/-- What the owner of a session can observe of it. -/
structure OwnerView where
  cookies : Except Exn (Dict String String)
  region : String
  fingerprint : Option String
  requestCount : Nat
  createdAt : ℚ
  lastUsed : ℚ
  expiresAt : ℚ
  deriving DecidableEq

/-- The view of a session, if it exists. -/
def ownerView (st : SessionStore) (sid : String) : Option OwnerView :=
  (st.sessions.get? sid).map fun s ↦
    ⟨loadCookies st.fernet s.cookies, s.region, s.fingerprint, s.requestCount, s.createdAt,
      s.lastUsed, s.expiresAt⟩

/-- A request with another key leaves a live session as its owner sees it exactly if it does not
get as far as the lookup of the session, the lookup fails, or it takes place at the very instant
of the last use. In any case nothing but the time of the last use changes. -/
theorem foreignRequest_untouched_iff (sur : TenantSurroundings) (app : App) (st : SessionStore)
    (q : TenantRequest) (sid : String) (hq : q.sessionId = some sid) (hne : sid ≠ "")
    (s : SessionRecord) (hs : st.sessions.get? sid = some s)
    (hlive : ¬ s.expiresAt < (sur.route.env (.get sid)).now) (howner : s.keyId ≠ q.keyId) :
    ∃ st', (respond sur app q (.memory st)).2.backend = .memory st' ∧
      (ownerView st' sid = ownerView st sid ↔
        ¬ LooksUp sur.route app q ∨ (sur.route.storeFails (.get sid)).isSome = true ∨
          s.lastUsed = (sur.route.env (.get sid)).now) ∧
      ∃ t, ownerView st' sid = (ownerView st sid).map fun v ↦ { v with lastUsed := t } := by
  have hsame : ownerView st sid =
      (ownerView st sid).map fun v ↦ { v with lastUsed := s.lastUsed } := by
    rw [ownerView, hs]
    rfl
  by_cases hl : LooksUp sur.route app q
  · cases hfail : sur.route.storeFails (.get sid) with
    | some e =>
      have hlookup : lookup sur.route sid (.memory st) = (.error e, ⟨.memory st, []⟩) := by
        simp [lookup, sessionHandler, hfail]
      have hd : denial q.keyId (lookup sur.route sid (.memory st)).1 = some e := by
        rw [hlookup]
        rfl
      rw [respond_denied hq hne hl hd, hlookup]
      exact ⟨st, rfl, by simp, s.lastUsed, hsame⟩
    | none =>
      have hlookup : lookup sur.route sid (.memory st) =
          ((st.get (sur.route.env (.get sid)) sid).1,
            ⟨.memory (st.get (sur.route.env (.get sid)) sid).2, []⟩) := by
        simp [lookup, sessionHandler, hfail, SessionOp.exec]
      have hd : ∃ e, denial q.keyId (lookup sur.route sid (.memory st)).1 = some e := by
        rw [hlookup]
        unfold SessionStore.get
        rw [hs]
        simp only [hlive, if_false, SessionStore.sessionInfoFromRecord]
        cases loadCookies st.fernet s.cookies with
        | error e => exact ⟨e, rfl⟩
        | ok cookies => exact ⟨notOwner, if_pos howner⟩
      obtain ⟨e, hd⟩ := hd
      have hview : ownerView (st.get (sur.route.env (.get sid)) sid).2 sid =
          (ownerView st sid).map fun v ↦ { v with lastUsed := (sur.route.env (.get sid)).now } := by
        simp [ownerView, SessionStore.get?_get, hs, hlive]
      rw [respond_denied hq hne hl hd, hlookup]
      refine ⟨_, rfl, ?_, _, hview⟩
      rw [hview, ownerView, hs]
      simp [hl, eq_comm]
  · obtain ⟨e, he⟩ := respond_refused hq hne hl
    rw [he]
    exact ⟨st, rfl, by simp [hl], s.lastUsed, hsame⟩

/-- A read at the instant of the last use leaves no trace. -/
theorem foreignRequest_untouched_iff_sample :
    ∃ st', (respond (strangerSur none 0) strangerApp (.get "sess_1" "key_a")
        (.memory strangerStore)).2.backend = .memory st' ∧
      ownerView st' "sess_1" = ownerView strangerStore "sess_1" := by
  obtain ⟨st', hst, hview, -⟩ := foreignRequest_untouched_iff (strangerSur none 0) strangerApp
    strangerStore (.get "sess_1" "key_a") "sess_1" rfl (by decide) strangerRecord rfl
    (by decide +kernel) (by decide)
  exact ⟨st', hst, hview.mpr (Or.inr (Or.inr rfl))⟩

/-- The store after a stranger's read at time 5. -/
private def touchedStore : SessionStore :=
  ⟨none, 300, Dict.ofList [("sess_1", { strangerRecord with lastUsed := 5 })]⟩

/-- The read is the last use that the owner sees. -/
theorem not_foreignRequest_untouched :
    (respond (strangerSur none 5) strangerApp (.get "sess_1" "key_a")
        (.memory strangerStore)).2.backend = .memory touchedStore ∧
      ownerView touchedStore "sess_1" ≠ ownerView strangerStore "sess_1" := by
  refine ⟨rfl, ?_⟩
  decide +kernel

end AsbCloudApi.Routes
