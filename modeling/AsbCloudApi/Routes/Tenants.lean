import AsbCloudApi.Base.Run
import AsbCloudApi.Routes.Sessions

/-!
# Cookies of different tenants

Library `Routes`. Any number of requests with any keys share one session store and are interleaved
operation by operation. What a request merges was returned to its own key on its own session,
and what it writes is a session of its key.
-/

namespace AsbCloudApi.Routes

open Base Api Session Workers

/-- On whose behalf a request runs, and the session it names. -/
structure Caller where
  keyId : String
  sessionId : Option String

/-- The caller of a request. -/
def TenantRequest.caller (q : TenantRequest) : Caller := ⟨q.keyId, q.sessionId⟩

/-- What happens in the requests: a session is created under a fresh id or deleted, the store is
called, cookies are merged into a request, and a worker returns with cookies. -/
inductive TenantEvent where
  | created (c : Caller) (sessionId : String)
  | deleted (c : Caller) (sessionId : String)
  | called (c : Caller) (o : SessionOp)
  | merged (c : Caller) (cookies : Dict String String)
  | returned (c : Caller) (cookies : Dict String String)

/-- The session store, and what has happened so far. -/
structure TenantState where
  backend : SessionBackend
  log : List TenantEvent

/-- The answer of a call, which may be lost on its way back. -/
def Heard {α : Type} (answer r : Except Exn α) : Prop := r = answer ∨ ∃ e, r = .error e

/-- A step of a request. A call of the store has its effect, or fails; a new session gets an id
that no session had before. The worker may return anything; everything else answers anything or
raises. -/
inductive TenantExec (c : Caller) :
    (o : TenantOp) → TenantState → Except Exn o.Ans → TenantState → Prop
  | created {keyId region hex : String} {fingerprint : Option String} {s : TenantState}
      {env : StoreEnv} {b : SessionBackend} {session : SessionInfo} {r : Except Exn SessionInfo}
      (hfresh : ∀ c', .created c' ("sess_" ++ hex) ∉ s.log)
      (h : s.backend.create env hex keyId region fingerprint = (.ok session, b))
      (hr : Heard (.ok session) r) :
      TenantExec c (.create keyId region fingerprint) s r
        ⟨b, s.log ++ [.created c ("sess_" ++ hex)]⟩
  | notCreated {keyId region : String} {fingerprint : Option String} {s : TenantState} {e : Exn} :
      TenantExec c (.create keyId region fingerprint) s (.error e) s
  | deleted {sid : String} {s : TenantState} {env : StoreEnv} {b : SessionBackend}
      {answer r : Except Exn Unit} (h : s.backend.delete env sid = (answer, b))
      (hr : Heard answer r) :
      TenantExec c (.delete sid) s r ⟨b, s.log ++ [.deleted c sid]⟩
  | notDeleted {sid : String} {s : TenantState} {e : Exn} :
      TenantExec c (.delete sid) s (.error e) s
  | called {o : SessionOp} {s : TenantState} {env : StoreEnv} {b : SessionBackend}
      {answer r : Except Exn o.Ans} (h : o.exec env s.backend = (answer, b))
      (hr : Heard answer r) :
      TenantExec c (.route (.session o)) s r ⟨b, s.log ++ [.called c o]⟩
  | notCalled {o : SessionOp} {s : TenantState} {e : Exn} :
      TenantExec c (.route (.session o)) s (.error e) s
  | merged {headers cookies : Dict String String} {s : TenantState} :
      TenantExec c (.route (.mergeCookies headers cookies)) s (.ok (mergedHeaders headers cookies))
        ⟨s.backend, s.log ++ [.merged c cookies]⟩
  | returned {w : WorkerRef} {sent : ScrapeRequest} {response : ScrapeResponse} {s : TenantState} :
      TenantExec c (.route (.scrape w sent)) s (.ok response)
        ⟨s.backend, s.log ++ [.returned c response.cookies]⟩
  | abandoned {w : WorkerRef} {sent : ScrapeRequest} {s : TenantState} {e : Exn} :
      TenantExec c (.route (.scrape w sent)) s (.error e) s
  | validateUrl {url : String} {s : TenantState} {r : Except Exn String} :
      TenantExec c (.route (.validateUrl url)) s r s
  | limit {o : LimitOp} {s : TenantState} {r : Except Exn o.Ans} :
      TenantExec c (.route (.limit o)) s r s
  | pool {o : PoolOp} {s : TenantState} {r : Except Exn o.Ans} :
      TenantExec c (.route (.pool o)) s r s
  | usage {o : UsageOp} {s : TenantState} {r : Except Exn Unit} :
      TenantExec c (.route (.usage o)) s r s

/-! ### What isolation is -/

/-- A session was created for the key. -/
def Created (log : List TenantEvent) (keyId sid : String) : Prop :=
  ∃ c, .created c sid ∈ log ∧ c.keyId = keyId

/-- The key owns the session: it was created for this key and for no other. -/
def Owns (log : List TenantEvent) (keyId sid : String) : Prop :=
  Created log keyId sid ∧ ∀ other, Created log other sid → other = keyId

/-- What the events before an event have to show for it: a cookie that is merged for a key and a
session was returned by a scrape for the same key and session, and who writes or deletes a session
owns it. -/
def Rightful (before : List TenantEvent) : TenantEvent → Prop
  | .merged c cookies =>
    ∀ cookie ∈ cookies.items, ∃ jar, .returned c jar ∈ before ∧ cookie ∈ jar.items
  | .called c (.updateCookies sid _) => Owns before c.keyId sid
  | .deleted c sid => Owns before c.keyId sid
  | _ => True

/-- All that has happened was rightful when it did. -/
def TenantsIsolated (log : List TenantEvent) : Prop := Justified Rightful log

/-! ### How far a request has come -/

/-- Before its session is found, with its session, or with its session and a response. -/
inductive TenantStage where
  | fresh (c : Caller)
  | got (c : Caller) (session : SessionInfo)
  | scraped (c : Caller) (session : SessionInfo) (response : ScrapeResponse)

/-- Whose request it is. -/
def TenantStage.caller : TenantStage → Caller
  | .fresh c => c
  | .got c _ => c
  | .scraped c _ _ => c

/-- A scrape looks up its session once. It merges and resets cookies, and stores those of a
response, after the check of the owner only. -/
def sessionProtocol : Prog.Protocol Exn RouteOp.Ans TenantStage where
  allowed o g :=
    match o, g with
    | .session (.get sid), .fresh c => c.sessionId = some sid
    | .session (.get _), _ => False
    | .session (.updateCookies sid cookies), .got c session =>
      c.sessionId = some sid ∧ session.keyId = c.keyId ∧ cookies = Dict.empty
    | .session (.updateCookies sid cookies), .scraped c session response =>
      c.sessionId = some sid ∧ session.keyId = c.keyId ∧ cookies = response.cookies
    | .session (.updateCookies _ _), _ => False
    | .mergeCookies _ cookies, .got c session =>
      session.keyId = c.keyId ∧ cookies = session.cookies
    | .mergeCookies _ _, _ => False
    | _, _ => True
  possible _ _ _ := True
  next o g r :=
    match o, g, r with
    | .session (.get _), .fresh c, .ok (some session) => .got c session
    | .session (.updateCookies _ cookies), .got c session, .ok _ =>
      .got c { session with cookies := cookies }
    | .scrape _ _, .got c session, .ok response => .scraped c session response
    | _, g, _ => g

/-- All routes: a session is created for the key of the request, and deleted after the check of the
owner only. -/
def tenantProtocol : Prog.Protocol Exn TenantOp.Ans TenantStage where
  allowed o g :=
    match o, g with
    | .create keyId _ _, g => g.caller.keyId = keyId
    | .delete sid, .got c session => c.sessionId = some sid ∧ session.keyId = c.keyId
    | .delete _, _ => False
    | .route o, g => sessionProtocol.allowed o g
  possible _ _ _ := True
  next o g r :=
    match o, r with
    | .route o, r => sessionProtocol.next o g r
    | _, _ => g

section Allowed

variable {sid : String} {cookies : Dict String String} {g : TenantStage}

private theorem allowed_get (h : sessionProtocol.allowed (.session (.get sid)) g) :
    ∃ c, g = .fresh c ∧ c.sessionId = some sid := by
  cases g with
  | fresh c => exact ⟨c, rfl, h⟩
  | _ => exact False.elim h

private theorem allowed_updateCookies
    (h : sessionProtocol.allowed (.session (.updateCookies sid cookies)) g) :
    ∃ c session, c.sessionId = some sid ∧ session.keyId = c.keyId ∧
      (g = .got c session ∧ cookies = Dict.empty ∨
        ∃ response, g = .scraped c session response ∧ cookies = response.cookies) := by
  cases g with
  | fresh c => exact False.elim h
  | got c session => exact ⟨c, session, h.1, h.2.1, Or.inl ⟨rfl, h.2.2⟩⟩
  | scraped c session response =>
    exact ⟨c, session, h.1, h.2.1, Or.inr ⟨response, rfl, h.2.2⟩⟩

private theorem allowed_mergeCookies {headers : Dict String String}
    (h : sessionProtocol.allowed (.mergeCookies headers cookies) g) :
    ∃ c session, g = .got c session ∧ session.keyId = c.keyId ∧ cookies = session.cookies := by
  cases g with
  | got c session => exact ⟨c, session, rfl, h⟩
  | _ => exact False.elim h

private theorem allowed_delete (h : tenantProtocol.allowed (.delete sid) g) :
    ∃ c session, g = .got c session ∧ c.sessionId = some sid ∧ session.keyId = c.keyId := by
  cases g with
  | got c session => exact ⟨c, session, rfl, h⟩
  | _ => exact False.elim h

/-- No operation changes whose request it is. -/
private theorem caller_next (o : RouteOp) (g : TenantStage) (r : Except Exn o.Ans) :
    (sessionProtocol.next o g r).caller = g.caller := by
  dsimp only [sessionProtocol]
  split <;> rfl

end Allowed

/-! ### Every request follows the protocol -/

/-- Where a request stands once its session is found, or if it names none. -/
private def Ready (c : Caller) (found : Option SessionInfo) (g : TenantStage) : Prop :=
  match found with
  | none => g = .fresh c ∧ truthy c.sessionId = false
  | some session => g = .got c session ∧ session.keyId = c.keyId

/-- A requirement on the stage of a request that goes on; one that ends may do so anywhere. -/
private def IfOk {α : Type} (P : α → TenantStage → Prop) (r : Except Exn α) (g : TenantStage) :
    Prop :=
  ∀ a, r = .ok a → P a g

private theorem ifOk_ok {α : Type} {P : α → TenantStage → Prop} {a : α} {g : TenantStage}
    (h : P a g) : IfOk P (.ok a) g := by
  rintro _ ⟨⟩
  exact h

private theorem ifOk_error {α : Type} {P : α → TenantStage → Prop} {e : Exn} {g : TenantStage} :
    IfOk P (.error e) g := fun _ h ↦ nomatch h

/-- The rate limiter, the pool and the tracker have no stage. -/
private theorem stageless_of_calls {α : Type} {k : RouteKind}
    (hk : k = .limit ∨ k = .pool ∨ k = .usage) {p : RouteProg α} (h : Calls [k] p) :
    Prog.Stays sessionProtocol p := by
  apply h.stays
  · intro o g ho
    rcases RouteOp.of_mem_kind hk ho with ⟨l, rfl⟩ | ⟨p, rfl⟩ | ⟨u, rfl⟩
    · exact trivial
    · exact trivial
    · exact trivial
  · intro o g r ho
    rcases RouteOp.of_mem_kind hk ho with ⟨l, rfl⟩ | ⟨p, rfl⟩ | ⟨u, rfl⟩
    · rfl
    · rfl
    · rfl

private theorem follows_ensureSessionOwner {c : Caller} (session : SessionInfo) {g : TenantStage} :
    Prog.Follows sessionProtocol (fun r g' ↦ g' = g ∧ IfOk (fun _ _ ↦ session.keyId = c.keyId) r g')
      (ensureSessionOwner session c.keyId) g := by
  unfold ensureSessionOwner
  split
  · exact ⟨rfl, ifOk_error⟩
  · next hown => exact ⟨rfl, ifOk_ok (not_not.mp hown)⟩

/-- What follows the owner check runs for the owner only. -/
private theorem follows_owner_then {α : Type} {c : Caller} {session : SessionInfo}
    {rest : RouteProg α} {Q : α → TenantStage → Prop}
    (h : session.keyId = c.keyId →
      Prog.Follows sessionProtocol (IfOk Q) rest (.got c session)) :
    Prog.Follows sessionProtocol (IfOk Q)
      (ensureSessionOwner session c.keyId >>= fun _ ↦ rest) (.got c session) := by
  apply (follows_ensureSessionOwner session).bind
  · rintro u g ⟨rfl, hok⟩
    exact h (hok u rfl)
  · rintro e g -
    exact ifOk_error

private theorem follows_openSession_tenant (app : App) {request : ScrapeRequest} {c : Caller}
    (hc : c.sessionId = request.sessionId) :
    Prog.Follows sessionProtocol (IfOk (Ready c)) (openSession app request c.keyId) (.fresh c) := by
  unfold openSession
  split
  · next hfalsy =>
    apply ifOk_ok
    exact ⟨rfl, by rw [hc]; simpa using hfalsy⟩
  · next htruthy =>
    have hsid : c.sessionId = some (request.sessionId.getD "") := by
      rw [hc]
      cases hs : request.sessionId with
      | none => simp [hs, truthy] at htruthy
      | some sid => rfl
    split
    · exact ifOk_error
    · refine ⟨hsid, fun found _ ↦ ?_⟩
      match found with
      | .error e => exact ifOk_error
      | .ok none => exact ifOk_error
      | .ok (some session) =>
        refine follows_owner_then fun hown ↦ ?_
        split
        · refine ⟨⟨hsid, hown, rfl⟩, fun r _ ↦ ?_⟩
          cases r with
          | error e => exact ifOk_error
          | ok u => exact ifOk_ok ⟨rfl, hown⟩
        · exact ifOk_ok ⟨rfl, hown⟩

private theorem follows_prelude_tenant (app : App) {request : ScrapeRequest} {c : Caller}
    (hc : c.sessionId = request.sessionId) (skip : Bool) :
    Prog.Follows sessionProtocol (IfOk (Ready c)) (prelude app request c.keyId skip)
      (.fresh c) := by
  unfold prelude
  refine ⟨trivial, fun url _ ↦ ?_⟩
  cases url with
  | error e => exact ifOk_error
  | ok url =>
    change Prog.Follows sessionProtocol _ (_ >>= _) (.fresh c)
    apply (stageless_of_calls (Or.inl rfl) (calls_checkRateLimit app c.keyId skip) _).bind
    · rintro u g rfl
      split
      · exact ifOk_error
      · exact follows_openSession_tenant app hc
    · rintro e g -
      exact ifOk_error

private theorem follows_withSessionCookies_tenant {c : Caller} {found : Option SessionInfo}
    {g : TenantStage} (hg : Ready c found g) (request : ScrapeRequest) :
    Prog.Follows sessionProtocol
      (fun r g' ↦ g' = g ∧ IfOk (fun sent _ ↦ sent.sessionId = request.sessionId) r g')
      (withSessionCookies found request) g := by
  cases found with
  | none => exact ⟨rfl, ifOk_ok rfl⟩
  | some session =>
    obtain ⟨rfl, hown⟩ := hg
    dsimp only [withSessionCookies]
    split
    · exact ⟨rfl, ifOk_ok rfl⟩
    · refine ⟨⟨hown, rfl⟩, fun r _ ↦ ?_⟩
      cases r with
      | error e => exact ⟨rfl, ifOk_error⟩
      | ok headers => exact ⟨rfl, ifOk_ok rfl⟩

/-- Where a request stands after the scrape. -/
private def Scraped (c : Caller) (response : ScrapeResponse) (g : TenantStage) : Prop :=
  truthy c.sessionId = false ∨
    ∃ session, g = .scraped c session response ∧ session.keyId = c.keyId

private theorem follows_updateSession_tenant (app : App) {sent : ScrapeRequest} {c : Caller}
    (hc : c.sessionId = sent.sessionId) {response : ScrapeResponse} {g : TenantStage}
    (hg : Scraped c response g) :
    Prog.Follows sessionProtocol (fun _ _ ↦ True) (updateSession app sent response) g := by
  unfold updateSession
  split
  · next h =>
    rcases hg with hfalsy | ⟨session, rfl, hown⟩
    · rw [hc, h.1] at hfalsy
      cases hfalsy
    · have hsid : c.sessionId = some (sent.sessionId.getD "") := by
        rw [hc]
        cases hs : sent.sessionId with
        | none => simp [hs, truthy] at h
        | some sid => rfl
      refine ⟨⟨hsid, hown, rfl⟩, fun r _ ↦ ?_⟩
      cases r with
      | error e => exact trivial
      | ok u => exact ⟨trivial, fun _ _ ↦ trivial⟩
  · exact trivial

private theorem follows_scrapeWith_tenant (app : App) {request : ScrapeRequest} {c : Caller}
    (hc : c.sessionId = request.sessionId) {found : Option SessionInfo} {g : TenantStage}
    (hg : Ready c found g) (worker : WorkerRef) :
    Prog.Follows sessionProtocol (fun _ _ ↦ True)
      (scrapeWith app request c.keyId found worker) g := by
  unfold scrapeWith
  apply (follows_withSessionCookies_tenant hg request).bind
  · rintro sent g' ⟨rfl, hok⟩
    have hsent : c.sessionId = sent.sessionId := hc.trans (hok sent rfl).symm
    refine ⟨trivial, fun r _ ↦ ?_⟩
    cases r with
    | error e => exact trivial
    | ok response =>
      have hscraped : Scraped c response (sessionProtocol.next (.scrape worker sent) g'
          (.ok response)) := by
        cases found with
        | none => exact Or.inl hg.2
        | some session =>
          obtain ⟨rfl, hown⟩ := hg
          exact Or.inr ⟨session, rfl, hown⟩
      generalize sessionProtocol.next (.scrape worker sent) g' (.ok response) = g₁ at hscraped
      change Prog.Follows sessionProtocol _ (_ >>= _) g₁
      apply (follows_updateSession_tenant app hsent hscraped).bind
      · intro u g₂ _
        apply Prog.Follows.bind (Q := fun _ _ ↦ True)
        · apply (stageless_of_calls (Or.inr (Or.inr rfl))
            (calls_recordUsage app sent c.keyId response) g₂).mono
          exact fun _ _ _ ↦ trivial
        · exact fun _ _ _ ↦ trivial
        · exact fun _ _ _ ↦ trivial
      · exact fun _ _ _ ↦ trivial
  · exact fun _ _ _ ↦ trivial

private theorem follows_executeOneScrape_tenant (app : App) {request : ScrapeRequest} {c : Caller}
    (hc : c.sessionId = request.sessionId) (skip : Bool) :
    Prog.Follows sessionProtocol (fun _ _ ↦ True) (executeOneScrape app request c.keyId skip)
      (.fresh c) := by
  apply follows_executeOneScrape_of_prelude
    (fun p ↦ stageless_of_calls (Or.inr (Or.inl rfl)) (calls_onPool p))
    (follows_prelude_tenant app hc skip)
  · exact fun _ _ _ ↦ trivial
  · intro found g worker hready
    exact follows_scrapeWith_tenant app hc (hready found rfl) worker

private theorem follows_ownSession (app : App) {sid : String} {c : Caller}
    (hc : c.sessionId = some sid) :
    Prog.Follows sessionProtocol
      (IfOk fun session g ↦ g = .got c session ∧ session.keyId = c.keyId)
      (ownSession app sid c.keyId) (.fresh c) := by
  unfold ownSession
  split
  · exact ifOk_error
  · refine ⟨hc, fun found _ ↦ ?_⟩
    match found with
    | .error e => exact ifOk_error
    | .ok none => exact ifOk_error
    | .ok (some session) =>
      exact follows_owner_then fun hown ↦ ifOk_ok ⟨rfl, hown⟩

/-- What holds of a coroutine of the scrape route holds of it among the others. -/
private theorem follows_onRoute {α : Type} {Q : Except Exn α → TenantStage → Prop}
    {p : RouteProg α} {g : TenantStage} (h : Prog.Follows sessionProtocol Q p g) :
    Prog.Follows tenantProtocol Q (onRoute p) g := by
  unfold onRoute
  apply Prog.Follows.embed ?_ h
  exact fun o g ha ↦ ⟨ha, fun r _ ↦ ⟨trivial, rfl⟩⟩

/-- Every request, whichever route it takes. -/
theorem follows_serve (app : App) (q : TenantRequest) :
    Prog.Follows tenantProtocol (fun _ _ ↦ True) (q.serve app) (.fresh q.caller) := by
  cases q with
  | create request keyId =>
    dsimp only [TenantRequest.serve, createSession]
    split
    · exact trivial
    · refine ⟨rfl, fun r _ ↦ ?_⟩
      cases r with
      | error e => exact trivial
      | ok session => exact trivial
  | get sid keyId =>
    dsimp only [TenantRequest.serve, getSession]
    apply (follows_onRoute (follows_ownSession app (c := ⟨keyId, some sid⟩) rfl)).bind
    · exact fun _ _ _ ↦ trivial
    · exact fun _ _ _ ↦ trivial
  | delete sid keyId =>
    dsimp only [TenantRequest.serve, deleteSession]
    apply (follows_onRoute (follows_ownSession app (c := ⟨keyId, some sid⟩) rfl)).bind
    · intro session g hok
      obtain ⟨rfl, hown⟩ := hok session rfl
      refine ⟨⟨rfl, hown⟩, fun r _ ↦ ?_⟩
      cases r with
      | error e => exact trivial
      | ok u => exact trivial
    · exact fun _ _ _ ↦ trivial
  | scrape request keyId skip =>
    dsimp only [TenantRequest.serve]
    apply (follows_onRoute (follows_executeOneScrape_tenant app
      (c := ⟨keyId, request.sessionId⟩) rfl skip)).bind
    · exact fun _ _ _ ↦ trivial
    · exact fun _ _ _ ↦ trivial

/-! ### All requests together -/

/-- A jar of a session is empty, or a scrape for the key and the session returned it. -/
def Earned (log : List TenantEvent) (c : Caller) (jar : Dict String String) : Prop :=
  jar = Dict.empty ∨ .returned c jar ∈ log

/-- A row of the store has the key that its session was created for, and an earned jar. -/
def Backed (log : List TenantEvent) (sid : String)
    (row : String × Option (Dict String String)) : Prop :=
  Created log row.1 sid ∧ ∀ jar, row.2 = some jar → Earned log ⟨row.1, some sid⟩ jar

/-- What the log has to show for the stage of a request. -/
def TenantStage.Held (log : List TenantEvent) : TenantStage → Prop
  | .fresh _ => True
  | .got c session => ∃ sid, c.sessionId = some sid ∧
    Backed log sid (session.keyId, some session.cookies)
  | .scraped c session response => ∃ sid, c.sessionId = some sid ∧
    Created log session.keyId sid ∧ .returned c response.cookies ∈ log

/-- Every row and every stage is backed by the log, which shows one key for each session. -/
structure TenantInv {I : Type} (who : I → Caller) (s : TenantState) (stage : I → TenantStage) :
    Prop where
  caller : ∀ i, (stage i).caller = who i
  held : ∀ i, (stage i).Held s.log
  rows : ∀ sid row, s.backend.view sid = some row → Backed s.log sid row
  one : ∀ sid key other, Created s.log key sid → Created s.log other sid → other = key
  isolated : TenantsIsolated s.log

section Growth

variable {log : List TenantEvent} {e : TenantEvent}

private theorem Created.grow {key sid : String} (h : Created log key sid) :
    Created (log ++ [e]) key sid := by
  obtain ⟨c, hc, hkey⟩ := h
  exact ⟨c, List.mem_append_left _ hc, hkey⟩

private theorem Earned.grow {c : Caller} {jar : Dict String String} (h : Earned log c jar) :
    Earned (log ++ [e]) c jar := by
  rcases h with hempty | hret
  · exact Or.inl hempty
  · exact Or.inr (List.mem_append_left _ hret)

private theorem Backed.grow {sid : String} {row : String × Option (Dict String String)}
    (h : Backed log sid row) : Backed (log ++ [e]) sid row :=
  ⟨h.1.grow, fun jar hjar ↦ (h.2 jar hjar).grow⟩

private theorem TenantStage.Held.grow {g : TenantStage} (h : g.Held log) :
    g.Held (log ++ [e]) := by
  cases g with
  | fresh c => exact trivial
  | got c session =>
    obtain ⟨sid, hsid, hb⟩ := h
    exact ⟨sid, hsid, hb.grow⟩
  | scraped c session response =>
    obtain ⟨sid, hsid, hcr, hret⟩ := h
    exact ⟨sid, hsid, hcr.grow, List.mem_append_left _ hret⟩

/-- Only a creation adds a session. -/
private theorem created_concat {key sid : String} (h : Created (log ++ [e]) key sid) :
    Created log key sid ∨ ∃ c, e = .created c sid ∧ c.keyId = key := by
  obtain ⟨c, hc, hkey⟩ := h
  rcases List.mem_append.mp hc with hold | hnew
  · exact Or.inl ⟨c, hold, hkey⟩
  · exact Or.inr ⟨c, (List.mem_singleton.mp hnew).symm, hkey⟩

end Growth

section Step

variable {I : Type} [DecidableEq I] {who : I → Caller} {s : TenantState} {stage : I → TenantStage}
  {i : I}

/-- One event: rows, stage and event are backed by what was there, and a new session has a fresh
id. -/
private theorem TenantInv.note (h : TenantInv who s stage) {e : TenantEvent} {b : SessionBackend}
    {g : TenantStage} (hg : g.caller = (stage i).caller) (hheld : g.Held (s.log ++ [e]))
    (hrows : ∀ sid row, b.view sid = some row →
      s.backend.view sid = some row ∨ Backed (s.log ++ [e]) sid row)
    (hnew : ∀ c sid, e = .created c sid → ∀ c', .created c' sid ∉ s.log)
    (hok : Rightful s.log e) : TenantInv who ⟨b, s.log ++ [e]⟩ (Function.update stage i g) where
  caller := by
    apply (Function.forall_update_iff stage fun j g ↦ g.caller = who j).mpr
    constructor
    · exact hg.trans (h.caller i)
    · exact fun j _ ↦ h.caller j
  held := by
    apply (Function.forall_update_iff stage fun _ g ↦ g.Held (s.log ++ [e])).mpr
    constructor
    · exact hheld
    · exact fun j _ ↦ (h.held j).grow
  rows sid row hrow := by
    rcases hrows sid row hrow with hold | hback
    · exact (h.rows sid row hold).grow
    · exact hback
  one sid key other hkey hother := by
    rcases created_concat hkey with hk | ⟨c, rfl, rfl⟩
    · rcases created_concat hother with ho | ⟨c, rfl, rfl⟩
      · exact h.one sid key other hk ho
      · obtain ⟨c', hc', -⟩ := hk
        exact absurd hc' (hnew c sid rfl c')
    · rcases created_concat hother with ⟨c', hc', -⟩ | ⟨c', he, rfl⟩
      · exact absurd hc' (hnew c sid rfl c')
      · cases he
        rfl
  isolated := h.isolated.concat hok

private theorem TenantInv.same (h : TenantInv who s stage) {g : TenantStage} (hg : g = stage i) :
    TenantInv who s (Function.update stage i g) := by
  rw [hg, Function.update_eq_self]
  exact h

omit [DecidableEq I] in
/-- The key that a session was created for owns it. -/
private theorem TenantInv.owns (h : TenantInv who s stage) {key sid : String}
    (hc : Created s.log key sid) : Owns s.log key sid := ⟨hc, fun other ↦ h.one sid key other hc⟩

omit [DecidableEq I] in
/-- A request that has looked up its session. -/
private theorem TenantInv.got (h : TenantInv who s stage) {c : Caller} {session : SessionInfo}
    (hg : stage i = .got c session) : c = who i ∧ ∃ sid, c.sessionId = some sid ∧
      Backed s.log sid (session.keyId, some session.cookies) := by
  have hcaller := h.caller i
  have hheld := h.held i
  rw [hg] at hcaller hheld
  exact ⟨hcaller, hheld⟩

omit [DecidableEq I] in
/-- What a request stores it has earned, in a session of its own key. -/
private theorem TenantInv.write (h : TenantInv who s stage) {sid : String}
    {cookies : Dict String String}
    (ha : sessionProtocol.allowed (.session (.updateCookies sid cookies)) (stage i)) :
    Created s.log (who i).keyId sid ∧ Earned s.log ⟨(who i).keyId, some sid⟩ cookies := by
  obtain ⟨c, session, hsid, hown, hcase⟩ := allowed_updateCookies ha
  rcases hcase with ⟨hg, rfl⟩ | ⟨response, hg, rfl⟩
  · obtain ⟨rfl, sid', hsid', hb⟩ := h.got hg
    obtain rfl : sid' = sid := Option.some.inj (hsid'.symm.trans hsid)
    exact ⟨hown ▸ hb.1, Or.inl rfl⟩
  · have hcaller := h.caller i
    have hheld := h.held i
    rw [hg] at hcaller hheld
    obtain ⟨sid', hsid', hcr, hret⟩ := hheld
    obtain rfl : sid' = sid := Option.some.inj (hsid'.symm.trans hsid)
    have hc : c = ⟨c.keyId, some sid'⟩ := by rw [← hsid]
    rw [← hcaller]
    exact ⟨hown ▸ hcr, Or.inr (hc ▸ hret)⟩

/-- A call of the store. -/
private theorem TenantInv.call (h : TenantInv who s stage) {o : SessionOp} {env : StoreEnv}
    {b : SessionBackend} {answer r : Except Exn o.Ans}
    (ha : sessionProtocol.allowed (.session o) (stage i))
    (hx : o.exec env s.backend = (answer, b)) (hr : Heard answer r) :
    TenantInv who ⟨b, s.log ++ [.called (who i) o]⟩
      (Function.update stage i (sessionProtocol.next (.session o) (stage i) r)) := by
  have hb : b = (o.exec env s.backend).2 := (congrArg Prod.snd hx).symm
  cases o with
  | get sid =>
    obtain ⟨c, hg, hsid⟩ := allowed_get ha
    apply h.note (caller_next _ _ _)
    · rw [hg]
      match r with
      | .error e => exact trivial
      | .ok none => exact trivial
      | .ok (some session) =>
        have hans : answer = .ok (some session) := by
          rcases hr with hr | ⟨e, he⟩
          · exact hr.symm
          · cases he
        rw [hans] at hx
        exact ⟨sid, hsid, (h.rows sid _ (SessionBackend.view_of_get hx)).grow⟩
    · intro x row hrow
      rw [hb] at hrow
      rcases SessionBackend.view_exec hrow with hold | ⟨_, _, ho, -⟩
      · exact Or.inl hold
      · cases ho
    · exact fun _ _ he ↦ nomatch he
    · exact trivial
  | updateCookies sid cookies =>
    obtain ⟨hcr, hearned⟩ := h.write ha
    -- the owner that the store has for the session is the one who writes
    have hback {key : String} (hc : Created s.log key sid) :
        Backed s.log sid (key, some cookies) := by
      have hkey := h.one sid _ _ hcr hc
      refine ⟨hc, ?_⟩
      rintro _ ⟨⟩
      exact hkey ▸ hearned
    apply h.note (caller_next _ _ _)
    · have hheld := (h.held i).grow (e := .called (who i) (.updateCookies sid cookies))
      obtain ⟨c, session, hsid, -, hcase⟩ := allowed_updateCookies ha
      rcases hcase with ⟨hg, -⟩ | ⟨response, hg, -⟩
      · obtain ⟨-, sid', hsid', hcs⟩ := h.got hg
        obtain rfl : sid' = sid := Option.some.inj (hsid'.symm.trans hsid)
        rw [hg] at hheld ⊢
        cases r with
        | error e => exact hheld
        | ok u => exact ⟨sid', hsid, (hback hcs.1).grow⟩
      · rw [hg] at hheld ⊢
        exact hheld
    · intro x row hrow
      rw [hb] at hrow
      rcases SessionBackend.view_exec hrow with hold | ⟨_, before, ho, hbefore, rfl⟩
      · exact Or.inl hold
      · cases ho
        exact Or.inr (hback (h.rows sid before hbefore).1).grow
    · exact fun _ _ he ↦ nomatch he
    · exact h.owns hcr
  | incrementCount sid =>
    apply h.note (caller_next _ _ _)
    · exact (h.held i).grow
    · intro x row hrow
      rw [hb] at hrow
      rcases SessionBackend.view_exec hrow with hold | ⟨_, _, ho, -⟩
      · exact Or.inl hold
      · cases ho
    · exact fun _ _ he ↦ nomatch he
    · exact trivial

/-- One operation of one request. -/
private theorem TenantInv.step {s' : TenantState} {o : TenantOp} {r : Except Exn o.Ans}
    (h : TenantInv who s stage) (ha : tenantProtocol.allowed o (stage i))
    (he : TenantExec (who i) o s r s') :
    TenantInv who s' (Function.update stage i (tenantProtocol.next o (stage i) r)) := by
  cases he with
  | @created keyId region hex fingerprint _ env b _ _ hfresh hx hr =>
    have hb : (s.backend.create env hex keyId region fingerprint).2 = b := congrArg Prod.snd hx
    apply h.note rfl (h.held i).grow
    · intro x row hrow
      rw [← hb] at hrow
      rcases SessionBackend.view_create hrow with hold | ⟨rfl, rfl⟩
      · exact Or.inl hold
      · right
        constructor
        · refine ⟨who i, List.mem_append_right _ List.mem_cons_self, ?_⟩
          rw [← h.caller i]
          exact ha
        · rintro _ ⟨⟩
          exact Or.inl rfl
    · rintro c sid ⟨⟩
      exact hfresh
    · exact trivial
  | notCreated => exact h.same rfl
  | @deleted sid _ env b _ _ hx hr =>
    have hb : (s.backend.delete env sid).2 = b := congrArg Prod.snd hx
    obtain ⟨c, session, hg, hsid, hown⟩ := allowed_delete ha
    apply h.note rfl (h.held i).grow
    · intro x row hrow
      rw [← hb] at hrow
      exact Or.inl (SessionBackend.view_delete hrow)
    · exact fun _ _ he ↦ nomatch he
    · obtain ⟨rfl, sid', hsid', hback⟩ := h.got hg
      obtain rfl := Option.some.inj (hsid'.symm.trans hsid)
      exact h.owns (hown ▸ hback.1)
  | notDeleted => exact h.same rfl
  | called hx hr => exact h.call ha hx hr
  | @notCalled o _ e =>
    apply h.same
    cases o <;> cases stage i <;> rfl
  | merged =>
    obtain ⟨c, session, hg, hown, rfl⟩ := allowed_mergeCookies ha
    obtain ⟨rfl, sid, hsid, hb⟩ := h.got hg
    apply h.note (g := stage i) rfl
    · exact (h.held i).grow
    · exact fun x row hrow ↦ Or.inl hrow
    · exact fun _ _ he ↦ nomatch he
    · have hc : who i = ⟨session.keyId, some sid⟩ := by rw [← hsid, hown]
      intro cookie hcookie
      rcases hb.2 _ rfl with hempty | hret
      · rw [hempty] at hcookie
        cases hcookie
      · exact ⟨session.cookies, hc ▸ hret, hcookie⟩
  | @returned w sent response =>
    apply h.note (caller_next (.scrape w sent) (stage i) (.ok response))
    · cases hg : stage i with
      | fresh c => exact trivial
      | got c session =>
        obtain ⟨rfl, sid, hsid, hb⟩ := h.got hg
        exact ⟨sid, hsid, hb.1.grow, List.mem_append_right _ List.mem_cons_self⟩
      | scraped c session response' =>
        have hheld := (h.held i).grow (e := .returned (who i) response.cookies)
        rw [hg] at hheld
        exact hheld
    · exact fun x row hrow ↦ Or.inl hrow
    · exact fun _ _ he ↦ nomatch he
    · exact trivial
  | abandoned =>
    apply h.same
    cases stage i <;> rfl
  | validateUrl => exact h.same rfl
  | limit => exact h.same rfl
  | pool => exact h.same rfl
  | usage => exact h.same rfl

end Step

section Interleaving

variable {I : Type} [DecidableEq I]

/-- The session store, the events, and what each request has still to do. -/
abbrev Tenants (I : Type) := Prog.Config Exn TenantOp.Ans TenantReply I TenantState TenantStage

/-- A session store and requests that have not started. -/
def startTenants (app : App) (b : SessionBackend) (requests : I → TenantRequest) : Tenants I where
  shared := ⟨b, []⟩
  stage i := .fresh (requests i).caller
  prog i := (requests i).serve app

/-- Any interleaving of the requests. -/
def TenantReach (requests : I → TenantRequest) : Tenants I → Tenants I → Prop :=
  Relation.ReflTransGen (Prog.Step (fun i ↦ TenantExec (requests i).caller) tenantProtocol)

/-- From a store without sessions, every interleaving of requests with any keys keeps the tenants
apart. -/
theorem tenantsIsolated_of_reach {app : App} {b : SessionBackend} (hb : ∀ sid, b.view sid = none)
    {requests : I → TenantRequest} {c : Tenants I}
    (hc : TenantReach requests (startTenants app b requests) c) :
    TenantsIsolated c.shared.log := by
  have hinv : TenantInv (fun i ↦ (requests i).caller) (startTenants app b requests).shared
      (startTenants app b requests).stage := {
    caller := fun _ ↦ rfl
    held := fun _ ↦ trivial
    rows := fun sid row hrow ↦ nomatch (hb sid).symm.trans hrow
    one := fun sid key other hkey ↦ by
      obtain ⟨c, hc, -⟩ := hkey
      cases hc
    isolated := justified_nil }
  obtain ⟨hend, -⟩ := Prog.interleaving_sound (J := TenantInv fun i ↦ (requests i).caller)
    (Q := fun _ _ _ ↦ True) (fun s stage i o r s' h ha he ↦ ⟨trivial, h.step ha he⟩) hc hinv
    (fun i ↦ follows_serve app (requests i))
  exact hend.isolated

end Interleaving

private def tenantApp : App := ⟨true, false, false, true, none, ⟨id, id, some, some⟩, {}⟩

private def sharedId : String := "sess_" ++ "000000000001"

/-- `key_a` opens a session and scrapes in it twice; `key_b` tries in between. -/
private def tenantRequests : Fin 4 → TenantRequest
  | 0 => .create {} "key_a"
  | 2 => .scrape { url := "https://example.com", sessionId := some sharedId } "key_b" true
  | _ => .scrape { url := "https://example.com", sessionId := some sharedId } "key_a" true

private def loggedIn : ScrapeResponse :=
  { requestId := "req_1", status := .success, cookies := Dict.ofList [("sid", "1")] }

/-- Everything works, every scrape logs in, and one session is created at most. -/
private def tenantHandler (c : Caller) :
    (o : TenantOp) → TenantState → Except Exn o.Ans × TenantState
  | .create keyId region fingerprint, s =>
    match s.log, s.backend.create ⟨0, 0⟩ "000000000001" keyId region fingerprint with
    | [], (.ok session, b) => (.ok session, ⟨b, [.created c sharedId]⟩)
    | _, _ => (.error invalidToken, s)
  | .delete sid, s => ((s.backend.delete ⟨0, 0⟩ sid).1,
      ⟨(s.backend.delete ⟨0, 0⟩ sid).2, s.log ++ [.deleted c sid]⟩)
  | .route (.session o), s => ((o.exec ⟨0, 0⟩ s.backend).1,
      ⟨(o.exec ⟨0, 0⟩ s.backend).2, s.log ++ [.called c o]⟩)
  | .route (.mergeCookies headers cookies), s =>
    (.ok (mergedHeaders headers cookies), ⟨s.backend, s.log ++ [.merged c cookies]⟩)
  | .route (.scrape _ _), s => (.ok loggedIn, ⟨s.backend, s.log ++ [.returned c loggedIn.cookies]⟩)
  | .route (.validateUrl url), s => (.ok url, s)
  | .route (.limit _), s => (.error invalidToken, s)
  | .route (.pool (.acquirePermit _)), s => (.ok "jp", s)
  | .route (.pool (.takeIdle region)), s => (.ok (some ⟨region, 0⟩), s)
  | .route (.pool (.releasePermit _)), s => (.ok (), s)
  | .route (.pool (.release _ _)), s => (.ok (), s)
  | .route (.usage _), s => (.ok (), s)

private theorem tenantExec_handler (c : Caller) (o : TenantOp) (s : TenantState) :
    TenantExec c o s (tenantHandler c o s).1 (tenantHandler c o s).2 := by
  cases o with
  | create keyId region fingerprint =>
    rcases s with ⟨backend, _ | ⟨e, log⟩⟩
    · dsimp only [tenantHandler]
      split
      · next _ _ session b _ hx =>
        exact @TenantExec.created c keyId region "000000000001" fingerprint ⟨backend, []⟩ ⟨0, 0⟩ b
          session _ (fun _ ↦ List.not_mem_nil) hx (Or.inl rfl)
      · exact .notCreated
    · exact .notCreated
  | delete sid => exact .deleted rfl (Or.inl rfl)
  | route o =>
    cases o with
    | session o => exact .called rfl (Or.inl rfl)
    | mergeCookies headers cookies => exact .merged
    | scrape w sent => exact .returned
    | validateUrl url => exact .validateUrl
    | limit o => exact .limit
    | usage o => exact .usage
    | pool o => cases o <;> exact .pool

private def mergesCookies : TenantEvent → Bool
  | .merged _ cookies => !cookies.isEmpty
  | _ => false

/-- One after the other, the last request merges what the second one was given. -/
theorem tenantsIsolated_of_reach_sample :
    ∃ c, TenantReach tenantRequests (startTenants tenantApp (.memory ⟨none, 300, Dict.empty⟩)
        tenantRequests) c ∧
      c.shared.log.any mergesCookies = true ∧ TenantsIsolated c.shared.log := by
  obtain ⟨c, hc, hs⟩ := Prog.reach_runs (P := tenantProtocol)
    (h := fun i ↦ tenantHandler (tenantRequests i).caller)
    (fun i ↦ tenantExec_handler (tenantRequests i).caller) (List.nodup_finRange 4)
    (startTenants tenantApp (.memory ⟨none, 300, Dict.empty⟩) tenantRequests)
  refine ⟨c, hc, ?_, tenantsIsolated_of_reach (fun _ ↦ rfl) hc⟩
  rw [hs]
  decide +kernel

end AsbCloudApi.Routes
