import AsbCloudApi.Db.SessionStore
import AsbCloudApi.Routes.Scrape

/-!
# A scrape against a session store

Library `Routes`. One scrape request runs against either session store while everything else
answers as it likes. What it sends and what it leaves in the store is said once, by
`run_executeOneScrape`.
-/

namespace AsbCloudApi.Routes

open Base Api Db Net Session Workers

/-! ### Either session store -/

/-- `session_store`: one of the two implementations. -/
inductive SessionBackend where
  | memory (st : SessionStore)
  | postgres (st : PostgresSessionStore)

/-- Execute a call on the store that is set up. -/
def SessionOp.exec : (o : SessionOp) → StoreEnv → SessionBackend → Except Exn o.Ans × SessionBackend
  | .get sid, env, .memory st => ((st.get env sid).1, .memory (st.get env sid).2)
  | .get sid, env, .postgres st => ((st.get env sid).1, .postgres (st.get env sid).2)
  | .updateCookies sid cookies, env, .memory st =>
    (.ok (), .memory (st.updateCookies env sid cookies))
  | .updateCookies sid cookies, env, .postgres st =>
    ((st.updateCookies env sid cookies).1, .postgres (st.updateCookies env sid cookies).2)
  | .incrementCount sid, env, .memory st => (.ok (), .memory (st.incrementCount env sid))
  | .incrementCount sid, env, .postgres st =>
    ((st.incrementCount env sid).1, .postgres (st.incrementCount env sid).2)

namespace SessionBackend

/-- The cookies stored for a session. -/
def storedCookies (b : SessionBackend) (sid : String) : Option (Dict String String) :=
  match b with
  | .memory st => st.storedCookies sid
  | .postgres st => st.storedCookies sid

/-- Whether the store can be asked about an id at all. -/
def accepts (b : SessionBackend) (sid : String) : Prop :=
  match b with
  | .memory _ => True
  | .postgres _ => hasNul sid = false

/-- A session that is found carries the stored cookies, which stay. -/
theorem exec_get {b b' : SessionBackend} {env : StoreEnv} {sid : String} {s : SessionInfo}
    (h : (SessionOp.get sid).exec env b = (.ok (some s), b')) :
    b.storedCookies sid = some s.cookies ∧ b'.storedCookies sid = some s.cookies ∧
      b'.accepts sid := by
  cases b with
  | memory st =>
    obtain ⟨hr, rfl⟩ := Prod.mk.inj h
    obtain ⟨hb, ha⟩ := SessionStore.get_some (Prod.ext hr rfl)
    exact ⟨hb, ha, trivial⟩
  | postgres st =>
    obtain ⟨hr, rfl⟩ := Prod.mk.inj h
    obtain ⟨hb, ha⟩ := PostgresSessionStore.get_some (Prod.ext hr rfl)
    refine ⟨hb, ha, ?_⟩
    cases hn : hasNul sid with
    | false => exact hn
    | true => simp [PostgresSessionStore.get, hn] at hr

/-- An update of a stored session succeeds and replaces the cookies. -/
theorem exec_updateCookies {b : SessionBackend} {sid : String} (ha : b.accepts sid)
    (hs : (b.storedCookies sid).isSome) (env : StoreEnv) (cookies : Dict String String) :
    ∃ b', (SessionOp.updateCookies sid cookies).exec env b = (.ok (), b') ∧
      b'.storedCookies sid = some cookies := by
  cases b with
  | memory st => exact ⟨_, rfl, SessionStore.storedCookies_updateCookies hs env cookies⟩
  | postgres st =>
    have hok : (st.updateCookies env sid cookies).1 = .ok () := by
      have hn : hasNul sid = false := ha
      simp only [PostgresSessionStore.updateCookies, PostgresSessionStore.update, hn,
        Bool.false_eq_true, if_false]
      split <;> rfl
    refine ⟨.postgres (st.updateCookies env sid cookies).2, Prod.ext hok rfl, ?_⟩
    exact PostgresSessionStore.storedCookies_updateCookies hs (Prod.ext hok rfl)

theorem exec_incrementCount (b : SessionBackend) (sid : String) (env : StoreEnv) :
    ((SessionOp.incrementCount sid).exec env b).2.storedCookies sid = b.storedCookies sid := by
  cases b with
  | memory st => exact st.storedCookies_incrementCount env sid
  | postgres st => exact st.storedCookies_incrementCount env sid

/-- `create`, given the twelve hexadecimal digits of the new id. -/
def create (b : SessionBackend) (env : StoreEnv) (hex keyId region : String)
    (fingerprint : Option String) : Except Exn SessionInfo × SessionBackend :=
  match b with
  | .memory st => ((st.create env hex keyId region fingerprint).1,
      .memory (st.create env hex keyId region fingerprint).2)
  | .postgres st => ((st.create env hex keyId region fingerprint).1,
      .postgres (st.create env hex keyId region fingerprint).2)

/-- `delete`. -/
def delete (b : SessionBackend) (env : StoreEnv) (sid : String) :
    Except Exn Unit × SessionBackend :=
  match b with
  | .memory st => (.ok (), .memory (st.delete sid))
  | .postgres st => ((st.delete env sid).1, .postgres (st.delete env sid).2)

/-- The owner and the cookies of a session, the latter if they can be read. -/
def view (b : SessionBackend) (sid : String) : Option (String × Option (Dict String String)) :=
  match b with
  | .memory st => st.view sid
  | .postgres st => st.view sid

/-- A session that is found has the owner and the cookies that are stored. -/
theorem view_of_get {b b' : SessionBackend} {env : StoreEnv} {sid : String} {s : SessionInfo}
    (h : (SessionOp.get sid).exec env b = (.ok (some s), b')) :
    b.view sid = some (s.keyId, some s.cookies) := by
  have hfound := congrArg Prod.fst h
  cases b with
  | memory st => exact st.view_of_get env sid hfound
  | postgres st => exact st.view_of_get env sid hfound

/-- A call leaves every session, or removes it; an update changes the cookies of its session. -/
theorem view_exec {o : SessionOp} {env : StoreEnv} {b : SessionBackend} {x : String}
    {row : String × Option (Dict String String)} (h : (o.exec env b).2.view x = some row) :
    b.view x = some row ∨ ∃ cookies before, o = .updateCookies x cookies ∧
      b.view x = some before ∧ row = (before.1, some cookies) := by
  cases o with
  | get sid =>
    left
    cases b with
    | memory st =>
      rcases st.view_get env sid x with hsame | hnone
      · exact hsame.symm.trans h
      · exact nomatch hnone.symm.trans h
    | postgres st => exact (st.view_get env sid x).symm.trans h
  | updateCookies sid cookies =>
    have hcase : b.view x = some row ∨ sid = x ∧
        ((b.view x).map fun p ↦ (p.1, some cookies)) = some row := by
      cases b with
      | memory st =>
        have hview := (st.view_updateCookies env sid cookies x).symm.trans h
        split at hview
        · next hx => exact Or.inr ⟨hx, hview⟩
        · exact Or.inl hview
      | postgres st =>
        rcases st.view_updateCookies env sid cookies x with hsame | ⟨hx, hview⟩
        · exact Or.inl (hsame.symm.trans h)
        · exact Or.inr ⟨hx, hview.symm.trans h⟩
    rcases hcase with hsame | ⟨rfl, hmap⟩
    · exact Or.inl hsame
    · obtain ⟨before, hbefore, hrow⟩ := Option.map_eq_some_iff.mp hmap
      exact Or.inr ⟨cookies, before, rfl, hbefore, hrow.symm⟩
  | incrementCount sid =>
    left
    cases b with
    | memory st => exact (st.view_incrementCount env sid x).symm.trans h
    | postgres st => exact (st.view_incrementCount env sid x).symm.trans h

/-- A deletion leaves every session, or removes it. -/
theorem view_delete {b : SessionBackend} {env : StoreEnv} {sid x : String}
    {row : String × Option (Dict String String)} (h : (b.delete env sid).2.view x = some row) :
    b.view x = some row := by
  cases b with
  | memory st =>
    have hview := (st.view_delete sid x).symm.trans h
    split at hview
    · cases hview
    · exact hview
  | postgres st => exact (st.view_delete env sid x).symm.trans h

/-- A creation leaves every session, and adds one without cookies. -/
theorem view_create {b : SessionBackend} {env : StoreEnv} {hex keyId region x : String}
    {fingerprint : Option String} {row : String × Option (Dict String String)}
    (h : (b.create env hex keyId region fingerprint).2.view x = some row) :
    b.view x = some row ∨ "sess_" ++ hex = x ∧ row = (keyId, some Dict.empty) := by
  cases b with
  | memory st =>
    have hview := (st.view_create env hex keyId region fingerprint x).symm.trans h
    split at hview
    · next hx => exact Or.inr ⟨hx, (Option.some.inj hview).symm⟩
    · exact Or.inl hview
  | postgres st =>
    rcases st.view_create env hex keyId region fingerprint x with hsame | ⟨hx, hview⟩
    · exact Or.inl (hsame.symm.trans h)
    · exact Or.inr ⟨hx, Option.some.inj (h.symm.trans hview)⟩

end SessionBackend

/-! ### One request -/

/-- What a request meets: the answers of all components but the session store, the calls of the
store that fail, and the clock and entropy of each of these calls. -/
structure Surroundings where
  answer : (o : RouteOp) → Except Exn o.Ans
  storeFails : SessionOp → Option Exn
  env : SessionOp → StoreEnv

/-- The session store, and the scrapes made so far with their outcomes. -/
structure SessionState where
  backend : SessionBackend
  scraped : List (ScrapeRequest × Except Exn ScrapeResponse)

/-- Answer the operations of a request. -/
def sessionHandler (sur : Surroundings) :
    (o : RouteOp) → SessionState → Except Exn o.Ans × SessionState
  | .session o, s =>
    match sur.storeFails o with
    | some e => (.error e, s)
    | none => ((o.exec (sur.env o) s.backend).1,
        { s with backend := (o.exec (sur.env o) s.backend).2 })
  | .mergeCookies headers cookies, s => (.ok (mergedHeaders headers cookies), s)
  | .scrape w r, s =>
    (sur.answer (.scrape w r), { s with scraped := s.scraped ++ [(r, sur.answer (.scrape w r))] })
  | .validateUrl url, s => (sur.answer (.validateUrl url), s)
  | .limit o, s => (sur.answer (.limit o), s)
  | .pool o, s => (sur.answer (.pool o), s)
  | .usage o, s => (sur.answer (.usage o), s)

/-- The request that goes to the worker for a session with the given cookies. -/
def sentRequest (request : ScrapeRequest) (cookies : Dict String String) : ScrapeRequest :=
  if cookies.isEmpty then request
  else { request with headers := mergedHeaders request.headers cookies }

section Run

variable (sur : Surroundings) (app : App)

/-- The limiter, the pool and the tracker touch neither the store nor a worker. -/
private theorem state_of_calls {α : Type} {k : RouteKind} (hk : k = .limit ∨ k = .pool ∨ k = .usage)
    {p : RouteProg α} (h : Calls [k] p) (s : SessionState) :
    (Prog.run (sessionHandler sur) p s).2 = s := by
  apply h.run_state
  intro o s ho
  rcases RouteOp.of_mem_kind hk ho with ⟨l, rfl⟩ | ⟨p, rfl⟩ | ⟨u, rfl⟩
  · rfl
  · rfl
  · rfl

variable {request : ScrapeRequest} {sid : String} (keyId : String) {b : SessionBackend}
  (log : List (ScrapeRequest × Except Exn ScrapeResponse))

/-- A request whose session is found goes on with the stored cookies, which stay. -/
private theorem run_openSession (hsid : request.sessionId = some sid) (hne : sid ≠ "")
    (hreset : request.sessionType ≠ .statefulReset) :
    ∃ r b', Prog.run (sessionHandler sur) (openSession app request keyId) ⟨b, log⟩ =
      (r, ⟨b', log⟩) ∧ ∀ found, r = .ok found → app.sessionStore = true ∧ ∃ session,
        found = some session ∧ b.storedCookies sid = some session.cookies ∧
        b'.storedCookies sid = some session.cookies ∧ b'.accepts sid := by
  obtain ⟨htruthy, hget⟩ := given_of_eq_some hsid hne
  unfold openSession
  rw [htruthy, if_neg (by decide)]
  split
  · exact ⟨_, _, rfl, fun _ h ↦ nomatch h⟩
  · next hstore =>
    dsimp only
    rw [hget, Prog.run_bind, Prog.run_perform]
    dsimp only [sessionHandler]
    cases hf : sur.storeFails (.get sid) with
    | some e => exact ⟨_, _, rfl, fun _ h ↦ nomatch h⟩
    | none =>
      dsimp only
      rcases hx : (SessionOp.get sid).exec (sur.env (.get sid)) b with ⟨_ | found, b'⟩
      · exact ⟨_, _, rfl, fun _ h ↦ nomatch h⟩
      · cases found with
        | none => exact ⟨_, _, rfl, fun _ h ↦ nomatch h⟩
        | some session =>
          obtain ⟨hb, hb', ha⟩ := SessionBackend.exec_get hx
          dsimp only
          rw [ensureSessionOwner, Prog.run_bind]
          by_cases hown : session.keyId = keyId
          · rw [if_neg (not_not.mpr hown), Prog.run_pure]
            dsimp only
            rw [Prog.run_pure]
            refine ⟨_, _, rfl, ?_⟩
            rintro _ ⟨⟩
            exact ⟨by simpa using hstore, session, rfl, hb, hb', ha⟩
          · rw [if_pos hown]
            exact ⟨_, _, rfl, fun _ h ↦ nomatch h⟩

/-- Until the lease nothing is scraped, and a request that gets that far has its session. -/
private theorem run_prelude (hsid : request.sessionId = some sid) (hne : sid ≠ "")
    (hreset : request.sessionType ≠ .statefulReset) (skip : Bool) :
    ∃ r b', Prog.run (sessionHandler sur) (prelude app request keyId skip) ⟨b, log⟩ =
      (r, ⟨b', log⟩) ∧ ∀ found, r = .ok found → app.sessionStore = true ∧ ∃ session,
        found = some session ∧ b.storedCookies sid = some session.cookies ∧
        b'.storedCookies sid = some session.cookies ∧ b'.accepts sid := by
  unfold prelude
  rw [Prog.run_bind, Prog.run_perform]
  dsimp only [sessionHandler]
  cases sur.answer (.validateUrl request.url) with
  | error e => exact ⟨_, _, rfl, fun _ h ↦ nomatch h⟩
  | ok url =>
    dsimp only
    rw [Prog.run_bind]
    have hq := state_of_calls sur (Or.inl rfl) (calls_checkRateLimit app keyId skip) ⟨b, log⟩
    rcases hr : Prog.run (sessionHandler sur) (checkRateLimit app keyId skip) ⟨b, log⟩ with
      ⟨_ | u, s⟩ <;> rw [hr] at hq
    · subst hq
      exact ⟨_, _, rfl, fun _ h ↦ nomatch h⟩
    · subst hq
      dsimp only
      split
      · exact ⟨_, _, rfl, fun _ h ↦ nomatch h⟩
      · exact run_openSession sur app keyId log hsid hne hreset

private theorem run_withSessionCookies (session : SessionInfo) (s : SessionState) :
    Prog.run (sessionHandler sur) (withSessionCookies (some session) request) s =
      (.ok (sentRequest request session.cookies), s) := by
  unfold withSessionCookies sentRequest
  dsimp only
  split
  · rfl
  · rfl

/-- The store after a scrape: the cookies of the response, unless the update fails. -/
private theorem run_updateSession (hstore : app.sessionStore = true) {request : ScrapeRequest}
    (hsid : request.sessionId = some sid) (hne : sid ≠ "") (result : ScrapeResponse)
    {jar : Dict String String} (hb : b.storedCookies sid = some jar) (ha : b.accepts sid) :
    ∃ r b', Prog.run (sessionHandler sur) (updateSession app request result) ⟨b, log⟩ =
      (r, ⟨b', log⟩) ∧
      match sur.storeFails (.updateCookies sid result.cookies) with
      | some e => r = .error e ∧ b'.storedCookies sid = some jar
      | none => b'.storedCookies sid = some result.cookies := by
  obtain ⟨htruthy, hget⟩ := given_of_eq_some hsid hne
  unfold updateSession
  rw [if_pos ⟨htruthy, hstore⟩]
  dsimp only
  rw [hget, Prog.run_bind, Prog.run_perform]
  dsimp only [sessionHandler]
  cases hf : sur.storeFails (.updateCookies sid result.cookies) with
  | some e => exact ⟨_, _, rfl, rfl, hb⟩
  | none =>
    obtain ⟨b', hx, hb'⟩ := SessionBackend.exec_updateCookies ha (by rw [hb]; rfl)
      (sur.env (.updateCookies sid result.cookies)) result.cookies
    rw [hx]
    dsimp only
    rw [Prog.run_perform]
    dsimp only [sessionHandler]
    cases sur.storeFails (.incrementCount sid) with
    | some e => exact ⟨_, _, rfl, hb'⟩
    | none =>
      refine ⟨_, _, rfl, ?_⟩
      rw [SessionBackend.exec_incrementCount]
      exact hb'

/-- What a request leaves of its session once the worker was called with `answer`: the cookies of
the response, unless there is none or the update fails. Only then can the request return it. -/
def AfterScrape (sur : Surroundings) (sid : String) (jar : Dict String String)
    (b : SessionBackend) (answer out : Except Exn ScrapeResponse) : Prop :=
  match answer with
  | .error _ => b.storedCookies sid = some jar ∧ ∀ resp, out ≠ .ok resp
  | .ok result =>
    match sur.storeFails (.updateCookies sid result.cookies) with
    | some _ => b.storedCookies sid = some jar ∧ ∀ resp, out ≠ .ok resp
    | none => b.storedCookies sid = some result.cookies ∧ ∀ resp, out = .ok resp → resp = result

variable {sur} in
private theorem AfterScrape.error {jar : Dict String String}
    {answer out : Except Exn ScrapeResponse} (h : AfterScrape sur sid jar b answer out) (e : Exn) :
    AfterScrape sur sid jar b answer (.error e) := by
  unfold AfterScrape at h ⊢
  split
  · exact ⟨h.1, fun _ h ↦ nomatch h⟩
  · next result =>
    dsimp only at h ⊢
    split
    · next hf =>
      rw [hf] at h
      exact ⟨h.1, fun _ h ↦ nomatch h⟩
    · next hf =>
      rw [hf] at h
      exact ⟨h.1, fun _ h ↦ nomatch h⟩

/-- The scrape sends the cookies of the session and is followed by the update. -/
private theorem run_scrapeWith (hstore : app.sessionStore = true)
    (hsid : request.sessionId = some sid) (hne : sid ≠ "") (session : SessionInfo)
    (worker : WorkerRef) (hb : b.storedCookies sid = some session.cookies) (ha : b.accepts sid) :
    ∃ out b' answer, Prog.run (sessionHandler sur)
        (scrapeWith app request keyId (some session) worker) ⟨b, log⟩ =
      (out, ⟨b', log ++ [(sentRequest request session.cookies, answer)]⟩) ∧
      AfterScrape sur sid session.cookies b' answer out := by
  have hsent : (sentRequest request session.cookies).sessionId = some sid := by
    unfold sentRequest
    split <;> exact hsid
  unfold scrapeWith
  rw [Prog.run_bind, run_withSessionCookies]
  dsimp only
  generalize sentRequest request session.cookies = sent at hsent
  rw [Prog.run_bind, Prog.run_perform]
  dsimp only [sessionHandler]
  cases ha' : sur.answer (.scrape worker sent) with
  | error e => exact ⟨_, _, _, rfl, hb, fun _ h ↦ nomatch h⟩
  | ok result =>
    dsimp only
    obtain ⟨r, b', hr, hb'⟩ := run_updateSession sur app
      (log ++ [(sent, .ok result)]) hstore hsent hne result hb ha
    rw [Prog.run_bind, hr]
    cases hf : sur.storeFails (.updateCookies sid result.cookies) with
    | some e =>
      rw [hf] at hb'
      obtain ⟨rfl, hkept⟩ := hb'
      refine ⟨_, _, .ok result, rfl, ?_⟩
      simp only [AfterScrape, hf]
      exact ⟨hkept, fun _ h ↦ nomatch h⟩
    | none =>
      rw [hf] at hb'
      cases r with
      | error e =>
        refine ⟨_, _, .ok result, rfl, ?_⟩
        simp only [AfterScrape, hf]
        exact ⟨hb', fun _ h ↦ nomatch h⟩
      | ok u =>
        dsimp only
        have hq := state_of_calls sur (Or.inr (Or.inr rfl))
          (calls_recordUsage app sent keyId result) ⟨b', log ++ [(sent, .ok result)]⟩
        rw [Prog.run_bind]
        rcases hu : Prog.run (sessionHandler sur) (recordUsage app sent keyId result)
          ⟨b', log ++ [(sent, .ok result)]⟩ with ⟨e | _, s⟩ <;> rw [hu] at hq ⊢ <;> subst hq
        · refine ⟨.error e, _, .ok result, rfl, ?_⟩
          simp only [AfterScrape, hf]
          exact ⟨hb', fun _ h ↦ nomatch h⟩
        · refine ⟨_, _, .ok result, rfl, ?_⟩
          simp only [AfterScrape, hf]
          exact ⟨hb', fun _ h ↦ (Except.ok.inj h).symm⟩

/-- A request on a session scrapes once at most. If it does, it sends the cookies that were
stored, and the store is updated with those of the response. -/
theorem run_executeOneScrape (hsid : request.sessionId = some sid) (hne : sid ≠ "")
    (hreset : request.sessionType ≠ .statefulReset) (skip : Bool) :
    ∃ out b' made, Prog.run (sessionHandler sur) (executeOneScrape app request keyId skip)
        ⟨b, log⟩ = (out, ⟨b', log ++ made⟩) ∧
      (made = [] ∧ (∀ resp, out ≠ .ok resp) ∨
        ∃ jar answer, b.storedCookies sid = some jar ∧
          made = [(sentRequest request jar, answer)] ∧ AfterScrape sur sid jar b' answer out) := by
  obtain ⟨r, b₁, hr, hfound⟩ := run_prelude sur app keyId (b := b) log hsid hne hreset skip
  unfold executeOneScrape
  rw [Prog.run_bind, hr]
  cases r with
  | error e =>
    exact ⟨.error e, _, [], by rw [List.append_nil], Or.inl ⟨rfl, fun _ h ↦ nomatch h⟩⟩
  | ok found =>
    obtain ⟨hstore, session, rfl, hb, hb₁, ha⟩ := hfound found rfl
    dsimp only
    rw [Prog.run_bind]
    have hq := state_of_calls sur (Or.inr (Or.inl rfl))
      (calls_onPool (RegionWorkerPool.acquire request.region)) ⟨b₁, log⟩
    rcases hw : Prog.run (sessionHandler sur) (onPool (RegionWorkerPool.acquire request.region))
      ⟨b₁, log⟩ with ⟨e | worker, s⟩ <;> rw [hw] at hq <;> subst hq
    · exact ⟨.error e, _, [], by rw [List.append_nil], Or.inl ⟨rfl, fun _ h ↦ nomatch h⟩⟩
    · dsimp only
      obtain ⟨out, b', answer, hs, hafter⟩ := run_scrapeWith sur app keyId log
        hstore hsid hne session worker hb₁ ha
      rw [Prog.run_tryFinally, hs]
      have hq := state_of_calls sur (Or.inr (Or.inl rfl))
        (calls_onPool (.perform (PoolOp.release worker request.region)))
        ⟨b', log ++ [(sentRequest request session.cookies, answer)]⟩
      rcases hrel : Prog.run (sessionHandler sur)
        (onPool (.perform (PoolOp.release worker request.region)))
        ⟨b', log ++ [(sentRequest request session.cookies, answer)]⟩ with
        ⟨e | _, s⟩ <;> rw [hrel] at hq <;> subst hq
      · exact ⟨_, _, _, rfl, Or.inr ⟨_, _, hb, rfl, hafter.error e⟩⟩
      · exact ⟨_, _, _, rfl, Or.inr ⟨_, _, hb, rfl, hafter⟩⟩

end Run

/-- One request against a store. -/
def scrapeOn (sur : Surroundings) (app : App) (request : ScrapeRequest) (keyId : String)
    (skip : Bool) (b : SessionBackend) : Except Exn ScrapeResponse × SessionState :=
  Prog.run (sessionHandler sur) (executeOneScrape app request keyId skip) ⟨b, []⟩

end AsbCloudApi.Routes
