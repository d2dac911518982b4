import AsbCloudApi.Routes.Leasing
import AsbCloudApi.Workers.Worker

/-!
# Usage rows under concurrent requests

Library `Routes`. Any number of scrape requests share one database and are interleaved
operation by operation. A scrape that returned is followed by its row exactly if the table takes
the row and no session update fails on the way to it.
-/

namespace AsbCloudApi.Routes

open Base Api Db Security Session Workers

/-- The arguments with which an operation of the tracker inserts. -/
def UsageOp.args : UsageOp → UsageArgs
  | .record args => args
  | .increment keyId => .ofIncrement keyId

/-- What happens in a request, as far as its usage row is concerned. -/
inductive RequestEvent where
  | returned (sent : ScrapeRequest) (response : ScrapeResponse)
  | sessionFailed
  | inserted (row : UsageRecord)

/-- The database, and what has happened in which request. -/
structure UsageState (I : Type) where
  db : UsageDb
  log : List (I × RequestEvent)

variable {I : Type}

/-- Note an event. -/
def UsageState.note (s : UsageState I) (i : I) (e : RequestEvent) : UsageState I :=
  { s with log := s.log ++ [(i, e)] }

/-- A step of a request. The worker answers as it does, or the call is abandoned; the tracker
inserts a row into the table, at any instant; everything else answers anything or raises. -/
inductive UsageExec (i : I) : (o : RouteOp) → UsageState I → Except Exn o.Ans → UsageState I → Prop
  | returned {w : WorkerRef} {sent : ScrapeRequest} {response : ScrapeResponse}
      {s : UsageState I} (h : ASBWorker.IsResponse sent response) :
      UsageExec i (.scrape w sent) s (.ok response) (s.note i (.returned sent response))
  | abandoned {w : WorkerRef} {sent : ScrapeRequest} {s : UsageState I} {e : Exn} :
      UsageExec i (.scrape w sent) s (.error e) s
  | inserted {o : UsageOp} {s : UsageState I} {db : UsageDb} {now : ℚ}
      (h : PostgresUsageTracker.record s.db (o.args.row now) = .ok db) :
      UsageExec i (.usage o) s (.ok ()) ({ s with db := db }.note i (.inserted (o.args.row now)))
  | refused {o : UsageOp} {s : UsageState I} {e : DbError} {now : ℚ}
      (h : PostgresUsageTracker.record s.db (o.args.row now) = .error e) :
      UsageExec i (.usage o) s (.error e.exn) s
  | session {o : SessionOp} {s : UsageState I} {a : o.Ans} : UsageExec i (.session o) s (.ok a) s
  | sessionFailed {o : SessionOp} {s : UsageState I} {e : Exn} :
      UsageExec i (.session o) s (.error e) (s.note i .sessionFailed)
  | validateUrl {url : String} {s : UsageState I} {r : Except Exn String} :
      UsageExec i (.validateUrl url) s r s
  | limit {o : LimitOp} {s : UsageState I} {r : Except Exn o.Ans} : UsageExec i (.limit o) s r s
  | pool {o : PoolOp} {s : UsageState I} {r : Except Exn o.Ans} : UsageExec i (.pool o) s r s
  | mergeCookies {headers cookies : Dict String String} {s : UsageState I}
      {r : Except Exn (Dict String String)} : UsageExec i (.mergeCookies headers cookies) s r s

/-- How far a request has come. -/
inductive Progress where
  | fresh
  | stopped
  | scraped (sent : ScrapeRequest) (response : ScrapeResponse)
  | broken (sent : ScrapeRequest) (response : ScrapeResponse)
  | recorded (sent : ScrapeRequest) (response : ScrapeResponse) (args : UsageArgs)
  | refused (sent : ScrapeRequest) (response : ScrapeResponse) (args : UsageArgs)

/-- A request scrapes once, then calls the session store, then records once. -/
def usageProtocol : Prog.Protocol Exn RouteOp.Ans Progress where
  allowed o g :=
    match o, g with
    | .scrape _ _, .fresh => True
    | .scrape _ _, _ => False
    | .usage (.record _), .scraped _ _ => True
    | .usage _, _ => False
    | .session _, .fresh => True
    | .session _, .scraped _ _ => True
    | .session _, _ => False
    | _, _ => True
  possible _ _ _ := True
  next o g r :=
    match o, g, r with
    | .scrape _ sent, _, .ok response => .scraped sent response
    | .usage (.record args), .scraped sent response, .ok _ => .recorded sent response args
    | .usage (.record args), .scraped sent response, .error _ => .refused sent response args
    | .session _, .fresh, .error _ => .stopped
    | .session _, .scraped sent response, .error _ => .broken sent response
    | _, g, _ => g

/-! ### A request follows the protocol -/

/-- Where a request may end, given the request as it came. -/
def EndsWell (app : App) (request : ScrapeRequest) (keyId : String) : Progress → Prop
  | .fresh => True
  | .stopped => True
  | .scraped _ _ => False
  | .broken _ _ => True
  | .recorded sent response args => args = usageArgs app sent keyId response ∧
      sent.url = request.url ∧ sent.region = request.region
  | .refused sent response args => args = usageArgs app sent keyId response ∧
      sent.url = request.url ∧ sent.region = request.region

/-- Before the scrape a request goes on as it was, or it ends. -/
private def Early {α : Type} (r : Except Exn α) (g : Progress) : Prop :=
  match r with
  | .ok _ => g = .fresh
  | .error _ => g = .fresh ∨ g = .stopped

/-- After the scrape a request goes on as it was, or a failed session call ends it. -/
private def Late (sent : ScrapeRequest) (response : ScrapeResponse) {α : Type}
    (r : Except Exn α) (g : Progress) : Prop :=
  match r with
  | .ok _ => g = .scraped sent response
  | .error _ => g = .broken sent response

/-- Neither the rate limiter nor the pool leads on. -/
private theorem idle_of_calls {α : Type} {k : RouteKind} (hk : k = .limit ∨ k = .pool)
    {p : RouteProg α} (h : Calls [k] p) : Prog.Stays usageProtocol p := by
  have hkind {o : RouteOp} (ho : o.kind ∈ [k]) : o.kind = .limit ∨ o.kind = .pool := by
    rwa [List.mem_singleton.mp ho]
  apply h.stays
  · intro o g ho
    cases o with
    | limit o => exact trivial
    | pool o => exact trivial
    | _ => rcases hkind ho with ho | ho <;> cases ho
  · intro o g r ho
    cases o with
    | limit o => rfl
    | pool o => rfl
    | _ => rcases hkind ho with ho | ho <;> cases ho

private theorem idle_pool {α : Type} (p : Prog Exn PoolOp.Ans α) :
    Prog.Stays usageProtocol (onPool p) := idle_of_calls (Or.inr rfl) (calls_onPool p)

private theorem idle_checkRateLimit (app : App) (keyId : String) (skip : Bool) :
    Prog.Stays usageProtocol (checkRateLimit app keyId skip) :=
  idle_of_calls (Or.inl rfl) (calls_checkRateLimit app keyId skip)

private theorem follows_openSession (app : App) (request : ScrapeRequest) (keyId : String) :
    Prog.Follows usageProtocol Early (openSession app request keyId) .fresh := by
  unfold openSession
  split
  · exact rfl
  · split
    · exact Or.inl rfl
    · refine ⟨trivial, fun found _ ↦ ?_⟩
      match found with
      | .error e => exact Or.inr rfl
      | .ok none => exact Or.inl rfl
      | .ok (some session) =>
        change Prog.Follows usageProtocol Early (_ >>= _) .fresh
        apply Prog.Follows.bind (Q := Early)
        · unfold ensureSessionOwner
          split
          · exact Or.inl rfl
          · exact rfl
        · rintro u g rfl
          split
          · refine ⟨trivial, fun r _ ↦ ?_⟩
            cases r with
            | error e => exact Or.inr rfl
            | ok u => exact rfl
          · exact rfl
        · exact fun _ _ h ↦ h

private theorem follows_prelude (app : App) (request : ScrapeRequest) (keyId : String)
    (skip : Bool) :
    Prog.Follows usageProtocol Early (prelude app request keyId skip) .fresh := by
  unfold prelude
  refine ⟨trivial, fun url _ ↦ ?_⟩
  cases url with
  | error e => exact Or.inl rfl
  | ok url =>
    change Prog.Follows usageProtocol Early (_ >>= _) .fresh
    apply Prog.Follows.bind (idle_checkRateLimit app keyId skip _)
    · rintro u g rfl
      split
      · exact Or.inl rfl
      · exact follows_openSession app request keyId
    · rintro e g rfl
      exact Or.inl rfl

private theorem follows_updateSession (app : App) (sent : ScrapeRequest)
    (response : ScrapeResponse) : Prog.Follows usageProtocol (Late sent response)
      (updateSession app sent response) (.scraped sent response) := by
  unfold updateSession
  split
  · refine ⟨trivial, fun r _ ↦ ?_⟩
    cases r with
    | error e => exact rfl
    | ok u =>
      refine ⟨trivial, fun r _ ↦ ?_⟩
      cases r with
      | error e => exact rfl
      | ok u => exact rfl
  · exact rfl

private theorem follows_recordUsage {app : App} (ht : app.usageTracker = some .record)
    (sent : ScrapeRequest) (keyId : String) (response : ScrapeResponse) :
    Prog.Follows usageProtocol (fun r g ↦ g = match r with
        | .ok _ => .recorded sent response (usageArgs app sent keyId response)
        | .error _ => .refused sent response (usageArgs app sent keyId response))
      (recordUsage app sent keyId response) (.scraped sent response) := by
  unfold recordUsage
  rw [ht]
  refine ⟨trivial, fun r _ ↦ ?_⟩
  cases r with
  | error e => exact rfl
  | ok u => exact rfl

/-- The cookies change nothing that the usage row shows. -/
private theorem follows_withSessionCookies (session : Option SessionInfo)
    (request : ScrapeRequest) :
    Prog.Follows usageProtocol (fun r g ↦ g = .fresh ∧
        ∀ sent, r = .ok sent → sent.url = request.url ∧ sent.region = request.region)
      (withSessionCookies session request) .fresh := by
  have hsame : ∀ sent, (Except.ok request : Except Exn ScrapeRequest) = .ok sent →
      sent.url = request.url ∧ sent.region = request.region := by
    rintro sent ⟨⟩
    exact ⟨rfl, rfl⟩
  unfold withSessionCookies
  split
  · exact ⟨rfl, hsame⟩
  · split
    · exact ⟨rfl, hsame⟩
    · refine ⟨trivial, fun r _ ↦ ?_⟩
      cases r with
      | error e => exact ⟨rfl, fun _ h ↦ nomatch h⟩
      | ok headers =>
        refine ⟨rfl, ?_⟩
        rintro sent ⟨⟩
        exact ⟨rfl, rfl⟩

private theorem follows_scrapeWith {app : App} (ht : app.usageTracker = some .record)
    (request : ScrapeRequest) (keyId : String) (session : Option SessionInfo)
    (worker : WorkerRef) :
    Prog.Follows usageProtocol (fun _ g ↦ EndsWell app request keyId g)
      (scrapeWith app request keyId session worker) .fresh := by
  unfold scrapeWith
  apply (follows_withSessionCookies session request).bind
  · rintro sent g ⟨rfl, hsent⟩
    have hsame := hsent sent rfl
    refine ⟨trivial, fun r _ ↦ ?_⟩
    cases r with
    | error e => exact trivial
    | ok response =>
      change Prog.Follows usageProtocol _ (_ >>= _) (.scraped sent response)
      apply (follows_updateSession app sent response).bind
      · rintro u g rfl
        apply (follows_recordUsage ht sent keyId response).bind
        · rintro u g rfl
          exact ⟨rfl, hsame⟩
        · rintro e g rfl
          exact ⟨rfl, hsame⟩
      · rintro e g rfl
        exact trivial
  · rintro e g ⟨rfl, _⟩
    exact trivial

/-- A request ends without a scrape, after a failed session call, or after one recording. -/
private theorem follows_executeOneScrape_usage {app : App} (ht : app.usageTracker = some .record)
    (request : ScrapeRequest) (keyId : String) (skip : Bool) :
    Prog.Follows usageProtocol (fun _ g ↦ EndsWell app request keyId g)
      (executeOneScrape app request keyId skip) .fresh := by
  apply follows_executeOneScrape_of_prelude idle_pool (follows_prelude app request keyId skip)
  · intro r g hg
    cases r with
    | ok found =>
      rw [show g = .fresh from hg]
      exact trivial
    | error e =>
      rcases hg with rfl | rfl
      · exact trivial
      · exact trivial
  · rintro session g worker rfl
    exact follows_scrapeWith ht request keyId session worker

/-! ### The rows of a request -/

/-- The rows among the events. -/
def rowsOf (events : List RequestEvent) : List UsageRecord :=
  events.filterMap fun e ↦
    match e with
    | .inserted row => some row
    | _ => none

theorem rowsOf_append (es fs : List RequestEvent) : rowsOf (es ++ fs) = rowsOf es ++ rowsOf fs :=
  List.filterMap_append

/-- A row is taken for its values and its key; the rows already there do not matter. -/
theorem rowFits_row_iff {db db' : UsageDb} (h : db.apiKeys = db'.apiKeys) (args : UsageArgs)
    (now now' : ℚ) : RowFits db (args.row now) ↔ RowFits db' (args.row now') := by
  constructor
  · rintro ⟨hk, hr, hd, hs, hm, hg, hp⟩
    exact ⟨hk, hr, hd, hs, hm, hg, h ▸ hp⟩
  · rintro ⟨hk, hr, hd, hs, hm, hg, hp⟩
    exact ⟨hk, hr, hd, hs, hm, hg, h ▸ hp⟩

/-- What the table asks of a request and its response: the key is there, and region, domain and
duration fit their columns. -/
structure UsageFits (app : App) (db : UsageDb) (keyId : String) (request : ScrapeRequest)
    (response : ScrapeResponse) : Prop where
  key : fitsVarchar 32 keyId ∧ keyId ∈ db.apiKeys
  region : fitsVarchar? 8 request.region
  domain : fitsVarchar 255
    (redactUrlForLogging app.unicode app.security request.url (some true))
  duration : ∀ m ∈ response.metadata, fitsInteger m.durationMs

private theorem fitsVarchar_requestId (hex : UuidHex) : fitsVarchar 32 ("req_" ++ hex.text) := by
  apply fitsVarchar_append (by decide) hex.digits (by decide)
  rw [hex.length_eq]
  decide

/-- Of the row of a worker's response, id and status always fit. -/
theorem rowFits_usageArgs_iff {app : App} {db : UsageDb} {keyId : String}
    {request sent : ScrapeRequest} {response : ScrapeResponse}
    (h : ASBWorker.IsResponse sent response) (hurl : sent.url = request.url)
    (hregion : sent.region = request.region) (now : ℚ) :
    RowFits db ((usageArgs app sent keyId response).row now) ↔
      UsageFits app db keyId request response := by
  obtain ⟨hex, m, hid, hm, hmid, hmregion, hstatus⟩ := h.shape
  have hrid : ((usageArgs app sent keyId response).row now).requestId = "req_" ++ hex.text := by
    rw [usageArgs, hm]
    exact hmid.trans hid
  have hreg : ((usageArgs app sent keyId response).row now).region = request.region := by
    rw [usageArgs, hm]
    exact hmregion.trans hregion
  have hdur : ((usageArgs app sent keyId response).row now).durationMs = m.durationMs := by
    rw [usageArgs, hm]
    rfl
  have hdom : ((usageArgs app sent keyId response).row now).domain =
      some (redactUrlForLogging app.unicode app.security request.url (some true)) := by
    rw [usageArgs, hurl]
    rfl
  have hfits : fitsVarchar 16 response.status.text := by
    cases hs : response.status with
    | success => decide
    | error => decide
    | successWithRetries => exact absurd hs hstatus
  constructor
  · intro hrow
    refine ⟨⟨hrow.keyId, hrow.present⟩, hreg ▸ hrow.region, hrow.domain _ hdom, ?_⟩
    intro m' hm'
    rw [hm] at hm'
    obtain rfl := Option.some.inj hm'
    exact hdur ▸ hrow.durationMs
  · intro hfit
    exact {
      keyId := hfit.key.1
      requestId := hrid ▸ fitsVarchar_requestId hex
      domain := fun d hd ↦ by
        obtain rfl := Option.some.inj (hdom.symm.trans hd)
        exact hfit.domain
      status := hfits
      durationMs := hdur ▸ hfit.duration m hm
      region := hreg ▸ hfit.region
      present := hfit.key.2 }

/-! ### All requests together -/

section Interleaving

variable [DecidableEq I]

/-- The events of one request. -/
def eventsOf (log : List (I × RequestEvent)) (i : I) : List RequestEvent :=
  log.filterMap fun p ↦ if p.1 = i then some p.2 else none

theorem eventsOf_note_self (s : UsageState I) (i : I) (e : RequestEvent) :
    eventsOf (s.note i e).log i = eventsOf s.log i ++ [e] := by
  simp [eventsOf, UsageState.note]

theorem eventsOf_note_ne (s : UsageState I) {i j : I} (e : RequestEvent) (h : j ≠ i) :
    eventsOf (s.note i e).log j = eventsOf s.log j := by
  simp [eventsOf, UsageState.note, h.symm]

/-- What has happened in a request that has come so far. -/
def Progress.Matches (db : UsageDb) : Progress → List RequestEvent → Prop
  | .fresh, es => es = []
  | .stopped, es => es = [.sessionFailed]
  | .scraped sent response, es =>
    ASBWorker.IsResponse sent response ∧ es = [.returned sent response]
  | .broken sent response, es =>
    ASBWorker.IsResponse sent response ∧ es = [.returned sent response, .sessionFailed]
  | .recorded sent response args, es => ASBWorker.IsResponse sent response ∧ ∃ now,
    es = [.returned sent response, .inserted (args.row now)] ∧ RowFits db (args.row now)
  | .refused sent response args, es => ASBWorker.IsResponse sent response ∧
    es = [.returned sent response] ∧ ∃ now, ¬ RowFits db (args.row now)

/-- The table holds the former rows and those of the log, and each request is where its events
say. -/
structure UsageInv (db : UsageDb) (s : UsageState I) (stage : I → Progress) : Prop where
  keys : s.db.apiKeys = db.apiKeys
  rows : s.db.usageRecords = db.usageRecords ++ rowsOf (s.log.map Prod.snd)
  events : ∀ i, (stage i).Matches db (eventsOf s.log i)

section Step

variable {db : UsageDb} {s : UsageState I} {stage : I → Progress} {i : I}

private theorem UsageInv.keep (h : UsageInv db s stage) {g : Progress}
    (hg : g.Matches db (eventsOf s.log i)) : UsageInv db s (Function.update stage i g) where
  keys := h.keys
  rows := h.rows
  events := by
    apply (Function.forall_update_iff stage fun j g ↦ g.Matches db (eventsOf s.log j)).mpr
    constructor
    · exact hg
    · exact fun j _ ↦ h.events j

/-- After an event of one request, it and the others are where their events say. -/
private theorem UsageInv.events_note (h : UsageInv db s stage) {e : RequestEvent} {g : Progress}
    (hg : g.Matches db (eventsOf s.log i ++ [e])) :
    ∀ j, (Function.update stage i g j).Matches db (eventsOf (s.note i e).log j) := by
  apply (Function.forall_update_iff stage fun j g ↦
    g.Matches db (eventsOf (s.note i e).log j)).mpr
  constructor
  · rwa [eventsOf_note_self]
  · intro j hj
    rw [eventsOf_note_ne s e hj]
    exact h.events j

private theorem UsageInv.note (h : UsageInv db s stage) {e : RequestEvent} {g : Progress}
    (he : rowsOf [e] = []) (hg : g.Matches db (eventsOf s.log i ++ [e])) :
    UsageInv db (s.note i e) (Function.update stage i g) where
  keys := h.keys
  rows := by
    change s.db.usageRecords = _ ++ rowsOf ((s.log ++ [(i, e)]).map Prod.snd)
    rw [List.map_append, rowsOf_append]
    change _ = _ ++ (_ ++ rowsOf [e])
    rw [he, List.append_nil]
    exact h.rows
  events := h.events_note hg

private theorem UsageInv.insert (h : UsageInv db s stage) {row : UsageRecord} {g : Progress}
    (hg : g.Matches db (eventsOf s.log i ++ [.inserted row])) :
    UsageInv db ({ s with db := { s.db with usageRecords := s.db.usageRecords ++ [row] } }.note i
      (.inserted row)) (Function.update stage i g) where
  keys := h.keys
  rows := by
    change s.db.usageRecords ++ [row] =
      _ ++ rowsOf ((s.log ++ [(i, RequestEvent.inserted row)]).map Prod.snd)
    rw [List.map_append, rowsOf_append, h.rows, List.append_assoc]
    rfl
  events := h.events_note hg

omit [DecidableEq I] in
private theorem allowed_scrape {w : WorkerRef} {sent : ScrapeRequest} {g : Progress}
    (h : usageProtocol.allowed (.scrape w sent) g) : g = .fresh := by
  cases g with
  | fresh => rfl
  | _ => exact False.elim h

omit [DecidableEq I] in
private theorem allowed_session {o : SessionOp} {g : Progress}
    (h : usageProtocol.allowed (.session o) g) :
    g = .fresh ∨ ∃ sent response, g = .scraped sent response := by
  cases g with
  | fresh => exact Or.inl rfl
  | scraped sent response => exact Or.inr ⟨sent, response, rfl⟩
  | _ => exact False.elim h

omit [DecidableEq I] in
private theorem allowed_usage {o : UsageOp} {g : Progress}
    (h : usageProtocol.allowed (.usage o) g) :
    ∃ args sent response, o = .record args ∧ g = .scraped sent response := by
  cases o with
  | increment keyId =>
    cases g with
    | _ => exact False.elim h
  | record args =>
    cases g with
    | scraped sent response => exact ⟨args, sent, response, rfl, rfl⟩
    | _ => exact False.elim h

/-- One operation of one request. -/
private theorem UsageInv.step {s' : UsageState I} {o : RouteOp} {r : Except Exn o.Ans}
    (h : UsageInv db s stage) (ha : usageProtocol.allowed o (stage i))
    (he : UsageExec i o s r s') :
    UsageInv db s' (Function.update stage i (usageProtocol.next o (stage i) r)) := by
  have hi := h.events i
  cases he with
  | returned hresp =>
    rw [allowed_scrape ha] at hi ⊢
    exact h.note rfl ⟨hresp, by rw [hi]; rfl⟩
  | abandoned => exact h.keep hi
  | @inserted _ _ _ now hrec =>
    obtain ⟨args, sent, response, rfl, hg⟩ := allowed_usage ha
    obtain ⟨hfit, rfl⟩ := (record_ok_iff _ _ _).mp hrec
    rw [hg] at hi ⊢
    refine h.insert ⟨hi.1, now, by rw [hi.2]; rfl, ?_⟩
    exact (rowFits_row_iff h.keys args now now).mp hfit
  | @refused _ _ _ now hrec =>
    obtain ⟨args, sent, response, rfl, hg⟩ := allowed_usage ha
    have hnot : ¬ RowFits s.db (args.row now) := by
      intro hfit
      have hok := (record_ok_iff _ _ _).mpr ⟨hfit, rfl⟩
      exact nomatch hrec.symm.trans hok
    rw [hg] at hi ⊢
    refine h.keep ⟨hi.1, hi.2, now, ?_⟩
    rwa [← rowFits_row_iff h.keys args now now]
  | @session o _ a =>
    have hkeep : usageProtocol.next (.session o) (stage i) (.ok a) = stage i := by
      rcases allowed_session ha with hg | ⟨sent, response, hg⟩ <;> rw [hg] <;> rfl
    rw [hkeep]
    exact h.keep hi
  | sessionFailed =>
    rcases allowed_session ha with hg | ⟨sent, response, hg⟩
    · rw [hg] at hi ⊢
      exact h.note rfl (by rw [hi]; rfl)
    · rw [hg] at hi ⊢
      exact h.note rfl ⟨hi.1, by rw [hi.2]; rfl⟩
  | validateUrl => exact h.keep hi
  | limit => exact h.keep hi
  | pool => exact h.keep hi
  | mergeCookies => exact h.keep hi

end Step

/-- The database, the events and progress of each request, and what it has still to do. -/
abbrev UsageRequests (I : Type) :=
  Prog.Config Exn RouteOp.Ans ScrapeResponse I (UsageState I) Progress

/-- A database and requests that have not started. -/
def startUsage (app : App) (db : UsageDb) (incoming : I → Incoming) : UsageRequests I where
  shared := ⟨db, []⟩
  stage _ := .fresh
  prog i := executeOneScrape app (incoming i).request (incoming i).keyId
    (incoming i).skipRateLimitCheck

/-- Any interleaving of the requests. -/
def UsageReach : UsageRequests I → UsageRequests I → Prop :=
  Relation.ReflTransGen (Prog.Step UsageExec usageProtocol)

/-- A request has put in one row, with the key and with id and status of the response. -/
def RecordedOnce (keyId : String) (response : ScrapeResponse) (events : List RequestEvent) : Prop :=
  ∃ row, rowsOf events = [row] ∧ row.keyId = keyId ∧ row.requestId = response.requestId ∧
    row.status = response.status.text

private theorem usageArgs_requestId (app : App) (keyId : String) {sent : ScrapeRequest}
    {response : ScrapeResponse} (h : ASBWorker.IsResponse sent response) :
    (usageArgs app sent keyId response).requestId = response.requestId := by
  obtain ⟨_, m, _, hm, hmid, _⟩ := h.shape
  rw [usageArgs, hm]
  exact hmid

omit [DecidableEq I] in
/-- A request that has ended and whose scrape returned: what its events tell about its row. -/
private theorem recordedOnce_iff_of_endsWell {app : App} {db : UsageDb} {request : ScrapeRequest}
    {keyId : String} {g : Progress} {es : List RequestEvent} (hg : EndsWell app request keyId g)
    (hes : g.Matches db es) {sent : ScrapeRequest} {response : ScrapeResponse}
    (hret : .returned sent response ∈ es) :
    RecordedOnce keyId response es ↔
      .sessionFailed ∉ es ∧ UsageFits app db keyId request response := by
  cases g with
  | fresh =>
    rw [hes] at hret
    cases hret
  | stopped =>
    rw [hes] at hret
    cases List.mem_singleton.mp hret
  | scraped sent' response' => exact False.elim hg
  | broken sent' response' =>
    obtain ⟨-, rfl⟩ := hes
    apply iff_of_false
    · rintro ⟨row, hrow, -⟩
      cases hrow
    · rintro ⟨hno, -⟩
      exact hno (List.mem_cons_of_mem _ (List.mem_singleton_self _))
  | recorded sent' response' args =>
    obtain ⟨hresp, now, rfl, hfit⟩ := hes
    obtain ⟨rfl, hurl, hregion⟩ := hg
    have hsame : sent = sent' ∧ response = response' := by simpa using hret
    obtain ⟨rfl, rfl⟩ := hsame
    apply iff_of_true
    · exact ⟨_, rfl, rfl, usageArgs_requestId app keyId hresp, rfl⟩
    · exact ⟨by simp, (rowFits_usageArgs_iff hresp hurl hregion now).mp hfit⟩
  | refused sent' response' args =>
    obtain ⟨hresp, rfl, now, hno⟩ := hes
    obtain ⟨rfl, hurl, hregion⟩ := hg
    have hsame : sent = sent' ∧ response = response' := by simpa using hret
    obtain ⟨rfl, rfl⟩ := hsame
    apply iff_of_false
    · rintro ⟨row, hrow, -⟩
      cases hrow
    · rintro ⟨-, hfit⟩
      exact hno ((rowFits_usageArgs_iff hresp hurl hregion now).mpr hfit)

/-- In every interleaving the new rows are those put in by the requests; and a finished request
whose scrape returned has put in its one row exactly if no session call failed after the scrape
and the table takes the row. -/
theorem recordedOnce_iff_usageFits {app : App} (ht : app.usageTracker = some .record)
    {db : UsageDb} {incoming : I → Incoming} {c : UsageRequests I}
    (hc : UsageReach (startUsage app db incoming) c) :
    c.shared.db.usageRecords = db.usageRecords ++ rowsOf (c.shared.log.map Prod.snd) ∧
    ∀ i sent response, .returned sent response ∈ eventsOf c.shared.log i →
      (∃ out, c.prog i = .done out) →
      (RecordedOnce (incoming i).keyId response (eventsOf c.shared.log i) ↔
        .sessionFailed ∉ eventsOf c.shared.log i ∧
          UsageFits app db (incoming i).keyId (incoming i).request response) := by
  have hinv : UsageInv db (startUsage app db incoming).shared
      (startUsage app db incoming).stage := ⟨rfl, (List.append_nil _).symm, fun _ ↦ rfl⟩
  obtain ⟨hend, hf⟩ := Prog.interleaving_sound (J := UsageInv db)
    (fun s stage i o r s' h ha he ↦ ⟨trivial, h.step ha he⟩) hc hinv
    (fun i ↦ follows_executeOneScrape_usage ht (incoming i).request (incoming i).keyId _)
  refine ⟨hend.rows, ?_⟩
  intro i sent response hret hdone
  obtain ⟨out, hp⟩ := hdone
  have hg := hf i
  rw [hp] at hg
  exact recordedOnce_iff_of_endsWell hg (hend.events i) hret

end Interleaving

private def recordApp : App := ⟨true, false, false, false, some .record, ⟨id, id, some, some⟩, {}⟩

private def recordDb : UsageDb := ⟨["key_a"], []⟩

private def recordIncoming (region : String) (_ : Unit) : Incoming :=
  ⟨{ url := "https://example.com", region := some region }, "key_a", true⟩

private def idleWorker : ASBWorker := ⟨"worker-us-0", ⟨0, "decodo"⟩, none, none, false⟩

private def idleCall (region : String) : ASBWorker.Call :=
  ⟨(recordIncoming region ()).request, ⟨default, 0⟩,
    ⟨fun _ ↦ .error ⟨.other, ""⟩, .error ⟨.other, ""⟩, .error ⟨.other, ""⟩⟩⟩

private def idleResponse (region : String) : ScrapeResponse := idleWorker.respond (idleCall region)

private theorem idleResponse_isResponse (region : String) :
    ASBWorker.IsResponse (recordIncoming region ()).request (idleResponse region) :=
  ⟨idleWorker, none, idleCall region, rfl, rfl⟩

private def idleArgs (region : String) : UsageArgs :=
  usageArgs recordApp (recordIncoming region ()).request "key_a" (idleResponse region)

private def idleState (region : String) : UsageState Unit :=
  ⟨recordDb, [((), .returned (recordIncoming region ()).request (idleResponse region))]⟩

/-- The whole request, with the answer to the insert. -/
private theorem reach_done (region : String) {r : Except Exn Unit} {s : UsageState Unit}
    (h : UsageExec () (.usage (.record (idleArgs region))) (idleState region) r s) :
    ∃ c, UsageReach (startUsage recordApp recordDb (recordIncoming region)) c ∧ c.shared = s ∧
      ∃ out, c.prog () = .done out := by
  have hstart : UsageReach (startUsage recordApp recordDb (recordIncoming region))
      (startUsage recordApp recordDb (recordIncoming region)) := .refl
  have hurl := hstart.tail (.call () rfl (UsageExec.validateUrl (r := .ok "https://example.com")))
  have hpermit := hurl.tail (.call () rfl (@UsageExec.pool _ _ (.acquirePermit _) _ (.ok "us")))
  have htaken := hpermit.tail (.call () rfl (@UsageExec.pool _ _ (.takeIdle _) _
    (.ok (some ⟨"us", 0⟩))))
  have hmade := htaken.tail (.call () rfl (.returned (idleResponse_isResponse region)))
  have hrow := hmade.tail (.call () rfl h)
  cases r with
  | ok u =>
    exact ⟨_, hrow.tail (.call () rfl (@UsageExec.pool _ _ (.release _ _) _ (.ok ()))), rfl,
      _, rfl⟩
  | error e =>
    exact ⟨_, hrow.tail (.call () rfl (@UsageExec.pool _ _ (.release _ _) _ (.ok ()))), rfl,
      _, rfl⟩

/-- A request for a region with a short name has its row. -/
theorem recordedOnce_iff_usageFits_sample :
    ∃ c, UsageReach (startUsage recordApp recordDb (recordIncoming "us")) c ∧
      (RecordedOnce "key_a" (idleResponse "us") (eventsOf c.shared.log ()) ↔
        .sessionFailed ∉ eventsOf c.shared.log () ∧
          UsageFits recordApp recordDb "key_a" (recordIncoming "us" ()).request
            (idleResponse "us")) := by
  have hrec : PostgresUsageTracker.record recordDb ((idleArgs "us").row 0) =
      .ok ⟨["key_a"], [(idleArgs "us").row 0]⟩ := by
    decide +kernel
  obtain ⟨c, hc, hs, hdone⟩ := reach_done "us" (.inserted hrec)
  have hret : .returned (recordIncoming "us" ()).request (idleResponse "us") ∈
      eventsOf c.shared.log () := by
    rw [hs]
    exact List.mem_cons_self
  exact ⟨c, hc, (recordedOnce_iff_usageFits rfl hc).2 () _ _ hret hdone⟩

/-- Not every scrape that returned has its row: a region of nine characters does not fit. -/
theorem not_recordedOnce : ¬ ∀ (app : App) (db : UsageDb) (incoming : Unit → Incoming)
    (c : UsageRequests Unit), app.usageTracker = some .record →
    (∀ i, (incoming i).keyId ∈ db.apiKeys) →
    UsageReach (startUsage app db incoming) c → ∀ i sent response,
    .returned sent response ∈ eventsOf c.shared.log i → (∃ out, c.prog i = .done out) →
    RecordedOnce (incoming i).keyId response (eventsOf c.shared.log i) := by
  intro h
  have hrec : PostgresUsageTracker.record recordDb ((idleArgs "us-east-1").row 0) =
      .error (.stringDataRightTruncation "region") := by
    decide +kernel
  obtain ⟨c, hc, hs, hdone⟩ := reach_done "us-east-1" (.refused hrec)
  have hret : .returned (recordIncoming "us-east-1" ()).request (idleResponse "us-east-1") ∈
      eventsOf c.shared.log () := by
    rw [hs]
    exact List.mem_cons_self
  obtain ⟨row, hrow, -⟩ := h recordApp recordDb (recordIncoming "us-east-1") c rfl
    (fun _ ↦ List.mem_cons_self) hc () _ _ hret hdone
  rw [hs] at hrow
  cases hrow

end AsbCloudApi.Routes
