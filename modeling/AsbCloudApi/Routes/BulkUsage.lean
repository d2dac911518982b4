import AsbCloudApi.Api.Usage
import AsbCloudApi.Db.DailyUsage
import AsbCloudApi.Routes.Bulk
import AsbCloudApi.Routes.UsageRows

/-!
# Usage of bulk scrapes

Library `Routes`. The items of a batch count on one of the two usage trackers, while everything
else that they act on answers as it likes. What a key has used is the count of the tracker in
memory, or its rows in the database, which are the quota there. An item is counted after its
scrape, so the count grows by the number of items exactly if none of them ends before that.
-/

namespace AsbCloudApi.Routes

open Base Api Db Session Workers

private theorem countP_snoc {α : Type} (p : α → Bool) (xs : List α) (x : α) :
    (xs ++ [x]).countP p = xs.countP p + (p x).toNat := by
  rw [List.countP_append, List.countP_singleton]
  cases p x <;> rfl

/-- Whether an answer of the tracker means that a key has been counted once. -/
def UsageOp.counts (o : UsageOp) (keyId : String) (r : Except Exn Unit) : Bool :=
  r.isOk && o.args.keyId = keyId

/-- `record` of the tracker of the database: a row is inserted, or the statement fails. -/
def insertUsage (db : UsageDb) (args : UsageArgs) (now : ℚ) : Except Exn Unit × UsageDb :=
  match PostgresUsageTracker.record db (args.row now) with
  | .ok db' => (.ok (), db')
  | .error e => (.error e.exn, db)

/-- A row is added exactly if the insert succeeds. -/
theorem countP_insertUsage (db : UsageDb) (args : UsageArgs) (now : ℚ) (p : UsageRecord → Bool) :
    (insertUsage db args now).2.usageRecords.countP p =
      db.usageRecords.countP p +
        ((insertUsage db args now).1.isOk && p (args.row now)).toNat := by
  unfold insertUsage
  split
  · next db' hrow =>
    obtain ⟨-, rfl⟩ := (record_ok_iff ..).mp hrow
    exact countP_snoc p _ _
  · simp [Except.isOk, Except.toBool]

/-- The usage tracker of an application. -/
inductive UsageBackend where
  | memory (tracker : UsageTracker)
  | postgres (db : UsageDb)

namespace UsageBackend

/-- An operation of the tracker at an instant. Only the tracker of the database has `record`; its
`increment` records a minimal entry. -/
def call : UsageBackend → UsageOp → ℚ → Except Exn Unit × UsageBackend
  | .memory tracker, .increment keyId, now =>
    (.ok (), .memory (tracker.increment keyId (dayOf now)))
  | .memory tracker, .record _, _ =>
    (.error (.py ⟨.other, "'UsageTracker' object has no attribute 'record'"⟩), .memory tracker)
  | .postgres db, o, now => ((insertUsage db o.args now).1, .postgres (insertUsage db o.args now).2)

/-- What a key has used on the day of an instant: `get` of the tracker in memory, and the rows of
the database. Those are counted here, since `get` of the tracker of the database raises. -/
def count : UsageBackend → String → ℚ → Int
  | .memory tracker, keyId, now => (tracker.get keyId (dayOf now)).1
  | .postgres db, keyId, now => db.usageRecords.countP (onDate keyId (dayOf now))

/-- Whether the tracker takes an operation: in memory it has only `increment`, and the table takes
the rows that fit it. -/
def Accepts (now : ℚ) : UsageBackend → UsageOp → Prop
  | .memory _, .increment _ => True
  | .memory _, .record _ => False
  | .postgres db, o => RowFits db (o.args.row now)

theorem call_isOk (b : UsageBackend) (o : UsageOp) (t now : ℚ) :
    (b.call o t).1.isOk = true ↔ b.Accepts now o := by
  cases b with
  | memory tracker =>
    cases o with
    | record args => exact ⟨nofun, nofun⟩
    | increment key => exact ⟨fun _ ↦ trivial, fun _ ↦ rfl⟩
  | postgres db =>
    have hfits : RowFits db (o.args.row now) ↔ RowFits db (o.args.row t) :=
      rowFits_row_iff rfl o.args now t
    simp only [call, insertUsage, Accepts, hfits]
    split
    · next db' hrow => exact ⟨fun _ ↦ ((record_ok_iff ..).mp hrow).1, fun _ ↦ rfl⟩
    · next e hrow =>
      refine ⟨nofun, fun h ↦ ?_⟩
      rw [(record_ok_iff ..).mpr ⟨h, rfl⟩] at hrow
      cases hrow

/-- The tracker takes the same operations all along. -/
theorem accepts_call (b : UsageBackend) (o o' : UsageOp) (t now : ℚ) :
    (b.call o t).2.Accepts now o' ↔ b.Accepts now o' := by
  cases b with
  | memory tracker => cases o <;> cases o' <;> rfl
  | postgres db =>
    apply rowFits_row_iff
    unfold insertUsage
    split
    · next db' hrow => rw [((record_ok_iff ..).mp hrow).2]
    · rfl

theorem count_congr (b : UsageBackend) (keyId : String) {t now : ℚ} (h : dayOf t = dayOf now) :
    b.count keyId t = b.count keyId now := by
  cases b <;> simp only [count, h]

/-- An operation counts once for its key if it succeeds, and not at all if it fails. -/
theorem count_call (b : UsageBackend) {now t : ℚ} (ht : dayOf t = dayOf now) (o : UsageOp)
    (keyId : String) :
    (b.call o t).2.count keyId now =
      b.count keyId now + (o.counts keyId (b.call o t).1).toNat := by
  cases b with
  | memory tracker =>
    cases o with
    | record args => exact (Int.add_zero _).symm
    | increment key =>
      simp only [call, count, ht, UsageTracker.get_increment]
      by_cases hk : key = keyId
      · simp [UsageOp.counts, UsageOp.args, hk, Except.isOk, Except.toBool]
      · simp [UsageOp.counts, UsageOp.args, hk]
  | postgres db =>
    have hrow : onDate keyId (dayOf now) (o.args.row t) = decide (o.args.keyId = keyId) := by
      simp [onDate, UsageArgs.row, ht]
    change (((insertUsage db o.args t).2.usageRecords.countP _ : Nat) : Int) = _
    rw [countP_insertUsage, hrow, Nat.cast_add]
    rfl

end UsageBackend

/-! ### What an item does -/

/-- Whether an operation of an item counts a key. -/
def RouteEvent.counts (keyId : String) (e : RouteEvent) : Bool :=
  match e with
  | ⟨.usage o, r⟩ => o.counts keyId r
  | _ => false

/-- Whether an item goes on after an operation: it did not fail, a lookup found a session of the
key, and a worker was idle. After its worker is released, an item has no more to do. -/
def RouteEvent.goesOn (keyId : String) (e : RouteEvent) : Bool :=
  match e with
  | ⟨.session (.get _), .ok (some session)⟩ => session.keyId = keyId
  | ⟨.session (.get _), .ok none⟩ => false
  | ⟨.pool (.takeIdle _), .ok worker⟩ => worker.isSome
  | ⟨.pool (.release _ _), _⟩ => true
  | ⟨_, .ok _⟩ => true
  | ⟨_, .error _⟩ => false

/-- What has to be set up for an item to be counted. -/
structure CanCount (app : App) (request : ScrapeRequest) : Prop where
  pool : app.pool = true
  store : truthy request.sessionId = true → app.sessionStore = true
  tracker : app.usageTracker.isSome = true

/-- An operation of which every answer is either an error or something to go on with. -/
def RouteOp.plain : RouteOp → Bool
  | .session (.get _) => false
  | .pool (.takeIdle _) => false
  | .pool (.release _ _) => false
  | .usage _ => false
  | _ => true

section Item

variable {keyId : String} {trace : List RouteEvent} {e : RouteEvent}

/-- Nothing has kept the item from being counted, and it is not counted yet. -/
def Pending (keyId : String) (trace : List RouteEvent) : Prop :=
  (∀ e ∈ trace, e.goesOn keyId = true) ∧ trace.countP (RouteEvent.counts keyId) = 0

/-- Something has kept the item from being counted. -/
def Stopped (keyId : String) (trace : List RouteEvent) : Prop :=
  (∃ e ∈ trace, e.goesOn keyId = false) ∧ trace.countP (RouteEvent.counts keyId) = 0

/-- The item has been counted. -/
def Counted (keyId : String) (trace : List RouteEvent) : Prop :=
  (∀ e ∈ trace, e.goesOn keyId = true) ∧ trace.countP (RouteEvent.counts keyId) = 1

/-- What counts a key is no failure. -/
theorem goesOn_of_counts (h : e.counts keyId = true) : e.goesOn keyId = true := by
  obtain ⟨o, r⟩ := e
  cases o with
  | usage o =>
    cases r with
    | ok u => rfl
    | error e => cases h
  | _ => cases h

theorem counts_of_kind {o : RouteOp} (h : o.kind ≠ .usage) (r : Except Exn o.Ans) :
    RouteEvent.counts keyId ⟨o, r⟩ = false := by
  cases o with
  | usage o => exact absurd rfl h
  | _ => rfl

theorem plain_counts {o : RouteOp} (h : o.plain = true) (r : Except Exn o.Ans) :
    RouteEvent.counts keyId ⟨o, r⟩ = false := by
  cases o with
  | usage o => cases h
  | _ => rfl

theorem plain_goesOn (keyId : String) {o : RouteOp} (h : o.plain = true) (r : Except Exn o.Ans) :
    RouteEvent.goesOn keyId ⟨o, r⟩ = r.isOk := by
  cases o with
  | usage o => cases h
  | session o =>
    cases o with
    | get sessionId => cases h
    | _ => cases r <;> rfl
  | pool o =>
    cases o with
    | takeIdle region => cases h
    | release worker region => cases h
    | _ => cases r <;> rfl
  | _ => cases r <;> rfl

private theorem forall_snoc {P : RouteEvent → Prop} (h : ∀ e ∈ trace, P e) (he : P e) :
    ∀ e' ∈ trace ++ [e], P e' := by
  intro e' hmem
  rcases List.mem_append.mp hmem with hmem | hmem
  · exact h e' hmem
  · rwa [List.mem_singleton.mp hmem]

theorem Pending.goOn (h : Pending keyId trace) (hgo : e.goesOn keyId = true)
    (hcount : e.counts keyId = false) : Pending keyId (trace ++ [e]) :=
  ⟨forall_snoc h.1 hgo, by rw [countP_snoc, h.2, hcount]; rfl⟩

theorem Pending.stop (h : Pending keyId trace) (hstop : e.goesOn keyId = false) :
    Stopped keyId (trace ++ [e]) := by
  refine ⟨⟨e, by simp, hstop⟩, ?_⟩
  have hcount : e.counts keyId = false := by
    by_contra hcount
    rw [goesOn_of_counts (by simpa using hcount)] at hstop
    cases hstop
  rw [countP_snoc, h.2, hcount]
  rfl

theorem Pending.count (h : Pending keyId trace) (hcount : e.counts keyId = true) :
    Counted keyId (trace ++ [e]) :=
  ⟨forall_snoc h.1 (goesOn_of_counts hcount), by rw [countP_snoc, h.2, hcount]; rfl⟩

theorem Stopped.goOn (h : Stopped keyId trace) (hcount : e.counts keyId = false) :
    Stopped keyId (trace ++ [e]) := by
  obtain ⟨⟨s, hs, hstop⟩, hzero⟩ := h
  exact ⟨⟨s, List.mem_append_left _ hs, hstop⟩, by rw [countP_snoc, hzero, hcount]; rfl⟩

theorem Counted.goOn (h : Counted keyId trace) (hgo : e.goesOn keyId = true)
    (hcount : e.counts keyId = false) : Counted keyId (trace ++ [e]) :=
  ⟨forall_snoc h.1 hgo, by rw [countP_snoc, h.2, hcount]; rfl⟩

/-- How a part of an item ends before the item is counted: it goes on, or it has been stopped. -/
def GoesOn {α : Type} (keyId : String) (r : Except Exn α) (trace : List RouteEvent) : Prop :=
  match r with
  | .ok _ => Pending keyId trace
  | .error _ => Stopped keyId trace

theorem Pending.answer (h : Pending keyId trace) {o : RouteOp} (ho : o.plain = true)
    (r : Except Exn o.Ans) : GoesOn keyId r (trace ++ [⟨o, r⟩]) := by
  have hgo := plain_goesOn keyId ho r
  cases r with
  | ok a => exact h.goOn hgo (plain_counts ho _)
  | error e => exact h.stop hgo

/-- A coroutine that does as it is told by the answers. -/
private abbrev Does {α : Type} (Q : Except Exn α → List RouteEvent → Prop) (p : RouteProg α)
    (trace : List RouteEvent) : Prop := Prog.Follows Prog.Protocol.traced Q p trace

theorem Pending.perform (h : Pending keyId trace) {o : RouteOp} (ho : o.plain = true) :
    Does (GoesOn keyId) (.perform o) trace :=
  ⟨trivial, fun r _ ↦ h.answer ho r⟩

variable {app : App} {request : ScrapeRequest}

/-- How the part before the lease ends: the item goes on, it has been stopped, or something is
not set up. -/
private def Begun {α : Type} (app : App) (request : ScrapeRequest) (keyId : String)
    (r : Except Exn α) (trace : List RouteEvent) : Prop :=
  match r with
  | .ok _ => Pending keyId trace ∧ app.pool = true ∧
      (truthy request.sessionId = true → app.sessionStore = true)
  | .error _ => Stopped keyId trace ∨ Pending keyId trace ∧ ¬ CanCount app request

private theorem does_openSession (h : Pending keyId trace) (hpool : app.pool = true) :
    Does (Begun app request keyId) (openSession app request keyId) trace := by
  unfold openSession
  split
  · next hno => exact ⟨h, hpool, fun hyes ↦ by simp [hyes] at hno⟩
  next hyes =>
  split
  · next hstore =>
    refine .inr ⟨h, fun hcan ↦ ?_⟩
    simp [hcan.store (by simpa using hyes)] at hstore
  next hstore =>
  have hset : truthy request.sessionId = true → app.sessionStore = true := fun _ ↦ by
    simpa using hstore
  refine ⟨trivial, fun found _ ↦ ?_⟩
  match found with
  | .error e => exact .inl (h.stop rfl)
  | .ok none => exact .inl (h.stop rfl)
  | .ok (some session) =>
    change Does _ (_ >>= _) _
    unfold ensureSessionOwner
    split
    · next hforeign => exact .inl (h.stop (decide_eq_false hforeign))
    · next hown =>
      have hgo := h.goOn (e := ⟨.session (.get (request.sessionId.getD "")), .ok (some session)⟩)
        (decide_eq_true (not_not.mp hown)) rfl
      change Does _ (ite _ _ _) _
      split
      · apply (hgo.perform rfl).bind
        · exact fun _ _ hgo ↦ ⟨hgo, hpool, hset⟩
        · exact fun _ _ hstop ↦ .inl hstop
      · exact ⟨hgo, hpool, hset⟩

private theorem does_prelude (h : Pending keyId trace) (app : App) (request : ScrapeRequest) :
    Does (Begun app request keyId) (prelude app request keyId true) trace := by
  unfold prelude
  apply (h.perform rfl).bind
  · intro url trace h
    change Does _ (ite _ _ _) trace
    split
    · next hpool =>
      refine .inr ⟨h, fun hcan ↦ ?_⟩
      simp [hcan.pool] at hpool
    · next hpool => exact does_openSession h (by simpa using hpool)
  · exact fun _ _ hstop ↦ .inl hstop

private theorem does_acquire (h : Pending keyId trace) (region : Option String) :
    Does (GoesOn keyId) (onPool (RegionWorkerPool.acquire region)) trace := by
  refine ⟨trivial, fun r _ ↦ ?_⟩
  have hr := h.answer (o := .pool (.acquirePermit region)) rfl r
  cases r with
  | error e => exact hr
  | ok region =>
    refine ⟨trivial, fun taken _ ↦ ?_⟩
    match taken with
    | .error e => exact Pending.stop hr rfl
    | .ok (some worker) => exact Pending.goOn hr rfl rfl
    | .ok none =>
      refine ⟨trivial, fun u _ ↦ ?_⟩
      have hstop := (Pending.stop (e := ⟨.pool (.takeIdle region), .ok none⟩) hr rfl).goOn
        (e := ⟨.pool (.releasePermit region), u⟩) rfl
      cases u with
      | error e => exact hstop
      | ok u => exact hstop

private theorem does_withSessionCookies (h : Pending keyId trace) (session : Option SessionInfo)
    (request : ScrapeRequest) :
    Does (GoesOn keyId) (withSessionCookies session request) trace := by
  unfold withSessionCookies
  split
  · exact h
  · split
    · exact h
    · exact (h.perform rfl).bind (fun _ _ hgo ↦ hgo) (fun _ _ hstop ↦ hstop)

private theorem does_updateSession (h : Pending keyId trace) (app : App)
    (request : ScrapeRequest) (result : ScrapeResponse) :
    Does (GoesOn keyId) (updateSession app request result) trace := by
  unfold updateSession
  split
  · exact (h.perform rfl).bind (fun _ _ hgo ↦ hgo.perform rfl) (fun _ _ hstop ↦ hstop)
  · exact h

/-- How an item is at the end of the work with its worker. -/
private def Ended (app : App) (keyId : String) (trace : List RouteEvent) : Prop :=
  (Counted keyId trace ∧ app.usageTracker.isSome = true) ∨ Stopped keyId trace ∨
    (Pending keyId trace ∧ app.usageTracker.isSome = false)

private theorem does_recordUsage (h : Pending keyId trace) (app : App)
    (request : ScrapeRequest) (result : ScrapeResponse) :
    Does (fun _ trace ↦ Ended app keyId trace) (recordUsage app request keyId result) trace := by
  unfold recordUsage
  have hcount (o : UsageOp) (ho : o.args.keyId = keyId) (htracker : app.usageTracker.isSome = true)
      (r : Except Exn Unit) : Ended app keyId (trace ++ [⟨.usage o, r⟩]) := by
    cases r with
    | ok u => exact .inl ⟨h.count (decide_eq_true ho), htracker⟩
    | error e => exact .inr (.inl (h.stop rfl))
  split
  · next htracker => exact .inr (.inr ⟨h, by rw [htracker]; rfl⟩)
  · next htracker => exact ⟨trivial, fun r _ ↦ hcount _ rfl (by rw [htracker]; rfl) r⟩
  · next htracker => exact ⟨trivial, fun r _ ↦ hcount _ rfl (by rw [htracker]; rfl) r⟩

private theorem does_scrapeWith (h : Pending keyId trace) (app : App) (request : ScrapeRequest)
    (session : Option SessionInfo) (worker : WorkerRef) :
    Does (fun _ trace ↦ Ended app keyId trace) (scrapeWith app request keyId session worker)
      trace := by
  have hstopped {α : Type} (e : Exn) (trace : List RouteEvent)
      (hstop : GoesOn keyId (.error e : Except Exn α) trace) : Ended app keyId trace :=
    .inr (.inl hstop)
  unfold scrapeWith
  apply (does_withSessionCookies h session request).bind
  · intro request trace h
    apply (Pending.perform h rfl).bind
    · intro result trace h
      apply (does_updateSession h app request result).bind
      · intro u trace h
        apply (does_recordUsage h app request result).bind
        · exact fun _ _ hend ↦ hend
        · exact fun _ _ hend ↦ hend
      · exact hstopped
    · exact hstopped
  · exact hstopped

/-- An item has been counted if all is set up and nothing has stopped it; else it has not been. -/
private theorem does_executeOneScrape (app : App) (request : ScrapeRequest) (keyId : String) :
    Does (fun _ trace ↦ (Counted keyId trace ∧ CanCount app request) ∨ Stopped keyId trace ∨
      (Pending keyId trace ∧ ¬ CanCount app request)) (executeOneScrape app request keyId true)
      [] := by
  have hstart : Pending keyId [] := ⟨by simp, rfl⟩
  unfold executeOneScrape
  apply (does_prelude hstart app request).bind
  · rintro session trace ⟨h, hpool, hstore⟩
    apply (does_acquire h request.region).bind
    · intro worker trace h
      apply (does_scrapeWith h app request session worker).tryFinally
      intro r trace hend
      refine ⟨trivial, fun u _ ↦ ?_⟩
      have hreleased : (Counted keyId (trace ++ [⟨.pool (.release worker request.region), u⟩]) ∧
          CanCount app request) ∨
          Stopped keyId (trace ++ [⟨.pool (.release worker request.region), u⟩]) ∨
          (Pending keyId (trace ++ [⟨.pool (.release worker request.region), u⟩]) ∧
            ¬ CanCount app request) := by
        rcases hend with ⟨hcounted, htracker⟩ | hstop | ⟨hpending, htracker⟩
        · exact .inl ⟨hcounted.goOn rfl rfl, hpool, hstore, htracker⟩
        · exact .inr (.inl (hstop.goOn rfl))
        · refine .inr (.inr ⟨hpending.goOn rfl rfl, fun hcan ↦ ?_⟩)
          rw [hcan.tracker] at htracker
          cases htracker
      cases u with
      | ok u => exact hreleased
      | error e => exact hreleased
    · exact fun _ _ hstop ↦ .inr (.inl hstop)
  · exact fun _ _ hend ↦ .inr hend

/-- What the answers of an item say about its count. -/
theorem counts_of_runs {app : App} {request : ScrapeRequest} {keyId : String}
    {trace : List RouteEvent} {r : Except Exn ScrapeResponse}
    (h : Prog.Runs (executeOneScrape app request keyId true) trace r) :
    trace.countP (RouteEvent.counts keyId) ≤ 1 ∧
      (trace.countP (RouteEvent.counts keyId) = 1 ↔
        CanCount app request ∧ ∀ e ∈ trace, e.goesOn keyId = true) := by
  have hend := h.ends (does_executeOneScrape app request keyId)
  rw [List.nil_append] at hend
  rcases hend with ⟨⟨hgo, hone⟩, hcan⟩ | ⟨⟨e, he, hstop⟩, hzero⟩ | ⟨⟨hgo, hzero⟩, hcan⟩
  · exact ⟨hone.le, fun _ ↦ ⟨hcan, hgo⟩, fun _ ↦ hone⟩
  · refine ⟨by omega, fun hone ↦ by omega, fun ⟨_, hgo⟩ ↦ ?_⟩
    rw [hgo e he] at hstop
    cases hstop
  · exact ⟨by omega, fun hone ↦ by omega, fun ⟨hyes, _⟩ ↦ absurd hyes hcan⟩

end Item

/-! ### All items -/

/-- Whether an operation of an item counts a key, the semaphore aside. -/
def BulkEvent.counts (keyId : String) (e : BulkEvent) : Bool :=
  match e with
  | ⟨.route o, r⟩ => RouteEvent.counts keyId ⟨o, r⟩
  | _ => false

/-- Whether an item calls the tracker. -/
def BulkOp.callsTracker : BulkOp → Bool
  | .route o => o.kind = .usage
  | _ => false

theorem counts_of_not_callsTracker {e : BulkEvent} (h : e.1.callsTracker = false)
    (keyId : String) : e.counts keyId = false := by
  obtain ⟨o, r⟩ := e
  cases o with
  | route o => exact counts_of_kind (of_decide_eq_false h) r
  | _ => rfl

theorem countP_wholeItem (keyId : String) (trace : List RouteEvent) :
    (wholeItem trace).countP (BulkEvent.counts keyId) =
      trace.countP (RouteEvent.counts keyId) := by
  have hmap : (trace.map RouteEvent.inItem).countP (BulkEvent.counts keyId) =
      trace.countP (RouteEvent.counts keyId) := List.countP_map
  rw [wholeItem, List.countP_append, List.countP_cons, hmap]
  rfl

theorem inItem_mem_wholeItem {e : RouteEvent} {trace : List RouteEvent} :
    e.inItem ∈ wholeItem trace ↔ e ∈ trace := by
  have hinj : Function.Injective RouteEvent.inItem := by
    rintro ⟨o, r⟩ ⟨o', r'⟩ h
    cases h
    rfl
  have hends : e.inItem ∈ wholeItem trace ↔ e.inItem ∈ trace.map RouteEvent.inItem := by
    simp [wholeItem, RouteEvent.inItem]
  rw [hends, List.mem_map_of_injective hinj]

section System

variable {W : Type} (env : (o : RouteOp) → W → Except Exn o.Ans → W → Prop) (start : ℚ)

/-- What an item asks for is answered by the tracker, at any instant of the day on which the batch
started, or by the rest of the world. -/
inductive UsageServe :
    (o : RouteOp) → UsageBackend × W → Except Exn o.Ans → UsageBackend × W → Prop
  | usage {o : UsageOp} {b : UsageBackend} {w : W} {t : ℚ} (ht : dayOf t = dayOf start) :
      UsageServe (.usage o) (b, w) (b.call o t).1 ((b.call o t).2, w)
  | other {o : RouteOp} {b : UsageBackend} {w w' : W} {r : Except Exn o.Ans}
      (ho : o.kind ≠ .usage) (h : env o w r w') : UsageServe o (b, w) r (b, w')

/-- Whether an item goes on after an operation. Of the tracker, what it takes is asked, not what it
has answered. -/
def Proceeds (tracker : UsageBackend) (start : ℚ) (keyId : String) (e : RouteEvent) : Prop :=
  match e with
  | ⟨.usage o, _⟩ => tracker.Accepts start o
  | e => e.goesOn keyId = true

/-- The count of a key has grown by what the items have counted, and the tracker has answered as it
would have at the start. -/
private structure CountsKept {I : Type} [Fintype I] (keyId : String) (tracker : UsageBackend)
    (s : BulkState (UsageBackend × W)) (stage : I → List BulkEvent) : Prop where
  grown : s.world.1.count keyId start =
    tracker.count keyId start + ∑ i, (stage i).countP (BulkEvent.counts keyId)
  accepts : ∀ o, s.world.1.Accepts start o ↔ tracker.Accepts start o
  answered : ∀ i o r, (⟨.route (.usage o), r⟩ : BulkEvent) ∈ stage i →
    (r.isOk = true ↔ tracker.Accepts start o)

variable {env start}

section Step

variable {I : Type} [Fintype I] [DecidableEq I] {keyId : String} {tracker : UsageBackend}
  {s s' : BulkState (UsageBackend × W)} {stage : I → List BulkEvent} {i : I}

/-- One more operation of an item adds at most its own answer to those of the tracker. -/
private theorem CountsKept.answered_update (h : CountsKept start keyId tracker s stage)
    {e : BulkEvent} (he : ∀ o r, e = ⟨.route (.usage o), r⟩ →
      (r.isOk = true ↔ tracker.Accepts start o)) (j : I) (o : UsageOp) (r : Except Exn Unit)
    (hmem : (⟨.route (.usage o), r⟩ : BulkEvent) ∈
      Function.update stage i (stage i ++ [e]) j) :
    r.isOk = true ↔ tracker.Accepts start o := by
  by_cases hj : j = i
  · subst hj
    rw [Function.update_self] at hmem
    rcases List.mem_append.mp hmem with hmem | hmem
    · exact h.answered j o r hmem
    · exact he o r (List.mem_singleton.mp hmem).symm
  · rw [Function.update_of_ne hj] at hmem
    exact h.answered j o r hmem

/-- What does not concern the tracker counts nothing. -/
private theorem CountsKept.same (h : CountsKept start keyId tracker s stage) {e : BulkEvent}
    (he : e.1.callsTracker = false) (hworld : s'.world.1 = s.world.1) :
    CountsKept start keyId tracker s' (Function.update stage i (stage i ++ [e])) := by
  have hsum := Prog.sum_update (fun trace ↦ trace.countP (BulkEvent.counts keyId)) stage i
    (stage i ++ [e])
  rw [countP_snoc, counts_of_not_callsTracker he, Bool.toNat_false] at hsum
  refine ⟨?_, hworld ▸ h.accepts, h.answered_update fun o r heq ↦ ?_⟩
  · rw [hworld, h.grown]
    omega
  · rw [heq] at he
    cases he

/-- The tracker counts what it takes. -/
private theorem CountsKept.call {permits : Nat} {b : UsageBackend} {w : W}
    (h : CountsKept start keyId tracker ⟨permits, (b, w)⟩ stage) (o : UsageOp) {t : ℚ}
    (ht : dayOf t = dayOf start) :
    CountsKept start keyId tracker ⟨permits, ((b.call o t).2, w)⟩
      (Function.update stage i (stage i ++ [⟨.route (.usage o), (b.call o t).1⟩])) := by
  have hsum := Prog.sum_update (fun trace ↦ trace.countP (BulkEvent.counts keyId)) stage i
    (stage i ++ [⟨.route (.usage o), (b.call o t).1⟩])
  rw [countP_snoc] at hsum
  refine ⟨?_, fun o' ↦ (UsageBackend.accepts_call b o o' t start).trans (h.accepts o'),
    h.answered_update fun o' r heq ↦ ?_⟩
  · have hgrown : b.count keyId start = tracker.count keyId start + _ := h.grown
    have hcall := UsageBackend.count_call b ht o keyId
    have hcount : BulkEvent.counts keyId ⟨.route (.usage o), (b.call o t).1⟩ =
        o.counts keyId (b.call o t).1 := rfl
    rw [hcount] at hsum
    dsimp only
    omega
  · cases heq
    exact (UsageBackend.call_isOk b o t start).trans (h.accepts o)

private theorem CountsKept.step (h : CountsKept start keyId tracker s stage) {o : BulkOp}
    {r : Except Exn o.Ans} (he : BulkExec (UsageServe env start) o s r s') :
    bulkProtocol.possible o (stage i) r ∧
      CountsKept start keyId tracker s'
        (Function.update stage i (bulkProtocol.next o (stage i) r)) := by
  cases he with
  | acquire => exact ⟨trivial, h.same rfl rfl⟩
  | release => exact ⟨trivial, h.same rfl rfl⟩
  | route hserve =>
    refine ⟨trivial, ?_⟩
    cases hserve with
    | usage ht => exact h.call _ ht
    | other ho hother => exact h.same (decide_eq_false ho) rfl

end Step

variable {f : TextFunctions} {app : App} {payload : BulkScrapeRequest} {keyId : String}

/-- What all interleavings keep. -/
private theorem countsKept_of_reach {tracker : UsageBackend} {w : W}
    {c : BulkConfig (UsageBackend × W) payload}
    (hc : BulkReach (UsageServe env start) payload (startBulk f app payload keyId (tracker, w)) c) :
    CountsKept start keyId tracker c.shared c.stage := by
  have hkept : CountsKept start keyId tracker
      (startBulk f app payload keyId (tracker, w)).shared
      (startBulk f app payload keyId (tracker, w)).stage :=
    ⟨by simp [startBulk], fun _ ↦ Iff.rfl,
      fun _ _ _ hmem ↦ (List.not_mem_nil hmem).elim⟩
  exact (Prog.interleaving_sound (J := CountsKept start keyId tracker)
    (fun _ _ _ _ _ _ h _ he ↦ h.step he) hc hkept
    (fun i ↦ follows_runOne f app i payload.items[i] keyId)).1

/-- Once all items of a batch have ended, the count of its key has grown by the number of items
exactly if, for each item, the pool, the tracker and what its session needs are set up; nothing
failed before the release of its worker; a session that it looked up was found and is one of the
key; a worker was idle where it leased one; and the tracker takes what is recorded of it. -/
theorem bulkUsage_iff (env : (o : RouteOp) → W → Except Exn o.Ans → W → Prop) (f : TextFunctions)
    (app : App) (payload : BulkScrapeRequest) (keyId : String) (start : ℚ)
    (tracker : UsageBackend) (w : W)
    {c : BulkConfig (UsageBackend × W) payload}
    (hc : BulkReach (UsageServe env start) payload (startBulk f app payload keyId (tracker, w)) c)
    (results : Fin payload.items.length → Except Exn BulkItemResult) (hfin : Finished c results)
    (now : ℚ) (hday : dayOf now = dayOf start) :
    c.shared.world.1.count keyId now = tracker.count keyId start + payload.items.length ↔
      ∀ i : Fin payload.items.length, CanCount app payload.items[i] ∧
        ∀ e : RouteEvent, e.inItem ∈ c.stage i → Proceeds tracker start keyId e := by
  obtain ⟨-, hf⟩ := bulk_sound hc
  have hkept := countsKept_of_reach hc
  have hproceeds (i : Fin payload.items.length) (e : RouteEvent) (he : e.inItem ∈ c.stage i) :
      e.goesOn keyId = true ↔ Proceeds tracker start keyId e := by
    obtain ⟨o, r⟩ := e
    cases o with
    | usage o =>
      refine Iff.trans ?_ (hkept.answered i o r he)
      cases r <;> rfl
    | _ => rfl
  have hitem (i : Fin payload.items.length) :
      (c.stage i).countP (BulkEvent.counts keyId) ≤ 1 ∧
        ((c.stage i).countP (BulkEvent.counts keyId) = 1 ↔ CanCount app payload.items[i] ∧
          ∀ e : RouteEvent, e.inItem ∈ c.stage i → Proceeds tracker start keyId e) := by
    rw [← forall₂_congr (hproceeds i)]
    have hi := hf i
    rw [hfin i] at hi
    obtain ⟨trace, outcome, hstage, hruns, -⟩ := hi
    simp only [hstage, countP_wholeItem, inItem_mem_wholeItem]
    exact counts_of_runs hruns
  have hall := Finset.sum_eq_sum_iff_of_le (s := Finset.univ) fun i _ ↦ (hitem i).1
  simp only [Finset.mem_univ, forall_const, Finset.sum_const, Finset.card_univ, Fintype.card_fin,
    smul_eq_mul, mul_one, fun i ↦ (hitem i).2] at hall
  rw [UsageBackend.count_congr _ keyId hday, hkept.grown, ← hall]
  omega

end System

private def usageApp (tracker : TrackerKind) : App :=
  ⟨true, false, false, true, some tracker, ⟨id, id, some, some⟩, {}⟩

private def usageTexts : TextFunctions := ⟨⟨id, id, some, some⟩, fun _ ↦ ""⟩

/-- A scrape that succeeds and one that the worker answers with an error. -/
private def scrapedPayload : BulkScrapeRequest :=
  { items := [{ url := "https://example.com" }, { url := "https://example.org" }] }

/-- Also a URL that is refused, and a session that is not known. -/
private def mixedPayload : BulkScrapeRequest :=
  { items := scrapedPayload.items ++
      [{ url := "file:///etc/passwd" },
        { url := "https://example.com", sessionId := some "sess_1" }] }

/-- There is an idle worker, and it can scrape one of the sites. -/
private def usageAnswer : (o : RouteOp) → Except Exn o.Ans
  | .validateUrl url =>
    if url = "file:///etc/passwd" then
      .error (.http (APIError 400 "INVALID_URL_SCHEME" "Unsupported URL scheme" []))
    else .ok url
  | .session (.get _) => .ok none
  | .pool (.acquirePermit _) => .ok "jp"
  | .pool (.takeIdle region) => .ok (some ⟨region, 0⟩)
  | .pool (.releasePermit _) => .ok ()
  | .pool (.release _ _) => .ok ()
  | .scrape _ request =>
    .ok { requestId := "req_1"
          status := if request.url = "https://example.com" then .success else .error }
  | _ => .error (.py ⟨.other, ""⟩)

private abbrev usageEnv : (o : RouteOp) → UsageBackend × Unit → Except Exn o.Ans →
    UsageBackend × Unit → Prop :=
  UsageServe (fun o w r w' ↦ r = usageAnswer o ∧ w' = w) 0

/-- Both items of the scraped batch end, and each has a row. -/
private theorem usageRun_scraped :
    ∃ c : BulkConfig (UsageBackend × Unit) scrapedPayload,
      BulkReach usageEnv scrapedPayload (startBulk usageTexts (usageApp .record) scrapedPayload
        "key_a" (.postgres ⟨["key_a"], []⟩, ())) c ∧
      (∀ i, ∃ r, c.prog i = .done r) ∧ c.shared.world.1.count "key_a" 0 = 2 :=
  ⟨_,
    .head (.call (0 : Fin 2) rfl .acquire) <|
    .head (.call (1 : Fin 2) rfl .acquire) <|
    .head (.call (0 : Fin 2) rfl (.route (.other (by decide) ⟨rfl, rfl⟩))) <|
    .head (.call (0 : Fin 2) rfl (.route (.other (by decide) ⟨rfl, rfl⟩))) <|
    .head (.call (1 : Fin 2) rfl (.route (.other (by decide) ⟨rfl, rfl⟩))) <|
    .head (.call (0 : Fin 2) rfl (.route (.other (by decide) ⟨rfl, rfl⟩))) <|
    .head (.call (0 : Fin 2) rfl (.route (.other (by decide) ⟨rfl, rfl⟩))) <|
    .head (.call (1 : Fin 2) rfl (.route (.other (by decide) ⟨rfl, rfl⟩))) <|
    .head (.call (1 : Fin 2) rfl (.route (.other (by decide) ⟨rfl, rfl⟩))) <|
    .head (.call (1 : Fin 2) rfl (.route (.other (by decide) ⟨rfl, rfl⟩))) <|
    .head (.call (1 : Fin 2) rfl (.route (.usage rfl))) <|
    .head (.call (0 : Fin 2) rfl (.route (.usage rfl))) <|
    .head (.call (0 : Fin 2) rfl (.route (.other (by decide) ⟨rfl, rfl⟩))) <|
    .head (.call (0 : Fin 2) rfl .release) <|
    .head (.call (1 : Fin 2) rfl (.route (.other (by decide) ⟨rfl, rfl⟩))) <|
    .head (.call (1 : Fin 2) rfl .release) .refl,
    Fin.forall_fin_two.mpr ⟨⟨_, rfl⟩, ⟨_, rfl⟩⟩, by decide +kernel⟩

/-- All items of the mixed batch end, and two of them have been counted. -/
private theorem usageRun_mixed :
    ∃ c : BulkConfig (UsageBackend × Unit) mixedPayload,
      BulkReach usageEnv mixedPayload (startBulk usageTexts (usageApp .increment) mixedPayload
        "key_a" (.memory .new, ())) c ∧
      (∀ i, ∃ r, c.prog i = .done r) ∧ c.shared.world.1.count "key_a" 0 = 2 :=
  ⟨_,
    .head (.call (0 : Fin 4) rfl .acquire) <|
    .head (.call (0 : Fin 4) rfl (.route (.other (by decide) ⟨rfl, rfl⟩))) <|
    .head (.call (0 : Fin 4) rfl (.route (.other (by decide) ⟨rfl, rfl⟩))) <|
    .head (.call (2 : Fin 4) rfl .acquire) <|
    .head (.call (0 : Fin 4) rfl (.route (.other (by decide) ⟨rfl, rfl⟩))) <|
    .head (.call (0 : Fin 4) rfl (.route (.other (by decide) ⟨rfl, rfl⟩))) <|
    .head (.call (2 : Fin 4) rfl (.route (.other (by decide) ⟨rfl, rfl⟩))) <|
    .head (.call (2 : Fin 4) rfl .release) <|
    .head (.call (0 : Fin 4) rfl (.route (.usage rfl))) <|
    .head (.call (3 : Fin 4) rfl .acquire) <|
    .head (.call (3 : Fin 4) rfl (.route (.other (by decide) ⟨rfl, rfl⟩))) <|
    .head (.call (0 : Fin 4) rfl (.route (.other (by decide) ⟨rfl, rfl⟩))) <|
    .head (.call (0 : Fin 4) rfl .release) <|
    .head (.call (1 : Fin 4) rfl .acquire) <|
    .head (.call (3 : Fin 4) rfl (.route (.other (by decide) ⟨rfl, rfl⟩))) <|
    .head (.call (3 : Fin 4) rfl .release) <|
    .head (.call (1 : Fin 4) rfl (.route (.other (by decide) ⟨rfl, rfl⟩))) <|
    .head (.call (1 : Fin 4) rfl (.route (.other (by decide) ⟨rfl, rfl⟩))) <|
    .head (.call (1 : Fin 4) rfl (.route (.other (by decide) ⟨rfl, rfl⟩))) <|
    .head (.call (1 : Fin 4) rfl (.route (.other (by decide) ⟨rfl, rfl⟩))) <|
    .head (.call (1 : Fin 4) rfl (.route (.usage rfl))) <|
    .head (.call (1 : Fin 4) rfl (.route (.other (by decide) ⟨rfl, rfl⟩))) <|
    .head (.call (1 : Fin 4) rfl .release) .refl,
    Fin.forall_fin_succ.mpr ⟨⟨_, rfl⟩, Fin.forall_fin_succ.mpr ⟨⟨_, rfl⟩,
      Fin.forall_fin_two.mpr ⟨⟨_, rfl⟩, ⟨_, rfl⟩⟩⟩⟩, by decide +kernel⟩

/-- What keeps an item from being counted is absent from the batch that is scraped, the item that
the worker answers with an error included, and present in the mixed one. -/
theorem bulkUsage_iff_sample :
    (∃ c : BulkConfig (UsageBackend × Unit) scrapedPayload,
      BulkReach usageEnv scrapedPayload (startBulk usageTexts (usageApp .record) scrapedPayload
        "key_a" (.postgres ⟨["key_a"], []⟩, ())) c ∧
      ∀ i : Fin scrapedPayload.items.length,
        CanCount (usageApp .record) scrapedPayload.items[i] ∧
        ∀ e : RouteEvent, e.inItem ∈ c.stage i →
          Proceeds (.postgres ⟨["key_a"], []⟩) 0 "key_a" e) ∧
    ∃ c : BulkConfig (UsageBackend × Unit) mixedPayload,
      BulkReach usageEnv mixedPayload (startBulk usageTexts (usageApp .increment) mixedPayload
        "key_a" (.memory .new, ())) c ∧
      ¬ ∀ i : Fin mixedPayload.items.length,
        CanCount (usageApp .increment) mixedPayload.items[i] ∧
        ∀ e : RouteEvent, e.inItem ∈ c.stage i → Proceeds (.memory .new) 0 "key_a" e := by
  constructor
  · obtain ⟨c, hc, hend, hcount⟩ := usageRun_scraped
    choose results hfin using hend
    exact ⟨c, hc, (bulkUsage_iff _ usageTexts (usageApp .record) scrapedPayload "key_a" 0
      (.postgres ⟨["key_a"], []⟩) () hc results hfin 0 rfl).mp hcount⟩
  · obtain ⟨c, hc, hend, hcount⟩ := usageRun_mixed
    choose results hfin using hend
    refine ⟨c, hc, fun hall ↦ ?_⟩
    have hgrown := (bulkUsage_iff _ usageTexts (usageApp .increment) mixedPayload "key_a" 0
      (.memory .new) () hc results hfin 0 rfl).mpr hall
    rw [hcount] at hgrown
    exact absurd hgrown (by decide +kernel)

/-- Of a batch of four, the refused URL and the unknown session are not counted. -/
theorem not_bulkUsage :
    ∃ (c : BulkConfig (UsageBackend × Unit) mixedPayload)
      (results : Fin mixedPayload.items.length → Except Exn BulkItemResult),
      BulkReach usageEnv mixedPayload (startBulk usageTexts (usageApp .increment) mixedPayload
        "key_a" (.memory .new, ())) c ∧
      Finished c results ∧
      c.shared.world.1.count "key_a" 0 ≠
        (UsageBackend.memory .new).count "key_a" 0 + mixedPayload.items.length := by
  obtain ⟨c, hc, hend, hcount⟩ := usageRun_mixed
  choose results hfin using hend
  refine ⟨c, results, hc, hfin, ?_⟩
  rw [hcount]
  decide +kernel

end AsbCloudApi.Routes
