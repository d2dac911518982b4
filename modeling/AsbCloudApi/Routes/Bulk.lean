import AsbCloudApi.Api.ErrorHandler
import AsbCloudApi.Routes.Scrape

/-!
# Bulk scrapes

Library `Routes`. Models `bulk_scrape` of `src/asb_api/api/routes/scrape.py`. Its items are
coroutines that share a semaphore; what they do in between is answered by any environment.
Every interleaving ends with one entry for each item, in the order of the items, and the
entry reports how the scrape of that item ended on the answers that it was given.
-/

namespace AsbCloudApi.Routes

open Base Api Session Workers

/-- `BulkScrapeRequest`; `src/asb_api/session/models.py:62–65`. -/
structure BulkScrapeRequest where
  items : List ScrapeRequest
  maxConcurrency : Int := 8

/-- `BulkItemResult`; `src/asb_api/session/models.py:68–72`. -/
structure BulkItemResult where
  index : Nat
  result : Option ScrapeResponse := none
  error : Option (Dict String PyVal) := none

/-- `MAX_BULK_CONCURRENCY`. -/
def maxBulkConcurrency : Int := 16

/-- `_bulk_error_from_http_exception`; `src/asb_api/api/routes/scrape.py:64–73`. -/
def bulkErrorFromHttpException (f : TextFunctions) (exc : HTTPException) : Dict String PyVal :=
  match exc.detail with
  | .dict detail => Dict.ofList
      [("error_code", (detail.get? "error_code").getD (.str "BAD_REQUEST")),
        ("message", (detail.get? "message").getD (.str (f.strOfDict detail)))]
  | .str detail => Dict.ofList
      [("error_code", .str (if 500 ≤ exc.statusCode then "WORKER_ERROR" else "BAD_REQUEST")),
        ("message", .str detail)]
  | .none => Dict.ofList
      [("error_code", .str (if 500 ≤ exc.statusCode then "WORKER_ERROR" else "BAD_REQUEST")),
        ("message", .str "None")]

/-- The entry of an item whose scrape has ended; `src/asb_api/api/routes/scrape.py:185–195`. -/
def bulkItemResult (f : TextFunctions) (index : Nat) :
    Except Exn ScrapeResponse → BulkItemResult
  | .ok res => { index := index, result := some res }
  | .error (.http e) => { index := index, error := some (bulkErrorFromHttpException f e) }
  | .error (.py e) =>
    { index := index
      error := some (Dict.ofList
        [("error_code", .str "INTERNAL_ERROR"), ("message", .str e.text)]) }

/-- The operations of an item: those of its scrape, and the semaphore around it. -/
inductive BulkOp where
  | acquire
  | release
  | route (o : RouteOp)

/-- What each of them answers. -/
abbrev BulkOp.Ans : BulkOp → Type
  | .acquire => Unit
  | .release => Unit
  | .route o => o.Ans

/-- A coroutine of a bulk request. -/
abbrev BulkProg := Prog Exn BulkOp.Ans

/-- A scrape, as part of an item. -/
def onItem {α : Type} (p : RouteProg α) : BulkProg α :=
  p.embed fun o ↦ .perform (BulkOp.route o)

/-- `_run_one`; `src/asb_api/api/routes/scrape.py:181–195`. -/
def runOne (f : TextFunctions) (app : App) (index : Nat) (req : ScrapeRequest) (keyId : String) :
    BulkProg BulkItemResult := do
  let _ ← .perform BulkOp.acquire
  (do
    let outcome ← (onItem (executeOneScrape app req keyId true)).attempt
    pure (bulkItemResult f index outcome) : BulkProg BulkItemResult).tryFinally
      (.perform BulkOp.release)

/-- `max_conc`; `src/asb_api/api/routes/scrape.py:178`. -/
def maxConc (payload : BulkScrapeRequest) : Int :=
  max 1 (min (if payload.maxConcurrency = 0 then 8 else payload.maxConcurrency) maxBulkConcurrency)

/-- An operation of an item with its answer. -/
abbrev BulkEvent := Prog.Event Exn BulkOp.Ans

/-- An operation of a scrape with its answer. -/
abbrev RouteEvent := Prog.Event Exn RouteOp.Ans

/-- An operation of a scrape, as one of an item. -/
def RouteEvent.inItem (e : RouteEvent) : BulkEvent := ⟨.route e.1, e.2⟩

/-- Whether the semaphore is acquired. -/
def BulkEvent.acquires (e : BulkEvent) : Bool :=
  match e.1 with
  | .acquire => true
  | _ => false

/-- Whether the semaphore is released. -/
def BulkEvent.releases (e : BulkEvent) : Bool :=
  match e.1 with
  | .release => true
  | _ => false

/-- An item that has acquired the semaphore and not released it. -/
def executing (trace : List BulkEvent) : Bool :=
  trace.any BulkEvent.acquires && !trace.any BulkEvent.releases

/-- What an item does from its start to its end, given what its scrape does. -/
def wholeItem (trace : List RouteEvent) : List BulkEvent :=
  ⟨.acquire, .ok ()⟩ :: trace.map RouteEvent.inItem ++ [⟨.release, .ok ()⟩]

/-- The stage of an item is what it has done. It acquires first, and does nothing after the
release; the semaphore raises nothing. -/
def bulkProtocol : Prog.Protocol Exn BulkOp.Ans (List BulkEvent) where
  allowed o trace :=
    match o with
    | .acquire => trace = []
    | _ => executing trace = true
  possible o _ r :=
    match o, r with
    | .route _, _ => True
    | _, .ok _ => True
    | _, .error _ => False
  next o trace r := trace ++ [⟨o, r⟩]

theorem executing_route (trace : List BulkEvent) (o : RouteOp) (r : Except Exn o.Ans) :
    executing (trace ++ [⟨.route o, r⟩]) = executing trace := by
  simp [executing, BulkEvent.acquires, BulkEvent.releases]

theorem executing_release (trace : List BulkEvent) (r : Except Exn Unit) :
    executing (trace ++ [⟨.release, r⟩]) = false := by
  simp [executing, BulkEvent.releases]

/-- The scrape of an item does what it would do alone on the same answers. -/
theorem follows_onItem {α : Type} (p : RouteProg α) {front : List BulkEvent}
    (h : executing front = true) :
    Prog.Follows bulkProtocol (fun r all ↦ executing all = true ∧ ∃ trace,
      all = front ++ trace.map RouteEvent.inItem ∧ Prog.Runs p trace r) (onItem p) front := by
  induction p generalizing front with
  | done r => exact ⟨h, [], by simp, .done r⟩
  | call o k ih =>
    refine ⟨h, fun r _ ↦ ?_⟩
    change Prog.Follows bulkProtocol _ (onItem (k r)) (front ++ [⟨.route o, r⟩])
    apply (ih r ((executing_route front o r).trans h)).mono
    rintro a all ⟨hall, trace, rfl, hruns⟩
    refine ⟨hall, ⟨o, r⟩ :: trace, ?_, .call hruns⟩
    simp [RouteEvent.inItem]

/-- How an item ends: with the entry for the outcome of its scrape. -/
def ItemEnds (f : TextFunctions) (app : App) (index : Nat) (req : ScrapeRequest) (keyId : String)
    (r : Except Exn BulkItemResult) (all : List BulkEvent) : Prop :=
  ∃ trace outcome, all = wholeItem trace ∧
    Prog.Runs (executeOneScrape app req keyId true) trace outcome ∧
    r = .ok (bulkItemResult f index outcome)

theorem follows_runOne (f : TextFunctions) (app : App) (index : Nat) (req : ScrapeRequest)
    (keyId : String) :
    Prog.Follows bulkProtocol (ItemEnds f app index req keyId)
      (runOne f app index req keyId) [] := by
  refine ⟨rfl, fun r hr ↦ ?_⟩
  cases r with
  | error e => exact False.elim hr
  | ok u =>
    -- however the scrape ends, an entry is made of it and the semaphore is released
    change Prog.Follows bulkProtocol _ ((_ : BulkProg BulkItemResult).tryFinally _)
      [⟨.acquire, .ok ()⟩]
    apply Prog.Follows.tryFinally (Q := fun r all ↦ executing all = true ∧ ∃ trace outcome,
      all = [⟨.acquire, .ok ()⟩] ++ trace.map RouteEvent.inItem ∧
      Prog.Runs (executeOneScrape app req keyId true) trace outcome ∧
      r = .ok (bulkItemResult f index outcome))
    · apply Prog.Follows.resume (Q := fun r all ↦ executing all = true ∧ ∃ trace outcome,
        all = [⟨.acquire, .ok ()⟩] ++ trace.map RouteEvent.inItem ∧
        Prog.Runs (executeOneScrape app req keyId true) trace outcome ∧ r = .ok outcome)
      · apply (follows_onItem (executeOneScrape app req keyId true) rfl).resume
        rintro outcome all ⟨hall, trace, htrace, hruns⟩
        exact ⟨hall, trace, outcome, htrace, hruns, rfl⟩
      · rintro _ all ⟨hall, trace, outcome, htrace, hruns, rfl⟩
        exact ⟨hall, trace, outcome, htrace, hruns, rfl⟩
    · rintro r all ⟨hall, trace, outcome, rfl, hruns, rfl⟩
      refine ⟨hall, fun u hu ↦ ?_⟩
      cases u with
      | error e => exact False.elim hu
      | ok u => exact ⟨trace, outcome, rfl, hruns, rfl⟩

/-! ### All items -/

/-- What the items share: the free permits of the semaphore, and everything their scrapes act
on. -/
structure BulkState (W : Type) where
  permits : Nat
  world : W

section System

variable {W : Type} (serve : (o : RouteOp) → W → Except Exn o.Ans → W → Prop)

/-- A step of an item. It acquires a permit once there is one, and gives it back; the environment
answers its scrape. -/
inductive BulkExec : (o : BulkOp) → BulkState W → Except Exn o.Ans → BulkState W → Prop
  | acquire {permits : Nat} {w : W} : BulkExec .acquire ⟨permits + 1, w⟩ (.ok ()) ⟨permits, w⟩
  | release {permits : Nat} {w : W} : BulkExec .release ⟨permits, w⟩ (.ok ()) ⟨permits + 1, w⟩
  | route {o : RouteOp} {permits : Nat} {w w' : W} {r : Except Exn o.Ans} (h : serve o w r w') :
      BulkExec (.route o) ⟨permits, w⟩ r ⟨permits, w'⟩

/-- The semaphore and the world, what each item has done, and what it has still to do. -/
abbrev BulkConfig (W : Type) (payload : BulkScrapeRequest) :=
  Prog.Config Exn BulkOp.Ans BulkItemResult (Fin payload.items.length) (BulkState W)
    (List BulkEvent)

variable (f : TextFunctions) (app : App) (payload : BulkScrapeRequest) (keyId : String)

/-- The batch when its items start. -/
def startBulk (w : W) : BulkConfig W payload where
  shared := ⟨(maxConc payload).toNat, w⟩
  stage _ := []
  prog i := runOne f app i payload.items[i] keyId

/-- Any interleaving of the items. -/
def BulkReach : BulkConfig W payload → BulkConfig W payload → Prop :=
  Relation.ReflTransGen (Prog.Step (fun _ ↦ BulkExec serve) bulkProtocol)

/-- How many items are executing. -/
def executingItems {payload : BulkScrapeRequest} (c : BulkConfig W payload) : Nat :=
  Prog.tally executing c.stage

/-- All items have ended, with these outcomes. -/
def Finished {payload : BulkScrapeRequest} (c : BulkConfig W payload)
    (results : Fin payload.items.length → Except Exn BulkItemResult) : Prop :=
  ∀ i, c.prog i = .done (results i)

/-- Every permit is free or taken by an item that executes. -/
private def PermitsKept {I : Type} [Fintype I] (n : Nat) (s : BulkState W)
    (stage : I → List BulkEvent) : Prop :=
  s.permits + Prog.tally executing stage = n

variable {serve} in
private theorem PermitsKept.step {I : Type} [Fintype I] [DecidableEq I] {n : Nat}
    {s s' : BulkState W} {stage : I → List BulkEvent} {i : I} {o : BulkOp} {r : Except Exn o.Ans}
    (h : PermitsKept n s stage) (ha : bulkProtocol.allowed o (stage i))
    (he : BulkExec serve o s r s') :
    bulkProtocol.possible o (stage i) r ∧
      PermitsKept n s' (Function.update stage i (bulkProtocol.next o (stage i) r)) := by
  have ht := Prog.tally_update executing stage i (bulkProtocol.next o (stage i) r)
  unfold PermitsKept at h ⊢
  cases he with
  | acquire =>
    have hidle : stage i = [] := ha
    have hnext : executing (stage i ++ [⟨.acquire, .ok ()⟩]) = true := by rw [hidle]; rfl
    have hbefore : executing (stage i) = false := by rw [hidle]; rfl
    refine ⟨trivial, ?_⟩
    simp only [bulkProtocol, hnext, hbefore, Bool.toNat_true, Bool.toNat_false] at ht h ⊢
    omega
  | release =>
    have hbefore : executing (stage i) = true := ha
    have hnext := executing_release (stage i) (.ok ())
    refine ⟨trivial, ?_⟩
    simp only [bulkProtocol, hnext, hbefore, Bool.toNat_true, Bool.toNat_false] at ht h ⊢
    omega
  | @route o _ _ _ r _ =>
    have hnext := executing_route (stage i) o r
    refine ⟨trivial, ?_⟩
    simp only [bulkProtocol, hnext] at ht h ⊢
    omega

variable {serve f app payload keyId}

/-- Any interleaving keeps the permits, and each item runs as it would alone. -/
theorem bulk_sound {w : W} {c : BulkConfig W payload}
    (hc : BulkReach serve payload (startBulk f app payload keyId w) c) :
    c.shared.permits + executingItems c = (maxConc payload).toNat ∧
      ∀ i : Fin payload.items.length, Prog.Follows bulkProtocol
        (ItemEnds f app i payload.items[i] keyId) (c.prog i) (c.stage i) := by
  have hstart : PermitsKept (maxConc payload).toNat (startBulk f app payload keyId w).shared
      (startBulk f app payload keyId w).stage :=
    congrArg ((maxConc payload).toNat + ·) (Prog.tally_eq_zero fun _ ↦ rfl)
  exact Prog.interleaving_sound (J := PermitsKept (maxConc payload).toNat)
    (fun _ _ _ _ _ _ h ha he ↦ h.step ha he) hc hstart
    (fun i ↦ follows_runOne f app i payload.items[i] keyId)

/-- What an item may ask for is answered, provided a permit is free when it starts. -/
private theorem BulkExec.served (hserve : ∀ o w, ∃ r w', serve o w r w') {o : BulkOp}
    {trace : List BulkEvent} {s : BulkState W} (ha : bulkProtocol.allowed o trace)
    (hr : trace = [] → 0 < s.permits) :
    ∃ r s', BulkExec serve o s r s' ∧ bulkProtocol.possible o trace r ∧
      (bulkProtocol.next o trace r = [] → 0 < s'.permits) := by
  obtain ⟨permits, w⟩ := s
  cases o with
  | acquire =>
    obtain ⟨n, rfl⟩ : ∃ n, permits = n + 1 := Nat.exists_eq_add_one.mpr (hr ha)
    exact ⟨_, _, .acquire, trivial, fun h ↦ absurd h (by simp [bulkProtocol])⟩
  | release => exact ⟨_, _, .release, trivial, fun _ ↦ Nat.succ_pos _⟩
  | route o =>
    obtain ⟨r, w', h⟩ := hserve o w
    exact ⟨r, _, .route h, trivial, fun h ↦ absurd h (by simp [bulkProtocol])⟩

end System

end AsbCloudApi.Routes
