import AsbCloudApi.Base.Prog
import AsbCloudApi.Base.Run
import AsbCloudApi.Providers.Base
import AsbCloudApi.Session.Models

/-!
# Worker

Library `Workers`. Models `ASBWorker.scrape` of `src/asb_api/workers/worker.py:35–143`. A worker is
leased to one request at a time, so its calls follow each other; the attribute
`_last_proxy_breaker` is all that one call leaves to the next.
-/

namespace AsbCloudApi.Workers

open Base Api Providers Session

/-- A breaker as the worker sees it: the object and the name of its provider. -/
structure Breaker where
  id : Nat
  name : String
  deriving DecidableEq

/-- `Fingerprint`, as far as a response shows it. -/
structure Fingerprint where
  userAgent : String
  deriving DecidableEq

/-- The dictionary that `ASBRunner.run` returns. -/
structure RunResult where
  html : String
  cookies : Dict String String
  headers : Dict String String
  screenshotUrl : Option String
  blockDetected : Bool
  deriving DecidableEq

/-- `ASBWorker`; `src/asb_api/workers/worker.py:11–29`. `started` says that there is a runner. -/
structure ASBWorker where
  workerId : String
  provider : Breaker
  fallbackProvider : Option Breaker
  screenshotDir : Option String
  started : Bool

/-- The first twelve hexadecimal digits of a random UUID. -/
structure UuidHex where
  text : String
  length_eq : text.length = 12
  digits : ∀ c ∈ text.toList, c.isDigit ∨ 'a' ≤ c ∧ c ≤ 'f'

instance : Inhabited UuidHex where
  default :=
    { text := String.ofList (List.replicate 12 '0')
      length_eq := by rw [String.length_ofList, List.length_replicate]
      digits := fun c hc ↦ by
        rw [String.toList_ofList] at hc
        rw [List.eq_of_mem_replicate hc]
        decide }

/-- What a call reads besides its request: a fresh id, and the seconds it took. -/
structure ScrapeEnv where
  uuid : UuidHex
  elapsed : ℚ

/-- What the worker asks of its surroundings, and the accesses to `_last_proxy_breaker`. -/
inductive WorkerOp where
  | getProxy (b : Breaker) (region : Option String)
  | releaseProxy (b : Breaker) (proxy : ProxyConfig)
  | fingerprint (preset : String)
  | run (request : ScrapeRequest) (proxy : Option ProxyConfig) (fp : Fingerprint)
  | loadLast
  | storeLast (b : Option Breaker)

/-- What each operation answers. -/
abbrev WorkerOp.Ans : WorkerOp → Type
  | .getProxy _ _ => ProxyConfig
  | .releaseProxy _ _ => Unit
  | .fingerprint _ => Fingerprint
  | .run _ _ _ => RunResult
  | .loadLast => Option Breaker
  | .storeLast _ => Unit

/-- A coroutine of the worker. -/
abbrev WorkerProg := Prog PyError WorkerOp.Ans

namespace ASBWorker

/-- `ScrapeMetadata(...)` of every response. -/
def metadata (w : ASBWorker) (env : ScrapeEnv) (request : ScrapeRequest) (provider : String)
    (fingerprintId : String) (blockDetected : Bool) : ScrapeMetadata where
  requestId := "req_" ++ env.uuid.text
  provider := provider
  region := request.region
  fingerprintId := fingerprintId
  workerId := w.workerId
  durationMs := pyInt (env.elapsed * 1000)
  blockDetected := blockDetected
  retries := 0

/-- `user_agent[:50]`, empty without a fingerprint. -/
def fingerprintId (fp : Option Fingerprint) : String :=
  String.ofList ((fp.elim [] (·.userAgent.toList)).take 50)

/-- The response to a failure; `src/asb_api/workers/worker.py:43–58` and `122–137`. -/
def errorResponse (w : ASBWorker) (env : ScrapeEnv) (request : ScrapeRequest)
    (errorCode message provider : String) (fp : Option Fingerprint) : ScrapeResponse where
  requestId := "req_" ++ env.uuid.text
  status := .error
  errorCode := some errorCode
  message := some message
  metadata := some (w.metadata env request provider (fingerprintId fp) false)

/-- The response to a completed run; `src/asb_api/workers/worker.py:102–119`. -/
def successResponse (w : ASBWorker) (env : ScrapeEnv) (request : ScrapeRequest)
    (provider : String) (fp : Fingerprint) (result : RunResult) : ScrapeResponse where
  requestId := "req_" ++ env.uuid.text
  status := .success
  html := some result.html
  screenshotUrl := result.screenshotUrl
  cookies := result.cookies
  headers := result.headers
  metadata := some (w.metadata env request provider (fingerprintId (some fp)) result.blockDetected)

/-- The proxy and the name of the provider that supplied it;
`src/asb_api/workers/worker.py:62–84`. -/
def obtainProxy (w : ASBWorker) (region : Option String) :
    WorkerProg (Option ProxyConfig × String) :=
  if w.provider.name = "null" then do
    let _ ← .perform (WorkerOp.storeLast none)
    pure (none, w.provider.name)
  else do
    let first ← Prog.attempt (.perform (WorkerOp.getProxy w.provider region))
    match first with
    | .ok proxy =>
      let _ ← .perform (WorkerOp.storeLast (some w.provider))
      pure (some proxy, w.provider.name)
    | .error primaryErr =>
      if !isProviderFailure primaryErr then .raise primaryErr
      else
        match w.fallbackProvider with
        | none => .raise primaryErr
        | some fallback =>
          if fallback.id = w.provider.id then .raise primaryErr
          else
            let second ← Prog.attempt (.perform (WorkerOp.getProxy fallback region))
            match second with
            | .ok proxy =>
              let _ ← .perform (WorkerOp.storeLast (some fallback))
              pure (some proxy, fallback.name)
            | .error _ => .raise primaryErr

/-- The `finally` part: the proxy goes back to the breaker noted last;
`src/asb_api/workers/worker.py:138–143`. -/
def finish (proxy : Option ProxyConfig) (response : ScrapeResponse) :
    WorkerProg ScrapeResponse := do
  let last ← .perform WorkerOp.loadLast
  match proxy, last with
  | some p, some b =>
    let _ ← .perform (WorkerOp.releaseProxy b p)
    let _ ← .perform (WorkerOp.storeLast none)
    pure response
  | _, _ =>
    let _ ← .perform (WorkerOp.storeLast none)
    pure response

/-- The fingerprint and the run, once the proxy is settled;
`src/asb_api/workers/worker.py:86–143`. -/
def runWith (w : ASBWorker) (env : ScrapeEnv) (request : ScrapeRequest)
    (proxy : Option ProxyConfig) (provider : String) : WorkerProg ScrapeResponse := do
  let fp ← Prog.attempt (.perform (WorkerOp.fingerprint (orElse request.fingerprint "general")))
  match fp with
  | .error e => finish proxy (w.errorResponse env request "WORKER_ERROR" e.text provider none)
  | .ok fp =>
    let result ← Prog.attempt (.perform (WorkerOp.run request proxy fp))
    match result with
    | .error e =>
      finish proxy (w.errorResponse env request "WORKER_ERROR" e.text provider (some fp))
    | .ok result => finish proxy (w.successResponse env request provider fp result)

/-- `scrape`; `src/asb_api/workers/worker.py:35–143`. Every `Exception` becomes a response that
shows how far the call had come. -/
def scrape (w : ASBWorker) (env : ScrapeEnv) (request : ScrapeRequest) :
    WorkerProg ScrapeResponse :=
  if !w.started then
    pure (w.errorResponse env request "WORKER_NOT_STARTED" "Worker runner has not been started"
      w.provider.name none)
  else do
    let obtained ← Prog.attempt (w.obtainProxy request.region)
    match obtained with
    | .error e =>
      finish none (w.errorResponse env request "WORKER_ERROR" e.text w.provider.name none)
    | .ok (proxy, provider) => w.runWith env request proxy provider

/-! ### Calls -/

/-- How the surroundings answer in one call; each breaker is asked at most once. -/
structure CallOutcomes where
  getProxy : Breaker → Except PyError ProxyConfig
  fingerprint : Except PyError Fingerprint
  run : Except PyError RunResult

/-- What a call does to the breakers. -/
inductive Event where
  | asked (b : Breaker) (answer : Except PyError ProxyConfig)
  | released (b : Breaker) (proxy : ProxyConfig)

/-- The attribute `_last_proxy_breaker`, and the events of the call so far. -/
structure CallState where
  last : Option Breaker
  events : List Event

/-- Answer the operations of a call. -/
def handler (out : CallOutcomes) : (o : WorkerOp) → CallState → Except PyError o.Ans × CallState
  | .getProxy b _, s =>
    (out.getProxy b, { s with events := s.events ++ [.asked b (out.getProxy b)] })
  | .releaseProxy b p, s => (.ok (), { s with events := s.events ++ [.released b p] })
  | .fingerprint _, s => (out.fingerprint, s)
  | .run _ _ _, s => (out.run, s)
  | .loadLast, s => (.ok s.last, s)
  | .storeLast b, s => (.ok (), { s with last := b })

/-- A call of `scrape`. -/
structure Call where
  request : ScrapeRequest
  env : ScrapeEnv
  outcomes : CallOutcomes

/-- Run a call: its result and events, and the attribute it leaves. -/
def step (w : ASBWorker) (last : Option Breaker) (c : Call) :
    (Except PyError ScrapeResponse × List Event) × Option Breaker :=
  let (r, s) := Prog.run (handler c.outcomes) (w.scrape c.env c.request) ⟨last, []⟩
  ((r, s.events), s.last)

/-- The proxies that were obtained, each with the breaker that supplied it. -/
def obtained (events : List Event) : List (Breaker × ProxyConfig) :=
  events.filterMap fun e ↦
    match e with
    | .asked b (.ok p) => some (b, p)
    | _ => none

/-- The proxies that were released, each with the breaker it was released to. -/
def released (events : List Event) : List (Breaker × ProxyConfig) :=
  events.filterMap fun e ↦
    match e with
    | .released b p => some (b, p)
    | _ => none

/-- The breakers that were asked. -/
def askedBreakers (events : List Event) : List Breaker :=
  events.filterMap fun e ↦
    match e with
    | .asked b _ => some b
    | _ => none

theorem obtained_append (xs ys : List Event) : obtained (xs ++ ys) = obtained xs ++ obtained ys :=
  List.filterMap_append

theorem released_append (xs ys : List Event) : released (xs ++ ys) = released xs ++ released ys :=
  List.filterMap_append

/-! ### What a call does -/

/-- The breakers asked in turn, and who supplies a proxy if anybody does. -/
def supply (w : ASBWorker) (out : CallOutcomes) :
    List Event × Except PyError (Option (Breaker × ProxyConfig)) :=
  if w.provider.name = "null" then ([], .ok none)
  else
    let first := Event.asked w.provider (out.getProxy w.provider)
    match out.getProxy w.provider with
    | .ok p => ([first], .ok (some (w.provider, p)))
    | .error e =>
      if !isProviderFailure e then ([first], .error e)
      else
        match w.fallbackProvider with
        | none => ([first], .error e)
        | some fb =>
          if fb.id = w.provider.id then ([first], .error e)
          else
            match out.getProxy fb with
            | .ok p => ([first, .asked fb (.ok p)], .ok (some (fb, p)))
            | .error e' => ([first, .asked fb (.error e')], .error e)

/-- The name of the provider that is reported. -/
def reportedName (w : ASBWorker) (supplied : Option (Breaker × ProxyConfig)) : String :=
  supplied.elim w.provider.name (·.1.name)

/-- What is released at the end. -/
def giveBack (supplied : Except PyError (Option (Breaker × ProxyConfig))) : List Event :=
  match supplied with
  | .ok (some (b, p)) => [.released b p]
  | _ => []

/-- The response once the proxy is settled. -/
def respondWith (w : ASBWorker) (c : Call) (provider : String) : ScrapeResponse :=
  match c.outcomes.fingerprint with
  | .error e => w.errorResponse c.env c.request "WORKER_ERROR" e.text provider none
  | .ok fp =>
    match c.outcomes.run with
    | .error e => w.errorResponse c.env c.request "WORKER_ERROR" e.text provider (some fp)
    | .ok result => w.successResponse c.env c.request provider fp result

/-- The response of a call. -/
def respond (w : ASBWorker) (c : Call) : ScrapeResponse :=
  if !w.started then
    w.errorResponse c.env c.request "WORKER_NOT_STARTED" "Worker runner has not been started"
      w.provider.name none
  else
    match (w.supply c.outcomes).2 with
    | .error e => w.errorResponse c.env c.request "WORKER_ERROR" e.text w.provider.name none
    | .ok supplied => w.respondWith c (w.reportedName supplied)

/-- Ask the breakers in turn: the one that supplies a proxy is noted, if any does. -/
private theorem run_obtainProxy (w : ASBWorker) (out : CallOutcomes) (region : Option String)
    (last : Option Breaker) : Prog.run (handler out) (w.obtainProxy region) ⟨last, []⟩ =
      match (w.supply out).2 with
      | .error e => (.error e, ⟨last, (w.supply out).1⟩)
      | .ok supplied => (.ok (supplied.map Prod.snd, w.reportedName supplied),
          ⟨supplied.map Prod.fst, (w.supply out).1⟩) := by
  unfold obtainProxy supply
  split
  · rfl
  · simp only [Prog.run_bind, Prog.run_attempt, Prog.run_perform, handler, List.nil_append]
    cases hfirst : out.getProxy w.provider with
    | ok p => rfl
    | error e =>
      dsimp only
      split
      · rfl
      · cases hfb : w.fallbackProvider with
        | none => rfl
        | some fb =>
          dsimp only
          split
          · rfl
          · simp only [Prog.run_bind, Prog.run_attempt, Prog.run_perform, handler,
              List.cons_append, List.nil_append]
            cases hsecond : out.getProxy fb with
            | ok p => rfl
            | error e' => rfl

/-- The end of a call without a proxy, whatever breaker was noted before. -/
private theorem run_finish_none (out : CallOutcomes) (response : ScrapeResponse) (s : CallState) :
    Prog.run (handler out) (finish none response) s = (.ok response, ⟨none, s.events⟩) := by
  rcases s with ⟨_ | _, _⟩ <;> rfl

/-- The end of a call that noted the breaker of its proxy. -/
private theorem run_finish (out : CallOutcomes) (supplied : Option (Breaker × ProxyConfig))
    (response : ScrapeResponse) (events : List Event) :
    Prog.run (handler out) (finish (supplied.map Prod.snd) response)
      ⟨supplied.map Prod.fst, events⟩ =
      (.ok response, ⟨none, events ++ giveBack (.ok supplied)⟩) := by
  cases supplied with
  | none => simp only [giveBack, List.append_nil, Option.map_none, run_finish_none]
  | some bp => rfl

private theorem run_runWith (w : ASBWorker) (c : Call)
    (supplied : Option (Breaker × ProxyConfig)) (events : List Event) (provider : String) :
    Prog.run (handler c.outcomes)
      (w.runWith c.env c.request (supplied.map Prod.snd) provider)
      ⟨supplied.map Prod.fst, events⟩ =
      (.ok (w.respondWith c provider), ⟨none, events ++ giveBack (.ok supplied)⟩) := by
  unfold runWith respondWith
  rw [Prog.run_bind, Prog.run_attempt, Prog.run_perform]
  simp only [handler]
  cases hfp : c.outcomes.fingerprint with
  | error e => exact run_finish _ _ _ _
  | ok fp =>
    dsimp only
    rw [Prog.run_bind, Prog.run_attempt, Prog.run_perform]
    simp only [handler]
    cases hrun : c.outcomes.run with
    | error e => exact run_finish _ _ _ _
    | ok result => exact run_finish _ _ _ _

/-- A call gives back what it was supplied with and responds. -/
theorem step_eq (w : ASBWorker) (last : Option Breaker) (c : Call) (h : w.started = true) :
    w.step last c = ((.ok (w.respond c),
      (w.supply c.outcomes).1 ++ giveBack (w.supply c.outcomes).2), none) := by
  unfold step scrape respond
  rw [h]
  simp only [Bool.not_true, Bool.false_eq_true, if_false, Prog.run_bind, Prog.run_attempt,
    run_obtainProxy]
  cases hs : (w.supply c.outcomes).2 with
  | error e => simp only [run_finish_none, giveBack, List.append_nil]
  | ok supplied => simp only [run_runWith]

/-- A worker that was not started asks nobody. -/
theorem step_of_not_started (w : ASBWorker) (last : Option Breaker) (c : Call)
    (h : w.started = false) : w.step last c = ((.ok (w.respond c), []), last) := by
  unfold step scrape respond
  rw [h]
  rfl

/-- The five ways in which a call can come by a proxy or fail to. -/
inductive Supplied (w : ASBWorker) (out : CallOutcomes) :
    List Event → Except PyError (Option (Breaker × ProxyConfig)) → Prop
  | null (hn : w.provider.name = "null") : Supplied w out [] (.ok none)
  | primary {p : ProxyConfig} (hn : w.provider.name ≠ "null") :
      Supplied w out [.asked w.provider (.ok p)] (.ok (some (w.provider, p)))
  | refused {e : PyError} (hn : w.provider.name ≠ "null")
      (hno : isProviderFailure e = false ∨
        ∀ fb, w.fallbackProvider = some fb → fb.id = w.provider.id) :
      Supplied w out [.asked w.provider (.error e)] (.error e)
  | fallback {e : PyError} {fb : Breaker} {p : ProxyConfig} (hn : w.provider.name ≠ "null")
      (he : isProviderFailure e = true) (hf : w.fallbackProvider = some fb)
      (hd : fb.id ≠ w.provider.id) :
      Supplied w out [.asked w.provider (.error e), .asked fb (.ok p)] (.ok (some (fb, p)))
  | both {e e' : PyError} {fb : Breaker} (hn : w.provider.name ≠ "null")
      (he : isProviderFailure e = true) (hf : w.fallbackProvider = some fb)
      (hd : fb.id ≠ w.provider.id) :
      Supplied w out [.asked w.provider (.error e), .asked fb (.error e')] (.error e)

theorem supplied_supply (w : ASBWorker) (out : CallOutcomes) :
    Supplied w out (w.supply out).1 (w.supply out).2 := by
  unfold supply
  split
  · next hn => exact .null hn
  · next hn =>
    cases hfirst : out.getProxy w.provider with
    | ok p => exact .primary hn
    | error e =>
      dsimp only
      split
      · next he => exact .refused hn (Or.inl (by simpa using he))
      · next he =>
        have he : isProviderFailure e = true := by simpa using he
        cases hf : w.fallbackProvider with
        | none => exact .refused hn (Or.inr fun fb h ↦ nomatch hf.symm.trans h)
        | some fb =>
          dsimp only
          split
          · next hs =>
            apply Supplied.refused hn
            right
            rintro fb' h
            rwa [← Option.some.inj (hf.symm.trans h)]
          · next hd =>
            cases hsecond : out.getProxy fb with
            | ok p => exact .fallback hn he hf hd
            | error e' => exact .both hn he hf hd

/-- What one call guarantees, given its events and its response. -/
structure CallGuarantee (w : ASBWorker) (events : List Event) (response : ScrapeResponse) :
    Prop where
  /-- Each proxy goes back once to the breaker that supplied it, and nothing else does. -/
  balanced : released events = obtained events
  /-- The reported provider supplied the proxy, or is the primary. -/
  attributed : ∃ m, response.metadata = some m ∧
    m.provider = (obtained events).head?.elim w.provider.name (·.1.name)
  primary : w.provider ∈ askedBreakers events ↔ w.started = true ∧ w.provider.name ≠ "null"
  /-- A breaker other than the primary is asked when the primary raised one of the two provider
  exceptions and that breaker is the fallback. -/
  fallback : ∀ b, b ≠ w.provider → (b ∈ askedBreakers events ↔
    (∃ e, .asked w.provider (.error e) ∈ events ∧ isProviderFailure e = true) ∧
      w.fallbackProvider = some b ∧ b.id ≠ w.provider.id)
  askedOnce : (askedBreakers events).Nodup
  /-- If nobody supplies a proxy, the response is the error of the primary. -/
  message : ∀ e, .asked w.provider (.error e) ∈ events → obtained events = [] →
    response.status = .error ∧ response.message = some e.text

private theorem metadata_respondWith (w : ASBWorker) (c : Call) (provider : String) :
    ∃ m, (w.respondWith c provider).metadata = some m ∧ m.provider = provider := by
  unfold respondWith
  split
  · exact ⟨_, rfl, rfl⟩
  · split
    · exact ⟨_, rfl, rfl⟩
    · exact ⟨_, rfl, rfl⟩

private theorem ne_of_id_ne {a b : Breaker} (h : a.id ≠ b.id) : a ≠ b := fun he ↦ h (by rw [he])

/-! What is given back at the end of a call adds to the released proxies only. -/

theorem askedBreakers_giveBack (events : List Event)
    (result : Except PyError (Option (Breaker × ProxyConfig))) :
    askedBreakers (events ++ giveBack result) = askedBreakers events := by
  rw [askedBreakers, List.filterMap_append]
  rcases result with e | _ | bp
  · exact List.append_nil _
  · exact List.append_nil _
  · exact List.append_nil _

theorem obtained_giveBack (events : List Event)
    (result : Except PyError (Option (Breaker × ProxyConfig))) :
    obtained (events ++ giveBack result) = obtained events := by
  rw [obtained_append]
  rcases result with e | _ | bp
  · exact List.append_nil _
  · exact List.append_nil _
  · exact List.append_nil _

theorem asked_mem_giveBack {b : Breaker} {answer : Except PyError ProxyConfig}
    {events : List Event} {result : Except PyError (Option (Breaker × ProxyConfig))} :
    .asked b answer ∈ events ++ giveBack result ↔ .asked b answer ∈ events := by
  rcases result with e | _ | bp <;> simp [giveBack]

section Supplied

variable {w : ASBWorker} {out : CallOutcomes} {events : List Event}
  {result : Except PyError (Option (Breaker × ProxyConfig))}

/-- The proxy that was obtained is the one to be given back. -/
private theorem Supplied.obtained_eq (h : Supplied w out events result) :
    obtained events = released (giveBack result) := by
  cases h <;> rfl

private theorem Supplied.released_eq (h : Supplied w out events result) :
    released events = [] := by
  cases h <;> rfl

private theorem Supplied.primary_iff (h : Supplied w out events result) :
    w.provider ∈ askedBreakers events ↔ w.provider.name ≠ "null" := by
  cases h with
  | null hn => simp [askedBreakers, hn]
  | primary hn => simp [askedBreakers, hn]
  | refused hn _ => simp [askedBreakers, hn]
  | fallback hn _ _ _ => simp [askedBreakers, hn]
  | both hn _ _ _ => simp [askedBreakers, hn]

private theorem Supplied.nodup (h : Supplied w out events result) :
    (askedBreakers events).Nodup := by
  cases h with
  | null hn => exact List.nodup_nil
  | primary hn => exact List.nodup_singleton _
  | refused hn _ => exact List.nodup_singleton _
  | fallback _ _ _ hd => simp [askedBreakers, (ne_of_id_ne hd).symm]
  | both _ _ _ hd => simp [askedBreakers, (ne_of_id_ne hd).symm]

/-- Once the fallback is asked, it is asked for the reasons given, and no other breaker is. -/
private theorem asked_fallback_iff {e : PyError} {fb b : Breaker}
    {answer : Except PyError ProxyConfig} (he : isProviderFailure e = true)
    (hf : w.fallbackProvider = some fb) (hd : fb.id ≠ w.provider.id) (hb : b ≠ w.provider) :
    b ∈ askedBreakers [.asked w.provider (.error e), .asked fb answer] ↔
      (∃ e', .asked w.provider (.error e') ∈
          [Event.asked w.provider (.error e), .asked fb answer] ∧ isProviderFailure e' = true) ∧
        w.fallbackProvider = some b ∧ b.id ≠ w.provider.id := by
  simp only [askedBreakers, List.filterMap_cons, List.filterMap_nil, List.mem_cons, hb, false_or,
    List.not_mem_nil, or_false]
  constructor
  · rintro rfl
    exact ⟨⟨e, Or.inl rfl, he⟩, hf, hd⟩
  · rintro ⟨_, hf', _⟩
    exact Option.some.inj (hf'.symm.trans hf)

private theorem Supplied.fallback_iff (h : Supplied w out events result) {b : Breaker}
    (hb : b ≠ w.provider) : b ∈ askedBreakers events ↔
      (∃ e, .asked w.provider (.error e) ∈ events ∧ isProviderFailure e = true) ∧
        w.fallbackProvider = some b ∧ b.id ≠ w.provider.id := by
  cases h with
  | null hn => simp [askedBreakers]
  | primary hn => simp [askedBreakers, hb]
  | @refused e hn hno =>
    simp only [askedBreakers, List.filterMap_cons, List.filterMap_nil, List.mem_singleton, hb,
      false_iff, Event.asked.injEq, true_and, Except.error.injEq]
    rintro ⟨⟨e', rfl, he⟩, hf, hd⟩
    rcases hno with hno | hno
    · rw [he] at hno
      cases hno
    · exact hd (hno b hf)
  | fallback hn he hf hd => exact asked_fallback_iff he hf hd hb
  | both hn he hf hd => exact asked_fallback_iff he hf hd hb

/-- Without a proxy the call has failed with what the primary raised. -/
private theorem Supplied.eq_error (h : Supplied w out events result) {e : PyError}
    (he : .asked w.provider (.error e) ∈ events) (hno : obtained events = []) :
    result = .error e := by
  cases h with
  | null hn => cases he
  | primary hn => cases hno
  | refused hn _ =>
    cases List.mem_singleton.mp he
    rfl
  | fallback hn _ _ _ => cases hno
  | both hn _ _ hd =>
    simp only [List.mem_cons, Event.asked.injEq, true_and, Except.error.injEq, List.not_mem_nil,
      or_false] at he
    rcases he with rfl | ⟨hfb, _⟩
    · rfl
    · exact absurd hfb (ne_of_id_ne hd).symm

end Supplied

private theorem attributed_respond (w : ASBWorker) (c : Call) (hs : w.started = true) :
    ∃ m, (w.respond c).metadata = some m ∧
      m.provider = (obtained (w.supply c.outcomes).1).head?.elim w.provider.name (·.1.name) := by
  rw [(supplied_supply w c.outcomes).obtained_eq, respond, hs]
  rcases (w.supply c.outcomes).2 with e | _ | bp
  · exact ⟨_, rfl, rfl⟩
  · exact metadata_respondWith w c _
  · exact metadata_respondWith w c _

private theorem respond_of_error {w : ASBWorker} {c : Call} {e : PyError} (hs : w.started = true)
    (h : (w.supply c.outcomes).2 = .error e) :
    (w.respond c).status = .error ∧ (w.respond c).message = some e.text := by
  rw [respond, hs, h]
  exact ⟨rfl, rfl⟩

/-- Every call of a worker keeps its guarantees, whatever breaker an earlier one has noted. -/
theorem callGuarantee_step (w : ASBWorker) (last : Option Breaker) (c : Call) :
    ∃ response, (w.step last c).1.1 = .ok response ∧
      CallGuarantee w (w.step last c).1.2 response := by
  cases hs : w.started with
  | false =>
    rw [step_of_not_started w last c hs]
    refine ⟨_, rfl, rfl, ?_, ?_, ?_, List.nodup_nil, ?_⟩
    · rw [respond, hs]
      exact ⟨_, rfl, rfl⟩
    · simp [askedBreakers, hs]
    · simp [askedBreakers]
    · simp
  | true =>
    rw [step_eq w last c hs]
    have hsup := supplied_supply w c.outcomes
    refine ⟨_, rfl, ?_, ?_, ?_, ?_, ?_, ?_⟩
    · rw [released_append, hsup.released_eq, obtained_giveBack, hsup.obtained_eq, List.nil_append]
    · rw [obtained_giveBack]
      exact attributed_respond w c hs
    · rw [askedBreakers_giveBack, hsup.primary_iff, hs, eq_self_iff_true, true_and]
    · intro b hb
      simp only [askedBreakers_giveBack, asked_mem_giveBack]
      exact hsup.fallback_iff hb
    · rw [askedBreakers_giveBack]
      exact hsup.nodup
    · intro e he hno
      rw [obtained_giveBack] at hno
      exact respond_of_error hs (hsup.eq_error (asked_mem_giveBack.mp he) hno)

/-- A response with an error carries no cookies. -/
theorem cookies_respond_of_error (w : ASBWorker) (c : Call) (h : (w.respond c).status = .error) :
    (w.respond c).cookies = Dict.empty := by
  unfold respond respondWith at h ⊢
  split
  · rfl
  · next hs =>
    rw [if_neg hs] at h
    split
    · rfl
    · next hsup =>
      rw [hsup] at h
      split
      · rfl
      · next hfp =>
        rw [hfp] at h
        split
        · rfl
        · next hrun =>
          rw [hrun] at h
          cases h

/-- A response of some call of a worker for a request. -/
def IsResponse (request : ScrapeRequest) (response : ScrapeResponse) : Prop :=
  ∃ (w : ASBWorker) (last : Option Breaker) (c : Call), c.request = request ∧
    (w.step last c).1.1 = .ok response

theorem IsResponse.eq_respond {request : ScrapeRequest} {response : ScrapeResponse}
    (h : IsResponse request response) :
    ∃ (w : ASBWorker) (c : Call), c.request = request ∧ response = w.respond c := by
  obtain ⟨w, last, c, hc, hr⟩ := h
  refine ⟨w, c, hc, ?_⟩
  cases hs : w.started with
  | false =>
    rw [step_of_not_started w last c hs] at hr
    exact (Except.ok.inj hr).symm
  | true =>
    rw [step_eq w last c hs] at hr
    exact (Except.ok.inj hr).symm

/-- What every response shows of its call. -/
theorem IsResponse.shape {request : ScrapeRequest} {response : ScrapeResponse}
    (h : IsResponse request response) : ∃ (hex : UuidHex) (m : ScrapeMetadata),
      response.requestId = "req_" ++ hex.text ∧ response.metadata = some m ∧
      m.requestId = response.requestId ∧ m.region = request.region ∧
      response.status ≠ .successWithRetries := by
  obtain ⟨w, c, rfl, rfl⟩ := h.eq_respond
  refine ⟨c.env.uuid, ?_⟩
  unfold respond respondWith
  split
  · exact ⟨_, rfl, rfl, rfl, rfl, fun hs ↦ nomatch hs⟩
  · split
    · exact ⟨_, rfl, rfl, rfl, rfl, fun hs ↦ nomatch hs⟩
    · split
      · exact ⟨_, rfl, rfl, rfl, rfl, fun hs ↦ nomatch hs⟩
      · split
        · exact ⟨_, rfl, rfl, rfl, rfl, fun hs ↦ nomatch hs⟩
        · exact ⟨_, rfl, rfl, rfl, rfl, fun hs ↦ nomatch hs⟩

/-- In every sequence of calls of a worker, each call responds and keeps its guarantees, and over
the whole sequence the proxies released are the proxies obtained, breaker by breaker. -/
theorem scrape_calls_balanced (w : ASBWorker) (last : Option Breaker) (calls : List Call) :
    (∀ out ∈ outputs w.step last calls, ∃ response, out.1 = .ok response ∧
      CallGuarantee w out.2 response) ∧
    released ((outputs w.step last calls).flatMap Prod.snd) =
      obtained ((outputs w.step last calls).flatMap Prod.snd) := by
  induction calls generalizing last with
  | nil => exact ⟨by simp, rfl⟩
  | cons c calls ih =>
    obtain ⟨hall, hsum⟩ := ih (w.step last c).2
    have hstep := callGuarantee_step w last c
    rw [outputs_cons]
    constructor
    · intro out hout
      rcases List.mem_cons.mp hout with rfl | hout
      · exact hstep
      · exact hall out hout
    · obtain ⟨response, _, hg⟩ := hstep
      rw [List.flatMap_cons, released_append, obtained_append, hsum, hg.balanced]

end ASBWorker
end AsbCloudApi.Workers
