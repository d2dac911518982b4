import AsbCloudApi.Providers.Decodo
import AsbCloudApi.Routes.Leasing
import AsbCloudApi.Workers.ProxyUse

/-!
# Scraping service

Library `Routes`. Puts the layers together: scrape requests lease workers, a worker obtains its
proxy through circuit breakers, and a Decodo provider behind a breaker hands it out. Requests,
health checks and refreshes of the proxy pools are interleaved operation by operation.
-/

namespace AsbCloudApi.Routes

open Base Api Providers Session Workers

/-- The operations of the service. Those of a route and of a worker that other layers carry out do
not occur: `scrape` of a route, and `getProxy` of a worker. -/
inductive ServiceOp where
  | route (o : RouteOp)
  | worker (w : WorkerRef) (o : WorkerOp)
  | breaker (b : Breaker) (o : BreakerOp)
  | fetchPool (b : Breaker)
  | replacePool (b : Breaker) (newPools : Dict String (List ProxyConfig))

/-- What each of them answers. An exception is an answer to the layer that asks. -/
abbrev ServiceOp.Ans : ServiceOp → Type
  | .route o => Except Exn o.Ans
  | .worker _ o => Except PyError o.Ans
  | .breaker _ o => Except PyError o.Ans
  | .fetchPool _ => Except PyError (Dict String (List ProxyConfig))
  | .replacePool _ _ => Unit

/-- A coroutine of the service. -/
abbrev ServiceProg := Prog Empty ServiceOp.Ans

/-- What is done with a breaker. -/
def onBreaker {α : Type} (b : Breaker) (p : BreakerProg α) : ServiceProg (Except PyError α) :=
  p.host fun o ↦ .perform (ServiceOp.breaker b o)

/-- The breaker that a worker asks runs its own coroutine. -/
def playWorker (w : WorkerRef) : (o : WorkerOp) → ServiceProg (Except PyError o.Ans)
  | .getProxy b region => onBreaker b (getProxy region)
  | o => .perform (ServiceOp.worker w o)

/-- The worker that a route has leased runs its own coroutine. -/
def playRoute (workers : WorkerRef → ASBWorker) (env : ScrapeEnv) :
    (o : RouteOp) → ServiceProg (Except Exn o.Ans)
  | .scrape w request => do
    let response ← ((workers w).scrape env request).host (playWorker w)
    pure (response.mapError Exn.py)
  | o => .perform (ServiceOp.route o)

/-- What runs in the service: a scrape, one breaker in a pass of the health checker, and a pass of
the refresh loop of the provider behind a breaker. -/
inductive ServiceActor where
  | scrape (incoming : Incoming) (env : ScrapeEnv)
  | healthCheck (b : Breaker)
  | refresh (b : Breaker)

namespace ServiceActor

/-- A pass of `_refresh_loop`; `src/asb_api/providers/decodo.py:64–71`. -/
def refreshPass (b : Breaker) : ServiceProg Unit := do
  let newPools ← .perform (ServiceOp.fetchPool b)
  match newPools with
  | .ok newPools => .perform (ServiceOp.replacePool b newPools)
  | .error _ => pure ()

/-- What each of them does, with the outcome of a scrape. -/
def prog (app : App) (workers : WorkerRef → ASBWorker) :
    ServiceActor → ServiceProg (Option (Except Exn ScrapeResponse))
  | .scrape incoming env => do
    let response ← (executeOneScrape app incoming.request incoming.keyId
      incoming.skipRateLimitCheck).host (playRoute workers env)
    pure (some response)
  | .healthCheck b => do
    let _ ← onBreaker b checkBreaker
    pure none
  | .refresh b => do
    refreshPass b
    pure none

end ServiceActor

/-! ### The shared state -/

/-- The shared state: the worker pool, `_last_proxy_breaker` of each worker, the breakers, and the
Decodo providers behind them with the proxies that were handed out and not released. -/
structure Service where
  pool : RegionWorkerPool
  lastProxyBreaker : WorkerRef → Option Breaker
  breakers : Breaker → CircuitBreaker
  decodo : Breaker → Option ProxyLeases

namespace Service

/-- A breaker makes a move. -/
def moveBreaker (s : Service) (b : Breaker) (now : ℚ) (m : BreakerMove) : Service :=
  { s with breakers := Function.update s.breakers b ((s.breakers b).step (now, m)).2 }

/-- The provider behind a breaker changes. -/
def setDecodo (s : Service) (b : Breaker) (l : ProxyLeases) : Service :=
  { s with decodo := Function.update s.decodo b (some l) }

/-- A worker notes a breaker. -/
def noteBreaker (s : Service) (w : WorkerRef) (b : Option Breaker) : Service :=
  { s with lastProxyBreaker := Function.update s.lastProxyBreaker w b }

end Service

/-- `get_proxy` of the provider, with what is on lease then. -/
def leaseProxy (l : ProxyLeases) (region : Option String) :
    Except PyError ProxyConfig × ProxyLeases :=
  let (r, d) := l.provider.getProxy region
  (r, ⟨d, r.toOption.toList ++ l.leases⟩)

theorem leaseProxy_eq {l : ProxyLeases} {region : Option String} {r : Except PyError ProxyConfig}
    {d : DecodoProvider} (h : l.provider.getProxy region = (r, d)) :
    leaseProxy l region = (r, ⟨d, r.toOption.toList ++ l.leases⟩) := by
  unfold leaseProxy
  rw [h]

/-- `release_proxy` of the provider, with what is on lease then. -/
def returnProxy (l : ProxyLeases) (proxy : ProxyConfig) : ProxyLeases :=
  ⟨l.provider.releaseProxy proxy, l.leases.erase proxy⟩

/-- A step of the service, where `Lists` says which pools a refresh may find. Other providers hand
out what they like and keep nothing of it; fingerprints and the browser answer as they like. -/
inductive ServiceExec (Lists : ProxyLeases → Dict String (List ProxyConfig) → Prop) :
    (o : ServiceOp) → Service → Except Empty o.Ans → Service → Prop
  | route {o : RouteOp} {s : Service} {r : Except Exn o.Ans} {pool : RegionWorkerPool}
      (h : RouteExec o s.pool r pool) :
      ServiceExec Lists (.route o) s (.ok r) { s with pool := pool }
  | fingerprint {w : WorkerRef} {preset : String} {s : Service} (r : Except PyError Fingerprint) :
      ServiceExec Lists (.worker w (.fingerprint preset)) s (.ok r) s
  | run {w : WorkerRef} {request : ScrapeRequest} {proxy : Option ProxyConfig} {fp : Fingerprint}
      {s : Service} (r : Except PyError RunResult) :
      ServiceExec Lists (.worker w (.run request proxy fp)) s (.ok r) s
  | loadLast {w : WorkerRef} {s : Service} :
      ServiceExec Lists (.worker w .loadLast) s (.ok (.ok (s.lastProxyBreaker w))) s
  | storeLast {w : WorkerRef} {b : Option Breaker} {s : Service} :
      ServiceExec Lists (.worker w (.storeLast b)) s (.ok (.ok ())) (s.noteBreaker w b)
  | releaseProxy {w : WorkerRef} {b : Breaker} {proxy : ProxyConfig} {s : Service}
      {l : ProxyLeases} (hb : s.decodo b = some l) :
      ServiceExec Lists (.worker w (.releaseProxy b proxy)) s (.ok (.ok ()))
        (s.setDecodo b (returnProxy l proxy))
  | releaseOther {w : WorkerRef} {b : Breaker} {proxy : ProxyConfig} {s : Service}
      (hb : s.decodo b = none) :
      ServiceExec Lists (.worker w (.releaseProxy b proxy)) s (.ok (.ok ())) s
  | move {b : Breaker} {m : BreakerMove} {s : Service} (now : ℚ) :
      ServiceExec Lists (.breaker b (.move m)) s (.ok ((s.breakers b).step (now, m)).1)
        (s.moveBreaker b now m)
  | healthCheck {b : Breaker} {s : Service} (r : Except PyError Bool) :
      ServiceExec Lists (.breaker b .healthCheck) s (.ok r) s
  | getProxy {b : Breaker} {region : Option String} {s : Service} {l : ProxyLeases}
      (hb : s.decodo b = some l) :
      ServiceExec Lists (.breaker b (.getProxy region)) s (.ok (leaseProxy l region).1)
        (s.setDecodo b (leaseProxy l region).2)
  | getOther {b : Breaker} {region : Option String} {s : Service}
      (hb : s.decodo b = none) (r : Except PyError ProxyConfig) :
      ServiceExec Lists (.breaker b (.getProxy region)) s (.ok r) s
  | fetchPool {b : Breaker} {s : Service} (r : Except PyError (Dict String (List ProxyConfig))) :
      ServiceExec Lists (.fetchPool b) s (.ok r) s
  | replacePool {b : Breaker} {newPools : Dict String (List ProxyConfig)} {s : Service}
      {l : ProxyLeases} (hb : s.decodo b = some l) (hl : Lists l newPools) :
      ServiceExec Lists (.replacePool b newPools) s (.ok ())
        (s.setDecodo b ⟨l.provider.replacePool newPools, l.leases⟩)
  | replaceOther {b : Breaker} {newPools : Dict String (List ProxyConfig)} {s : Service}
      (hb : s.decodo b = none) : ServiceExec Lists (.replacePool b newPools) s (.ok ()) s

end AsbCloudApi.Routes
