import AsbCloudApi.Providers.Registry
import AsbCloudApi.Workers.Shutdown

/-!
# Startup and shutdown

Library `Startup`. Models `startup` and `shutdown` of `src/asb_api/__main__.py:74–268` with the
`start` and `stop` methods below them. Any of their operations may raise, but for the assignment of
a module global. The shutdown knows of nothing but what the module globals name.
-/

namespace AsbCloudApi.Startup

open Base Api Providers Workers

/-! ### The process -/

/-- What is started: the connections to PostgreSQL, the refresh task of a provider, the task of the
health checker, and the driver and the browser of a worker. -/
inductive Resource where
  | connections
  | refreshTask (provider : String)
  | checkTask
  | playwright (worker : WorkerRef)
  | browser (worker : WorkerRef)
  deriving DecidableEq

/-- The module globals that the shutdown reads; `src/asb_api/__main__.py:60–63`. -/
inductive Component where
  | database
  | providers
  | healthChecker
  | workerPool
  deriving DecidableEq

/-- The component that has the attribute through which a resource is stopped. -/
def Resource.component : Resource → Component
  | .connections => .database
  | .refreshTask _ => .providers
  | .checkTask => .healthChecker
  | .playwright _ => .workerPool
  | .browser _ => .workerPool

/-- What a worker's runner closes. -/
def Resource.ofClose : CloseOp → Resource
  | .closeBrowser w => .browser w
  | .stopPlaywright w => .playwright w

/-- What is built at startup. -/
inductive Part where
  | providers
  | fingerprints
  | workers
  | security
  | keyStore
  | stores

/-- The operations of startup and shutdown. -/
inductive LifeOp where
  | loadConfig
  | start (x : Resource)
  | stop (x : Resource)
  | assign (c : Component)
  | runMigrations
  | fetchPool (provider : String)
  | construct (part : Part)
  | createDefaultKey

/-- A coroutine of the startup or the shutdown. -/
abbrev LifeProg := Prog PyError (fun _ : LifeOp ↦ Unit)

/-- What the startup reads of the configuration and the environment. Without a `dsn` there is no
database. -/
structure Settings where
  dsn : String := ""
  providers : Dict String ProviderSettings
  primary : String := "null"
  fallback : String := "null"
  workersPerRegion : Dict String Nat
  defaultRegion : String := "jp"

namespace Settings

variable (st : Settings)

/-- The registry, `initialize_from_config`. -/
def registry : ProviderRegistry := .initializeFromConfig st.providers

/-- The worker pool as it is built. -/
def pool : RegionWorkerPool := .new st.workersPerRegion st.defaultRegion

end Settings

/-! ### Startup -/

/-- `src/asb_api/__main__.py:80–95`. The global is assigned before the connections are made. -/
def connectDatabase (st : Settings) : LifeProg Unit :=
  if st.dsn = "" then pure ()
  else do
    .perform (.assign .database)
    .perform (.start .connections)
    .perform .runMigrations

/-- `DecodoProvider.start`, of a new provider; `src/asb_api/providers/decodo.py:73–77`. -/
def startProvider (name : String) : LifeProg Unit := do
  .perform (.fetchPool name)
  .perform (.start (.refreshTask name))

/-- `ProviderRegistry.start_all`; `src/asb_api/providers/__init__.py:53–57`. -/
def startProviders (r : ProviderRegistry) : LifeProg Unit :=
  Prog.forEach r.items fun q ↦ if q.2.hasStart then startProvider q.1 else pure ()

/-- `src/asb_api/__main__.py:131–133`. -/
def startHealthChecker : LifeProg Unit := do
  .perform (.start .checkTask)
  .perform (.assign .healthChecker)

/-- `ASBWorker.start` and `ASBRunner.__aenter__`; `src/asb_api/workers/worker.py:27–29` and
`src/asb_api/workers/asb_runner.py:12–17`. -/
def startWorker (w : WorkerRef) : LifeProg Unit := do
  .perform (.start (.playwright w))
  .perform (.start (.browser w))

/-- `RegionWorkerPool.start_all`; `src/asb_api/workers/pool.py:87–90`. -/
def startWorkers (p : RegionWorkerPool) : LifeProg Unit :=
  Prog.forEach p.workers.items fun q ↦
    Prog.forEach (List.range q.2.length) fun i ↦ startWorker ⟨q.1, i⟩

/-- The default key, which may be there already in a database; `src/asb_api/__main__.py:181–186` and
`217`. -/
def defaultKey (st : Settings) : LifeProg Unit :=
  if st.dsn = "" then .perform .createDefaultKey
  else do
    let _ ← (Prog.perform LifeOp.createDefaultKey : LifeProg Unit).attempt

/-- `src/asb_api/__main__.py:164–236`. -/
def wireStores (st : Settings) : LifeProg Unit := do
  .perform (.construct .security)
  .perform (.construct .keyStore)
  defaultKey st
  .perform (.construct .stores)

/-- `startup`, with the breakers of the workers; `src/asb_api/__main__.py:74–243`. -/
def startup (st : Settings) : LifeProg WorkerBreakers := do
  .perform .loadConfig
  connectDatabase st
  .perform (.construct .providers)
  startProviders st.registry
  .perform (.assign .providers)
  let breakers ← .done (selectBreakers st.registry st.primary st.fallback)
  startHealthChecker
  .perform (.construct .fingerprints)
  .perform (.construct .workers)
  startWorkers st.pool
  .perform (.assign .workerPool)
  wireStores st
  pure breakers

/-! ### Shutdown -/

/-- What has been started and not asked to stop, in the order of the starts, and the module globals
that are set. -/
structure Process where
  started : List Resource
  globals : List Component

namespace Process

variable (p : Process)

/-- Stop a resource if it is there. -/
def stopping (x : Resource) : LifeProg Unit :=
  if x ∈ p.started then .perform (.stop x) else pure ()

/-- `w.runner`. A worker that was never started has nothing to close, with a runner or without. -/
def runner (w : WorkerRef) : Option ASBRunner :=
  some ⟨decide (.playwright w ∈ p.started), decide (.browser w ∈ p.started)⟩

/-- `ProviderHealthChecker.stop`; `src/asb_api/providers/health.py:79–85`. -/
def stopHealthChecker : LifeProg Unit := p.stopping .checkTask

/-- `RegionWorkerPool.stop_all`. -/
def stopWorkers (st : Settings) : LifeProg Unit :=
  (st.pool.stopAll p.runner).embed fun o ↦ .perform (.stop (.ofClose o))

/-- `ProviderRegistry.stop_all` and `DecodoProvider.stop`;
`src/asb_api/providers/__init__.py:59–63` and `src/asb_api/providers/decodo.py:79–86`. -/
def stopProviders (r : ProviderRegistry) : LifeProg Unit :=
  Prog.forEach r.items fun q ↦
    if q.2.hasStart then p.stopping (.refreshTask q.1) else pure ()

/-- `Database.disconnect`; `src/asb_api/db/connection.py:23–26`. -/
def disconnect : LifeProg Unit := p.stopping .connections

/-- `if c: try: stop except Exception: …` -/
def ifSet (c : Component) (stop : LifeProg Unit) : LifeProg Unit :=
  if c ∈ p.globals then do
    let _ ← stop.attempt
  else pure ()

/-- `shutdown`; `src/asb_api/__main__.py:246–268`. -/
def shutdown (st : Settings) : LifeProg Unit := do
  p.ifSet .healthChecker p.stopHealthChecker
  p.ifSet .workerPool (p.stopWorkers st)
  p.ifSet .providers (p.stopProviders st.registry)
  p.ifSet .database p.disconnect

end Process

end AsbCloudApi.Startup
