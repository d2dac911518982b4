import AsbCloudApi.Routes.Service

/-!
# Proxies in the service

Library `Routes`. In every interleaving of scrapes, health checks and refreshes, the proxies that a
provider counts as in use are held by requests that are still running, and each goes back to the
breaker that supplied it. This rests on the leases of the workers: only the request that has leased
a worker touches its `_last_proxy_breaker`.
-/

namespace AsbCloudApi.Routes

open Base Api Providers Session Workers

/-- What a coroutine of the service has: its lease of a worker, and its use of a proxy. -/
structure RequestStage where
  lease : Lease := .none
  use : ProxyUse := {}

/-- A route as in `routeLeaseProtocol`, which scrapes with the worker it has leased. -/
def scrapingProtocol : Prog.Protocol Exn RouteOp.Ans Lease where
  allowed o g :=
    match o with
    | .scrape w _ => ∃ a, g = .holding w a
    | o => routeLeaseProtocol.allowed o g
  possible := routeLeaseProtocol.possible
  next := routeLeaseProtocol.next

/-- The pool is used without a proxy in hand, and a worker by the request that has leased it. A new
lease begins a new use. -/
def serviceProtocol : Prog.Protocol Empty ServiceOp.Ans RequestStage where
  allowed o g :=
    match o with
    | .route (.scrape _ _) => False
    | .route (.pool o) => leaseProtocol.allowed o g.lease ∧ g.use.held = none
    | .worker _ (.getProxy _ _) => False
    | .worker w o => (∃ a, g.lease = .holding w a) ∧ proxyProtocol.allowed o g.use
    | .breaker _ o => supplyProtocol.allowed o (g.use.held.map Prod.snd)
    | _ => True
  possible o g r :=
    match o, r with
    | .route o, .ok r => routeLeaseProtocol.possible o g.lease r
    | .worker _ o, .ok r => proxyProtocol.possible o g.use r
    | .breaker _ o, .ok r => supplyProtocol.possible o (g.use.held.map Prod.snd) r
    | _, _ => True
  next o g r :=
    match o, r with
    | .route (.pool o), .ok r => ⟨leaseProtocol.next o g.lease r, {}⟩
    | .worker _ o, .ok r => { g with use := proxyProtocol.next o g.use r }
    | .breaker b (.getProxy _), .ok (.ok proxy) =>
      { g with use := { g.use with held := some (b, proxy) } }
    | _, _ => g

/-! ### Each coroutine follows the protocol -/

/-- What neither calls the pool nor scrapes leaves the lease alone. -/
private theorem stays_scraping {α : Type} {kinds : List RouteKind} (hpool : RouteKind.pool ∉ kinds)
    (hscrape : RouteKind.scrape ∉ kinds) {p : RouteProg α} (h : Calls kinds p) :
    Prog.Stays scrapingProtocol p := by
  apply h.stays
  · intro o g ho
    cases o with
    | pool po => exact absurd ho hpool
    | scrape w request => exact absurd ho hscrape
    | _ => exact trivial
  · intro o g r ho
    cases o with
    | pool po => exact absurd ho hpool
    | _ => rfl

/-- A leased worker does one scrape. -/
private theorem follows_scrapeWith_leased (app : App) (request : ScrapeRequest) (keyId : String)
    (session : Option SessionInfo) (worker : WorkerRef) (a : Option String) :
    Prog.Follows scrapingProtocol (fun _ g ↦ g = .holding worker a)
      (scrapeWith app request keyId session worker) (.holding worker a) := by
  unfold scrapeWith
  apply (stays_scraping (by decide) (by decide) (calls_withSessionCookies session request) _).bind
  · rintro request g rfl
    refine ⟨⟨a, rfl⟩, fun result _ ↦ ?_⟩
    cases result with
    | error e => exact rfl
    | ok result =>
      apply (stays_scraping (by decide) (by decide)
        (calls_updateSession app _ result) _).bind
      · rintro u g rfl
        apply (stays_scraping (by decide) (by decide)
          (calls_recordUsage app _ keyId result) _).bind
        · rintro u g rfl
          exact rfl
        · exact fun e g hg ↦ hg
      · exact fun e g hg ↦ hg
  · exact fun e g hg ↦ hg

private theorem follows_scraping (app : App) (request : ScrapeRequest) (keyId : String)
    (skip : Bool) : Prog.Follows scrapingProtocol (fun _ g ↦ g = .none)
      (executeOneScrape app request keyId skip) .none := by
  unfold executeOneScrape
  apply (stays_scraping (by decide) (by decide) (calls_prelude app request keyId skip) _).bind
  · rintro session g rfl
    refine ⟨trivial, fun region _ ↦ ?_⟩
    cases region with
    | error e => exact rfl
    | ok region =>
      refine ⟨rfl, fun taken htaken ↦ ?_⟩
      match taken, htaken with
      | .ok (some worker), _ =>
        apply (follows_scrapeWith_leased app request keyId session worker _).tryFinally
        rintro r g rfl
        refine ⟨⟨rfl, rfl⟩, fun released hreleased ↦ ?_⟩
        cases released with
        | ok u => exact rfl
        | error e => exact absurd hreleased id
  · exact fun e g hg ↦ hg

/-- One operation of the breaker that a worker asks. -/
private theorem follows_breaker {b : Breaker} {lease : Lease} {noted : Option (Option Breaker)}
    (o : BreakerOp) (g : Option ProxyConfig) (h : RequestStage)
    (hr : h = ⟨lease, ⟨g.map (Prod.mk b), noted⟩⟩) (ho : supplyProtocol.allowed o g) :
    Prog.Follows serviceProtocol (fun r h' ↦ ∃ x, r = .ok x ∧ supplyProtocol.possible o g x ∧
      h' = ⟨lease, ⟨(supplyProtocol.next o g x).map (Prod.mk b), noted⟩⟩)
      (.perform (ServiceOp.breaker b o)) h := by
  subst hr
  have hg : (g.map (Prod.mk b)).map Prod.snd = g := by cases g <;> rfl
  have ho' : supplyProtocol.allowed o ((g.map (Prod.mk b)).map Prod.snd) := by rwa [hg]
  refine ⟨ho', fun r hposs ↦ ?_⟩
  cases r with
  | error e => cases e
  | ok r =>
    have hposs' : supplyProtocol.possible o ((g.map (Prod.mk b)).map Prod.snd) r := hposs
    rw [hg] at hposs'
    refine ⟨r, rfl, hposs', ?_⟩
    cases o with
    | getProxy region =>
      cases r with
      | ok proxy => rfl
      | error e => rfl
    | move m => rfl
    | healthCheck => rfl

/-- The operations of a worker, with the breaker that it asks. -/
private theorem follows_playWorker {w : WorkerRef} {a : Option String} (o : WorkerOp)
    (u : ProxyUse) (h : RequestStage) (hr : h = ⟨.holding w a, u⟩)
    (ho : proxyProtocol.allowed o u) : Prog.Follows serviceProtocol
      (fun r h' ↦ ∃ x, r = .ok x ∧ proxyProtocol.possible o u x ∧
        h' = ⟨.holding w a, proxyProtocol.next o u x⟩) (playWorker w o) h := by
  subst hr
  cases o with
  | getProxy b region =>
    obtain ⟨held, noted⟩ := u
    obtain rfl : held = none := ho
    apply (Prog.Follows.host (fun o g h hr ho ↦ follows_breaker o g h hr ho)
      (follows_getProxy region) rfl).mono
    rintro r h' ⟨x, g, rfl, rfl, rfl⟩
    refine ⟨x, rfl, trivial, ?_⟩
    cases x with
    | ok proxy => rfl
    | error e => rfl
  | _ =>
    refine ⟨⟨⟨a, rfl⟩, ho⟩, fun r hposs ↦ ?_⟩
    cases r with
    | error e => cases e
    | ok r => exact ⟨r, rfl, hposs, rfl⟩

/-- The operations of a route, with the worker that it has leased. -/
private theorem follows_playRoute (workers : WorkerRef → ASBWorker) (env : ScrapeEnv) (o : RouteOp)
    (g : Lease) (h : RequestStage) (hr : h.lease = g ∧ h.use.held = none)
    (ho : scrapingProtocol.allowed o g) : Prog.Follows serviceProtocol
      (fun r h' ↦ ∃ x, r = .ok x ∧ scrapingProtocol.possible o g x ∧
        h'.lease = scrapingProtocol.next o g x ∧ h'.use.held = none)
      (playRoute workers env o) h := by
  obtain ⟨rfl, hheld⟩ := hr
  cases o with
  | scrape w request =>
    obtain ⟨a, ha⟩ := ho
    obtain ⟨lease, u⟩ := h
    obtain rfl : lease = .holding w a := ha
    apply Prog.Follows.bind (Prog.Follows.host (R := fun u h' ↦ h' = ⟨.holding w a, u⟩)
      (fun o u h hr ho ↦ follows_playWorker o u h hr ho)
      ((workers w).follows_scrape env request hheld) rfl)
    · rintro r h' ⟨x, u', -, hu', rfl⟩
      exact ⟨_, rfl, trivial, rfl, hu'⟩
    · rintro e h' ⟨x, u', hx, -⟩
      cases e
  | pool o =>
    refine ⟨⟨ho, hheld⟩, fun r hposs ↦ ?_⟩
    cases r with
    | error e => cases e
    | ok r => exact ⟨r, rfl, hposs, rfl, rfl⟩
  | _ =>
    refine ⟨trivial, fun r hposs ↦ ?_⟩
    cases r with
    | error e => cases e
    | ok r => exact ⟨r, rfl, hposs, rfl, hheld⟩

/-- A coroutine that has neither a worker nor a proxy. -/
def RequestStage.Idle (g : RequestStage) : Prop := g.lease = .none ∧ g.use.held = none

/-- A coroutine ends with neither a worker nor a proxy. -/
theorem ServiceActor.follows_prog (app : App) (workers : WorkerRef → ASBWorker)
    (actor : ServiceActor) :
    Prog.Follows serviceProtocol (fun _ g ↦ g.Idle) (actor.prog app workers) {} := by
  cases actor with
  | scrape incoming env =>
    apply Prog.Follows.bind (Prog.Follows.host (R := fun g h ↦ h.lease = g ∧ h.use.held = none)
      (fun o g h hr ho ↦ follows_playRoute workers env o g h hr ho)
      (follows_scraping app incoming.request incoming.keyId incoming.skipRateLimitCheck)
      ⟨rfl, rfl⟩)
    · rintro r h ⟨x, g, -, rfl, hh⟩
      exact hh
    · rintro e h -
      cases e
  | healthCheck b =>
    refine ⟨trivial, fun healthy _ ↦ ?_⟩
    cases healthy with
    | error e => cases e
    | ok healthy =>
      cases healthy with
      | ok healthy =>
        refine ⟨trivial, fun r _ ↦ ?_⟩
        cases r with
        | error e => cases e
        | ok r => exact ⟨rfl, rfl⟩
      | error e =>
        refine ⟨trivial, fun r _ ↦ ?_⟩
        cases r with
        | error e => cases e
        | ok r => exact ⟨rfl, rfl⟩
  | refresh b =>
    refine ⟨trivial, fun newPools _ ↦ ?_⟩
    cases newPools with
    | error e => cases e
    | ok newPools =>
      cases newPools with
      | error e => exact ⟨rfl, rfl⟩
      | ok newPools =>
        refine ⟨trivial, fun r _ ↦ ?_⟩
        cases r with
        | error e => cases e
        | ok r => exact ⟨rfl, rfl⟩

/-! ### What the coroutines hold -/

/-- The coroutine holds another proxy, or none. -/
def RequestStage.hold (g : RequestStage) (held : Option (Breaker × ProxyConfig)) : RequestStage :=
  { g with use := { g.use with held := held } }

/-- The coroutine holds this proxy of the breaker. -/
def RequestStage.holds (b : Breaker) (proxy : ProxyConfig) (g : RequestStage) : Bool :=
  g.use.held = some (b, proxy)

theorem lease_update {I : Type} [DecidableEq I] (stage : I → RequestStage) (i : I)
    (g : RequestStage) : (fun j ↦ (Function.update stage i g j).lease) =
      Function.update (fun j ↦ (stage j).lease) i g.lease :=
  Function.comp_update RequestStage.lease stage i g

section Invariant

variable {I : Type} [Fintype I]

/-- A provider and what the coroutines hold of it agree. Where refreshes know what is on lease, no
two leases have the same host and port. -/
structure ProviderInv (Lists : ProxyLeases → Dict String (List ProxyConfig) → Prop) (b : Breaker)
    (l : ProxyLeases) (stage : I → RequestStage) : Prop where
  leases : ∀ proxy, l.leases.count proxy = Prog.tally (RequestStage.holds b proxy) stage
  inUse : ∀ key ∈ l.provider.inUse, OnLease l key
  exclusive : (∀ l newPools, Lists l newPools → KnowsLeased l newPools) → LeasesInv l

/-- The service and what the coroutines have of it agree. -/
structure ServiceInv (Lists : ProxyLeases → Dict String (List ProxyConfig) → Prop)
    (sizes : Dict String Nat) (defaultRegion : String) (s : Service) (stage : I → RequestStage) :
    Prop where
  lease : LeaseInv sizes defaultRegion s.pool fun i ↦ (stage i).lease
  noted : ∀ i w a b, (stage i).lease = .holding w a → (stage i).use.noted = some b →
    s.lastProxyBreaker w = b
  provider : ∀ b l, s.decodo b = some l → ProviderInv Lists b l stage

variable {Lists : ProxyLeases → Dict String (List ProxyConfig) → Prop} {b : Breaker}
  {l : ProxyLeases} {stage : I → RequestStage}

/-- A held proxy is on lease. -/
theorem ProviderInv.mem_leases (h : ProviderInv Lists b l stage) {i : I} {proxy : ProxyConfig}
    (hi : (stage i).use.held = some (b, proxy)) : proxy ∈ l.leases := by
  rw [← List.count_pos_iff, h.leases]
  exact Prog.tally_pos (i := i) (decide_eq_true hi)

/-- What is on lease is held. -/
theorem ProviderInv.exists_held (h : ProviderInv Lists b l stage) {proxy : ProxyConfig}
    (hp : proxy ∈ l.leases) : ∃ i, (stage i).use.held = some (b, proxy) := by
  by_contra hnone
  rw [← List.count_pos_iff, h.leases, Prog.tally_eq_zero] at hp
  · exact Nat.lt_irrefl 0 hp
  · intro i
    exact decide_eq_false fun hi ↦ hnone ⟨i, hi⟩

variable {sizes : Dict String Nat} {defaultRegion : String} {s : Service}

variable [DecidableEq I]

/-- A coroutine that holds the same of a provider as before. -/
theorem ProviderInv.frame (h : ProviderInv Lists b l stage) {i : I} {g : RequestStage}
    (hg : ∀ proxy, g.use.held = some (b, proxy) ↔ (stage i).use.held = some (b, proxy)) :
    ProviderInv Lists b l (Function.update stage i g) where
  leases proxy := by
    have hsame : g.holds b proxy = (stage i).holds b proxy := decide_eq_decide.mpr (hg proxy)
    have hu := Prog.tally_update (RequestStage.holds b proxy) stage i g
    rw [hsame] at hu
    rw [h.leases]
    omega
  inUse := h.inUse
  exclusive := h.exclusive

/-- A coroutine without a proxy obtains one. -/
theorem ProviderInv.got (h : ProviderInv Lists b l stage) {region : Option String}
    {proxy : ProxyConfig} {d : DecodoProvider} (hget : l.provider.getProxy region = (.ok proxy, d))
    {i : I} {g : RequestStage} (hi : (stage i).use.held = none)
    (hg : g.use.held = some (b, proxy)) :
    ProviderInv Lists b ⟨d, proxy :: l.leases⟩ (Function.update stage i g) := by
  refine ⟨fun q ↦ ?_, onLease_step (.got hget) h.inUse, fun hk ↦ (h.exclusive hk).got hget⟩
  have hu := Prog.tally_update (RequestStage.holds b q) stage i g
  rw [← h.leases] at hu
  simp only [RequestStage.holds, hi, hg, reduceCtorEq, decide_false, Bool.toNat_false,
    Nat.add_zero, Option.some.injEq, Prod.mk.injEq, true_and] at hu
  rw [hu, List.count_cons]
  by_cases hq : proxy = q
  · simp [hq]
  · simp [hq]

/-- A coroutine gives back its proxy. -/
theorem ProviderInv.returned (h : ProviderInv Lists b l stage) {proxy : ProxyConfig} {i : I}
    {g : RequestStage} (hi : (stage i).use.held = some (b, proxy)) (hg : g.use.held = none) :
    ProviderInv Lists b (returnProxy l proxy) (Function.update stage i g) := by
  have hmem := h.mem_leases hi
  refine ⟨fun q ↦ ?_, onLease_step (.released hmem) h.inUse,
    fun hk ↦ (h.exclusive hk).released hmem⟩
  have hu := Prog.tally_update (RequestStage.holds b q) stage i g
  rw [← h.leases] at hu
  simp only [RequestStage.holds, hi, hg, reduceCtorEq, decide_false, Bool.toNat_false,
    Nat.add_zero, Option.some.injEq, Prod.mk.injEq, true_and] at hu
  change (l.leases.erase proxy).count q = _
  rw [List.count_erase, ← hu]
  by_cases hq : proxy = q
  · simp [hq]
  · simp [hq]

/-- The providers agree with what a coroutine holds then. -/
theorem ServiceInv.hold (h : ServiceInv Lists sizes defaultRegion s stage) {i : I}
    {held : Option (Breaker × ProxyConfig)} {decodo : Breaker → Option ProxyLeases}
    (hprovider : ∀ b l, decodo b = some l →
      ProviderInv Lists b l (Function.update stage i ((stage i).hold held))) :
    ServiceInv Lists sizes defaultRegion { s with decodo := decodo }
      (Function.update stage i ((stage i).hold held)) where
  lease := by
    rw [lease_update]
    exact (Function.update_eq_self i fun j ↦ (stage j).lease).symm ▸ h.lease
  noted j w a b' hj hb' := by
    by_cases hji : j = i
    · subst hji
      rw [Function.update_self] at hj hb'
      exact h.noted j w a b' hj hb'
    · rw [Function.update_of_ne hji] at hj hb'
      exact h.noted j w a b' hj hb'
  provider := hprovider

/-- The provider behind a breaker has changed with what a coroutine holds of it. -/
theorem ServiceInv.setDecodo (h : ServiceInv Lists sizes defaultRegion s stage) {i : I}
    (held : Option (Breaker × ProxyConfig))
    (hother : ∀ b' ≠ b, ∀ proxy, held = some (b', proxy) ↔
      (stage i).use.held = some (b', proxy))
    (hl : ProviderInv Lists b l (Function.update stage i ((stage i).hold held))) :
    ServiceInv Lists sizes defaultRegion (s.setDecodo b l)
      (Function.update stage i ((stage i).hold held)) := by
  refine h.hold fun b' l' hb' ↦ ?_
  by_cases hbb : b' = b
  · subst hbb
    rw [Function.update_self] at hb'
    rwa [← Option.some.inj hb']
  · rw [Function.update_of_ne hbb] at hb'
    exact (h.provider b' l' hb').frame (hother b' hbb)

/-- A pool operation, of a coroutine without a proxy. -/
theorem ServiceInv.pool (h : ServiceInv Lists sizes defaultRegion s stage) {i : I} {o : PoolOp}
    {r : Except Exn o.Ans} {pool : RegionWorkerPool} (he : PoolExec o s.pool r pool)
    (ha : leaseProtocol.allowed o (stage i).lease) (hi : (stage i).use.held = none) :
    leaseProtocol.possible o (stage i).lease r ∧
      ServiceInv Lists sizes defaultRegion { s with pool := pool }
        (Function.update stage i ⟨leaseProtocol.next o (stage i).lease r, {}⟩) := by
  obtain ⟨hposs, hlease⟩ := h.lease.step ha he
  refine ⟨hposs, ?_, fun j w a b hj hb ↦ ?_, fun b l hl ↦ (h.provider b l hl).frame ?_⟩
  · rw [lease_update]
    exact hlease
  · by_cases hji : j = i
    · subst hji
      rw [Function.update_self] at hb
      cases hb
    · rw [Function.update_of_ne hji] at hj hb
      exact h.noted j w a b hj hb
  · intro proxy
    rw [hi]

/-- The request that has leased a worker notes a breaker. -/
theorem ServiceInv.storeLast (h : ServiceInv Lists sizes defaultRegion s stage) {i : I}
    {w : WorkerRef} {a : Option String} (hi : (stage i).lease = .holding w a)
    (noted : Option Breaker) :
    ServiceInv Lists sizes defaultRegion (s.noteBreaker w noted)
      (Function.update stage i
        { stage i with use := { (stage i).use with noted := some noted } }) := by
  refine ⟨?_, fun j w' a' b' hj hb' ↦ ?_, fun b l hl ↦ (h.provider b l hl).frame fun _ ↦ Iff.rfl⟩
  · rw [lease_update, Function.update_eq_self]
    exact h.lease
  · by_cases hji : j = i
    · subst hji
      rw [Function.update_self] at hj hb'
      obtain ⟨rfl, -⟩ := Lease.holding.inj (hi.symm.trans hj)
      exact (Function.update_self ..).trans (Option.some.inj hb')
    · rw [Function.update_of_ne hji] at hj hb'
      -- two coroutines never lease one worker
      have hne : w' ≠ w := by
        rintro rfl
        exact hji (h.lease.exclusive j i w' a' a hj hi)
      exact (Function.update_of_ne hne ..).trans (h.noted j w' a' b' hj hb')

private theorem held_some_iff {b b' : Breaker} (hbb : b' ≠ b) (proxy q : ProxyConfig) :
    none = some (b', q) ↔ some (b, proxy) = some (b', q) :=
  iff_of_false nofun fun heq ↦ hbb (Prod.mk.inj (Option.some.inj heq)).1.symm

/-- A coroutine without a proxy asks the provider behind a breaker. -/
theorem ServiceInv.getProxy (h : ServiceInv Lists sizes defaultRegion s stage) {i : I}
    {region : Option String} (hb : s.decodo b = some l) (hi : (stage i).use.held = none) :
    ServiceInv Lists sizes defaultRegion (s.setDecodo b (leaseProxy l region).2)
      (Function.update stage i
        (serviceProtocol.next (.breaker b (.getProxy region)) (stage i)
          (.ok (leaseProxy l region).1))) := by
  have hl := h.provider b l hb
  rcases hget : l.provider.getProxy region with ⟨r, d⟩
  rw [leaseProxy_eq hget]
  cases r with
  | error e =>
    rw [DecodoProvider.getProxy_error hget]
    exact h.setDecodo (stage i).use.held (fun _ _ _ ↦ Iff.rfl) (hl.frame fun _ ↦ Iff.rfl)
  | ok proxy =>
    refine h.setDecodo (some (b, proxy)) (fun b' hbb q ↦ ?_) (hl.got hget hi rfl)
    rw [hi]
    exact (held_some_iff hbb proxy q).symm

/-- A coroutine gives back its proxy. -/
theorem ServiceInv.releaseProxy (h : ServiceInv Lists sizes defaultRegion s stage) {i : I}
    {proxy : ProxyConfig} (hb : s.decodo b = some l)
    (hi : (stage i).use.held = some (b, proxy)) :
    ServiceInv Lists sizes defaultRegion (s.setDecodo b (returnProxy l proxy))
      (Function.update stage i ((stage i).hold none)) := by
  refine h.setDecodo none (fun b' hbb q ↦ ?_) ((h.provider b l hb).returned hi rfl)
  rw [hi]
  exact held_some_iff hbb proxy q

/-- What is held of a breaker without a Decodo provider does not count. -/
theorem ServiceInv.holdOther (h : ServiceInv Lists sizes defaultRegion s stage) {i : I}
    (hb : s.decodo b = none) {held : Option (Breaker × ProxyConfig)}
    (hother : ∀ b' ≠ b, ∀ proxy, held = some (b', proxy) ↔
      (stage i).use.held = some (b', proxy)) :
    ServiceInv Lists sizes defaultRegion s (Function.update stage i ((stage i).hold held)) := by
  refine h.hold fun b' l hl ↦ (h.provider b' l hl).frame (hother b' ?_)
  rintro rfl
  rw [hb] at hl
  cases hl

/-- One step of the service. -/
theorem ServiceInv.step (h : ServiceInv Lists sizes defaultRegion s stage) {i : I} {o : ServiceOp}
    {r : Except Empty o.Ans} {s' : Service} (ha : serviceProtocol.allowed o (stage i))
    (he : ServiceExec Lists o s r s') : serviceProtocol.possible o (stage i) r ∧
      ServiceInv Lists sizes defaultRegion s'
        (Function.update stage i (serviceProtocol.next o (stage i) r)) := by
  have hkeep : ServiceInv Lists sizes defaultRegion s (Function.update stage i (stage i)) := by
    rwa [Function.update_eq_self]
  cases he with
  | @route o s r pool he =>
    cases he with
    | pool he => exact h.pool he ha.1 ha.2
    | other hno =>
      cases o with
      | pool po => exact absurd rfl (hno po)
      | scrape w request => exact False.elim ha
      | _ => exact ⟨trivial, hkeep⟩
  | fingerprint r => exact ⟨trivial, hkeep⟩
  | run r => exact ⟨trivial, hkeep⟩
  | loadLast =>
    obtain ⟨⟨a, hlease⟩, -⟩ := ha
    exact ⟨fun b hb ↦ h.noted i _ a b hlease hb, hkeep⟩
  | storeLast =>
    obtain ⟨⟨a, hlease⟩, -⟩ := ha
    exact ⟨trivial, h.storeLast hlease _⟩
  | releaseProxy hb => exact ⟨trivial, h.releaseProxy hb ha.2⟩
  | releaseOther hb =>
    refine ⟨trivial, h.holdOther hb fun b' hbb q ↦ ?_⟩
    have hheld : (stage i).use.held = some _ := ha.2
    rw [hheld]
    exact held_some_iff hbb _ q
  | @move b m s now =>
    refine ⟨?_, hkeep.lease, hkeep.noted, hkeep.provider⟩
    cases m with
    | _ => exact trivial
  | healthCheck r => exact ⟨trivial, hkeep⟩
  | getProxy hb => exact ⟨trivial, h.getProxy hb (Option.map_eq_none_iff.mp ha)⟩
  | getOther hb r =>
    cases r with
    | error e => exact ⟨trivial, hkeep⟩
    | ok proxy =>
      refine ⟨trivial, h.holdOther hb fun b' hbb q ↦ ?_⟩
      have hheld : (stage i).use.held = none := Option.map_eq_none_iff.mp ha
      rw [hheld]
      exact (held_some_iff hbb proxy q).symm
  | fetchPool r => exact ⟨trivial, hkeep⟩
  | @replacePool b newPools s l hb hl =>
    have hinv := hkeep.provider b l hb
    refine ⟨trivial, h.setDecodo (stage i).use.held (fun _ _ _ ↦ Iff.rfl) ?_⟩
    exact ⟨hinv.leases, onLease_step .refreshed hinv.inUse,
      fun hk ↦ (hinv.exclusive hk).refreshed (hk l newPools hl)⟩
  | replaceOther hb => exact ⟨trivial, hkeep⟩

end Invariant

/-! ### The running service -/

/-- What startup sets up: the pool with its workers, the breakers, and the Decodo provider behind a
breaker, with its default region and the pools of its first refresh. -/
structure Deployment where
  app : App
  workers : WorkerRef → ASBWorker
  sizes : Dict String Nat
  defaultRegion : String
  configured : (sizes.get? defaultRegion).isSome
  breakers : Breaker → CircuitBreaker
  decodo : Breaker → Option (String × Dict String (List ProxyConfig))

namespace Deployment

/-- The providers after their first refresh. -/
def startDecodo (d : Deployment) (b : Breaker) : Option ProxyLeases :=
  (d.decodo b).map fun p ↦ ⟨(DecodoProvider.new p.1).replacePool p.2, []⟩

/-- The service before anything runs in it. -/
def service (d : Deployment) : Service where
  pool := RegionWorkerPool.new d.sizes d.defaultRegion
  lastProxyBreaker _ := none
  breakers := d.breakers
  decodo := d.startDecodo

end Deployment

/-- A fresh service. -/
theorem serviceInv_start {I : Type} [Fintype I]
    {Lists : ProxyLeases → Dict String (List ProxyConfig) → Prop} (d : Deployment) :
    ServiceInv Lists d.sizes d.defaultRegion d.service (fun _ : I ↦ ({} : RequestStage)) where
  lease := leaseInv_new d.configured
  noted i w a b hi := nomatch hi
  provider b l hl := by
    obtain ⟨p, -, rfl⟩ := Option.map_eq_some_iff.mp hl
    refine ⟨fun proxy ↦ ?_, fun key hkey ↦ ?_, fun _ ↦ ⟨List.nodup_nil, nofun⟩⟩
    · exact (Prog.tally_eq_zero fun _ ↦ rfl).symm
    · cases (Finset.mem_inter.mp hkey).1

section Running

variable {I : Type} [DecidableEq I]

/-- The service, what each coroutine has of it, and what each has still to do. -/
abbrev Services (I : Type) :=
  Prog.Config Empty ServiceOp.Ans (Option (Except Exn ScrapeResponse)) I Service RequestStage

/-- A fresh service and coroutines that have not started. -/
def startService (d : Deployment) (actors : I → ServiceActor) : Services I where
  shared := d.service
  stage _ := {}
  prog i := (actors i).prog d.app d.workers

/-- Any interleaving of the coroutines. -/
def ServiceReach (Lists : ProxyLeases → Dict String (List ProxyConfig) → Prop) :
    Services I → Services I → Prop :=
  Relation.ReflTransGen (Prog.Step (fun _ ↦ ServiceExec Lists) serviceProtocol)

/-- What holds of the proxies at any time. A coroutine holds a proxy from the answer of the provider
until its release. -/
structure ProxiesExact (Lists : ProxyLeases → Dict String (List ProxyConfig) → Prop)
    (c : Services I) : Prop where
  /-- A proxy is released by the coroutine that holds it, to the breaker that supplied it. -/
  supplier : ∀ i w b proxy k, c.prog i = .call (.worker w (.releaseProxy b proxy)) k →
    (c.stage i).use.held = some (b, proxy)
  /-- What a provider counts as in use is held by a coroutine that has not ended. -/
  held : ∀ b l key, c.shared.decodo b = some l → key ∈ l.provider.inUse →
    ∃ i proxy, (c.prog i).ended = false ∧ (c.stage i).use.held = some (b, proxy) ∧
      proxyKey proxy = key
  /-- No two coroutines hold one proxy, where refreshes know what is on lease. -/
  exclusive : (∀ l newPools, Lists l newPools → KnowsLeased l newPools) →
    ∀ i j b l p q, c.shared.decodo b = some l → (c.stage i).use.held = some (b, p) →
      (c.stage j).use.held = some (b, q) → proxyKey p = proxyKey q → i = j
  /-- Once all coroutines have ended, no provider counts a proxy as in use. -/
  returned : (∀ i, ∃ out, c.prog i = .done out) →
    ∀ b l, c.shared.decodo b = some l → l.provider.inUse = ∅ ∧ l.leases = []

variable [Fintype I] {Lists : ProxyLeases → Dict String (List ProxyConfig) → Prop}

/-- Coroutines that hold proxies with one host and port are the same. -/
theorem ProviderInv.eq_of_proxyKey_eq {b : Breaker} {l : ProxyLeases} {stage : I → RequestStage}
    (h : ProviderInv Lists b l stage) (hk : ∀ l newPools, Lists l newPools → KnowsLeased l newPools)
    {i j : I} {p q : ProxyConfig} (hi : (stage i).use.held = some (b, p))
    (hj : (stage j).use.held = some (b, q)) (hkey : proxyKey p = proxyKey q) : i = j := by
  have hnodup := (h.exclusive hk).exclusive
  obtain rfl := List.inj_on_of_nodup_map hnodup (h.mem_leases hi) (h.mem_leases hj) hkey
  by_contra hne
  -- the proxy is on lease once, and two coroutines hold it
  have honce := List.nodup_iff_count_le_one.mp hnodup.of_map p
  have hu := Prog.tally_update (RequestStage.holds b p) stage i {}
  rw [← h.leases, show (stage i).holds b p = true from decide_eq_true hi] at hu
  have hj' : RequestStage.holds b p (Function.update stage i {} j) = true := by
    rw [Function.update_of_ne (Ne.symm hne)]
    exact decide_eq_true hj
  have hpos := Prog.tally_pos hj'
  have hnone : RequestStage.holds b p {} = false := rfl
  rw [hnone] at hu
  simp only [Bool.toNat_true, Bool.toNat_false] at hu
  omega

/-- In every interleaving, the proxies in use are those that running requests hold, and each goes
back to the breaker that supplied it. -/
theorem proxiesExact_of_reaches (d : Deployment) (actors : I → ServiceActor) (c : Services I)
    (hc : ServiceReach Lists (startService d actors) c) : ProxiesExact Lists c := by
  obtain ⟨hinv, hf⟩ := Prog.interleaving_sound (J := ServiceInv Lists d.sizes d.defaultRegion)
    (Q := fun _ _ g ↦ RequestStage.Idle g) (fun s stage i o r s' hinv ha he ↦ hinv.step ha he) hc
    (serviceInv_start d) fun i ↦ (actors i).follows_prog d.app d.workers
  have hended (i : I) (out) (hout : c.prog i = .done out) (proxy : ProxyConfig) (b : Breaker) :
      (c.stage i).use.held ≠ some (b, proxy) := by
    have hidle := hf i
    rw [hout] at hidle
    have hheld : (c.stage i).use.held = none := hidle.2
    rw [hheld]
    exact nofun
  refine ⟨fun i w b proxy k hp ↦ ?_, fun b l key hl hkey ↦ ?_,
    fun hk i j b l p q hl hi hj hkey ↦ ?_, fun hdone b l hl ↦ ?_⟩
  · have hi := hf i
    rw [hp] at hi
    exact hi.1.2
  · obtain ⟨proxy, hproxy, rfl⟩ := List.mem_map.mp ((hinv.provider b l hl).inUse key hkey)
    obtain ⟨i, hi⟩ := (hinv.provider b l hl).exists_held hproxy
    refine ⟨i, proxy, ?_, hi, rfl⟩
    cases hprog : c.prog i with
    | call o k => rfl
    | done out => exact absurd hi (hended i out hprog proxy b)
  · exact (hinv.provider b l hl).eq_of_proxyKey_eq hk hi hj hkey
  · have hnone : l.leases = [] := by
      apply List.eq_nil_iff_forall_not_mem.mpr
      intro proxy hproxy
      obtain ⟨i, hi⟩ := (hinv.provider b l hl).exists_held hproxy
      obtain ⟨out, hout⟩ := hdone i
      exact hended i out hout proxy b hi
    refine ⟨Finset.eq_empty_of_forall_notMem fun key hkey ↦ ?_, hnone⟩
    have hleased := (hinv.provider b l hl).inUse key hkey
    rw [OnLease, hnone] at hleased
    cases hleased

end Running

private def decodoBreaker : Breaker := ⟨0, "decodo"⟩

private def sampleProxy : ProxyConfig := { host := "1.2.3.4", port := 8000, region := some "jp" }

private def otherProxy : ProxyConfig := { sampleProxy with host := "5.6.7.8" }

private def sampleDeployment : Deployment where
  app := ⟨true, false, false, false, none, ⟨id, id, some, some⟩, {}⟩
  workers _ := ⟨"worker-jp", decodoBreaker, none, none, true⟩
  sizes := Dict.ofList [("jp", 2)]
  defaultRegion := "jp"
  configured := by decide
  breakers b := { name := b.name }
  decodo b :=
    if b = decodoBreaker then some ("jp", Dict.ofList [("jp", [sampleProxy])]) else none

private def sampleRequestOf (keyId : String) : ServiceActor :=
  .scrape ⟨{ url := "https://example.com" }, keyId, true⟩ ⟨default, 0⟩

private def sampleActors : Fin 3 → ServiceActor :=
  ![sampleRequestOf "key_a", sampleRequestOf "key_b", .refresh decodoBreaker]

private theorem validated (s : Service) : ServiceExec KnowsLeased
    (.route (.validateUrl "https://example.com")) s (.ok (.ok "https://example.com")) s :=
  .route (@RouteExec.other (.validateUrl _) _ (.ok "https://example.com") fun _ h ↦ nomatch h)

/-- A request holds the only proxy while a refresh lists a second one, which another request
obtains. Then the first request releases its proxy. -/
theorem proxiesExact_of_reaches_sample : ∃ c : Services (Fin 3),
    (c.stage 0).use.held = none ∧
      (c.stage 1).use.held = some (decodoBreaker, otherProxy) ∧ ProxiesExact KnowsLeased c := by
  have hstart : ServiceReach KnowsLeased (startService sampleDeployment sampleActors)
      (startService sampleDeployment sampleActors) := .refl
  have hurl := hstart.tail (.call 0 rfl (validated _))
  have hpermit := hurl.tail (.call 0 rfl (.route (.pool (.exec rfl))))
  have htaken := hpermit.tail (.call 0 rfl (.route (.pool (.exec rfl))))
  have hchecked := htaken.tail (.call 0 rfl (.move 0))
  have hgot := hchecked.tail (.call 0 rfl (.getProxy rfl))
  have hmarked := hgot.tail (.call 0 rfl (.move 0))
  have hnoted := hmarked.tail (.call 0 rfl .storeLast)
  have hfetched := hnoted.tail (.call 2 rfl
    (.fetchPool (.ok (Dict.ofList [("jp", [sampleProxy, otherProxy])]))))
  have hrefreshed := hfetched.tail (.call 2 rfl (.replacePool rfl (by unfold KnowsLeased; decide)))
  have hurl' := hrefreshed.tail (.call 1 rfl (validated _))
  have hpermit' := hurl'.tail (.call 1 rfl (.route (.pool (.exec rfl))))
  have htaken' := hpermit'.tail (.call 1 rfl (.route (.pool (.exec rfl))))
  have hchecked' := htaken'.tail (.call 1 rfl (.move 1))
  have hgot' := hchecked'.tail (.call 1 rfl (.getProxy rfl))
  have hprinted := hgot'.tail (.call 0 rfl (.fingerprint (.error ⟨.other, "unknown preset"⟩)))
  have hloaded := hprinted.tail (.call 0 rfl .loadLast)
  have hreleased := hloaded.tail (.call 0 rfl (.releaseProxy rfl))
  exact ⟨_, rfl, rfl, proxiesExact_of_reaches sampleDeployment sampleActors _ hreleased⟩

end AsbCloudApi.Routes
