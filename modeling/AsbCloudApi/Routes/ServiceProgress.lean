import AsbCloudApi.Routes.ProxyFlow

/-!
# Progress of the service

Library `Routes`. Requests wait for nothing but a permit of the worker pool, each for one only.
Where every region has a worker, the service cannot come to a standstill.
-/

namespace AsbCloudApi.Routes

open Base Api Providers Session Workers

/-- What the components outside the model answer, and the time. -/
structure ServiceAnswers where
  route : (o : RouteOp) → Except Exn o.Ans
  worker : (o : WorkerOp) → Except PyError o.Ans
  getProxy : Breaker → Except PyError ProxyConfig
  healthCheck : Breaker → Except PyError Bool
  fetchPool : Breaker → Except PyError (Dict String (List ProxyConfig))
  now : ℚ

/-- Execute one operation; nothing as long as it has to wait. -/
def ServiceAnswers.exec (a : ServiceAnswers) :
    (o : ServiceOp) → Service → Option (Except Empty o.Ans × Service)
  | .route (.pool o), s => (o.exec s.pool).map fun x ↦ (.ok x.1, { s with pool := x.2 })
  | .route o, s => some (.ok (a.route o), s)
  | .worker w .loadLast, s => some (.ok (.ok (s.lastProxyBreaker w)), s)
  | .worker w (.storeLast b), s => some (.ok (.ok ()), s.noteBreaker w b)
  | .worker _ (.releaseProxy b proxy), s =>
    match s.decodo b with
    | some l => some (.ok (.ok ()), s.setDecodo b (returnProxy l proxy))
    | none => some (.ok (.ok ()), s)
  | .worker _ o, s => some (.ok (a.worker o), s)
  | .breaker b (.move m), s =>
    some (.ok ((s.breakers b).step (a.now, m)).1, s.moveBreaker b a.now m)
  | .breaker b (.getProxy region), s =>
    match s.decodo b with
    | some l => some (.ok (leaseProxy l region).1, s.setDecodo b (leaseProxy l region).2)
    | none => some (.ok (a.getProxy b), s)
  | .breaker b .healthCheck, s => some (.ok (a.healthCheck b), s)
  | .fetchPool b, s => some (.ok (a.fetchPool b), s)
  | .replacePool b newPools, s =>
    match s.decodo b with
    | some l => some (.ok (), s.setDecodo b ⟨l.provider.replacePool newPools, l.leases⟩)
    | none => some (.ok (), s)

section Exec

variable (a : ServiceAnswers)

/-- What is executed is a step of the service. -/
theorem serviceExec_of_exec {o : ServiceOp} {s s' : Service} {r : Except Empty o.Ans}
    (ho : ∀ w b region, o ≠ .worker w (.getProxy b region)) (h : a.exec o s = some (r, s')) :
    ServiceExec (fun _ _ ↦ True) o s r s' := by
  cases o with
  | route o =>
    cases o with
    | pool o =>
      obtain ⟨x, hx, heq⟩ := Option.map_eq_some_iff.mp h
      cases heq
      exact .route (.pool (.exec hx))
    | _ =>
      cases h
      exact .route (.other fun _ h ↦ nomatch h)
  | worker w o =>
    cases o with
    | getProxy b region => exact absurd rfl (ho w b region)
    | releaseProxy b proxy =>
      simp only [ServiceAnswers.exec] at h
      split at h
      · next l hb =>
        cases h
        exact .releaseProxy hb
      · next hb =>
        cases h
        exact .releaseOther hb
    | fingerprint preset =>
      cases h
      exact .fingerprint _
    | run request proxy fp =>
      cases h
      exact .run _
    | loadLast =>
      cases h
      exact .loadLast
    | storeLast b =>
      cases h
      exact .storeLast
  | breaker b o =>
    cases o with
    | move m =>
      cases h
      exact .move a.now
    | getProxy region =>
      simp only [ServiceAnswers.exec] at h
      split at h
      · next l hb =>
        cases h
        exact .getProxy hb
      · next hb =>
        cases h
        exact .getOther hb _
    | healthCheck =>
      cases h
      exact .healthCheck _
  | fetchPool b =>
    cases h
    exact .fetchPool _
  | replacePool b newPools =>
    simp only [ServiceAnswers.exec] at h
    split at h
    · next l hb =>
      cases h
      exact .replacePool hb trivial
    · next hb =>
      cases h
      exact .replaceOther hb

/-- Asking for a permit, which may have to be waited for. -/
def ServiceOp.asksPermit : ServiceOp → Bool
  | .route (.pool (.acquirePermit _)) => true
  | _ => false

theorem exists_region_of_asksPermit {o : ServiceOp} (h : o.asksPermit = true) :
    ∃ region, o = .route (.pool (.acquirePermit region)) := by
  cases o with
  | route o =>
    cases o with
    | pool o =>
      cases o with
      | acquirePermit region => exact ⟨region, rfl⟩
      | _ => cases h
    | _ => cases h
  | _ => cases h

/-- Nothing but a permit is waited for. -/
theorem exists_exec {o : ServiceOp} (ho : o.asksPermit = false) (s : Service) :
    ∃ r s', a.exec o s = some (r, s') := by
  cases o with
  | route o =>
    cases o with
    | pool o =>
      cases o with
      | acquirePermit region => cases ho
      | _ => exact ⟨_, _, rfl⟩
    | _ => exact ⟨_, _, rfl⟩
  | worker w o =>
    cases o with
    | releaseProxy b proxy =>
      simp only [ServiceAnswers.exec]
      split
      · exact ⟨_, _, rfl⟩
      · exact ⟨_, _, rfl⟩
    | _ => exact ⟨_, _, rfl⟩
  | breaker b o =>
    cases o with
    | getProxy region =>
      simp only [ServiceAnswers.exec]
      split
      · exact ⟨_, _, rfl⟩
      · exact ⟨_, _, rfl⟩
    | _ => exact ⟨_, _, rfl⟩
  | fetchPool b => exact ⟨_, _, rfl⟩
  | replacePool b newPools =>
    simp only [ServiceAnswers.exec]
    split
    · exact ⟨_, _, rfl⟩
    · exact ⟨_, _, rfl⟩

end Exec

/-! ### One permit each -/

/-- A coroutine asks for one permit at most; its stage is whether it has asked. -/
def permitOnce : Prog.Protocol Empty ServiceOp.Ans Bool where
  allowed o g := o.asksPermit = true → g = false
  possible _ _ _ := True
  next o g _ := o.asksPermit || g

/-- The same for a route. -/
def routePermitOnce : Prog.Protocol Exn RouteOp.Ans Bool where
  allowed o g := (ServiceOp.route o).asksPermit = true → g = false
  possible _ _ _ := True
  next o g _ := (ServiceOp.route o).asksPermit || g

private theorem stays_routePermitOnce {α : Type} {kinds : List RouteKind}
    (hk : RouteKind.pool ∉ kinds) {p : RouteProg α} (h : Calls kinds p) :
    Prog.Stays routePermitOnce p := by
  have hno : ∀ o : RouteOp, o.kind ∈ kinds → (ServiceOp.route o).asksPermit = false := by
    intro o ho
    cases o with
    | pool po => exact absurd ho hk
    | _ => rfl
  apply h.stays
  · intro o g ho hasks
    rw [hno o ho] at hasks
    cases hasks
  · intro o g r ho
    change ((ServiceOp.route o).asksPermit || g) = g
    rw [hno o ho, Bool.false_or]

private theorem follows_routePermitOnce (app : App) (request : ScrapeRequest) (keyId : String)
    (skip : Bool) : Prog.Follows routePermitOnce (fun _ _ ↦ True)
      (executeOneScrape app request keyId skip) false := by
  unfold executeOneScrape
  apply (stays_routePermitOnce (by decide) (calls_prelude app request keyId skip) _).bind
  · rintro session g rfl
    refine ⟨fun _ ↦ rfl, fun region _ ↦ ?_⟩
    cases region with
    | error e => exact trivial
    | ok region =>
      refine ⟨nofun, fun taken _ ↦ ?_⟩
      match taken with
      | .error e => exact trivial
      | .ok none =>
        refine ⟨nofun, fun released _ ↦ ?_⟩
        cases released with
        | ok u => exact trivial
        | error e => exact trivial
      | .ok (some worker) =>
        apply Prog.Follows.tryFinally
          (stays_routePermitOnce (by decide) (calls_scrapeWith app request keyId session worker) _)
        rintro r g rfl
        refine ⟨nofun, fun released _ ↦ ?_⟩
        cases released with
        | ok u => exact trivial
        | error e => exact trivial
  · exact fun e g _ ↦ trivial

/-- What is done with a breaker asks for no permit. -/
private theorem only_breaker {α : Type} (b : Breaker) (p : BreakerProg α) :
    Prog.Only (fun o : ServiceOp ↦ o.asksPermit = false)
      (onBreaker b p) := by
  apply Prog.only_host
  exact fun o ↦ ⟨rfl, fun _ ↦ trivial⟩

/-- What a worker does asks for no permit. -/
private theorem only_playWorker (w : WorkerRef) (o : WorkerOp) :
    Prog.Only (fun o : ServiceOp ↦ o.asksPermit = false) (playWorker w o) := by
  cases o with
  | getProxy b region => exact only_breaker b _
  | _ => exact Prog.only_perform rfl

private theorem stays_permitOnce {α : Type} {p : ServiceProg α}
    (h : Prog.Only (fun o : ServiceOp ↦ o.asksPermit = false) p) : Prog.Stays permitOnce p := by
  apply h.stays
  · intro o g ho hasks
    rw [ho] at hasks
    cases hasks
  · intro o g r ho
    change (o.asksPermit || g) = g
    rw [ho, Bool.false_or]

/-- Each coroutine asks for one permit at most. -/
theorem ServiceActor.follows_permitOnce (app : App) (workers : WorkerRef → ASBWorker)
    (actor : ServiceActor) :
    Prog.Follows permitOnce (fun _ _ ↦ True) (actor.prog app workers) false := by
  cases actor with
  | scrape incoming env =>
    apply Prog.Follows.bind (Prog.Follows.host (R := fun g h ↦ h = g) ?_
      (follows_routePermitOnce app incoming.request incoming.keyId incoming.skipRateLimitCheck) rfl)
    · exact fun r h _ ↦ trivial
    · exact fun e h _ ↦ trivial
    · rintro o g h rfl ho
      cases o with
      | scrape w request =>
        apply (stays_permitOnce (Prog.only_host (only_playWorker w) _) h).bind
        · rintro r h' rfl
          exact ⟨_, rfl, trivial, rfl⟩
        · rintro e
          cases e
      | _ =>
        refine ⟨ho, fun r _ ↦ ?_⟩
        cases r with
        | error e => cases e
        | ok r => exact ⟨r, rfl, trivial, rfl⟩
  | healthCheck b =>
    have honly : Prog.Only (fun o : ServiceOp ↦ o.asksPermit = false)
        (ServiceActor.prog app workers (.healthCheck b)) :=
      (only_breaker b checkBreaker).bind fun _ ↦ Prog.only_done _
    exact (stays_permitOnce honly false).mono fun _ _ _ ↦ trivial
  | refresh b =>
    refine ⟨nofun, fun newPools _ ↦ ?_⟩
    match newPools with
    | .ok (.ok newPools) =>
      refine ⟨nofun, fun r _ ↦ ?_⟩
      cases r with
      | error e => cases e
      | ok r => exact trivial
    | .ok (.error e) => exact trivial

/-! ### The service comes to an end -/

section Progress

variable {I : Type} [Fintype I] {sizes : Dict String Nat} {defaultRegion : String}

/-- Where no worker is leased and every region has one, a permit is free. -/
theorem exists_acquirePermit {p : RegionWorkerPool} {lease : I → Lease}
    (h : LeaseInv sizes defaultRegion p lease) (hnone : ∀ i, lease i = .none)
    (hsizes : ∀ r size, sizes.get? r = some size → 0 < size) (region : Option String) :
    ∃ x, p.acquirePermit region = some x := by
  obtain ⟨size, hsize⟩ := Option.isSome_iff_exists.mp (normalized_isSome h.configured region)
  obtain ⟨s, ws, hs, -, hinv⟩ := h.region _ size hsize
  have hpermits := hinv.permits
  rw [Prog.tally_eq_zero fun i ↦ by rw [hnone i]; rfl,
    Prog.tally_eq_zero fun i ↦ by rw [hnone i]; rfl] at hpermits
  obtain ⟨value, bound⟩ := s
  obtain ⟨n, rfl⟩ := Nat.exists_eq_succ_of_ne_zero (hpermits ▸ (hsizes _ _ hsize).ne')
  unfold RegionWorkerPool.acquirePermit
  rw [h.normalizeRegion_eq]
  dsimp only
  rw [hs]
  exact ⟨_, rfl⟩

/-- The service and what the coroutines have of it agree, and who has a lease has asked for it. -/
structure ProgressInv (sizes : Dict String Nat) (defaultRegion : String) (s : Service)
    (stage : I → RequestStage × Bool) : Prop where
  service : ServiceInv (fun _ _ ↦ True) sizes defaultRegion s fun i ↦ (stage i).1
  asked : ∀ i, (stage i).2 = false → (stage i).1.lease = .none

/-- The use of the service, with whether a permit was asked for. -/
def progressProtocol : Prog.Protocol Empty ServiceOp.Ans (RequestStage × Bool) :=
  serviceProtocol.both permitOnce

/-- A coroutine that waits for no permit, or finds one: it has asked already, or no worker is
leased. -/
def CanGoOn (stage : I → RequestStage × Bool) (i : I) : Prop :=
  (stage i).2 = true ∨ ∀ j, (stage j).1.lease = .none

/-- As long as a coroutine has not ended, one can go on to its end. -/
theorem exists_canGoOn {c : Prog.Config Empty ServiceOp.Ans (Option (Except Exn ScrapeResponse)) I
      Service (RequestStage × Bool)} (h : ProgressInv sizes defaultRegion c.shared c.stage)
    (hf : ∀ i, Prog.Follows progressProtocol (fun _ g ↦ g.1.Idle ∧ True) (c.prog i) (c.stage i))
    (hne : ∃ i, (c.prog i).ended = false) :
    ∃ i, (c.prog i).ended = false ∧ CanGoOn c.stage i := by
  obtain ⟨i, hi⟩ := hne
  by_cases hall : ∀ j, (c.stage j).1.lease = .none
  · exact ⟨i, hi, .inr hall⟩
  · obtain ⟨j, hj⟩ := not_forall.mp hall
    refine ⟨j, ?_, .inl ?_⟩
    · cases hp : c.prog j with
      | call o k => rfl
      | done out =>
        have hidle := hf j
        rw [hp] at hidle
        exact absurd hidle.1.1 hj
    · cases hasked : (c.stage j).2 with
      | true => rfl
      | false => exact absurd (h.asked j hasked) hj

/-- A coroutine that has not asked for a permit gets no lease. -/
theorem lease_next {o : ServiceOp} {g : RequestStage} (hlease : g.lease = .none)
    (ha : serviceProtocol.allowed o g) (ho : o.asksPermit = false) (r : Except Empty o.Ans) :
    (serviceProtocol.next o g r).lease = .none := by
  cases r with
  | error e => cases e
  | ok r =>
    cases o with
    | route o =>
      cases o with
      | pool o =>
        have hpool : leaseProtocol.allowed o g.lease := ha.1
        rw [hlease] at hpool
        cases o with
        | acquirePermit region => cases ho
        | _ => exact False.elim hpool
      | _ => exact hlease
    | breaker b o =>
      cases o with
      | getProxy region => cases r <;> exact hlease
      | _ => exact hlease
    | _ => exact hlease

variable [DecidableEq I] {s : Service} {stage : I → RequestStage × Bool}

theorem ProgressInv.step (h : ProgressInv sizes defaultRegion s stage) {i : I} {o : ServiceOp}
    {r : Except Empty o.Ans} {s' : Service} (ha : progressProtocol.allowed o (stage i))
    (he : ServiceExec (fun _ _ ↦ True) o s r s') : progressProtocol.possible o (stage i) r ∧
      ProgressInv sizes defaultRegion s'
        (Function.update stage i (progressProtocol.next o (stage i) r)) := by
  obtain ⟨hposs, hservice⟩ := h.service.step ha.1 he
  refine ⟨⟨hposs, trivial⟩, ?_, ?_⟩
  · have hcomp : (fun j ↦ (Function.update stage i (progressProtocol.next o (stage i) r) j).1) =
        Function.update (fun j ↦ (stage j).1) i (serviceProtocol.next o (stage i).1 r) :=
      Function.comp_update Prod.fst stage i _
    rwa [hcomp]
  · apply (Function.forall_update_iff stage fun _ g ↦ g.2 = false → g.1.lease = .none).mpr
    refine ⟨fun hasked ↦ ?_, fun j _ ↦ h.asked j⟩
    obtain ⟨ho, hnot⟩ := Bool.or_eq_false_iff.mp hasked
    exact lease_next (h.asked i hnot) ha.1 ho r

theorem ProgressInv.served (h : ProgressInv sizes defaultRegion s stage)
    (hsizes : ∀ r size, sizes.get? r = some size → 0 < size) (a : ServiceAnswers) {i : I}
    {o : ServiceOp} (ha : progressProtocol.allowed o (stage i)) (hr : CanGoOn stage i) :
    ∃ r s', a.exec o s = some (r, s') ∧
      CanGoOn (Function.update stage i (progressProtocol.next o (stage i) r)) i := by
  have hasked : ∀ r, CanGoOn (Function.update stage i (progressProtocol.next o (stage i) r)) i := by
    intro r
    cases hnext : (progressProtocol.next o (stage i) r).2 with
    | true => exact .inl (by rw [Function.update_self, hnext])
    | false =>
      obtain ⟨ho, hnot⟩ := Bool.or_eq_false_iff.mp hnext
      have hnone : ∀ j, (stage j).1.lease = .none := by
        rcases hr with hr | hr
        · rw [hr] at hnot
          cases hnot
        · exact hr
      refine .inr ((Function.forall_update_iff stage fun _ g ↦ g.1.lease = .none).mpr ?_)
      exact ⟨lease_next (hnone i) ha.1 ho r, fun j _ ↦ hnone j⟩
  cases ho : o.asksPermit with
  | false =>
    obtain ⟨r, s', he⟩ := exists_exec a ho s
    exact ⟨r, s', he, hasked r⟩
  | true =>
    have hnot : (stage i).2 = false := ha.2 ho
    rcases hr with hr | hr
    · rw [hr] at hnot
      cases hnot
    · obtain ⟨region, rfl⟩ := exists_region_of_asksPermit ho
      obtain ⟨x, hx⟩ := exists_acquirePermit h.service.lease hr hsizes region
      exact ⟨.ok x.1, { s with pool := x.2 }, Option.map_eq_some_iff.mpr ⟨x, hx, rfl⟩, hasked _⟩

/-- Any interleaving in which the other components answer so, and no request gives up waiting. -/
def ServiceRuns (a : ServiceAnswers) : Services I → Services I → Prop :=
  Relation.ReflTransGen (Prog.Step (fun _ o s r s' ↦ a.exec o s = some (r, s')) serviceProtocol)

/-- From every moment of every interleaving, the service can go on until all has ended, whatever the
other components answer. -/
theorem service_completes (d : Deployment)
    (hsizes : ∀ r size, d.sizes.get? r = some size → 0 < size) (actors : I → ServiceActor)
    (c : Services I) (hc : ServiceReach (fun _ _ ↦ True) (startService d actors) c)
    (a : ServiceAnswers) : ∃ e, ServiceRuns a c e ∧ ∀ i, ∃ out, e.prog i = .done out := by
  obtain ⟨stage, hreach⟩ := Prog.restage progressProtocol hc fun _ ↦ ({}, false)
  obtain ⟨hinv, hf⟩ := Prog.interleaving_sound (J := ProgressInv d.sizes d.defaultRegion)
    (Q := fun _ _ (g : RequestStage × Bool) ↦ g.1.Idle ∧ True)
    (fun s stage i o r s' h ha he ↦ h.step ha he) hreach
    ⟨serviceInv_start d, fun _ _ ↦ rfl⟩
    fun i ↦ ((actors i).follows_prog d.app d.workers).both
      ((actors i).follows_permitOnce d.app d.workers)
  have hstep : ∀ (s : Service) (stage : I → RequestStage × Bool) (i : I) (o : ServiceOp)
      (r : Except Empty o.Ans) (s' : Service), ProgressInv d.sizes d.defaultRegion s stage →
      progressProtocol.allowed o (stage i) → a.exec o s = some (r, s') →
      progressProtocol.possible o (stage i) r ∧ ProgressInv d.sizes d.defaultRegion s'
        (Function.update stage i (progressProtocol.next o (stage i) r)) := by
    intro s stage i o r s' h ha he
    refine h.step ha (serviceExec_of_exec a (fun w b region ho ↦ ?_) he)
    subst ho
    exact ha.1
  obtain ⟨e, he, hend⟩ := Prog.interleaving_completes_of_ready hstep
    (fun _ stage i ↦ CanGoOn stage i) (fun s stage i o h ha hr ↦ h.served hsizes a ha hr)
    (fun b hb hfb hne ↦ exists_canGoOn hb hfb hne) ⟨c.shared, stage, c.prog⟩ hinv hf
  obtain ⟨stage', he'⟩ := Prog.restage serviceProtocol he c.stage
  refine ⟨_, he', fun i ↦ ?_⟩
  have hi := hend i
  cases hp : e.prog i with
  | done out => exact ⟨out, rfl⟩
  | call o k =>
    rw [hp] at hi
    cases hi

end Progress

private def loneDeployment : Deployment where
  app := ⟨true, false, false, false, none, ⟨id, id, some, some⟩, {}⟩
  workers _ := ⟨"worker-eu-0", ⟨0, "decodo"⟩, none, none, true⟩
  sizes := Dict.ofList [("eu", 1)]
  defaultRegion := "eu"
  configured := by decide
  breakers b := { name := b.name }
  decodo _ := some ("eu", Dict.empty)

private def failingAnswers : ServiceAnswers where
  route
    | .validateUrl url => .ok url
    | _ => .error (.py ⟨.other, ""⟩)
  worker _ := .error ⟨.other, ""⟩
  getProxy _ := .error ⟨.providerError, ""⟩
  healthCheck _ := .ok true
  fetchPool _ := .error ⟨.other, ""⟩
  now := 0

/-- Two requests for the only worker, of which the provider has no proxy. -/
theorem service_completes_sample : ∃ e : Services (Fin 2), ∀ i, ∃ out, e.prog i = .done out := by
  have hsizes : ∀ r size, loneDeployment.sizes.get? r = some size → 0 < size := by
    intro r size hr
    have hmem : (r, size) ∈ [("eu", 1)] := (Dict.mem_items_iff _ _ _).mpr hr
    obtain ⟨-, rfl⟩ := Prod.mk.inj (List.mem_singleton.mp hmem)
    exact Nat.one_pos
  obtain ⟨e, -, he⟩ := service_completes loneDeployment hsizes
    (fun _ : Fin 2 ↦ .scrape ⟨{ url := "https://example.com" }, "key_a", true⟩ ⟨default, 0⟩) _ .refl
    failingAnswers
  exact ⟨e, he⟩

end AsbCloudApi.Routes
