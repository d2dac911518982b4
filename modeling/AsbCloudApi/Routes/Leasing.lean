import AsbCloudApi.Routes.Scrape

/-!
# Leasing under concurrent requests

Library `Routes`. Any number of scrape requests share one worker pool and are interleaved
operation by operation; operations outside the pool answer or raise as they like.
Workers are leased exclusively, permits are conserved, and nothing leaks.
-/

namespace AsbCloudApi.Routes

open Base Api Session Workers

/-- The protocol of the pool, for requests. Other operations are free and change no lease. -/
def routeLeaseProtocol : Prog.Protocol Exn RouteOp.Ans Lease where
  allowed o g :=
    match o with
    | .pool o => leaseProtocol.allowed o g
    | _ => True
  possible o g r :=
    match o, r with
    | .pool o, r => leaseProtocol.possible o g r
    | _, _ => True
  next o g r :=
    match o, r with
    | .pool o, r => leaseProtocol.next o g r
    | _, _ => g

/-- A step of a request on the pool. Any operation outside the pool may answer anything or raise,
and leaves the pool as it is. -/
inductive RouteExec : (o : RouteOp) → RegionWorkerPool → Except Exn o.Ans → RegionWorkerPool → Prop
  | pool {o : PoolOp} {p p' : RegionWorkerPool} {r : Except Exn o.Ans} (h : PoolExec o p r p') :
      RouteExec (.pool o) p r p'
  | other {o : RouteOp} {p : RegionWorkerPool} {r : Except Exn o.Ans} (h : ∀ po, o ≠ .pool po) :
      RouteExec o p r p

/-! ### A request follows the protocol -/

/-- Whatever does not call the pool leaves the lease alone. -/
private theorem stays_of_calls {α : Type} {kinds : List RouteKind} (hk : RouteKind.pool ∉ kinds)
    {p : RouteProg α} (h : Calls kinds p) : Prog.Stays routeLeaseProtocol p := by
  apply h.stays
  · intro o g ho
    cases o with
    | pool po => exact absurd ho hk
    | _ => exact trivial
  · intro o g r ho
    cases o with
    | pool po => exact absurd ho hk
    | _ => rfl

/-- A request takes a lease, uses it and gives it back, and ends without one. -/
theorem follows_executeOneScrape (app : App) (request : ScrapeRequest) (keyId : String)
    (skip : Bool) : Prog.Follows routeLeaseProtocol (fun _ g ↦ g = .none)
      (executeOneScrape app request keyId skip) .none := by
  unfold executeOneScrape
  apply Prog.Follows.bind
    (stays_of_calls (by decide) (calls_prelude app request keyId skip) .none)
  · rintro session g rfl
    refine ⟨trivial, ?_⟩
    intro region _
    cases region with
    | error e => exact rfl
    | ok region =>
      refine ⟨rfl, ?_⟩
      intro taken hposs
      match taken, hposs with
      | .ok (some worker), _ =>
        apply Prog.Follows.tryFinally
          (stays_of_calls (by decide) (calls_scrapeWith app request keyId session worker) _)
        rintro r g rfl
        refine ⟨⟨rfl, rfl⟩, ?_⟩
        intro released hrel
        cases released with
        | ok u => exact rfl
        | error e => exact absurd hrel id
  · rintro e g rfl
    rfl

/-! ### All requests together -/

/-- A request as it reaches the route. -/
structure Incoming where
  request : ScrapeRequest
  keyId : String
  skipRateLimitCheck : Bool

section Interleaving

variable {I : Type} [DecidableEq I]

/-- The pool, the lease of each request, and what each request has still to do. -/
abbrev Requests (I : Type) :=
  Prog.Config Exn RouteOp.Ans ScrapeResponse I RegionWorkerPool Lease

/-- A fresh pool and requests that have not started. -/
def startRequests (app : App) (sizes : Dict String Nat) (defaultRegion : String)
    (incoming : I → Incoming) : Requests I where
  shared := RegionWorkerPool.new sizes defaultRegion
  stage _ := .none
  prog i := executeOneScrape app (incoming i).request (incoming i).keyId
    (incoming i).skipRateLimitCheck

/-- Any interleaving of the requests. -/
def RequestsReach : Requests I → Requests I → Prop :=
  Relation.ReflTransGen (Prog.Step (fun _ ↦ RouteExec) routeLeaseProtocol)

variable [Fintype I]

/-- What holds of the pool and the requests at any time. A lease is what a request has obtained
and not given back; `grantedIn` counts the permits on their way to a worker, `holdsIn` the workers
held. -/
structure LeasingExact (sizes : Dict String Nat) (c : Requests I) : Prop where
  /-- No worker is held by two requests. -/
  exclusive : ∀ i j w a b, c.stage i = .holding w a → c.stage j = .holding w b → i = j
  /-- Permits and leases add up to the size of each region. -/
  permits : ∀ r size, sizes.get? r = some size → ∃ s, c.shared.pools.get? r = some s ∧
    s.bound = size ∧ s.value + (Prog.tally (Lease.grantedIn r) c.stage +
      Prog.tally (Lease.holdsIn r) c.stage) = size
  /-- A request that releases gives back the worker it holds. -/
  releases : ∀ i w a k, c.prog i = .call (.pool (.release w a)) k → c.stage i = .holding w a
  /-- A release succeeds and returns the permit to the region of the worker. -/
  returned : ∀ i w a, c.stage i = .holding w a → ∀ b, w.region ≠ "" ∨ b = a →
    ∃ s p', c.shared.pools.get? w.region = some s ∧ c.shared.release w b = (.ok (), p') ∧
      p'.pools = c.shared.pools.set w.region { s with value := s.value + 1 }
  /-- Behind a permit there is an idle worker. -/
  found : ∀ i r a, c.stage i = .granted r a → ∃ w p', c.shared.takeIdle r = (.ok (some w), p')
  /-- No request is ever in the branch that found no idle worker. -/
  unreachable : ∀ i r k, c.prog i ≠ .call (.pool (.releasePermit r)) k
  /-- The status counts the workers held. -/
  status : ∀ r size, sizes.get? r = some size → ∃ st, c.shared.getStatus.get? r = some st ∧
    st.active = Prog.tally (Lease.holdsIn r) c.stage ∧ st.active + st.idle = size
  /-- Once all requests have finished, everything is back. -/
  finished : (∀ i, ∃ out, c.prog i = .done out) → ∀ r size, sizes.get? r = some size →
    c.shared.pools.get? r = some ⟨size, size⟩ ∧
      ∃ ws, c.shared.workers.get? r = some ws ∧ ∀ w ∈ ws, w.busy = false

private theorem routeExec_step {sizes : Dict String Nat} {defaultRegion : String}
    {p p' : RegionWorkerPool} {lease : I → Lease} {i : I} {o : RouteOp} {r : Except Exn o.Ans}
    (h : LeaseInv sizes defaultRegion p lease) (ha : routeLeaseProtocol.allowed o (lease i))
    (he : RouteExec o p r p') : routeLeaseProtocol.possible o (lease i) r ∧
      LeaseInv sizes defaultRegion p'
        (Function.update lease i (routeLeaseProtocol.next o (lease i) r)) := by
  cases he with
  | pool he => exact h.step ha he
  | other hno =>
    have hkeep : LeaseInv sizes defaultRegion p (Function.update lease i (lease i)) := by
      rwa [Function.update_eq_self]
    cases o with
    | pool po => exact absurd rfl (hno po)
    | validateUrl url => exact ⟨trivial, hkeep⟩
    | limit o => exact ⟨trivial, hkeep⟩
    | session o => exact ⟨trivial, hkeep⟩
    | mergeCookies headers cookies => exact ⟨trivial, hkeep⟩
    | scrape worker request => exact ⟨trivial, hkeep⟩
    | usage o => exact ⟨trivial, hkeep⟩

/-- The guarantees follow from the invariant and from each request following the protocol. -/
theorem leasingExact_of_inv {sizes : Dict String Nat} {defaultRegion : String} {c : Requests I}
    (h : LeaseInv sizes defaultRegion c.shared c.stage)
    (hf : ∀ i, Prog.Follows routeLeaseProtocol (fun _ g ↦ g = .none) (c.prog i) (c.stage i)) :
    LeasingExact sizes c where
  exclusive := h.exclusive
  permits r size hr := by
    obtain ⟨s, ws, hs, _, hinv⟩ := h.region r size hr
    refine ⟨s, hs, hinv.bound, ?_⟩
    rw [← Nat.add_assoc]
    exact hinv.permits
  releases i w a k hp := by
    have hi := hf i
    rw [hp] at hi
    have ha : leaseProtocol.allowed (.release w a) (c.stage i) := hi.1
    exact allowed_release ha
  returned i w a hi b hb := by
    obtain ⟨s, p', hs, hrel, hpools, _⟩ := h.release hi hb
    exact ⟨s, p', hs, hrel, hpools⟩
  found i r a hi := by
    obtain ⟨w, p', htake, _⟩ := h.takeIdle hi
    exact ⟨w, p', htake⟩
  unreachable i r k hp := by
    have hi := hf i
    rw [hp] at hi
    have ha : leaseProtocol.allowed (.releasePermit r) (c.stage i) := hi.1
    exact not_allowed_releasePermit ha
  status r size hr := by
    obtain ⟨s, ws, _, hws, hinv⟩ := h.region r size hr
    refine ⟨_, by rw [RegionWorkerPool.getStatus, Dict.get?_mapValues, hws]; rfl, hinv.active, ?_⟩
    have hle : ws.countP WorkerSlot.busy ≤ ws.length := List.countP_le_length
    have hlen := hinv.length
    dsimp only
    omega
  finished hdone r size hr := by
    have hnone : ∀ i, c.stage i = .none := by
      intro i
      obtain ⟨out, hp⟩ := hdone i
      have hi := hf i
      rwa [hp] at hi
    obtain ⟨s, ws, hs, hws, hinv⟩ := h.region r size hr
    have hgranted : Prog.tally (Lease.grantedIn r) c.stage = 0 :=
      Prog.tally_eq_zero fun i ↦ by rw [hnone i]; rfl
    have hholding : Prog.tally (Lease.holdsIn r) c.stage = 0 :=
      Prog.tally_eq_zero fun i ↦ by rw [hnone i]; rfl
    have hp := hinv.permits
    have hb := hinv.bound
    have ha := hinv.active
    rw [hholding] at hp ha
    rw [hgranted] at hp
    constructor
    · rw [hs]
      cases s
      simp only at hp hb
      subst hb
      simp only [Nat.add_zero] at hp
      rw [hp]
    · refine ⟨ws, hws, fun w hw ↦ ?_⟩
      have hidle := List.countP_eq_zero.mp ha w hw
      simpa using hidle

/-- Worker leasing is exclusive, exact and leak-free in every interleaving of requests. -/
theorem leasing_exact (app : App) (sizes : Dict String Nat) (defaultRegion : String)
    (hd : (sizes.get? defaultRegion).isSome) (incoming : I → Incoming) (c : Requests I)
    (hc : RequestsReach (startRequests app sizes defaultRegion incoming) c) :
    LeasingExact sizes c := by
  have hsound := Prog.interleaving_sound (J := LeaseInv sizes defaultRegion)
    (Q := fun _ _ g ↦ g = Lease.none)
    (fun s stage i o r s' hinv ha he ↦ routeExec_step hinv ha he) hc (leaseInv_new hd)
    (fun i ↦ follows_executeOneScrape app _ _ _)
  exact leasingExact_of_inv hsound.1 hsound.2

end Interleaving

private def sampleApp : App := ⟨true, false, false, false, none, ⟨id, id, some, some⟩, {}⟩

private def sampleSizes : Dict String Nat := Dict.ofList [("jp", 1), ("us", 2)]

private def sampleIncoming (_ : Fin 2) : Incoming :=
  ⟨{ url := "https://example.com" }, "key_a", true⟩

/-- The first of two requests has its URL accepted, gets the permit of the default region and
takes the only worker there. -/
theorem leasing_exact_sample : ∃ c : Requests (Fin 2),
    c.stage 0 = .holding ⟨"jp", 0⟩ none ∧ LeasingExact sampleSizes c := by
  have hstart : RequestsReach (startRequests sampleApp sampleSizes "jp" sampleIncoming)
      (startRequests sampleApp sampleSizes "jp" sampleIncoming) := .refl
  have hurl := hstart.tail (.call 0 rfl (@RouteExec.other (.validateUrl "https://example.com") _
    (.ok "https://example.com") fun _ h ↦ nomatch h))
  have hpermit := hurl.tail (.call 0 rfl (.pool (.exec rfl)))
  have htaken := hpermit.tail (.call 0 rfl (.pool (.exec rfl)))
  exact ⟨_, rfl, leasing_exact sampleApp sampleSizes "jp" (by decide) sampleIncoming _ htaken⟩

end AsbCloudApi.Routes
