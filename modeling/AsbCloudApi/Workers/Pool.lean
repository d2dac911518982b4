import AsbCloudApi.Api.Errors
import AsbCloudApi.Base.Prog
import AsbCloudApi.Session.Models

/-!
# Region worker pool

Library `Workers`. Models `RegionWorkerPool` of `src/asb_api/workers/pool.py:53–122`. A coroutine
is interrupted only where it waits, and the lease lock is never held across a wait, so each
operation below is one step. A permit that a release hands to a waiting coroutine is taken
here in a step of that coroutine; any waiter may be the next one.
-/

namespace AsbCloudApi.Workers

open Base Api Session

/-- `asyncio.BoundedSemaphore`: its free permits and the number it started with. -/
structure BoundedSemaphore where
  value : Nat
  bound : Nat
  deriving DecidableEq

namespace BoundedSemaphore

/-- A fresh semaphore. -/
def new (size : Nat) : BoundedSemaphore := ⟨size, size⟩

/-- `acquire`; nothing as long as the caller has to wait. -/
def acquire (s : BoundedSemaphore) : Option BoundedSemaphore :=
  match s.value with
  | 0 => none
  | n + 1 => some { s with value := n }

/-- `release`; more releases than acquisitions are an error. -/
def release (s : BoundedSemaphore) : Except Exn BoundedSemaphore :=
  if s.bound ≤ s.value then
    .error (.py ⟨.valueError, "BoundedSemaphore released too many times"⟩)
  else .ok { s with value := s.value + 1 }

end BoundedSemaphore

/-- The attributes of an `ASBWorker` that leasing reads and writes. `_lease_region` is set
on leasing and deleted on release. -/
structure WorkerSlot where
  busy : Bool
  leaseRegion : Option String
  deriving DecidableEq

/-- A worker object: its place in the pool. -/
structure WorkerRef where
  region : String
  index : Nat
  deriving DecidableEq

/-- One entry of `get_status`. -/
structure RegionStatus where
  active : Nat
  idle : Nat
  deriving DecidableEq

/-- `RegionWorkerPool`; `src/asb_api/workers/pool.py:63–79`. -/
structure RegionWorkerPool where
  defaultRegion : String
  pools : Dict String BoundedSemaphore
  workers : Dict String (List WorkerSlot)
  deriving DecidableEq

/-- The operations of the pool that a coroutine may be interrupted before. -/
inductive PoolOp where
  | acquirePermit (region : Option String)
  | takeIdle (region : String)
  | releasePermit (region : String)
  | release (worker : WorkerRef) (region : Option String)

/-- What each operation answers. -/
abbrev PoolOp.Ans : PoolOp → Type
  | .acquirePermit _ => String
  | .takeIdle _ => Option WorkerRef
  | .releasePermit _ => Unit
  | .release _ _ => Unit

namespace RegionWorkerPool

/-- `__init__`; `src/asb_api/workers/pool.py:54–79`. -/
def new (workersPerRegion : Dict String Nat) (defaultRegion : String) : RegionWorkerPool where
  defaultRegion := defaultRegion
  pools := workersPerRegion.mapValues fun _ size ↦ .new size
  workers := workersPerRegion.mapValues fun _ size ↦ List.replicate size ⟨false, none⟩

/-- `_normalize_region`; `src/asb_api/workers/pool.py:81–85`. -/
def normalizeRegion (p : RegionWorkerPool) (region : Option String) : String :=
  let region := orElse region p.defaultRegion
  if (p.pools.get? region).isSome then region else p.defaultRegion

/-- The attributes of a worker object. -/
def slot (p : RegionWorkerPool) (w : WorkerRef) : Option WorkerSlot := do
  let ws ← p.workers.get? w.region
  ws[w.index]?

/-- Assign the attributes of a worker object. -/
def setSlot (p : RegionWorkerPool) (w : WorkerRef) (s : WorkerSlot) : RegionWorkerPool :=
  match p.workers.get? w.region with
  | none => p
  | some ws => { p with workers := p.workers.set w.region (ws.set w.index s) }

/-- `self.pools[region].release()`. -/
def releasePermit (p : RegionWorkerPool) (region : String) : Except Exn Unit × RegionWorkerPool :=
  match p.pools.get? region with
  | none => (.error (.py (.keyError region)), p)
  | some s =>
    match s.release with
    | .error e => (.error e, p)
    | .ok s => (.ok (), { p with pools := p.pools.set region s })

/-- The first wait of `acquire`, on the semaphore of the normalized region;
`src/asb_api/workers/pool.py:98–99`. -/
def acquirePermit (p : RegionWorkerPool) (region : Option String) :
    Option (Except Exn String × RegionWorkerPool) :=
  let region := p.normalizeRegion region
  match p.pools.get? region with
  | none => some (.error (.py (.keyError region)), p)
  | some s => s.acquire.map fun s ↦ (.ok region, { p with pools := p.pools.set region s })

/-- The critical section of `acquire`; `src/asb_api/workers/pool.py:100–105`. -/
def takeIdle (p : RegionWorkerPool) (region : String) :
    Except Exn (Option WorkerRef) × RegionWorkerPool :=
  match p.workers.get? region with
  | none => (.error (.py (.keyError region)), p)
  | some ws =>
    match ws.findIdx? (fun w ↦ !w.busy) with
    | none => (.ok none, p)
    | some i => (.ok (some ⟨region, i⟩), p.setSlot ⟨region, i⟩ ⟨true, some region⟩)

/-- `release`; `src/asb_api/workers/pool.py:109–114`. The region that was leased wins over the
region that the caller names. -/
def release (p : RegionWorkerPool) (w : WorkerRef) (region : Option String) :
    Except Exn Unit × RegionWorkerPool :=
  let region := orElse ((p.slot w).bind WorkerSlot.leaseRegion) (p.normalizeRegion region)
  (p.setSlot w ⟨false, none⟩).releasePermit region

/-- `acquire`; `src/asb_api/workers/pool.py:97–107`. -/
def acquire (region : Option String) : Prog Exn PoolOp.Ans WorkerRef := do
  let region ← .perform (.acquirePermit region)
  let taken : Option WorkerRef ← .perform (PoolOp.takeIdle region)
  match taken with
  | some w => pure w
  | none =>
    let _ ← .perform (.releasePermit region)
    .raise (.py ⟨.runtimeError, "RegionWorkerPool semaphore acquired but no idle worker was " ++
      "available for region=" ++ region⟩)

/-- `get_status`; `src/asb_api/workers/pool.py:116–122`. -/
def getStatus (p : RegionWorkerPool) : Dict String RegionStatus :=
  p.workers.mapValues fun _ workers ↦
    let active := workers.countP WorkerSlot.busy
    { active := active, idle := workers.length - active }

end RegionWorkerPool

/-- Execute one operation; nothing as long as it has to wait. -/
def PoolOp.exec : (o : PoolOp) → RegionWorkerPool → Option (Except Exn o.Ans × RegionWorkerPool)
  | .acquirePermit region, p => p.acquirePermit region
  | .takeIdle region, p => some (p.takeIdle region)
  | .releasePermit region, p => some (p.releasePermit region)
  | .release w region, p => some (p.release w region)

/-- A step on the pool. A coroutine that waits for a permit may be cancelled instead. -/
inductive PoolExec : (o : PoolOp) → RegionWorkerPool → Except Exn o.Ans → RegionWorkerPool → Prop
  | exec {o : PoolOp} {p p' : RegionWorkerPool} {r : Except Exn o.Ans}
      (h : o.exec p = some (r, p')) : PoolExec o p r p'
  | cancelled {region : Option String} {p : RegionWorkerPool} {e : Exn} :
      PoolExec (.acquirePermit region) p (.error e) p

section Slots

variable {p : RegionWorkerPool}

@[simp] theorem setSlot_pools (p : RegionWorkerPool) (w : WorkerRef) (s : WorkerSlot) :
    (p.setSlot w s).pools = p.pools := by
  unfold RegionWorkerPool.setSlot
  split <;> rfl

@[simp] theorem setSlot_defaultRegion (p : RegionWorkerPool) (w : WorkerRef) (s : WorkerSlot) :
    (p.setSlot w s).defaultRegion = p.defaultRegion := by
  unfold RegionWorkerPool.setSlot
  split <;> rfl

theorem setSlot_workers {w : WorkerRef} {s : WorkerSlot} {ws : List WorkerSlot}
    (hw : p.workers.get? w.region = some ws) (r : String) :
    (p.setSlot w s).workers.get? r =
      if w.region = r then some (ws.set w.index s) else p.workers.get? r := by
  unfold RegionWorkerPool.setSlot
  rw [hw]
  exact Dict.get?_set _ _ _ _

/-- Assigning one worker leaves the others alone. -/
theorem slot_setSlot_ne {w w' : WorkerRef} (s : WorkerSlot) (h : w ≠ w') :
    (p.setSlot w s).slot w' = p.slot w' := by
  unfold RegionWorkerPool.slot
  cases hw : p.workers.get? w.region with
  | none => simp [RegionWorkerPool.setSlot, hw]
  | some ws =>
    rw [setSlot_workers hw]
    split
    · next hr =>
      have hi : w.index ≠ w'.index := by
        intro hi
        apply h
        cases w
        cases w'
        simp_all
      rw [← hr, hw]
      simp [List.getElem?_set_ne hi]
    · rfl

theorem slot_setSlot_self {w : WorkerRef} {s s' : WorkerSlot} (h : p.slot w = some s') :
    (p.setSlot w s).slot w = some s := by
  unfold RegionWorkerPool.slot at h ⊢
  cases hw : p.workers.get? w.region with
  | none =>
    rw [hw] at h
    cases h
  | some ws =>
    rw [hw] at h
    rw [setSlot_workers hw, if_pos rfl]
    obtain ⟨hi, _⟩ := List.getElem?_eq_some_iff.mp h
    simp [hi]

end Slots

/-! ### Leases -/

/-- What a request has of the pool: nothing, a permit, or a permit and a worker; with the region
it asked for. -/
inductive Lease where
  | none
  | granted (region : String) (asked : Option String)
  | holding (w : WorkerRef) (asked : Option String)

/-- A request that has a permit of the region and no worker yet. -/
def Lease.grantedIn (region : String) : Lease → Bool
  | .granted r _ => r = region
  | _ => false

/-- A request that holds a worker of the region. -/
def Lease.holdsIn (region : String) : Lease → Bool
  | .holding w _ => w.region = region
  | _ => false

/-- The use of the pool: a permit, then a worker, which is given back once and with the region
it was asked for. A worker is always found, and giving it back never fails. -/
def leaseProtocol : Prog.Protocol Exn PoolOp.Ans Lease where
  allowed o g :=
    match o, g with
    | .acquirePermit _, .none => True
    | .takeIdle r, .granted r' _ => r = r'
    | .release w a, .holding w' a' => w = w' ∧ a = a'
    | _, _ => False
  possible o _ r :=
    match o, r with
    | .takeIdle _, .ok (some _) => True
    | .takeIdle _, _ => False
    | .release _ _, .error _ => False
    | _, _ => True
  next o g r :=
    match o, r, g with
    | .acquirePermit a, .ok r, _ => .granted r a
    | .takeIdle _, .ok (some w), .granted _ a => .holding w a
    | .releasePermit _, .ok _, _ => .none
    | .release _ _, .ok _, _ => .none
    | _, _, g => g

theorem allowed_acquirePermit {a : Option String} {g : Lease}
    (h : leaseProtocol.allowed (.acquirePermit a) g) : g = .none := by
  cases g with
  | none => rfl
  | granted r b => exact False.elim h
  | holding w b => exact False.elim h

theorem allowed_takeIdle {r : String} {g : Lease} (h : leaseProtocol.allowed (.takeIdle r) g) :
    ∃ a, g = .granted r a := by
  cases g with
  | none => exact False.elim h
  | granted r' a =>
    cases h
    exact ⟨a, rfl⟩
  | holding w a => exact False.elim h

theorem not_allowed_releasePermit {r : String} {g : Lease} :
    ¬ leaseProtocol.allowed (.releasePermit r) g := by
  intro h
  cases g <;> exact h

theorem allowed_release {w : WorkerRef} {a : Option String} {g : Lease}
    (h : leaseProtocol.allowed (.release w a) g) : g = .holding w a := by
  cases g with
  | none => exact False.elim h
  | granted r b => exact False.elim h
  | holding w' b =>
    obtain ⟨rfl, rfl⟩ := h
    rfl

/-- `_normalize_region` read off the configuration. -/
def normalized (sizes : Dict String Nat) (defaultRegion : String) (region : Option String) :
    String :=
  let region := orElse region defaultRegion
  if (sizes.get? region).isSome then region else defaultRegion

/-- One region of a pool of a given size: its permits and its idle workers are those that no
request has. -/
structure RegionInv (size granted holding : Nat) (s : BoundedSemaphore) (ws : List WorkerSlot) :
    Prop where
  bound : s.bound = size
  permits : s.value + granted + holding = size
  length : ws.length = size
  active : ws.countP WorkerSlot.busy = holding

section Invariant

variable {I : Type} [Fintype I]

/-- The pool and what the requests have of it agree. -/
structure LeaseInv (sizes : Dict String Nat) (defaultRegion : String) (p : RegionWorkerPool)
    (lease : I → Lease) : Prop where
  default_eq : p.defaultRegion = defaultRegion
  configured : (sizes.get? defaultRegion).isSome
  unknown : ∀ r, sizes.get? r = none → p.pools.get? r = none ∧ p.workers.get? r = none
  region : ∀ r size, sizes.get? r = some size → ∃ s ws, p.pools.get? r = some s ∧
    p.workers.get? r = some ws ∧
    RegionInv size (Prog.tally (Lease.grantedIn r) lease) (Prog.tally (Lease.holdsIn r) lease) s ws
  granted : ∀ i r a, lease i = .granted r a → normalized sizes defaultRegion a = r
  held : ∀ i w a, lease i = .holding w a →
    p.slot w = some ⟨true, some w.region⟩ ∧ normalized sizes defaultRegion a = w.region
  exclusive : ∀ i j w a b, lease i = .holding w a → lease j = .holding w b → i = j

variable {sizes : Dict String Nat} {defaultRegion : String} {p : RegionWorkerPool}
  {lease : I → Lease}

theorem normalized_isSome (h : (sizes.get? defaultRegion).isSome) (a : Option String) :
    (sizes.get? (normalized sizes defaultRegion a)).isSome := by
  unfold normalized
  dsimp only
  split
  · next hr => exact hr
  · exact h

/-- A fresh pool, before any request. -/
theorem leaseInv_new (h : (sizes.get? defaultRegion).isSome) :
    LeaseInv sizes defaultRegion (RegionWorkerPool.new sizes defaultRegion)
      (fun _ : I ↦ Lease.none) where
  default_eq := rfl
  configured := h
  unknown r hr := by
    simp [RegionWorkerPool.new, Dict.get?_mapValues, hr]
  region r size hr := by
    refine ⟨.new size, List.replicate size ⟨false, .none⟩, ?_, ?_, ?_⟩
    · simp [RegionWorkerPool.new, Dict.get?_mapValues, hr]
    · simp [RegionWorkerPool.new, Dict.get?_mapValues, hr]
    · rw [Prog.tally_eq_zero (fun _ ↦ rfl), Prog.tally_eq_zero (fun _ ↦ rfl)]
      exact ⟨rfl, rfl, List.length_replicate, by simp [List.countP_replicate]⟩
  granted _ _ _ hg := nomatch hg
  held _ _ _ hg := nomatch hg
  exclusive _ _ _ _ _ hg := nomatch hg

/-- Both ways to normalize a region agree. -/
theorem LeaseInv.normalizeRegion_eq (h : LeaseInv sizes defaultRegion p lease)
    (a : Option String) : p.normalizeRegion a = normalized sizes defaultRegion a := by
  have hsome : ∀ r, (p.pools.get? r).isSome = (sizes.get? r).isSome := by
    intro r
    cases hr : sizes.get? r with
    | none =>
      rw [(h.unknown r hr).1]
      rfl
    | some size =>
      obtain ⟨s, ws, hs, _⟩ := h.region r size hr
      rw [hs]
      rfl
  unfold RegionWorkerPool.normalizeRegion normalized
  simp only [h.default_eq, hsome]

/-- The region a request is sent to is a configured one, with its semaphore and its workers. -/
private theorem LeaseInv.region_normalized (h : LeaseInv sizes defaultRegion p lease)
    {a : Option String} {region : String} (hn : normalized sizes defaultRegion a = region) :
    ∃ size s ws, sizes.get? region = some size ∧ p.pools.get? region = some s ∧
      p.workers.get? region = some ws ∧
      RegionInv size (Prog.tally (Lease.grantedIn region) lease)
        (Prog.tally (Lease.holdsIn region) lease) s ws := by
  have hsome := normalized_isSome h.configured a
  rw [hn] at hsome
  obtain ⟨size, hsize⟩ := Option.isSome_iff_exists.mp hsome
  obtain ⟨s, ws, hs, hws, hinv⟩ := h.region region size hsize
  exact ⟨size, s, ws, hsize, hs, hws, hinv⟩

variable [DecidableEq I]

/-- A step inside one region that gives request `i` the lease `g` and leaves the workers of the
others alone. -/
private theorem LeaseInv.update (h : LeaseInv sizes defaultRegion p lease) {i : I} {g : Lease}
    {p' : RegionWorkerPool} {region : String} {size : Nat}
    (hsize : sizes.get? region = some size) (hd : p'.defaultRegion = p.defaultRegion)
    (hrest : ∀ r, region ≠ r → p'.pools.get? r = p.pools.get? r ∧
      p'.workers.get? r = p.workers.get? r)
    (hcount : ∀ r, region ≠ r → g.grantedIn r = (lease i).grantedIn r ∧
      g.holdsIn r = (lease i).holdsIn r)
    (hin : ∃ s ws, p'.pools.get? region = some s ∧ p'.workers.get? region = some ws ∧
      RegionInv size (Prog.tally (Lease.grantedIn region) (Function.update lease i g))
        (Prog.tally (Lease.holdsIn region) (Function.update lease i g)) s ws)
    (hg : ∀ r a, g = .granted r a → normalized sizes defaultRegion a = r)
    (hh : ∀ w a, g = .holding w a → p'.slot w = some ⟨true, some w.region⟩ ∧
      normalized sizes defaultRegion a = w.region ∧ ∀ j b, lease j ≠ .holding w b)
    (hother : ∀ j w a, j ≠ i → lease j = .holding w a → p'.slot w = p.slot w) :
    LeaseInv sizes defaultRegion p' (Function.update lease i g) := by
  refine ⟨hd.trans h.default_eq, h.configured, ?_, ?_, ?_, ?_, ?_⟩
  · intro r hr
    have hne : region ≠ r := by
      intro he
      rw [he, hr] at hsize
      cases hsize
    rw [(hrest r hne).1, (hrest r hne).2]
    exact h.unknown r hr
  · intro r size' hr
    by_cases hrr : region = r
    · subst hrr
      rw [hsize] at hr
      cases hr
      exact hin
    · have hgr := Prog.tally_update (Lease.grantedIn r) lease i g
      have hho := Prog.tally_update (Lease.holdsIn r) lease i g
      rw [(hcount r hrr).1, Nat.add_right_cancel_iff] at hgr
      rw [(hcount r hrr).2, Nat.add_right_cancel_iff] at hho
      rw [(hrest r hrr).1, (hrest r hrr).2, hgr, hho]
      exact h.region r size' hr
  · apply (Function.forall_update_iff lease fun _ l ↦
      ∀ r a, l = .granted r a → normalized sizes defaultRegion a = r).mpr
    constructor
    · exact hg
    · exact fun j _ ↦ h.granted j
  · apply (Function.forall_update_iff lease fun _ l ↦ ∀ w a, l = .holding w a →
      p'.slot w = some ⟨true, some w.region⟩ ∧ normalized sizes defaultRegion a = w.region).mpr
    constructor
    · intro w a hw
      exact ⟨(hh w a hw).1, (hh w a hw).2.1⟩
    · intro j hj w a hw
      rw [hother j w a hj hw]
      exact h.held j w a hw
  · intro j k w a b hj hk
    by_cases hji : j = i
    · subst hji
      rw [Function.update_self] at hj
      by_cases hkj : k = j
      · exact hkj.symm
      · rw [Function.update_of_ne hkj] at hk
        exact absurd hk ((hh w a hj).2.2 k b)
    · rw [Function.update_of_ne hji] at hj
      by_cases hki : k = i
      · subst hki
        rw [Function.update_self] at hk
        exact absurd hj ((hh w b hk).2.2 j a)
      · rw [Function.update_of_ne hki] at hk
        exact h.exclusive j k w a b hj hk

/-- A permit goes from the semaphore to the request. -/
theorem LeaseInv.acquirePermit (h : LeaseInv sizes defaultRegion p lease) {i : I}
    (hi : lease i = .none) {a : Option String} {r : Except Exn String} {p' : RegionWorkerPool}
    (he : p.acquirePermit a = some (r, p')) :
    LeaseInv sizes defaultRegion p' (Function.update lease i
      (leaseProtocol.next (.acquirePermit a) (lease i) r)) := by
  generalize hn : normalized sizes defaultRegion a = region
  obtain ⟨size, s, ws, hsize, hs, hws, hinv⟩ := h.region_normalized hn
  simp only [RegionWorkerPool.acquirePermit, h.normalizeRegion_eq a, hn, hs] at he
  obtain ⟨t, ht, heq⟩ := Option.map_eq_some_iff.mp he
  cases heq
  change LeaseInv _ _ _ (Function.update lease i (.granted region a))
  apply h.update hsize
  · rfl
  · intro r hr
    exact ⟨Dict.get?_set_ne _ _ hr, rfl⟩
  · intro r hr
    rw [hi]
    exact ⟨decide_eq_false hr, rfl⟩
  · have hg := Prog.tally_update (Lease.grantedIn region) lease i (.granted region a)
    have hh := Prog.tally_update (Lease.holdsIn region) lease i (.granted region a)
    rw [hi] at hg hh
    simp only [Lease.grantedIn, Lease.holdsIn, decide_true, Bool.toNat_false,
      Bool.toNat_true] at hg hh
    refine ⟨t, ws, Dict.get?_set_self _ _ _, hws, ?_⟩
    unfold BoundedSemaphore.acquire at ht
    split at ht
    · cases ht
    · next n hv =>
      cases ht
      have hp := hinv.permits
      exact ⟨hinv.bound, by dsimp only; omega, hinv.length, by rw [hinv.active]; omega⟩
  · rintro r b ⟨⟩
    exact hn
  · rintro w b ⟨⟩
  · intro j w b _ _
    rfl

/-- A request with a permit finds an idle worker and leases it. -/
theorem LeaseInv.takeIdle (h : LeaseInv sizes defaultRegion p lease) {i : I} {region : String}
    {a : Option String} (hi : lease i = .granted region a) :
    ∃ w p', p.takeIdle region = (.ok (some w), p') ∧
      LeaseInv sizes defaultRegion p' (Function.update lease i (.holding w a)) := by
  have hn := h.granted i region a hi
  obtain ⟨size, s, ws, hsize, hs, hws, hinv⟩ := h.region_normalized hn
  have hpos : 0 < Prog.tally (Lease.grantedIn region) lease :=
    Prog.tally_pos (i := i) (by rw [hi]; exact decide_eq_true rfl)
  have hperm := hinv.permits
  simp only [RegionWorkerPool.takeIdle, hws]
  cases hf : ws.findIdx? (fun w ↦ !w.busy) with
  | none =>
    -- all workers busy: as many leases as workers, and one permit more
    have hall : ws.countP WorkerSlot.busy = ws.length := by
      rw [List.countP_eq_length]
      intro w hw
      simpa using List.findIdx?_eq_none_iff.mp hf w hw
    rw [hinv.active, hinv.length] at hall
    omega
  | some k =>
    obtain ⟨hk, hidle, _⟩ := List.findIdx?_eq_some_iff_getElem.mp hf
    have hslot : p.slot ⟨region, k⟩ = some ws[k] := by
      simp [RegionWorkerPool.slot, hws, hk]
    refine ⟨⟨region, k⟩, _, rfl, ?_⟩
    have hfree : ∀ j b, lease j ≠ .holding ⟨region, k⟩ b := by
      intro j b hj
      have hb := (h.held j _ b hj).1
      rw [hslot] at hb
      rw [Option.some.inj hb] at hidle
      cases hidle
    apply h.update hsize
    · exact setSlot_defaultRegion _ _ _
    · intro r hr
      exact ⟨by rw [setSlot_pools], by rw [setSlot_workers hws, if_neg hr]⟩
    · intro r hr
      rw [hi]
      exact ⟨(decide_eq_false hr).symm, decide_eq_false hr⟩
    · have hg := Prog.tally_update (Lease.grantedIn region) lease i (.holding ⟨region, k⟩ a)
      have hh := Prog.tally_update (Lease.holdsIn region) lease i (.holding ⟨region, k⟩ a)
      rw [hi] at hg hh
      simp only [Lease.grantedIn, Lease.holdsIn, decide_true, Bool.toNat_false,
        Bool.toNat_true] at hg hh
      rw [setSlot_pools, setSlot_workers hws]
      refine ⟨s, _, hs, if_pos rfl, hinv.bound, by omega, by simp [hinv.length], ?_⟩
      rw [List.countP_set hk]
      have hact := hinv.active
      simp only [Bool.not_eq_true'] at hidle
      simp [hidle]
      omega
    · rintro r b ⟨⟩
    · rintro w b ⟨⟩
      exact ⟨slot_setSlot_self hslot, hn, hfree⟩
    · intro j w b _ hj
      apply slot_setSlot_ne
      rintro rfl
      exact hfree j b hj

/-- A worker that is given back becomes idle, and its permit returns to the region it was
leased from, whatever region the caller names. Only for a region named by the empty text,
which is false, it has to be the region asked for. -/
theorem LeaseInv.release (h : LeaseInv sizes defaultRegion p lease) {i : I} {w : WorkerRef}
    {a : Option String} (hi : lease i = .holding w a) {b : Option String}
    (hb : w.region ≠ "" ∨ b = a) :
    ∃ s p', p.pools.get? w.region = some s ∧ p.release w b = (.ok (), p') ∧
      p'.pools = p.pools.set w.region { s with value := s.value + 1 } ∧
      LeaseInv sizes defaultRegion p' (Function.update lease i .none) := by
  obtain ⟨hslot, hn⟩ := h.held i w a hi
  obtain ⟨size, s, ws, hsize, hs, hws, hinv⟩ := h.region_normalized hn
  have hregion : orElse (some w.region) (p.normalizeRegion b) = w.region := by
    unfold orElse
    dsimp only
    split
    · next he =>
      rcases hb with hne | rfl
      · exact absurd he hne
      · rw [h.normalizeRegion_eq, hn]
    · rfl
  have hpos : 0 < Prog.tally (Lease.holdsIn w.region) lease :=
    Prog.tally_pos (i := i) (by rw [hi]; exact decide_eq_true rfl)
  have hperm := hinv.permits
  have hroom : ¬ s.bound ≤ s.value := by
    rw [hinv.bound]
    omega
  have hwk : ws[w.index]? = some ⟨true, some w.region⟩ := by
    have hget := hslot
    unfold RegionWorkerPool.slot at hget
    rwa [hws] at hget
  obtain ⟨hk, hbusy⟩ := List.getElem?_eq_some_iff.mp hwk
  refine ⟨s, { p.setSlot w ⟨false, none⟩ with
    pools := p.pools.set w.region { s with value := s.value + 1 } }, hs, ?_, rfl, ?_⟩
  · simp only [RegionWorkerPool.release, hslot, Option.bind_some, hregion,
      RegionWorkerPool.releasePermit, setSlot_pools, hs, BoundedSemaphore.release,
      if_neg hroom]
  · apply h.update hsize
    · exact setSlot_defaultRegion _ _ _
    · intro r hr
      exact ⟨Dict.get?_set_ne _ _ hr, by rw [setSlot_workers hws, if_neg hr]⟩
    · intro r hr
      rw [hi]
      exact ⟨rfl, (decide_eq_false hr).symm⟩
    · have hg := Prog.tally_update (Lease.grantedIn w.region) lease i .none
      have hh := Prog.tally_update (Lease.holdsIn w.region) lease i .none
      rw [hi] at hg hh
      simp only [Lease.grantedIn, Lease.holdsIn, decide_true, Bool.toNat_false,
        Bool.toNat_true] at hg hh
      rw [setSlot_workers hws]
      refine ⟨_, _, Dict.get?_set_self _ _ _, if_pos rfl, hinv.bound, by dsimp only; omega,
        by simp [hinv.length], ?_⟩
      rw [List.countP_set hk]
      have hact := hinv.active
      simp [hbusy]
      omega
    · rintro r b ⟨⟩
    · rintro w b ⟨⟩
    · intro j w' c hji hj
      apply slot_setSlot_ne
      rintro rfl
      exact hji (h.exclusive j i w c a hj hi)

/-- Every operation that the protocol allows keeps the invariant and answers as expected. -/
theorem LeaseInv.step (h : LeaseInv sizes defaultRegion p lease) {i : I} {o : PoolOp}
    {r : Except Exn o.Ans} {p' : RegionWorkerPool} (ha : leaseProtocol.allowed o (lease i))
    (he : PoolExec o p r p') : leaseProtocol.possible o (lease i) r ∧
      LeaseInv sizes defaultRegion p'
        (Function.update lease i (leaseProtocol.next o (lease i) r)) := by
  cases he with
  | cancelled =>
    refine ⟨trivial, ?_⟩
    change LeaseInv _ _ _ (Function.update lease i (lease i))
    rwa [Function.update_eq_self]
  | exec he =>
    cases o with
    | acquirePermit a => exact ⟨trivial, h.acquirePermit (allowed_acquirePermit ha) he⟩
    | takeIdle region =>
      obtain ⟨a, hl⟩ := allowed_takeIdle ha
      obtain ⟨w, q, htake, hq⟩ := h.takeIdle hl
      rw [PoolOp.exec, htake] at he
      cases he
      rw [hl]
      exact ⟨trivial, hq⟩
    | releasePermit region => exact absurd ha not_allowed_releasePermit
    | release w a =>
      have hl := allowed_release ha
      obtain ⟨s, q, _, hrel, _, hq⟩ := h.release hl (Or.inr rfl)
      rw [PoolOp.exec, hrel] at he
      cases he
      exact ⟨trivial, hq⟩

end Invariant

end AsbCloudApi.Workers
