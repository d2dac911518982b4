import AsbCloudApi.Base.Dict
import AsbCloudApi.Base.Run
import AsbCloudApi.Providers.Base
import AsbCloudApi.Session.Models
import Mathlib.Data.Finset.Basic
import Mathlib.Data.Finset.Dedup

/-!
# Decodo provider

Library `Providers`. Models the proxy pools of `src/asb_api/providers/decodo.py`. Every method
takes the lock without a wait inside, so it is one step. A refresh keeps a key in use only if
the new pools list it; a key that is dropped while it is on lease and listed again later is free.
-/

namespace AsbCloudApi.Providers

open Base Api Session

/-- `DecodoProvider`; `src/asb_api/providers/decodo.py:9–20`. -/
structure DecodoProvider where
  defaultRegion : String
  proxies : Dict String (List ProxyConfig)
  inUse : Finset String
  deriving DecidableEq

/-- `_proxy_key`; `src/asb_api/providers/decodo.py:88–89`. -/
def proxyKey (proxy : ProxyConfig) : String := proxy.host ++ ":" ++ toString proxy.port

/-- `_pool_keys`; `src/asb_api/providers/decodo.py:51–56`. -/
def poolKeys (pools : Dict String (List ProxyConfig)) : Finset String :=
  ((pools.items.flatMap Prod.snd).map proxyKey).toFinset

namespace DecodoProvider

/-- `__init__`, before the first refresh. -/
def new (defaultRegion : String) : DecodoProvider := ⟨defaultRegion, Dict.empty, ∅⟩

/-- `_replace_pool`; `src/asb_api/providers/decodo.py:58–62`. -/
def replacePool (d : DecodoProvider) (newPools : Dict String (List ProxyConfig)) :
    DecodoProvider :=
  { d with proxies := newPools, inUse := d.inUse ∩ poolKeys newPools }

/-- The list a region is served from: its own, or the first one if that is empty;
`src/asb_api/providers/decodo.py:92–98`. -/
def regionProxies (d : DecodoProvider) (region : Option String) : List ProxyConfig :=
  let own := (d.proxies.get? (orElse region d.defaultRegion)).getD []
  if own.isEmpty then (d.proxies.items.head?.map Prod.snd).getD [] else own

/-- `get_proxy`; `src/asb_api/providers/decodo.py:91–106`. -/
def getProxy (d : DecodoProvider) (region : Option String) :
    Except PyError ProxyConfig × DecodoProvider :=
  let name := orElse region d.defaultRegion
  let served := d.regionProxies region
  if served.isEmpty then
    (.error ⟨.poolExhaustedError, "No Decodo proxies available for region=" ++ name⟩, d)
  else
    match served.find? (fun proxy ↦ proxyKey proxy ∉ d.inUse) with
    | some proxy => (.ok proxy, { d with inUse := insert (proxyKey proxy) d.inUse })
    | none => (.error ⟨.poolExhaustedError, "All Decodo proxies in use for region=" ++ name⟩, d)

/-- `release_proxy`; `src/asb_api/providers/decodo.py:108–111`. -/
def releaseProxy (d : DecodoProvider) (proxy : ProxyConfig) : DecodoProvider :=
  { d with inUse := d.inUse.erase (proxyKey proxy) }

/-- Whatever list a region is served from, its proxies are listed. -/
theorem proxyKey_mem_poolKeys {d : DecodoProvider} {region : Option String} {proxy : ProxyConfig}
    (h : proxy ∈ d.regionProxies region) : proxyKey proxy ∈ poolKeys d.proxies := by
  rw [poolKeys, List.mem_toFinset]
  apply List.mem_map_of_mem
  rw [List.mem_flatMap]
  unfold regionProxies at h
  dsimp only at h
  split at h
  · cases hd : d.proxies.items.head? with
    | none =>
      rw [hd] at h
      cases h
    | some p =>
      rw [hd] at h
      exact ⟨p, List.mem_of_head? hd, h⟩
  · cases hg : d.proxies.get? (orElse region d.defaultRegion) with
    | none =>
      rw [hg] at h
      cases h
    | some own =>
      rw [hg] at h
      exact ⟨_, (Dict.mem_items_iff _ _ _).mpr hg, h⟩

/-- A proxy that is handed out is listed, was free, and is in use then. -/
theorem getProxy_ok {d d' : DecodoProvider} {region : Option String} {proxy : ProxyConfig}
    (h : d.getProxy region = (.ok proxy, d')) :
    proxy ∈ d.regionProxies region ∧ proxyKey proxy ∉ d.inUse ∧
      d' = { d with inUse := insert (proxyKey proxy) d.inUse } := by
  unfold getProxy at h
  dsimp only at h
  split at h
  · cases h
  · split at h
    · next hfind =>
      cases h
      exact ⟨List.mem_of_find?_eq_some hfind, by simpa using List.find?_some hfind, rfl⟩
    · cases h

/-- A refusal changes nothing. -/
theorem getProxy_error {d d' : DecodoProvider} {region : Option String} {e : PyError}
    (h : d.getProxy region = (.error e, d')) : d' = d := by
  unfold getProxy at h
  dsimp only at h
  split at h
  · cases h
    rfl
  · split at h
    · cases h
    · cases h
      rfl

end DecodoProvider

/-! ### Leases -/

/-- The provider, and the proxies that were handed out and not released. -/
structure ProxyLeases where
  provider : DecodoProvider
  leases : List ProxyConfig

/-- What holders and the refresh loop do. -/
inductive DecodoMove where
  | getProxy (region : Option String)
  | releaseProxy (proxy : ProxyConfig)
  | replacePool (newPools : Dict String (List ProxyConfig))

/-- One call. A holder releases what it holds. -/
inductive DecodoStep (s : ProxyLeases) : DecodoMove → ProxyLeases → Prop
  | got {region : Option String} {proxy : ProxyConfig} {d : DecodoProvider}
      (h : s.provider.getProxy region = (.ok proxy, d)) :
      DecodoStep s (.getProxy region) ⟨d, proxy :: s.leases⟩
  | refused {region : Option String} {e : PyError} {d : DecodoProvider}
      (h : s.provider.getProxy region = (.error e, d)) :
      DecodoStep s (.getProxy region) ⟨d, s.leases⟩
  | released {proxy : ProxyConfig} (h : proxy ∈ s.leases) :
      DecodoStep s (.releaseProxy proxy) ⟨s.provider.releaseProxy proxy, s.leases.erase proxy⟩
  | refreshed {newPools : Dict String (List ProxyConfig)} :
      DecodoStep s (.replacePool newPools) ⟨s.provider.replacePool newPools, s.leases⟩

/-- No leases yet. -/
def startLeases (defaultRegion : String) : ProxyLeases := ⟨.new defaultRegion, []⟩

/-- No two leases have the same host and port. -/
def LeasesExclusive (s : ProxyLeases) : Prop := (s.leases.map proxyKey).Nodup

/-- What new pools list of the leased proxies is still known to be in use. -/
def KnowsLeased (s : ProxyLeases) (newPools : Dict String (List ProxyConfig)) : Prop :=
  ∀ proxy ∈ s.leases, proxyKey proxy ∈ poolKeys newPools → proxyKey proxy ∈ s.provider.inUse

/-- Any run. -/
def DecodoReaches : ProxyLeases → ProxyLeases → Prop :=
  Relation.ReflTransGen fun s t ↦ ∃ m, DecodoStep s m t

/-- A run whose refreshes list no leased proxy that an earlier one has dropped. -/
def DecodoReachesKnown : ProxyLeases → ProxyLeases → Prop :=
  Relation.ReflTransGen fun s t ↦ ∃ m, DecodoStep s m t ∧
    ∀ newPools, m = .replacePool newPools → KnowsLeased s newPools

/-- The leases are exclusive, and each is in use or not listed. -/
structure LeasesInv (s : ProxyLeases) : Prop where
  exclusive : LeasesExclusive s
  known : KnowsLeased s s.provider.proxies

theorem leasesInv_start (defaultRegion : String) : LeasesInv (startLeases defaultRegion) :=
  ⟨List.nodup_nil, fun _ h ↦ nomatch h⟩

theorem LeasesInv.got {s : ProxyLeases} (h : LeasesInv s) {region : Option String}
    {proxy : ProxyConfig} {d : DecodoProvider}
    (hg : s.provider.getProxy region = (.ok proxy, d)) : LeasesInv ⟨d, proxy :: s.leases⟩ := by
  obtain ⟨hserved, hfree, rfl⟩ := DecodoProvider.getProxy_ok hg
  constructor
  · change ((proxyKey proxy) :: s.leases.map proxyKey).Nodup
    refine List.nodup_cons.mpr ⟨?_, h.exclusive⟩
    intro hmem
    obtain ⟨q, hq, hkey⟩ := List.mem_map.mp hmem
    -- a lease of that key would be listed, hence in use
    apply hfree
    rw [← hkey]
    apply h.known q hq
    rw [hkey]
    exact DecodoProvider.proxyKey_mem_poolKeys hserved
  · intro q hq hlisted
    rcases List.mem_cons.mp hq with rfl | hq
    · exact Finset.mem_insert_self _ _
    · exact Finset.mem_insert_of_mem (h.known q hq hlisted)

theorem LeasesInv.released {s : ProxyLeases} (h : LeasesInv s) {proxy : ProxyConfig}
    (hp : proxy ∈ s.leases) :
    LeasesInv ⟨s.provider.releaseProxy proxy, s.leases.erase proxy⟩ := by
  have hperm := List.perm_cons_erase hp
  have hnodup : (proxyKey proxy :: (s.leases.erase proxy).map proxyKey).Nodup :=
    (hperm.map proxyKey).nodup_iff.mp h.exclusive
  obtain ⟨hother, hrest⟩ := List.nodup_cons.mp hnodup
  refine ⟨hrest, ?_⟩
  intro q hq hlisted
  have hne : proxyKey q ≠ proxyKey proxy := by
    intro he
    exact hother (he ▸ List.mem_map_of_mem hq)
  exact Finset.mem_erase.mpr ⟨hne, h.known q (List.mem_of_mem_erase hq) hlisted⟩

theorem LeasesInv.refreshed {s : ProxyLeases} (h : LeasesInv s)
    {newPools : Dict String (List ProxyConfig)} (hk : KnowsLeased s newPools) :
    LeasesInv ⟨s.provider.replacePool newPools, s.leases⟩ where
  exclusive := h.exclusive
  known q hq hlisted := Finset.mem_inter.mpr ⟨hk q hq hlisted, hlisted⟩

/-- No two leases have the same host and port in any run whose refreshes list no leased proxy
that was dropped before. -/
theorem leasesExclusive_of_reachesKnown (defaultRegion : String) (s : ProxyLeases)
    (h : DecodoReachesKnown (startLeases defaultRegion) s) : LeasesExclusive s := by
  have hinv : LeasesInv s := by
    refine reachable_induction ?_ (leasesInv_start defaultRegion) h
    rintro a b ha ⟨m, hstep, hknown⟩
    cases hstep with
    | got hg => exact ha.got hg
    | refused hg =>
      obtain rfl := DecodoProvider.getProxy_error hg
      exact ha
    | released hp => exact ha.released hp
    | refreshed => exact ha.refreshed (hknown _ rfl)
  exact hinv.exclusive

private def sampleProxy : ProxyConfig := { host := "proxy.example", port := 8080 }

private def samplePools : Dict String (List ProxyConfig) := Dict.ofList [("jp", [sampleProxy])]

private def listedFree : DecodoProvider := ⟨"jp", samplePools, ∅⟩

private def listedUsed : DecodoProvider := ⟨"jp", samplePools, {proxyKey sampleProxy}⟩

private theorem getProxy_listedFree : listedFree.getProxy none = (.ok sampleProxy, listedUsed) := by
  decide +kernel

/-- A first refresh, a lease, and a refresh with the same pools. -/
theorem leasesExclusive_of_reachesKnown_sample :
    LeasesExclusive ⟨listedUsed.replacePool samplePools, [sampleProxy]⟩ := by
  apply leasesExclusive_of_reachesKnown "jp"
  have h₁ : DecodoStep (startLeases "jp") (.replacePool samplePools) ⟨listedFree, []⟩ := .refreshed
  have h₂ : DecodoStep ⟨listedFree, []⟩ (.getProxy none) ⟨listedUsed, [sampleProxy]⟩ :=
    .got getProxy_listedFree
  have h₃ : DecodoStep ⟨listedUsed, [sampleProxy]⟩ (.replacePool samplePools)
      ⟨listedUsed.replacePool samplePools, [sampleProxy]⟩ := .refreshed
  refine .tail (.tail (.tail .refl ⟨_, h₁, ?_⟩) ⟨_, h₂, ?_⟩) ⟨_, h₃, ?_⟩
  · rintro newPools -
    exact fun _ h ↦ nomatch h
  · rintro newPools ⟨⟩
  · rintro newPools -
    intro q hq _
    rw [List.mem_singleton.mp hq]
    exact Finset.mem_singleton_self _

/-- Dropped by one refresh and listed by the next, a leased proxy is handed out again. -/
theorem not_leasesExclusive : ¬ ∀ (defaultRegion : String) (s : ProxyLeases),
    DecodoReaches (startLeases defaultRegion) s → LeasesExclusive s := by
  intro h
  have h₁ : DecodoStep (startLeases "jp") (.replacePool samplePools) ⟨listedFree, []⟩ := .refreshed
  have h₂ : DecodoStep ⟨listedFree, []⟩ (.getProxy none) ⟨listedUsed, [sampleProxy]⟩ :=
    .got getProxy_listedFree
  have h₃ : DecodoStep ⟨listedUsed, [sampleProxy]⟩ (.replacePool Dict.empty)
      ⟨listedUsed.replacePool Dict.empty, [sampleProxy]⟩ := .refreshed
  have hfree : (listedUsed.replacePool Dict.empty).replacePool samplePools = listedFree := by
    decide +kernel
  have h₄ : DecodoStep ⟨listedUsed.replacePool Dict.empty, [sampleProxy]⟩
      (.replacePool samplePools) ⟨listedFree, [sampleProxy]⟩ := by
    rw [← hfree]
    exact .refreshed
  have h₅ : DecodoStep ⟨listedFree, [sampleProxy]⟩ (.getProxy none)
      ⟨listedUsed, [sampleProxy, sampleProxy]⟩ := .got getProxy_listedFree
  have hboth := h "jp" _ (.tail (.tail (.tail (.tail (.tail .refl ⟨_, h₁⟩) ⟨_, h₂⟩) ⟨_, h₃⟩)
    ⟨_, h₄⟩) ⟨_, h₅⟩)
  exact absurd hboth (List.not_nodup_pair _)

/-! ### Free proxies -/

/-- A lease of the host and port is outstanding. -/
def OnLease (s : ProxyLeases) (key : String) : Prop := key ∈ s.leases.map proxyKey

/-- What a call of `get_proxy` may answer: a proxy of the list it serves from that is not in use,
or, with all of that list on lease, `PoolExhaustedError`. -/
def AnswersFor (s : ProxyLeases) (region : Option String) : Except PyError ProxyConfig → Prop
  | .ok proxy => proxy ∈ s.provider.regionProxies region ∧ proxyKey proxy ∉ s.provider.inUse
  | .error e => e.cls = .poolExhaustedError ∧
      ∀ proxy ∈ s.provider.regionProxies region, OnLease s (proxyKey proxy)

/-- Whatever is in use is on lease, and a refusal means that all is. -/
structure NoneStranded (s : ProxyLeases) : Prop where
  onLease : ∀ key ∈ s.provider.inUse, OnLease s key
  answers : ∀ region, AnswersFor s region (s.provider.getProxy region).1

/-- A refusal means that all of the list is in use, and says so. -/
theorem DecodoProvider.inUse_of_getProxy_error {d d' : DecodoProvider} {region : Option String}
    {e : PyError} (h : d.getProxy region = (.error e, d')) : e.cls = .poolExhaustedError ∧
      ∀ proxy ∈ d.regionProxies region, proxyKey proxy ∈ d.inUse := by
  unfold DecodoProvider.getProxy at h
  dsimp only at h
  split at h
  · next hempty =>
    cases h
    refine ⟨rfl, ?_⟩
    rw [List.isEmpty_iff.mp hempty]
    exact fun _ hp ↦ nomatch hp
  · split at h
    · cases h
    · next hfind =>
      cases h
      refine ⟨rfl, ?_⟩
      intro proxy hp
      simpa using List.find?_eq_none.mp hfind proxy hp

/-- No call leaves a key in use without a lease of it. -/
theorem onLease_step {s t : ProxyLeases} {m : DecodoMove} (hs : DecodoStep s m t)
    (h : ∀ key ∈ s.provider.inUse, OnLease s key) : ∀ key ∈ t.provider.inUse, OnLease t key := by
  intro key hkey
  cases hs with
  | @got region proxy d hg =>
    obtain ⟨-, -, rfl⟩ := DecodoProvider.getProxy_ok hg
    rcases Finset.mem_insert.mp hkey with rfl | hold
    · exact List.mem_cons_self
    · exact List.mem_cons_of_mem _ (h key hold)
  | refused hg =>
    obtain rfl := DecodoProvider.getProxy_error hg
    exact h key hkey
  | @released proxy hp =>
    obtain ⟨hne, hold⟩ := Finset.mem_erase.mp hkey
    obtain ⟨q, hq, rfl⟩ := List.mem_map.mp (h key hold)
    -- a lease of another key is not the one given back
    have hother : q ≠ proxy := fun he ↦ hne (congrArg proxyKey he)
    exact List.mem_map_of_mem ((List.mem_erase_of_ne hother).mpr hq)
  | refreshed => exact h key (Finset.mem_inter.mp hkey).1

/-- In every state that calls and refreshes lead to, no free proxy is stranded. -/
theorem noneStranded_of_reaches (defaultRegion : String) (s : ProxyLeases)
    (h : DecodoReaches (startLeases defaultRegion) s) : NoneStranded s := by
  have hlease : ∀ key ∈ s.provider.inUse, OnLease s key := by
    refine reachable_induction (P := fun s ↦ ∀ key ∈ s.provider.inUse, OnLease s key) ?_ ?_ h
    · rintro a b ha ⟨m, hstep⟩
      exact onLease_step hstep ha
    · exact fun _ hk ↦ nomatch hk
  refine ⟨hlease, ?_⟩
  intro region
  rcases hg : s.provider.getProxy region with ⟨e | proxy, d⟩
  · obtain ⟨hcls, hall⟩ := DecodoProvider.inUse_of_getProxy_error hg
    exact ⟨hcls, fun proxy hp ↦ hlease _ (hall proxy hp)⟩
  · obtain ⟨hserved, hfree, -⟩ := DecodoProvider.getProxy_ok hg
    exact ⟨hserved, hfree⟩

/-- The only proxy is leased, and the next call is refused. -/
theorem noneStranded_of_reaches_sample :
    NoneStranded ⟨listedUsed, [sampleProxy]⟩ ∧ ∃ e, (listedUsed.getProxy none).1 = .error e := by
  have h₁ : DecodoStep (startLeases "jp") (.replacePool samplePools) ⟨listedFree, []⟩ := .refreshed
  have h₂ : DecodoStep ⟨listedFree, []⟩ (.getProxy none) ⟨listedUsed, [sampleProxy]⟩ :=
    .got getProxy_listedFree
  refine ⟨noneStranded_of_reaches "jp" _ (.tail (.tail .refl ⟨_, h₁⟩) ⟨_, h₂⟩), ?_⟩
  exact ⟨⟨.poolExhaustedError, "All Decodo proxies in use for region=jp"⟩, by decide +kernel⟩

end AsbCloudApi.Providers
