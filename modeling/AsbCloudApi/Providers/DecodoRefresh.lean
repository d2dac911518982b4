import AsbCloudApi.Providers.Decodo
import Mathlib.Data.Finset.Lattice.Lemmas

/-!
# Refreshing the Decodo pools

Library `Providers`. Models `_fetch_pool` and one pass of `_refresh_loop` of
`src/asb_api/providers/decodo.py`. The upstream API is a parameter: how the HTTP client opens
and closes, and what each request of the pass gives. A request that fails is skipped, so the
loop cannot tell an upstream that is down from one that has no proxies.
-/

namespace AsbCloudApi.Providers

open Base Api

/-- An item of `data["proxy"]`, its fields of the declared types or absent. -/
structure ProxyEntry where
  host : Option String := none
  port : Option Int := none
  username : Option String := none
  password : Option String := none

/-- A response: its status, and what `resp.json().get("proxy", [])` gives or raises. -/
structure FetchResponse where
  statusCode : Nat
  entries : Except PyError (List ProxyEntry)

/-- What a pass meets: whether the HTTP client opens, what its requests give, counted from zero,
and whether it closes. -/
structure FetchEnv where
  opened : Except PyError Unit
  outcome : Nat → Except PyError FetchResponse
  closed : Except PyError Unit

/-- The zones that are asked for; `src/asb_api/providers/decodo.py:30`. -/
def zones : List String := ["residential", "isp", "mobile"]

/-- Zone and region of each request, in order; `src/asb_api/providers/decodo.py:30–31`. -/
def fetchRequests (regions : List String) : List (String × String) :=
  zones.flatMap fun zone ↦ regions.map fun region ↦ (zone, region)

/-- `p["host"]` and the other fields; an absent host or port raises `KeyError`. -/
def ProxyEntry.config (p : ProxyEntry) (region : String) : Option ProxyConfig := do
  let host ← p.host
  let port ← p.port
  some { host, port, username := p.username, password := p.password, region := some region }

/-- What the loop over the entries appends before it ends or raises;
`src/asb_api/providers/decodo.py:37–46`. -/
def appendEntries (region : String) :
    List ProxyEntry → Dict String (List ProxyConfig) → Dict String (List ProxyConfig)
  | [], pools => pools
  | p :: ps, pools =>
    match p.config region with
    | none => pools
    | some proxy =>
      appendEntries region ps (pools.set region ((pools.get? region).getD [] ++ [proxy]))

/-- One request: any exception is swallowed; `src/asb_api/providers/decodo.py:33–48`. -/
def fetchOne (pools : Dict String (List ProxyConfig)) (region : String)
    (outcome : Except PyError FetchResponse) : Dict String (List ProxyConfig) :=
  match outcome with
  | .error _ => pools
  | .ok resp =>
    if resp.statusCode = 200 then
      match resp.entries with
      | .error _ => pools
      | .ok entries => appendEntries region entries pools
    else pools

/-- `_fetch_pool`; `src/asb_api/providers/decodo.py:26–49`. -/
def fetchPool (regions : List String) (env : FetchEnv) :
    Except PyError (Dict String (List ProxyConfig)) := do
  env.opened
  let pools := (fetchRequests regions).zipIdx.foldl
    (fun pools r ↦ fetchOne pools r.1.2 (env.outcome r.2)) Dict.empty
  env.closed
  pure pools

/-- One pass of `_refresh_loop`; `src/asb_api/providers/decodo.py:67–71`. -/
def DecodoProvider.refreshPass (d : DecodoProvider) (regions : List String) (env : FetchEnv) :
    DecodoProvider :=
  match fetchPool regions env with
  | .error _ => d
  | .ok newPools => d.replacePool newPools

/-! ### A pass that learns nothing -/

/-- No request of the pass succeeds with status 200. -/
def LearnsNothing (regions : List String) (env : FetchEnv) : Prop :=
  ∀ i < (fetchRequests regions).length, ∀ resp, env.outcome i = .ok resp → resp.statusCode ≠ 200

/-- The pools and the set of keys in use are as before. -/
def SamePools (d d' : DecodoProvider) : Prop := d'.proxies = d.proxies ∧ d'.inUse = d.inUse

/-- The HTTP client opens and closes. -/
def FetchEnv.clientWorks (env : FetchEnv) : Prop := env.opened = .ok () ∧ env.closed = .ok ()

/-- A request that gives no status 200 adds nothing. -/
theorem fetchOne_of_ne {pools : Dict String (List ProxyConfig)} {region : String}
    {outcome : Except PyError FetchResponse}
    (h : ∀ resp, outcome = .ok resp → resp.statusCode ≠ 200) :
    fetchOne pools region outcome = pools := by
  cases outcome with
  | error e => rfl
  | ok resp => exact if_neg (h resp rfl)

/-- Whatever the loop has collected so far, such requests leave it. -/
private theorem foldl_fetchOne {env : FetchEnv} {rs : List ((String × String) × Nat)}
    (h : ∀ r ∈ rs, ∀ resp, env.outcome r.2 = .ok resp → resp.statusCode ≠ 200)
    (pools : Dict String (List ProxyConfig)) :
    rs.foldl (fun pools r ↦ fetchOne pools r.1.2 (env.outcome r.2)) pools = pools := by
  induction rs with
  | nil => rfl
  | cons r rs ih =>
    rw [List.foldl_cons, fetchOne_of_ne (h r List.mem_cons_self)]
    exact ih fun q hq ↦ h q (List.mem_cons_of_mem _ hq)

/-- A pass that learns nothing ends with no pools at all, not with an exception. -/
theorem fetchPool_of_learnsNothing {regions : List String} {env : FetchEnv}
    (h : LearnsNothing regions env) (hc : env.clientWorks) :
    fetchPool regions env = .ok Dict.empty := by
  unfold fetchPool
  rw [hc.1, hc.2, foldl_fetchOne]
  · rfl
  · rintro ⟨req, i⟩ hr
    exact h i (List.snd_lt_of_mem_zipIdx hr)

/-- If the HTTP client does not open or close, the pass raises. -/
theorem fetchPool_error (regions : List String) {env : FetchEnv} (hc : ¬ env.clientWorks) :
    ∃ e, fetchPool regions env = .error e := by
  unfold fetchPool
  cases ho : env.opened with
  | error e => exact ⟨e, rfl⟩
  | ok u =>
    cases hcl : env.closed with
    | error e => exact ⟨e, rfl⟩
    | ok v => exact absurd ⟨ho, hcl⟩ hc

/-- Replacing by nothing keeps nothing. -/
theorem samePools_replacePool_empty_iff (d : DecodoProvider) :
    SamePools d (d.replacePool Dict.empty) ↔ d.proxies = Dict.empty ∧ d.inUse = ∅ := by
  have hkeys : d.inUse ∩ poolKeys Dict.empty = ∅ := Finset.inter_empty _
  unfold SamePools DecodoProvider.replacePool
  rw [hkeys, eq_comm, @eq_comm _ ∅]

/-- A pass that learns nothing keeps the pools and the keys in use exactly if the HTTP client
fails as a whole or there are none of either. -/
theorem refreshPass_samePools_iff (d : DecodoProvider) (regions : List String) (env : FetchEnv)
    (h : LearnsNothing regions env) : SamePools d (d.refreshPass regions env) ↔
      ¬ env.clientWorks ∨ (d.proxies = Dict.empty ∧ d.inUse = ∅) := by
  by_cases hc : env.clientWorks
  · rw [DecodoProvider.refreshPass, fetchPool_of_learnsNothing h hc]
    simp only [not_true_eq_false, false_or, hc]
    exact samePools_replacePool_empty_iff d
  · obtain ⟨e, he⟩ := fetchPool_error regions hc
    rw [DecodoProvider.refreshPass, he]
    exact iff_of_true ⟨rfl, rfl⟩ (Or.inl hc)

private def upstreamDown : FetchEnv :=
  ⟨.ok (), fun i ↦ if i % 2 = 0 then .error ⟨.other, "connection refused"⟩
    else .ok ⟨503, .error ⟨.valueError, "Expecting value"⟩⟩, .ok ()⟩

private theorem learnsNothing_upstreamDown (regions : List String) :
    LearnsNothing regions upstreamDown := by
  intro i _ resp hresp
  simp only [upstreamDown] at hresp
  split at hresp
  · cases hresp
  · cases hresp
    decide

/-- Before the first refresh there is nothing to lose. -/
theorem refreshPass_samePools_iff_sample :
    SamePools (.new "jp") ((DecodoProvider.new "jp").refreshPass ["jp", "us"] upstreamDown) :=
  (refreshPass_samePools_iff _ _ _ (learnsNothing_upstreamDown _)).mpr (Or.inr ⟨rfl, rfl⟩)

private def oneProxy : ProxyConfig := { host := "proxy.example", port := 8080 }

/-- All requests of a pass fail, and the only pool is gone. -/
theorem not_refreshPass_samePools : ∃ d regions env, LearnsNothing regions env ∧
    ¬ SamePools d (d.refreshPass regions env) := by
  refine ⟨⟨"jp", Dict.ofList [("jp", [oneProxy])], {proxyKey oneProxy}⟩, ["jp"], upstreamDown,
    learnsNothing_upstreamDown _, ?_⟩
  rw [DecodoProvider.refreshPass,
    fetchPool_of_learnsNothing (learnsNothing_upstreamDown _) ⟨rfl, rfl⟩]
  rintro ⟨hp, -⟩
  exact absurd hp (by decide)

end AsbCloudApi.Providers
