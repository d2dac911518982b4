import AsbCloudApi.Base.Cycle
import AsbCloudApi.Base.Run
import AsbCloudApi.Providers.Base
import Mathlib.Data.List.Count

/-!
# Custom provider

Library `Providers`. Models `src/asb_api/providers/custom.py`. A call of `get_proxy` takes the lock
without a wait inside, so calls take effect one after the other, in whatever order they come.
-/

namespace AsbCloudApi.Providers

open Base Api

/-- A configured proxy, with the defaults of `_build_proxy`. -/
structure CustomProxy where
  host : String := ""
  port : Int := 8080
  username : Option String := none
  password : Option String := none
  protocol : ProxyProtocol := .http
  region : Option String := none

/-- `_build_proxy`; `src/asb_api/providers/custom.py:15–23`. -/
def buildProxy (cfg : CustomProxy) : ProxyConfig where
  host := cfg.host
  port := cfg.port
  username := cfg.username
  password := cfg.password
  protocol := cfg.protocol
  region := cfg.region

/-- `CustomProvider`; `src/asb_api/providers/custom.py:5–9`. -/
structure CustomProvider where
  proxies : List ProxyConfig
  index : Nat

/-- What is called of the provider. -/
inductive CustomCall where
  | getProxy (region : Option String)
  | releaseProxy (proxy : ProxyConfig)
  | healthCheck

/-- What a call returns. -/
inductive CustomAnswer where
  | proxy (r : Except PyError ProxyConfig)
  | released
  | healthy (b : Bool)

namespace CustomProvider

/-- `__init__`. -/
def new (proxies : List CustomProxy) : CustomProvider := ⟨proxies.map buildProxy, 0⟩

/-- `get_proxy`; `src/asb_api/providers/custom.py:25–31`. -/
def getProxy (p : CustomProvider) : Except PyError ProxyConfig × CustomProvider :=
  if p.proxies.isEmpty then (.error ⟨.poolExhaustedError, "No custom proxies configured"⟩, p)
  else
    match p.proxies[p.index]? with
    | none => (.error ⟨.other, "list index out of range"⟩, p)
    | some proxy => (.ok proxy, { p with index := (p.index + 1) % p.proxies.length })

/-- One call. A release does nothing. -/
def step (p : CustomProvider) : CustomCall → CustomAnswer × CustomProvider
  | .getProxy _ => (.proxy p.getProxy.1, p.getProxy.2)
  | .releaseProxy _ => (.released, p)
  | .healthCheck => (.healthy (0 < p.proxies.length), p)

end CustomProvider

/-- The answers to the calls of `get_proxy`, in order. -/
def handedOut (answers : List CustomAnswer) : List (Except PyError ProxyConfig) :=
  answers.filterMap fun a ↦
    match a with
    | .proxy r => some r
    | _ => none

/-- Whether a call asks for a proxy. -/
def CustomCall.asks : CustomCall → Bool
  | .getProxy _ => true
  | _ => false

theorem handedOut_append (as bs : List CustomAnswer) :
    handedOut (as ++ bs) = handedOut as ++ handedOut bs := List.filterMap_append

section Run

variable (proxies : List CustomProxy)

/-- The provider after `k` proxies were asked for. -/
def turned (k : Nat) : CustomProvider := ⟨proxies.map buildProxy, k % proxies.length⟩

theorem getProxy_turned (h : proxies ≠ []) (k : Nat) : ∃ proxy,
    (proxies.map buildProxy)[k % proxies.length]? = some proxy ∧
      (turned proxies k).getProxy = (.ok proxy, turned proxies (k + 1)) := by
  have hlt : k % proxies.length < (proxies.map buildProxy).length := by
    rw [List.length_map]
    exact Nat.mod_lt k (List.length_pos_iff.mpr h)
  have hne : (proxies.map buildProxy).isEmpty = false := by simpa using h
  refine ⟨_, List.getElem?_eq_getElem hlt, ?_⟩
  unfold CustomProvider.getProxy turned
  simp only [hne, Bool.false_eq_true, if_false, List.getElem?_eq_getElem hlt, List.length_map,
    Nat.mod_add_mod]

/-- A run hands out the proxies in turn. -/
private theorem run_turned (h : proxies ≠ []) (calls : List CustomCall) :
    final CustomProvider.step (.new proxies) calls = turned proxies (calls.countP CustomCall.asks) ∧
      handedOut (outputs CustomProvider.step (.new proxies) calls) =
        (cycle (proxies.map buildProxy) (calls.countP CustomCall.asks)).map .ok := by
  induction calls using List.reverseRecOn with
  | nil =>
    refine ⟨by simp [CustomProvider.new, turned], ?_⟩
    rw [outputs_nil, List.countP_nil, cycle_zero]
    rfl
  | append_singleton calls c ih =>
    obtain ⟨hfinal, houtputs⟩ := ih
    rw [final_append, outputs_append, handedOut_append, hfinal, houtputs, List.countP_append]
    cases c with
    | getProxy region =>
      obtain ⟨proxy, hproxy, hget⟩ := getProxy_turned proxies h (calls.countP CustomCall.asks)
      rw [← List.length_map buildProxy] at hproxy
      have hnext := cycle_succ hproxy
      constructor
      · exact congrArg Prod.snd hget
      · change _ ++ [(turned proxies _).getProxy.1] = _
        rw [hget]
        change _ = (cycle _ (_ + 1)).map _
        rw [hnext, List.map_append]
        rfl
    | releaseProxy proxy => exact ⟨rfl, List.append_nil _⟩
    | healthCheck => exact ⟨rfl, List.append_nil _⟩

/-- The error without proxies. -/
def noProxies : PyError := ⟨.poolExhaustedError, "No custom proxies configured"⟩

/-- Without proxies every call is refused. -/
private theorem run_empty (calls : List CustomCall) :
    final CustomProvider.step (.new []) calls = .new [] ∧
      handedOut (outputs CustomProvider.step (.new []) calls) =
        List.replicate (calls.countP CustomCall.asks) (.error noProxies) := by
  induction calls using List.reverseRecOn with
  | nil => exact ⟨rfl, rfl⟩
  | append_singleton calls c ih =>
    obtain ⟨hfinal, houtputs⟩ := ih
    rw [final_append, outputs_append, handedOut_append, hfinal, houtputs, List.countP_append]
    cases c with
    | getProxy region => exact ⟨rfl, List.replicate_succ'.symm⟩
    | releaseProxy proxy => exact ⟨rfl, List.append_nil _⟩
    | healthCheck => exact ⟨rfl, List.append_nil _⟩

/-- Whatever else is called in between, the configured proxies are handed out in turn, each place of
the list as often as the others up to one. Without proxies every call is refused, and the provider
stays as it is. -/
theorem handedOut_exact (calls : List CustomCall) :
    (proxies ≠ [] → handedOut (outputs CustomProvider.step (.new proxies) calls) =
      (cycle (proxies.map buildProxy) (calls.countP CustomCall.asks)).map .ok) ∧
    (proxies ≠ [] → ∀ proxy,
      (handedOut (outputs CustomProvider.step (.new proxies) calls)).count (.ok proxy) =
        calls.countP CustomCall.asks / proxies.length * (proxies.map buildProxy).count proxy +
          ((proxies.map buildProxy).take (calls.countP CustomCall.asks % proxies.length)).count
            proxy) ∧
    (proxies = [] → handedOut (outputs CustomProvider.step (.new proxies) calls) =
        List.replicate (calls.countP CustomCall.asks) (.error noProxies) ∧
      final CustomProvider.step (.new proxies) calls = .new proxies) := by
  refine ⟨fun h ↦ (run_turned proxies h calls).2, fun h proxy ↦ ?_, fun h ↦ ?_⟩
  · have hinj : Function.Injective (Except.ok : ProxyConfig → Except PyError ProxyConfig) :=
      fun _ _ ↦ Except.ok.inj
    rw [(run_turned proxies h calls).2, List.count_map_of_injective _ _ hinj, count_cycle,
      List.length_map]
  · subst h
    exact ⟨(run_empty calls).2, (run_empty calls).1⟩

end Run

end AsbCloudApi.Providers
