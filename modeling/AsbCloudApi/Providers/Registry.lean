import AsbCloudApi.Base.Dict
import AsbCloudApi.Providers.Custom

/-!
# Provider registry

Library `Providers`. Models `ProviderRegistry` of `src/asb_api/providers/__init__.py` and the choice
of the two breakers that the workers get, `src/asb_api/__main__.py:104–129`.
-/

namespace AsbCloudApi.Providers

open Base Api

/-- The section of one provider in the configuration, with the defaults of its fields. -/
structure ProviderSettings where
  enabled : Bool := false
  proxies : List CustomProxy := []
  apiKey : String := ""
  poolSize : Int := 10
  regions : List String := ["jp", "us", "eu"]
  defaultRegion : String := "jp"
  zones : List String := ["residential"]

/-- A provider as it is constructed. An empty list of regions or zones stands for the default. -/
inductive Provider where
  | null
  | custom (p : CustomProvider)
  | decodo (apiKey : String) (poolSize : Int) (regions : List String) (defaultRegion : String)
  | brightdata (apiKey : String) (zones : List String)

/-- Whether there is a `start` to be called. -/
def Provider.hasStart : Provider → Bool
  | .decodo _ _ _ _ => true
  | _ => false

/-- `ProviderRegistry._providers`. -/
abbrev ProviderRegistry := Dict String Provider

namespace ProviderRegistry

/-- The provider of a section; nothing if it is not enabled or has no known name. -/
def construct (providerName : String) (cfg : ProviderSettings) : Option Provider :=
  if !cfg.enabled then none
  else if providerName = "null" then some .null
  else if providerName = "custom" then some (.custom (.new cfg.proxies))
  else if providerName = "decodo" then
    some (.decodo cfg.apiKey cfg.poolSize
      (if cfg.regions.isEmpty then ["jp", "us", "eu"] else cfg.regions) cfg.defaultRegion)
  else if providerName = "brightdata" then
    some (.brightdata cfg.apiKey (if cfg.zones.isEmpty then ["residential"] else cfg.zones))
  else none

/-- `initialize_from_config`; `src/asb_api/providers/__init__.py:25–51`. -/
def initializeFromConfig (config : Dict String ProviderSettings) : ProviderRegistry :=
  config.items.foldl (fun providers q ↦
    match construct q.1 q.2 with
    | none => providers
    | some provider => providers.set q.1 provider) Dict.empty

/-- `list_providers`. -/
def listProviders (r : ProviderRegistry) : List String := r.keys

end ProviderRegistry

/-! ### The breakers of the workers -/

/-- A breaker made at startup: one that the health checker watches, or one of its own. -/
inductive StartupBreaker where
  | watched (name : String)
  | unwatched (name : String)
  deriving DecidableEq

/-- The breakers that the workers get. -/
structure WorkerBreakers where
  primary : StartupBreaker
  fallback : Option StartupBreaker
  deriving DecidableEq

/-- `breakers.get(name)`: there is a breaker for every registered provider. -/
def watchedBreaker (r : ProviderRegistry) (name : String) : Option StartupBreaker :=
  if name ∈ r.listProviders then some (.watched name) else none

/-- `src/asb_api/__main__.py:111–117`. -/
def selectFallback (r : ProviderRegistry) (primaryName fallbackName : String) :
    Option StartupBreaker :=
  if fallbackName ≠ "" ∧ fallbackName ≠ primaryName then
    match watchedBreaker r fallbackName with
    | some b => some b
    | none => if fallbackName ∈ r.listProviders then some (.unwatched fallbackName) else none
  else none

/-- `src/asb_api/__main__.py:119–129`. -/
def selectBreakers (r : ProviderRegistry) (primaryName fallbackName : String) :
    Except PyError WorkerBreakers :=
  let fallback := selectFallback r primaryName fallbackName
  match watchedBreaker r primaryName with
  | some primary => .ok ⟨primary, fallback⟩
  | none =>
    match fallback with
    | some fallback => .ok ⟨fallback, none⟩
    | none =>
      match watchedBreaker r "null" with
      | some primary => .ok ⟨primary, none⟩
      | none =>
        if "null" ∈ r.listProviders then .ok ⟨.unwatched "null", none⟩
        else .error (.keyError "null")

section Select

variable (r : ProviderRegistry) (primaryName fallbackName : String)

theorem watchedBreaker_eq_some_iff {r : ProviderRegistry} {name : String} {b : StartupBreaker} :
    watchedBreaker r name = some b ↔ name ∈ r.listProviders ∧ b = .watched name := by
  unfold watchedBreaker
  split
  · next h => simp [h, eq_comm]
  · next h => simp [h]

/-- A fallback is registered and not the primary. -/
theorem selectFallback_eq_some_iff {b : StartupBreaker} :
    selectFallback r primaryName fallbackName = some b ↔ fallbackName ≠ "" ∧
      fallbackName ≠ primaryName ∧ fallbackName ∈ r.listProviders ∧ b = .watched fallbackName := by
  unfold selectFallback
  split
  · next h =>
    simp only [ne_eq, h.1, h.2, not_false_eq_true, true_and]
    by_cases hmem : fallbackName ∈ r.listProviders
    · simp [watchedBreaker, hmem, eq_comm]
    · simp [watchedBreaker, hmem]
  · next h =>
    rw [← and_assoc, ← and_assoc]
    simp [h]

/-- What the workers get is registered and watched, and a fallback is not the primary. -/
theorem selectBreakers_watched {b : WorkerBreakers}
    (h : selectBreakers r primaryName fallbackName = .ok b) :
    ∃ name ∈ r.listProviders, b.primary = .watched name ∧
      ∀ f, b.fallback = some f → ∃ name' ∈ r.listProviders, f = .watched name' ∧ name' ≠ name := by
  unfold selectBreakers at h
  dsimp only at h
  split at h
  · next p hp =>
    cases h
    obtain ⟨hmem, rfl⟩ := watchedBreaker_eq_some_iff.mp hp
    refine ⟨primaryName, hmem, rfl, fun f hf ↦ ?_⟩
    obtain ⟨-, hne, hmem', rfl⟩ := (selectFallback_eq_some_iff r _ _).mp hf
    exact ⟨fallbackName, hmem', rfl, hne⟩
  · split at h
    · next f hf =>
      cases h
      obtain ⟨-, -, hmem, rfl⟩ := (selectFallback_eq_some_iff r _ _).mp hf
      exact ⟨fallbackName, hmem, rfl, nofun⟩
    · split at h
      · next p hp =>
        cases h
        obtain ⟨hmem, rfl⟩ := watchedBreaker_eq_some_iff.mp hp
        exact ⟨"null", hmem, rfl, nofun⟩
      · next hnull =>
        split at h
        · next hmem =>
          unfold watchedBreaker at hnull
          rw [if_pos hmem] at hnull
          cases hnull
        · cases h

end Select

end AsbCloudApi.Providers
