import AsbCloudApi.Providers.Health
import AsbCloudApi.Workers.Worker

/-!
# Use of proxies

Library `Workers`. What `CircuitBreaker.get_proxy` and `ASBWorker.scrape` do with a proxy between
obtaining and releasing it, whatever the provider, the browser and other requests do meanwhile.
-/

namespace AsbCloudApi.Workers

open Base Api Providers Session

/-- A call of `CircuitBreaker.get_proxy`, with the proxy it has obtained. It asks its provider once,
and recording the outcome does not fail. -/
def supplyProtocol : Prog.Protocol PyError BreakerOp.Ans (Option ProxyConfig) where
  allowed o g :=
    match o with
    | .getProxy _ => g = none
    | _ => True
  possible o _ r :=
    match o, r with
    | .move .recordSuccess, .error _ => False
    | .move .recordFailure, .error _ => False
    | _, _ => True
  next o g r :=
    match o, r with
    | .getProxy _, .ok proxy => some proxy
    | _, _ => g

/-- The breaker returns the proxy that its provider has handed out, and raises if there is none. -/
theorem follows_getProxy (region : Option String) :
    Prog.Follows supplyProtocol (fun r g ↦ g = r.toOption) (getProxy region) none := by
  refine ⟨trivial, fun checked _ ↦ ?_⟩
  cases checked with
  | error e => rfl
  | ok u =>
    refine ⟨rfl, fun result _ ↦ ?_⟩
    cases result with
    | ok proxy =>
      refine ⟨trivial, fun recorded hrecorded ↦ ?_⟩
      cases recorded with
      | ok u => rfl
      | error e => exact False.elim hrecorded
    | error e =>
      change Prog.Follows _ _ (if isProviderFailure e then _ else _) _
      split
      · refine ⟨trivial, fun recorded hrecorded ↦ ?_⟩
        cases recorded with
        | ok u => rfl
        | error e => exact False.elim hrecorded
      · rfl

/-- What a call of `scrape` has: the proxy it holds, with the breaker that supplied it, and what the
call has noted in `_last_proxy_breaker`. -/
structure ProxyUse where
  held : Option (Breaker × ProxyConfig) := none
  noted : Option (Option Breaker) := none

/-- A call of `scrape` holds one proxy at most and releases what it holds. It reads back what it has
noted. -/
def proxyProtocol : Prog.Protocol PyError WorkerOp.Ans ProxyUse where
  allowed o g :=
    match o with
    | .getProxy _ _ => g.held = none
    | .releaseProxy b proxy => g.held = some (b, proxy)
    | _ => True
  possible o g r :=
    match o, r with
    | .loadLast, .ok b => ∀ b', g.noted = some b' → b = b'
    | .loadLast, .error _ => False
    | .storeLast _, .error _ => False
    | .releaseProxy _ _, .error _ => False
    | _, _ => True
  next o g r :=
    match o, r with
    | .getProxy b _, .ok proxy => { g with held := some (b, proxy) }
    | .releaseProxy _ _, _ => { g with held := none }
    | .storeLast b, _ => { g with noted := some b }
    | _, _ => g

/-- A call holds a proxy of which its breaker is noted, or no proxy. -/
def ProxyUse.Has (g : ProxyUse) : Option ProxyConfig → Prop
  | none => g.held = none
  | some proxy => ∃ b, g = ⟨some (b, proxy), some (some b)⟩

namespace ASBWorker

variable (w : ASBWorker)

/-- Assigning `_last_proxy_breaker` does not fail. -/
private theorem follows_storeLast {α : Type} {Q : Except PyError α → ProxyUse → Prop}
    {b : Option Breaker} {rest : Unit → WorkerProg α} {g : ProxyUse}
    (h : Prog.Follows proxyProtocol Q (rest ()) { g with noted := some b }) :
    Prog.Follows proxyProtocol Q (.perform (WorkerOp.storeLast b) >>= rest) g := by
  refine ⟨trivial, fun stored hstored ↦ ?_⟩
  cases stored with
  | ok u => exact h
  | error e => exact False.elim hstored

private theorem follows_obtainProxy (region : Option String) (g : ProxyUse)
    (hg : g.held = none) : Prog.Follows proxyProtocol
      (fun r g ↦ g.Has (r.toOption.bind Prod.fst)) (w.obtainProxy region) g := by
  unfold obtainProxy
  split
  · exact follows_storeLast hg
  · refine ⟨hg, fun first _ ↦ ?_⟩
    cases first with
    | ok proxy => exact follows_storeLast ⟨w.provider, rfl⟩
    | error e =>
      change Prog.Follows _ _ (if (!isProviderFailure e) = true then _ else _) _
      split
      · exact hg
      · cases w.fallbackProvider with
        | none => exact hg
        | some fallback =>
          change Prog.Follows _ _ (if fallback.id = w.provider.id then _ else _) _
          split
          · exact hg
          · refine ⟨hg, fun second _ ↦ ?_⟩
            cases second with
            | ok proxy => exact follows_storeLast ⟨fallback, rfl⟩
            | error _ => exact hg

/-- The `finally` part releases the proxy to the breaker that supplied it. -/
private theorem follows_finish {proxy : Option ProxyConfig} {g : ProxyUse} (hg : g.Has proxy)
    (response : ScrapeResponse) :
    Prog.Follows proxyProtocol (fun _ g ↦ g.held = none) (finish proxy response) g := by
  refine ⟨trivial, fun last hlast ↦ ?_⟩
  cases last with
  | error e => exact False.elim hlast
  | ok last =>
    cases proxy with
    | none => exact follows_storeLast hg
    | some proxy =>
      obtain ⟨b, rfl⟩ := hg
      obtain rfl : last = some b := hlast _ rfl
      refine ⟨rfl, fun released hreleased ↦ ?_⟩
      cases released with
      | ok u => exact follows_storeLast rfl
      | error e => exact False.elim hreleased

private theorem follows_runWith {proxy : Option ProxyConfig} {g : ProxyUse} (hg : g.Has proxy)
    (env : ScrapeEnv) (request : ScrapeRequest) (provider : String) :
    Prog.Follows proxyProtocol (fun _ g ↦ g.held = none)
      (w.runWith env request proxy provider) g := by
  refine ⟨trivial, fun fp _ ↦ ?_⟩
  cases fp with
  | error e => exact follows_finish hg _
  | ok fp =>
    refine ⟨trivial, fun result _ ↦ ?_⟩
    cases result with
    | error e => exact follows_finish hg _
    | ok result => exact follows_finish hg _

/-- A call of `scrape` has released its proxy when it ends. -/
theorem follows_scrape (env : ScrapeEnv) (request : ScrapeRequest) {g : ProxyUse}
    (hg : g.held = none) :
    Prog.Follows proxyProtocol (fun _ g ↦ g.held = none) (w.scrape env request) g := by
  unfold scrape
  split
  · exact hg
  · apply Prog.Follows.bind (Q := fun r g ↦ g.Has ((r.toOption.bind Except.toOption).bind Prod.fst))
    · exact (w.follows_obtainProxy request.region g hg).resume fun r g h ↦ h
    · rintro obtained g h
      cases obtained with
      | error e => exact follows_finish h _
      | ok obtained => exact w.follows_runWith h env request obtained.2
    · exact fun e g h ↦ h

end ASBWorker

end AsbCloudApi.Workers
