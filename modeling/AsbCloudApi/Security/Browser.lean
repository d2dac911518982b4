import AsbCloudApi.Net.Whatwg
import AsbCloudApi.Security.UrlSafety

/-!
# The URL check and the browser

Library `Security`. `validate_scrape_url` reads a URL with Python's parser, the browser with that
of the URL standard. The check protects the browser exactly on the URLs where both name
the same host to the DNS, or where the DNS plays no part.
-/

namespace AsbCloudApi.Security

open Base Text Net Api

/-- A configuration with `block_private_networks` on. -/
def SecurityConfig.blocking (cfg : SecurityConfig) : SecurityConfig :=
  { cfg with blockPrivateNetworks := true }

/-- Whether a browser that contacts the host reaches an internal address. -/
def reachesInternal (dns : Resolver) : Whatwg.Host → Bool
  | .address ip => ip.isInternal
  | .domain name => (dns name).any isPrivateAddress

/-- If the check returns the URL, the browser does not reach an internal address. -/
def SafeFor (u : UnicodeTables) (cfg : SecurityConfig) (dns : Resolver) (url : String) : Prop :=
  validateScrapeUrl u cfg dns url = .ok url →
    ∀ h, Whatwg.host u url.toList = some h → reachesInternal dns h = false

/-- The name that the check looks up, if no test of the text refuses the URL before. -/
def checkedName (u : UnicodeTables) (cfg : SecurityConfig) (url : String) : Option Chars :=
  match acceptedParts u cfg url with
  | .error _ => none
  | .ok parsed =>
    let host := checkedHost u parsed
    if isPrivateByName u host then none else idnaName u (hostLower u host)

/-- Whether a name is a numeric form of an internal address, which the lookup itself reveals. -/
def isInternalNumber (name : Chars) : Bool :=
  (inetAton name).any fun ip ↦ isPrivateAddress (IPv4.format ip)

/-- The check and the browser agree on a URL: unless the check refuses it whatever the DNS
answers, the browser's host is a public address or the very name that the check looks up. -/
def AgreesWithBrowser (u : UnicodeTables) (cfg : SecurityConfig) (url : String) : Prop :=
  ∀ name h, checkedName u cfg url = some name → Whatwg.host u url.toList = some h →
    isInternalNumber name = true ∨
      match h with
      | .address ip => ip.isInternal = false
      | .domain d => d = name ∧ inetAton name = none

/-- The check returns the URL when no test of the text refuses it and no address found is
internal. -/
theorem validateScrapeUrl_ok_iff (u : UnicodeTables) (cfg : SecurityConfig) (dns : Resolver)
    (url : String) : validateScrapeUrl u cfg.blocking dns url = .ok url ↔
      ∃ name, checkedName u cfg.blocking url = some name ∧
        (getaddrinfo dns name).any isPrivateAddress = false := by
  unfold validateScrapeUrl checkedName
  cases hp : acceptedParts u cfg.blocking url with
  | error e => simp
  | ok parsed =>
    have hblock : (!cfg.blocking.blockPrivateNetworks) = false := rfl
    simp only [hblock, Bool.false_eq_true, if_false, isPrivateOrLocalhost]
    cases hname : isPrivateByName u (checkedHost u parsed) with
    | true => simp
    | false =>
      simp only [Bool.false_eq_true, if_false, resolvedHostAddresses, Option.map_map]
      cases hidna : idnaName u (hostLower u (checkedHost u parsed)) with
      | none => simp
      | some name =>
        simp only [Option.map_some, Function.comp_apply, Option.some.injEq, exists_eq_left']
        cases hany : (getaddrinfo dns name).any isPrivateAddress with
        | true => simp
        | false => simp

/-- A numeric name is its own answer. -/
theorem getaddrinfo_of_inetAton {name : Chars} {ip : BitVec 32} (h : inetAton name = some ip)
    (dns : Resolver) : getaddrinfo dns name = [IPv4.format ip] := by
  rw [getaddrinfo, h]

/-- Any other name is what the DNS says. -/
theorem getaddrinfo_of_name {name : Chars} (h : inetAton name = none) (dns : Resolver) :
    getaddrinfo dns name = dns name := by
  rw [getaddrinfo, h]

/-- A DNS that knows one name only, with a loopback address. -/
def loopbackFor (d : Chars) : Resolver := fun name ↦ if name = d then ["127.0.0.1".toList] else []

private theorem reachesInternal_loopbackFor (d : Chars) :
    reachesInternal (loopbackFor d) (.domain d) = true := by
  have hloop : isPrivateAddress "127.0.0.1".toList = true := by decide
  rw [reachesInternal, loopbackFor, if_pos rfl, List.any_cons, hloop, Bool.true_or]

/-- Unless the name looked up is an internal number, a DNS that does not know it lets the URL
pass. -/
private theorem any_loopbackFor {name d : Chars} (hn : isInternalNumber name = false)
    (hd : inetAton name = none → d ≠ name) :
    (getaddrinfo (loopbackFor d) name).any isPrivateAddress = false := by
  cases hi : inetAton name with
  | none =>
    have hne : ¬ name = d := fun h ↦ hd hi h.symm
    rw [getaddrinfo_of_name hi, loopbackFor, if_neg hne]
    rfl
  | some ip =>
    rw [isInternalNumber, hi] at hn
    rw [getaddrinfo_of_inetAton hi]
    simpa using hn

/-- The browser is safe on a URL under every DNS exactly when both readings of it agree. -/
theorem safeFor_iff_agreesWithBrowser (u : UnicodeTables) (cfg : SecurityConfig) (url : String) :
    (∀ dns, SafeFor u cfg.blocking dns url) ↔ AgreesWithBrowser u cfg.blocking url := by
  constructor
  · intro h name host hname hhost
    cases hn : isInternalNumber name with
    | true => exact Or.inl rfl
    | false =>
      right
      cases host with
      | address ip =>
        have hok := (validateScrapeUrl_ok_iff u cfg (fun _ ↦ []) url).mpr ⟨name, hname, by
          cases hi : inetAton name with
          | none =>
            rw [getaddrinfo_of_name hi]
            rfl
          | some ip' =>
            rw [isInternalNumber, hi] at hn
            rw [getaddrinfo_of_inetAton hi]
            simpa using hn⟩
        exact h _ hok _ hhost
      | domain d =>
        by_contra hne
        have hok := (validateScrapeUrl_ok_iff u cfg (loopbackFor d) url).mpr
          ⟨name, hname, any_loopbackFor hn fun hi he ↦ hne ⟨he, hi⟩⟩
        have hsafe := h _ hok _ hhost
        rw [reachesInternal_loopbackFor] at hsafe
        cases hsafe
  · intro h dns hok host hhost
    obtain ⟨name, hname, hpublic⟩ := (validateScrapeUrl_ok_iff u cfg dns url).mp hok
    rcases h name host hname hhost with hn | hagree
    · -- the lookup of an internal number has refused the URL
      rw [isInternalNumber, Option.any_eq_true] at hn
      obtain ⟨ip, hi, hp⟩ := hn
      rw [getaddrinfo_of_inetAton hi] at hpublic
      simp [hp] at hpublic
    · cases host with
      | address ip => exact hagree
      | domain d =>
        obtain ⟨rfl, hi⟩ := hagree
        rwa [getaddrinfo_of_name hi] at hpublic

/-- Unicode tables for texts in ASCII. -/
def asciiTables : UnicodeTables := ⟨id, id, fun _ ↦ none, fun _ ↦ none⟩

private def exampleDns : Resolver := fun name ↦
  if name = "example.com".toList then ["93.184.216.34".toList] else []

/-- The check sees the host after the last `@`, the browser what stands before the backslash. -/
theorem not_safeFor_of_backslash :
    ¬ ∀ (u : UnicodeTables) (cfg : SecurityConfig) (dns : Resolver) (url : String),
      SafeFor u cfg.blocking dns url := by
  intro h
  have hsafe := h asciiTables {} exampleDns "http://127.0.0.1\\@example.com/" rfl
    (.address (.v4 (IPv4.ofOctets 127 0 0 1))) (by decide +kernel)
  exact absurd hsafe (by decide)

end AsbCloudApi.Security
