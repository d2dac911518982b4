import AsbCloudApi.Base.Run
import AsbCloudApi.Routes.SessionRun
import AsbCloudApi.Workers.Worker

/-!
# Session cookies across scrapes

Library `Routes`. The cookies of a scrape replace the stored ones, whatever the scrape
returned: a failed scrape empties the jar, and a cookie lasts as long as every response
repeats its name.
-/

namespace AsbCloudApi.Routes

open Base Api Db Session Workers

/-! ### After a failed scrape -/

/-- A failed scrape leaves the cookies of its session as they were exactly if there were none, or
if the store refuses the update. -/
theorem failed_scrape_keeps_cookies_iff {sur : Surroundings} {app : App}
    {request sent : ScrapeRequest} {response : ScrapeResponse} {keyId sid : String} {skip : Bool}
    {b : SessionBackend} (hsid : request.sessionId = some sid) (hne : sid ≠ "")
    (hreset : request.sessionType ≠ .statefulReset)
    (hmade : (sent, .ok response) ∈ (scrapeOn sur app request keyId skip b).2.scraped)
    (hresp : ASBWorker.IsResponse sent response) (herr : response.status = .error) :
    (scrapeOn sur app request keyId skip b).2.backend.storedCookies sid = b.storedCookies sid ↔
      b.storedCookies sid = some Dict.empty ∨
        (sur.storeFails (.updateCookies sid Dict.empty)).isSome := by
  obtain ⟨w, c, -, rfl⟩ := hresp.eq_respond
  have hcookies := ASBWorker.cookies_respond_of_error w c herr
  obtain ⟨out, b', made, hrun, hcase⟩ := run_executeOneScrape sur app keyId (b := b)
    [] hsid hne hreset skip
  rw [scrapeOn, hrun] at hmade ⊢
  rcases hcase with ⟨rfl, -⟩ | ⟨jar, answer, hb, rfl, hafter⟩
  · cases hmade
  · simp only [List.nil_append, List.mem_singleton, Prod.mk.injEq] at hmade
    obtain ⟨-, rfl⟩ := hmade
    simp only [AfterScrape, hcookies] at hafter
    rw [hb]
    split at hafter
    · next hf =>
      rw [hf]
      exact iff_of_true hafter.1 (Or.inr rfl)
    · next hf =>
      rw [hf, hafter.1]
      simp [eq_comm]

private def sampleId : String := "sess_000000000001"

/-- A store with one session of `key_a`. -/
private def sampleStore (cookies : Dict String String) : SessionBackend :=
  .memory ⟨none, 3600, Dict.ofList [(sampleId,
    ⟨sampleId, "key_a", "jp", none, .plain cookies, 0, 0, 0, 3600⟩)]⟩

private def calmApp : App := ⟨true, false, false, true, none, ⟨id, id, some, some⟩, {}⟩

/-- Everything works, and the worker answers with a given response. -/
private def calm (response : ScrapeResponse) : Surroundings where
  answer
    | .validateUrl url => .ok url
    | .pool (.acquirePermit _) => .ok "jp"
    | .pool (.takeIdle region) => .ok (some ⟨region, 0⟩)
    | .pool (.releasePermit _) => .ok ()
    | .pool (.release _ _) => .ok ()
    | .mergeCookies headers cookies => .ok (mergedHeaders headers cookies)
    | .scrape _ _ => .ok response
    | .usage _ => .ok ()
    | .limit _ => .error (.py ⟨.other, ""⟩)
    | .session _ => .error (.py ⟨.other, ""⟩)
  storeFails _ := none
  env _ := ⟨0, 0⟩

private def sampleRequest : ScrapeRequest :=
  { url := "https://example.com", sessionId := some sampleId, sessionType := .stateful }

private def stoppedWorker : ASBWorker := ⟨"worker-jp-0", ⟨0, "decodo"⟩, none, none, false⟩

private def failedCall (request : ScrapeRequest) : ASBWorker.Call :=
  ⟨request, ⟨default, 0⟩,
    ⟨fun _ ↦ .error ⟨.other, ""⟩, .error ⟨.other, ""⟩, .error ⟨.other, ""⟩⟩⟩

private def sampleCookies : Dict String String := Dict.ofList [("sid", "1")]

private def failedResponse : ScrapeResponse :=
  stoppedWorker.respond (failedCall (sentRequest sampleRequest sampleCookies))

private theorem failedResponse_isResponse :
    ASBWorker.IsResponse (sentRequest sampleRequest sampleCookies) failedResponse :=
  ⟨stoppedWorker, none, failedCall _, rfl, rfl⟩

private theorem failedResponse_made :
    (sentRequest sampleRequest sampleCookies, .ok failedResponse) ∈
      (scrapeOn (calm failedResponse) calmApp sampleRequest "key_a" false
        (sampleStore sampleCookies)).2.scraped := by
  decide +kernel

/-- A worker that was not started fails on a session with a cookie. -/
theorem failed_scrape_keeps_cookies_iff_sample :
    (scrapeOn (calm failedResponse) calmApp sampleRequest "key_a" false
        (sampleStore sampleCookies)).2.backend.storedCookies sampleId =
      (sampleStore sampleCookies).storedCookies sampleId ↔
    (sampleStore sampleCookies).storedCookies sampleId = some Dict.empty ∨
      ((calm failedResponse).storeFails (.updateCookies sampleId Dict.empty)).isSome :=
  failed_scrape_keeps_cookies_iff rfl (by decide) (by decide) failedResponse_made
    failedResponse_isResponse rfl

/-- A failed scrape does not leave every session's cookies as they were. -/
theorem not_failed_scrape_keeps_cookies : ¬ ∀ (sur : Surroundings) (app : App)
    (request sent : ScrapeRequest) (response : ScrapeResponse) (keyId sid : String) (skip : Bool)
    (b : SessionBackend), request.sessionId = some sid → sid ≠ "" →
    request.sessionType ≠ .statefulReset →
    (sent, .ok response) ∈ (scrapeOn sur app request keyId skip b).2.scraped →
    ASBWorker.IsResponse sent response → response.status = .error →
    (scrapeOn sur app request keyId skip b).2.backend.storedCookies sid = b.storedCookies sid := by
  intro h
  have hkept := h (calm failedResponse) calmApp sampleRequest _ failedResponse "key_a" sampleId
    false (sampleStore sampleCookies) rfl (by decide) (by decide) failedResponse_made
    failedResponse_isResponse rfl
  exact absurd hkept (by decide +kernel)

/-! ### Over a sequence of scrapes -/

/-- A `Cookie` header with the pair of a cookie among those that `"; "` separates. -/
def CarriesCookie (header name value : String) : Prop :=
  ∃ before after, header = before ++ (name ++ "=" ++ value) ++ after ∧
    (before = "" ∨ ∃ s, before = s ++ "; ") ∧ (after = "" ∨ ∃ s, after = "; " ++ s)

private theorem intercalate_mem {x : String} {xs : List String} (h : x ∈ xs) :
    ∃ before after, "; ".intercalate xs = before ++ x ++ after ∧
      (before = "" ∨ ∃ s, before = s ++ "; ") ∧ (after = "" ∨ ∃ s, after = "; " ++ s) := by
  induction xs with
  | nil => cases h
  | cons y ys ih =>
    cases ys with
    | nil =>
      obtain rfl := List.mem_singleton.mp h
      refine ⟨"", "", ?_, Or.inl rfl, Or.inl rfl⟩
      rw [String.intercalate_singleton, String.empty_append, String.append_empty]
    | cons z zs =>
      rw [String.intercalate_cons_cons]
      rcases List.mem_cons.mp h with rfl | h
      · refine ⟨"", "; " ++ "; ".intercalate (z :: zs), ?_, Or.inl rfl, Or.inr ⟨_, rfl⟩⟩
        rw [String.empty_append, String.append_assoc]
      · obtain ⟨before, after, he, hb, ha⟩ := ih h
        refine ⟨y ++ "; " ++ before, after, by rw [he]; simp only [String.append_assoc], ?_, ha⟩
        rcases hb with rfl | ⟨s, rfl⟩
        · exact Or.inr ⟨y, String.append_empty⟩
        · exact Or.inr ⟨y ++ "; " ++ s, by simp only [String.append_assoc]⟩

/-- Merged headers carry every cookie of the session. -/
theorem mergedHeaders_carries {cookies : Dict String String} {name value : String}
    (h : cookies.get? name = some value) (headers : Dict String String) :
    ∃ header, (mergedHeaders headers cookies).get? "Cookie" = some header ∧
      CarriesCookie header name value := by
  have hmem : name ++ "=" ++ value ∈ cookies.items.map fun p ↦ p.1 ++ "=" ++ p.2 :=
    List.mem_map.mpr ⟨(name, value), (Dict.mem_items_iff _ _ _).mpr h, rfl⟩
  obtain ⟨before, after, he, hb, ha⟩ := intercalate_mem hmem
  have hjoin : cookieHeader cookies = before ++ (name ++ "=" ++ value) ++ after := he
  unfold mergedHeaders
  rw [Dict.get?_set_self]
  refine ⟨_, rfl, ?_⟩
  split
  · refine ⟨(headers.get? "Cookie").getD "" ++ "; " ++ before, after, ?_, Or.inr ?_, ha⟩
    · rw [hjoin]
      simp only [String.append_assoc]
    · rcases hb with rfl | ⟨s, rfl⟩
      · exact ⟨_, String.append_empty⟩
      · exact ⟨(headers.get? "Cookie").getD "" ++ "; " ++ s, by simp only [String.append_assoc]⟩
  · exact ⟨before, after, hjoin, hb, ha⟩

/-- One request of a sequence, and what it meets. -/
structure SessionScrape where
  sur : Surroundings
  app : App
  request : ScrapeRequest
  keyId : String
  skip : Bool

/-- What a request did: its outcome, the calls of the worker, and the cookies stored then. -/
structure ScrapeRecord where
  outcome : Except Exn ScrapeResponse
  scraped : List (ScrapeRequest × Except Exn ScrapeResponse)
  jar : Option (Dict String String)

/-- One request after another on the same store. -/
def sessionStep (sid : String) (b : SessionBackend) (t : SessionScrape) :
    ScrapeRecord × SessionBackend :=
  let (out, s) := scrapeOn t.sur t.app t.request t.keyId t.skip b
  (⟨out, s.scraped, s.backend.storedCookies sid⟩, s.backend)

/-- A request on a session that keeps the cookies. -/
def SessionScrape.On (t : SessionScrape) (sid : String) : Prop :=
  t.request.sessionId = some sid ∧ t.request.sessionType ≠ .statefulReset

namespace ScrapeRecord

/-- The request completed, and its scrape was a success. -/
def Successful (r : ScrapeRecord) : Prop :=
  ∃ response, r.outcome = .ok response ∧ response.status = .success

/-- The cookies that the worker returned. -/
def returned (r : ScrapeRecord) : Dict String String :=
  match r.scraped with
  | [(_, .ok response)] => response.cookies
  | _ => Dict.empty

/-- The worker was sent a cookie. -/
def Sends (r : ScrapeRecord) (name value : String) : Prop :=
  ∃ p ∈ r.scraped, ∃ header, p.1.headers.get? "Cookie" = some header ∧
    CarriesCookie header name value

end ScrapeRecord

/-- A cookie that was returned once is sent by every later scrape and is still stored after it,
until its name is returned again. -/
def CookiesPersist (rs : List ScrapeRecord) : Prop :=
  ∀ (i j : Nat) (ri rj : ScrapeRecord) (name value : String), i < j → rs[i]? = some ri →
    rs[j]? = some rj → ri.returned.get? name = some value →
    (∀ (k : Nat) (rk : ScrapeRecord), i < k → k < j → rs[k]? = some rk →
      rk.returned.get? name = none) →
    rj.Sends name value ∧
      (rj.returned.get? name = none → rj.jar.bind (·.get? name) = some value)

/-- Every response after the first returns every name that the response before it returned. -/
def NamesReturned (rs : List ScrapeRecord) : Prop :=
  ∀ (i : Nat) (r r' : ScrapeRecord), rs[i]? = some r → rs[i + 1]? = some r' →
    ∀ name ∈ r.returned.keys, name ∈ r'.returned.keys

/-- What a successful scrape sends is what was stored, and what it leaves is what it returned. -/
private theorem sessionStep_of_successful {sid : String} (hne : sid ≠ "") {b : SessionBackend}
    {t : SessionScrape} (ht : t.On sid) (hs : (sessionStep sid b t).1.Successful) :
    ∃ jar answer, b.storedCookies sid = some jar ∧
      (sessionStep sid b t).1.scraped = [(sentRequest t.request jar, answer)] ∧
      (sessionStep sid b t).1.jar = some (sessionStep sid b t).1.returned ∧
      (sessionStep sid b t).2.storedCookies sid = some (sessionStep sid b t).1.returned := by
  obtain ⟨response, hout, -⟩ := hs
  obtain ⟨out, b', made, hrun, hcase⟩ := run_executeOneScrape t.sur t.app t.keyId (b := b)
    [] ht.1 hne ht.2 t.skip
  unfold sessionStep scrapeOn at *
  rw [hrun] at hout ⊢
  subst hout
  rcases hcase with ⟨-, hno⟩ | ⟨jar, answer, hb, rfl, hafter⟩
  · exact absurd rfl (hno response)
  · have hstored : ∃ result, answer = .ok result ∧ b'.storedCookies sid = some result.cookies := by
      unfold AfterScrape at hafter
      split at hafter
      · exact absurd rfl (hafter.2 response)
      · next result =>
        split at hafter
        · exact absurd rfl (hafter.2 response)
        · exact ⟨result, rfl, hafter.1⟩
    obtain ⟨result, rfl, hb'⟩ := hstored
    exact ⟨jar, .ok result, hb, rfl, hb', hb'⟩

/-- After every scrape of a sequence the jar is what was returned, and the next one sends it. -/
private theorem outputs_linked {sid : String} (hne : sid ≠ "") {ts : List SessionScrape}
    {b : SessionBackend} (hts : ∀ t ∈ ts, t.On sid)
    (hs : ∀ r ∈ outputs (sessionStep sid) b ts, r.Successful) :
    (∀ r ∈ outputs (sessionStep sid) b ts, r.jar = some r.returned) ∧
    (∀ r ∈ (outputs (sessionStep sid) b ts).head?, ∃ request jar answer,
      b.storedCookies sid = some jar ∧ r.scraped = [(sentRequest request jar, answer)]) ∧
    (outputs (sessionStep sid) b ts).IsChain fun r r' ↦
      ∃ request answer, r'.scraped = [(sentRequest request r.returned, answer)] := by
  induction ts generalizing b with
  | nil => exact ⟨by simp, by simp, List.IsChain.nil⟩
  | cons t ts ih =>
    rw [outputs_cons] at hs ⊢
    obtain ⟨jar, answer, hb, hmade, hjar, hb'⟩ := sessionStep_of_successful hne
      (hts t List.mem_cons_self) (hs _ List.mem_cons_self)
    obtain ⟨hall, hhead, hchain⟩ := ih (fun u hu ↦ hts u (List.mem_cons_of_mem _ hu))
      fun r hr ↦ hs r (List.mem_cons_of_mem _ hr)
    refine ⟨?_, ?_, List.isChain_cons.mpr ⟨?_, hchain⟩⟩
    · intro r hr
      rcases List.mem_cons.mp hr with rfl | hr
      · exact hjar
      · exact hall r hr
    · intro r hr
      obtain rfl := Option.some.inj hr
      exact ⟨_, _, _, hb, hmade⟩
    · intro r hr
      obtain ⟨request, jar', answer', hj, hmade'⟩ := hhead r hr
      rw [hb'] at hj
      obtain rfl := Option.some.inj hj
      exact ⟨request, answer', hmade'⟩

/-- Over every sequence of successful scrapes on a session, cookies persist exactly if every
response repeats the names of the response before it. -/
theorem cookiesPersist_iff_namesReturned {sid : String} (hne : sid ≠ "") {b : SessionBackend}
    {ts : List SessionScrape} (hts : ∀ t ∈ ts, t.On sid)
    (hs : ∀ r ∈ outputs (sessionStep sid) b ts, r.Successful) :
    CookiesPersist (outputs (sessionStep sid) b ts) ↔
      NamesReturned (outputs (sessionStep sid) b ts) := by
  obtain ⟨hjar, -, hchain⟩ := outputs_linked hne hts hs
  generalize outputs (sessionStep sid) b ts = rs at hjar hchain
  constructor
  · intro h i r r' hr hr' name hname
    obtain ⟨value, hv⟩ := Option.isSome_iff_exists.mp ((Dict.mem_keys_iff _ _).mp hname)
    by_contra hno
    rw [← Dict.get?_eq_none_iff] at hno
    have hkept := (h i (i + 1) r r' name value (by omega) hr hr' hv (by omega)).2 hno
    rw [hjar r' (List.mem_of_getElem? hr'), Option.bind_some, hno] at hkept
    cases hkept
  · intro h i j ri rj name value hij hri hrj hv hbetween
    have hname : name ∈ ri.returned.keys := by
      rw [Dict.mem_keys_iff, hv]
      rfl
    obtain ⟨hj, hgj⟩ := List.getElem?_eq_some_iff.mp hrj
    have hi : i + 1 < rs.length := by omega
    have hnext := h i ri rs[i + 1] hri (List.getElem?_eq_getElem hi) name hname
    have hj : j = i + 1 := by
      by_contra hlate
      have hnone := hbetween (i + 1) _ (by omega) (by omega) (List.getElem?_eq_getElem hi)
      exact (Dict.get?_eq_none_iff _ _).mp hnone hnext
    subst hj
    obtain ⟨hi', hgi⟩ := List.getElem?_eq_some_iff.mp hri
    subst hgi hgj
    obtain ⟨request, answer, hmade⟩ := List.isChain_iff_getElem.mp hchain i hi
    refine ⟨⟨_, by rw [hmade]; exact List.mem_singleton_self _, ?_⟩, ?_⟩
    · have hnonempty : rs[i].returned.isEmpty = false := by
        cases he : rs[i].returned.isEmpty with
        | false => rfl
        | true =>
          rw [(Dict.isEmpty_iff _).mp he, Dict.get?_empty] at hv
          cases hv
      rw [sentRequest, hnonempty, if_neg (by decide)]
      exact mergedHeaders_carries hv request.headers
    · intro hnone
      exact absurd hnext ((Dict.get?_eq_none_iff _ _).mp hnone)

private def sampleScrape (response : ScrapeResponse) : SessionScrape :=
  ⟨calm response, calmApp, sampleRequest, "key_a", false⟩

private def returning (cookies : Dict String String) : ScrapeResponse :=
  { requestId := "req_000000000000", status := .success, cookies := cookies }

private def sampleScrapes (second : Dict String String) : List SessionScrape :=
  [sampleScrape (returning sampleCookies), sampleScrape (returning second)]

private def sampleRecords (second : Dict String String) : List ScrapeRecord :=
  outputs (sessionStep sampleId) (sampleStore Dict.empty) (sampleScrapes second)

private theorem sampleScrapes_on (second : Dict String String) :
    ∀ t ∈ sampleScrapes second, t.On sampleId := by
  intro t ht
  obtain ⟨response, rfl⟩ : ∃ response, t = sampleScrape response := by
    simp only [sampleScrapes, List.mem_cons, List.not_mem_nil, or_false] at ht
    rcases ht with rfl | rfl
    · exact ⟨_, rfl⟩
    · exact ⟨_, rfl⟩
  exact ⟨rfl, fun hreset ↦ nomatch hreset⟩

private theorem sampleRecords_outcomes :
    (sampleRecords sampleCookies).map (·.outcome) =
      [.ok (returning sampleCookies), .ok (returning sampleCookies)] ∧
    (sampleRecords Dict.empty).map (·.outcome) =
      [.ok (returning sampleCookies), .ok (returning Dict.empty)] := by
  decide +kernel

private theorem successful_of_outcomes {rs : List ScrapeRecord} {first second : Dict String String}
    (h : rs.map (·.outcome) = [.ok (returning first), .ok (returning second)]) :
    ∀ r ∈ rs, r.Successful := by
  intro r hr
  have hmem := List.mem_map_of_mem (f := (·.outcome)) hr
  rw [h] at hmem
  rcases List.mem_cons.mp hmem with ho | ho
  · exact ⟨_, ho, rfl⟩
  · exact ⟨_, List.mem_singleton.mp ho, rfl⟩

/-- Two scrapes that return a cookie of one name. -/
theorem cookiesPersist_iff_namesReturned_sample :
    CookiesPersist (sampleRecords sampleCookies) ↔ NamesReturned (sampleRecords sampleCookies) :=
  cookiesPersist_iff_namesReturned (by decide) (sampleScrapes_on sampleCookies)
    (successful_of_outcomes sampleRecords_outcomes.1)

/-- Cookies do not persist over every sequence of successful scrapes: the second one returns no
cookie, and the first one's is gone. -/
theorem not_cookiesPersist : ¬ ∀ (sid : String) (b : SessionBackend) (ts : List SessionScrape),
    sid ≠ "" → (∀ t ∈ ts, t.On sid) →
    (∀ r ∈ outputs (sessionStep sid) b ts, r.Successful) →
    CookiesPersist (outputs (sessionStep sid) b ts) := by
  intro h
  have hp : CookiesPersist (sampleRecords Dict.empty) := h _ _ _ (by decide)
    (sampleScrapes_on Dict.empty) (successful_of_outcomes sampleRecords_outcomes.2)
  have hjar := (hp 0 1 _ _ "sid" "1" (by omega) rfl rfl (by decide +kernel) (by omega)).2
    (by decide +kernel)
  exact absurd hjar (by decide +kernel)

end AsbCloudApi.Routes
