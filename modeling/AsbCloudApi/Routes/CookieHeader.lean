import AsbCloudApi.Routes.SessionRun
import AsbCloudApi.Workers.Runner

/-!
# The cookie header that is sent

Library `Routes`. The cookies of a session are merged into the request headers by
`src/asb_api/api/routes/scrape.py:110–114`, under the name `Cookie` as it is spelled there, and the
runner of `src/asb_api/workers/asb_runner.py:28–39` sends what it gets. Names of HTTP headers do not
depend on case.
-/

namespace AsbCloudApi.Routes

open Base Text Net Session Workers

section Header

variable (u : UnicodeTables)

/-- The items that are cookie headers, in any spelling. -/
def cookieItems (headers : Dict String String) : List (String × String) :=
  headers.items.filter fun p ↦ nameIs u "cookie" p.1

/-- All other items. -/
def otherItems (headers : Dict String String) : List (String × String) :=
  headers.items.filter fun p ↦ !nameIs u "cookie" p.1

/-- The cookies of the caller, unless they are empty, and then those of the session. -/
def joinedCookies (callers : List String) (jar : Dict String String) : String :=
  "; ".intercalate (callers.filter (· ≠ "") ++ jar.items.map fun p ↦ p.1 ++ "=" ++ p.2)

/-- The headers sent have one cookie header, with all cookies. The others are those of the request,
and perhaps a content type if that has none. -/
structure OneCookieHeader (headers jar sent : Dict String String) : Prop where
  cookie : ∃ name, cookieItems u sent =
    [(name, joinedCookies ((cookieItems u headers).map Prod.snd) jar)]
  others : otherItems u sent = otherItems u headers ∨
    otherItems u sent = otherItems u headers ++ [("Content-Type", "application/json")] ∧
      ∀ k ∈ headers.keys, nameIs u "content-type" k = false

/-! ### Names in ASCII -/

theorem nameIs_of_isAscii {k : String} (h : k.toList.all isAscii = true) (name : String) :
    nameIs u name k = decide (asciiLower k.toList = name.toList) := by
  rw [nameIs, UnicodeTables.lowerText, if_pos h]

theorem nameIs_cookie : nameIs u "cookie" "Cookie" = true := by
  rw [nameIs_of_isAscii u (by decide)]
  decide

theorem nameIs_contentType : nameIs u "content-type" "Content-Type" = true := by
  rw [nameIs_of_isAscii u (by decide)]
  decide

theorem not_nameIs_cookie : nameIs u "cookie" "Content-Type" = false := by
  rw [nameIs_of_isAscii u (by decide)]
  decide

/-! ### What the runner adds -/

/-- What the runner sends are the items it gets, and perhaps a content type. -/
theorem items_prepareBody {headers sent : Dict String String} {data : RequestData}
    {body : Option RequestBody} (h : prepareBody u (some headers) data = .ok (sent, body)) :
    sent.items = headers.items ∨
      sent.items = headers.items ++ [("Content-Type", "application/json")] ∧
        ∀ k ∈ headers.keys, nameIs u "content-type" k = false := by
  cases data with
  | none =>
    cases h
    exact Or.inl rfl
  | raw body =>
    cases h
    exact Or.inl rfl
  | json dumped =>
    cases dumped with
    | error e => cases h
    | ok s =>
      cases hany : headers.keys.any (nameIs u "content-type") with
      | true =>
        simp only [prepareBody, Option.getD_some, hany, if_true] at h
        cases h
        exact Or.inl rfl
      | false =>
        simp only [prepareBody, Option.getD_some, hany, Bool.false_eq_true, if_false] at h
        cases h
        have hnone : ∀ k ∈ headers.keys, nameIs u "content-type" k = false := by
          simpa using hany
        have hnew : headers.get? "Content-Type" = none := by
          rw [Dict.get?_eq_none_iff]
          intro hk
          have hother := hnone _ hk
          rw [nameIs_contentType] at hother
          cases hother
        exact Or.inr ⟨Dict.items_set_of_get?_eq_none hnew _, hnone⟩

/-- A content type more or less, the cookie headers are the same. -/
theorem cookieItems_prepareBody {headers sent : Dict String String} {data : RequestData}
    {body : Option RequestBody} (h : prepareBody u (some headers) data = .ok (sent, body)) :
    cookieItems u sent = cookieItems u headers := by
  unfold cookieItems
  rcases items_prepareBody u h with hsame | ⟨hmore, -⟩
  · rw [hsame]
  · rw [hmore, List.filter_append, List.filter_singleton, not_nameIs_cookie]
    exact List.append_nil _

/-! ### What the session adds -/

section Merge

variable {jar : Dict String String} (headers : Dict String String)

/-- The merged header is the one spelled `Cookie`. -/
theorem mergedHeaders_eq_set (hjar : jar.isEmpty = false) : mergedHeaders headers jar =
    headers.set "Cookie" (joinedCookies (headers.get? "Cookie").toList jar) := by
  have hitems : (jar.items.map fun p ↦ p.1 ++ "=" ++ p.2) ≠ [] := by
    intro h
    rw [Dict.isEmpty, List.map_eq_nil_iff.mp h] at hjar
    cases hjar
  unfold mergedHeaders joinedCookies
  cases headers.get? "Cookie" with
  | none => rfl
  | some s =>
    by_cases hs : s = ""
    · subst hs
      rfl
    · have htruthy : truthy (some s) = true := by simp [truthy, hs]
      have hkeep : [s].filter (· ≠ "") = [s] := by simp [hs]
      dsimp only
      rw [if_pos htruthy, Option.toList_some, hkeep, List.singleton_append,
        String.intercalate_cons_of_ne_nil hitems]
      rfl

/-- The other headers are left alone. -/
theorem otherItems_set (v : String) :
    otherItems u (headers.set "Cookie" v) = otherItems u headers := by
  apply Dict.filter_items_set
  intro w
  rw [nameIs_cookie]
  rfl

/-- Without a header spelled `Cookie`, one more is sent. -/
theorem cookieItems_set_of_none (h : headers.get? "Cookie" = none) (v : String) :
    cookieItems u (headers.set "Cookie" v) = cookieItems u headers ++ [("Cookie", v)] := by
  unfold cookieItems
  rw [Dict.items_set_of_get?_eq_none h, List.filter_append, List.filter_singleton, nameIs_cookie]
  rfl

theorem mem_cookieItems {e : String} (h : headers.get? "Cookie" = some e) :
    ("Cookie", e) ∈ cookieItems u headers :=
  List.mem_filter.mpr ⟨(Dict.mem_items_iff _ _ _).mpr h, nameIs_cookie u⟩

/-- The only cookie header, if it is spelled `Cookie`, has its value replaced. -/
theorem cookieItems_set_of_singleton {e : String} (h : cookieItems u headers = [("Cookie", e)])
    (v : String) : cookieItems u (headers.set "Cookie" v) = [("Cookie", v)] := by
  have hget : headers.get? "Cookie" = some e := by
    rw [← Dict.mem_items_iff]
    have hmem : ("Cookie", e) ∈ cookieItems u headers := by
      rw [h]
      exact List.mem_singleton_self _
    exact List.mem_of_mem_filter hmem
  rw [Dict.set_eq_mapValues hget fun _ ↦ v]
  change (headers.items.map _).filter _ = _
  rw [List.filter_map]
  change (cookieItems u headers).map _ = _
  rw [h]
  rfl

end Merge

/-! ### What is sent -/

/-- The only cookie header, if it is spelled `Cookie`. -/
theorem cookieItems_cases {headers : Dict String String}
    (hone : (cookieItems u headers).length ≤ 1) :
    (headers.get? "Cookie" = none) ∨
      ∃ e, headers.get? "Cookie" = some e ∧ cookieItems u headers = [("Cookie", e)] := by
  cases hget : headers.get? "Cookie" with
  | none => exact Or.inl rfl
  | some e =>
    refine Or.inr ⟨e, rfl, ?_⟩
    have hmem := mem_cookieItems u headers hget
    obtain ⟨p, hp⟩ := List.length_eq_one_iff.mp (hone.antisymm (List.length_pos_of_mem hmem))
    rw [hp, List.mem_singleton] at hmem
    rw [hp, hmem]

/-- The other headers go out as they came, and perhaps with a content type. -/
theorem otherItems_sent {headers sent : Dict String String} {v : String} {data : RequestData}
    {body : Option RequestBody}
    (h : prepareBody u (some (headers.set "Cookie" v)) data = .ok (sent, body)) :
    otherItems u sent = otherItems u headers ∨
      otherItems u sent = otherItems u headers ++ [("Content-Type", "application/json")] ∧
        ∀ k ∈ headers.keys, nameIs u "content-type" k = false := by
  have hmerged := otherItems_set u headers v
  unfold otherItems at hmerged ⊢
  rcases items_prepareBody u h with hsame | ⟨hmore, hnone⟩
  · left
    rw [hsame, hmerged]
  · right
    refine ⟨?_, fun k hk ↦ hnone k ?_⟩
    · rw [hmore, List.filter_append, hmerged, List.filter_singleton, not_nameIs_cookie]
      rfl
    · rw [Dict.mem_keys_iff] at hk ⊢
      rw [Dict.get?_set]
      split
      · rfl
      · exact hk

/-- For a session with cookies and a request with at most one cookie header, exactly one is sent
with the cookies of both if and only if that of the request is spelled `Cookie`. -/
theorem oneCookieHeader_iff {jar : Dict String String} (hjar : jar.isEmpty = false)
    {request : ScrapeRequest} (hone : (cookieItems u request.headers).length ≤ 1)
    {data : RequestData} {sent : Dict String String} {body : Option RequestBody}
    (hsent : prepareBody u (some (sentRequest request jar).headers) data = .ok (sent, body)) :
    OneCookieHeader u request.headers jar sent ↔
      ∀ p ∈ cookieItems u request.headers, p.1 = "Cookie" := by
  rw [sentRequest, hjar, if_neg Bool.false_ne_true, mergedHeaders_eq_set _ hjar] at hsent
  have hcookie := cookieItems_prepareBody u hsent
  constructor
  · intro h
    rcases cookieItems_cases u hone with hnone | ⟨e, -, hsingle⟩
    · obtain ⟨name, hname⟩ := h.cookie
      rw [hcookie, cookieItems_set_of_none u _ hnone] at hname
      have hlength := congrArg List.length hname
      rw [List.length_append, List.length_singleton, List.length_singleton] at hlength
      rw [List.eq_nil_of_length_eq_zero (by omega : (cookieItems u request.headers).length = 0)]
      exact fun p hp ↦ absurd hp List.not_mem_nil
    · rw [hsingle]
      intro p hp
      rw [List.mem_singleton.mp hp]
  · intro hall
    refine ⟨⟨"Cookie", ?_⟩, otherItems_sent u hsent⟩
    rw [hcookie]
    rcases cookieItems_cases u hone with hnone | ⟨e, hget, hsingle⟩
    · have hempty : cookieItems u request.headers = [] := by
        apply List.eq_nil_iff_forall_not_mem.mpr
        rintro ⟨k, e⟩ hp
        obtain rfl : k = "Cookie" := hall _ hp
        have hget := (Dict.mem_items_iff _ _ _).mp (List.mem_of_mem_filter hp)
        rw [hnone] at hget
        cases hget
      rw [cookieItems_set_of_none u _ hnone, hempty, hnone]
      rfl
    · rw [cookieItems_set_of_singleton u _ hsingle, hsingle, hget]
      rfl

private def asciiOnly : UnicodeTables := ⟨id, id, some, some⟩

private def lowerCookie : ScrapeRequest :=
  { url := "https://example.com/", headers := Dict.ofList [("cookie", "a=1")] }

private def upperCookie : ScrapeRequest :=
  { url := "https://example.com/", headers := Dict.ofList [("Cookie", "a=1"), ("Accept", "*/*")] }

private def oneCookie : Dict String String := Dict.ofList [("sid", "x")]

/-- A request with the header `Cookie: a=1`, and a body: one cookie header is sent. -/
theorem oneCookieHeader_iff_sample :
    OneCookieHeader asciiOnly upperCookie.headers oneCookie (Dict.ofList
      [("Cookie", "a=1; sid=x"), ("Accept", "*/*"), ("Content-Type", "application/json")]) := by
  have hsent : prepareBody asciiOnly (some (sentRequest upperCookie oneCookie).headers)
      (.json (.ok "\x7b\x7d")) = .ok (Dict.ofList [("Cookie", "a=1; sid=x"), ("Accept", "*/*"),
        ("Content-Type", "application/json")], some (.text "\x7b\x7d")) := by
    rfl
  exact (oneCookieHeader_iff asciiOnly (by decide) (by decide) hsent).mpr (by decide +kernel)

/-- With the header `cookie: a=1`, two cookie headers are sent. -/
theorem not_oneCookieHeader : ¬ ∀ (u : UnicodeTables) (jar : Dict String String)
    (request : ScrapeRequest) (data : RequestData) (sent : Dict String String)
    (body : Option RequestBody), jar.isEmpty = false →
    (cookieItems u request.headers).length ≤ 1 →
    prepareBody u (some (sentRequest request jar).headers) data = .ok (sent, body) →
    OneCookieHeader u request.headers jar sent := by
  intro h
  obtain ⟨name, hname⟩ := (h asciiOnly oneCookie lowerCookie .none
    (sentRequest lowerCookie oneCookie).headers none (by decide) (by decide) rfl).cookie
  have htwo : (cookieItems asciiOnly (sentRequest lowerCookie oneCookie).headers).length = 2 := by
    decide +kernel
  rw [hname] at htwo
  cases htwo

end Header

end AsbCloudApi.Routes
