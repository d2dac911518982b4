import AsbCloudApi.Api.ErrorHandler
import AsbCloudApi.Api.RateLimiter
import Mathlib.Data.List.ReduceOption

/-!
# Errors in the Python client

Library `Client`. Models `AsbClient._handle_error` of `src/clients/python/asb_client/client.py`
and the exceptions of `src/clients/python/asb_client/exceptions.py`. A JSON body is the value it
denotes, so what the server encodes is what the client decodes; `httpx` gives the text of any
other body. Attributes and keyword arguments that do not fit raise as they do in Python.
-/

namespace AsbCloudApi.Client

open Base Text Api

/-- The classes of `src/clients/python/asb_client/exceptions.py`, all of them `AsbError`s. -/
inductive AsbErrorClass where
  | asbError
  | asbAuthError
  | asbRateLimitError
  | asbOverageError
  | asbNotFoundError
  deriving DecidableEq

/-- An `AsbError` with its attributes. -/
structure AsbError where
  cls : AsbErrorClass
  message : PyVal
  statusCode : PyVal
  errorCode : PyVal
  response : PyVal
  limit : PyVal := .none
  remaining : PyVal := .none
  resetAt : PyVal := .none
  overageCostUsd : PyVal := .none
  deriving DecidableEq

/-- What the client may raise on a response. -/
inductive ClientExn where
  | asb (e : AsbError)
  | typeError (text : String)
  | attributeError (text : String)
  deriving DecidableEq

/-- What a `raise` statement raises: the exception that it builds, or that of building it. -/
def raised : Except ClientExn AsbError → ClientExn
  | .ok e => .asb e
  | .error e => e

/-- Keyword arguments of a call. A name that is given twice or that the function does not have is
a `TypeError`. -/
def bindKeywords (params : List String) (keywords : List (String × PyVal)) :
    Except ClientExn (Dict String PyVal) :=
  if (keywords.map Prod.fst).Nodup then
    match keywords.find? (fun p ↦ p.1 ∉ params) with
    | some p => .error (.typeError ("got an unexpected keyword argument '" ++ p.1 ++ "'"))
    | none => .ok (Dict.ofList keywords)
  else .error (.typeError "got multiple values for keyword argument")

/-- `kwargs.get(name)`. -/
def keyword (keywords : List (String × PyVal)) (name : String) : PyVal :=
  ((Dict.ofList keywords).get? name).getD .none

/-- `AsbError.__init__`; `src/clients/python/asb_client/exceptions.py:7–18`. -/
def asbErrorInit (cls : AsbErrorClass) (message : PyVal) (keywords : List (String × PyVal)) :
    Except ClientExn AsbError := do
  let given ← bindKeywords ["status_code", "error_code", "response"] keywords
  let response := (given.get? "response").getD .none
  .ok {
    cls := cls
    message := message
    statusCode := (given.get? "status_code").getD .none
    errorCode := (given.get? "error_code").getD .none
    response := if response.truthy then response else .dict [] }

/-- `AsbRateLimitError.__init__`; `src/clients/python/asb_client/exceptions.py:36–40`. -/
def asbRateLimitErrorInit (message statusCode : PyVal) (kwargs : List (String × PyVal)) :
    Except ClientExn AsbError := do
  let e ← asbErrorInit .asbRateLimitError message
    ([("status_code", statusCode), ("error_code", .str "RATE_LIMIT_EXCEEDED")] ++ kwargs)
  .ok { e with
    limit := keyword kwargs "limit"
    remaining := keyword kwargs "remaining"
    resetAt := keyword kwargs "reset_at" }

/-- `AsbOverageError.__init__`; `src/clients/python/asb_client/exceptions.py:46–48`. -/
def asbOverageErrorInit (message statusCode : PyVal) (kwargs : List (String × PyVal)) :
    Except ClientExn AsbError := do
  let e ← asbErrorInit .asbOverageError message
    ([("status_code", statusCode), ("error_code", .str "OVERAGE_LIMIT_EXCEEDED")] ++ kwargs)
  .ok { e with overageCostUsd := keyword kwargs "overage_cost_usd" }

/-- The body of a response: what `resp.json()` returns, or `resp.text` where that raises. -/
inductive Body where
  | json (v : PyVal)
  | text (s : String)

/-- `httpx.Response`, as far as errors are concerned. -/
structure Response where
  statusCode : Nat
  body : Body

/-- What `_handle_error` reads of the client, and of Python. -/
structure AsbClient where
  apiKey : Option String
  texts : TextFunctions

/-- `data.get(key)`, which only a dictionary has. -/
def getAttr (data : PyVal) (key : String) : Except ClientExn (Option PyVal) :=
  match data with
  | .dict items => .ok ((Dict.ofList items).get? key)
  | _ => .error (.attributeError "object has no attribute 'get'")

/-- The body as data; `src/clients/python/asb_client/client.py:116–119`. -/
def bodyData (resp : Response) : PyVal :=
  match resp.body with
  | .json v => v
  | .text s => .dict [("message", .str (if s = "" then "HTTP " ++ toString resp.statusCode else s))]

/-- `data.get("message") or data.get("detail") or str(data)`, for a dictionary. -/
def topMessage (texts : TextFunctions) (d : Dict String PyVal) : PyVal :=
  let message := (d.get? "message").getD .none
  let detail := (d.get? "detail").getD .none
  if message.truthy then message
  else if detail.truthy then detail
  else .str (texts.strOfDict d)

/-- The message and the code; `src/clients/python/asb_client/client.py:121–126`. -/
def errorFields (texts : TextFunctions) (data : PyVal) : Except ClientExn (PyVal × PyVal) :=
  match data with
  | .dict items =>
    let d := Dict.ofList items
    let message := topMessage texts d
    match d.get? "detail" with
    | some (.dict detail) =>
      .ok (((Dict.ofList detail).get? "message").getD message,
        ((Dict.ofList detail).get? "error_code").getD .none)
    | _ => .ok (message, (d.get? "error_code").getD .none)
  | _ => .error (.attributeError "object has no attribute 'get'")

/-- Whether a 403 is about the key; `src/clients/python/asb_client/client.py:128`. -/
def isAuthError (c : AsbClient) (message : PyVal) : Except ClientExn Bool :=
  match message with
  | .str s =>
    let lowered := c.texts.unicode.lowerText s.toList
    .ok ("auth".toList <:+: lowered ∨ "key".toList <:+: lowered ∨ c.apiKey.getD "" = "")
  | _ => .error (.attributeError "object has no attribute 'lower'")

/-- The last statements of `_handle_error`; `src/clients/python/asb_client/client.py:128–157`. -/
def raiseError (c : AsbClient) (status : Nat) (data message errorCode : PyVal) : ClientExn :=
  let keywords : List (String × PyVal) :=
    [("status_code", .int status), ("error_code", errorCode), ("response", data)]
  let base := raised (asbErrorInit .asbError message keywords)
  if status = 403 then
    match isAuthError c message with
    | .error e => e
    | .ok true => raised (asbErrorInit .asbAuthError message keywords)
    | .ok false => base
  else if status = 404 then raised (asbErrorInit .asbNotFoundError message keywords)
  else if status = 429 then raised (do
    let detail := (← getAttr data "detail").getD data
    let limit ← getAttr detail "limit"
    let remaining ← getAttr detail "remaining"
    let resetAt ← getAttr detail "reset_at"
    asbRateLimitErrorInit message (.int status)
      [("error_code", if errorCode.truthy then errorCode else .str "RATE_LIMIT_EXCEEDED"),
        ("limit", limit.getD .none), ("remaining", remaining.getD .none),
        ("reset_at", resetAt.getD .none), ("response", data)])
  else if status = 402 then raised (do
    let detail := (← getAttr data "detail").getD data
    let overageCostUsd ← getAttr detail "overage_cost_usd"
    asbOverageErrorInit message (.int status)
      [("overage_cost_usd", overageCostUsd.getD .none), ("response", data)])
  else base

/-- `_handle_error`: what it raises, if anything;
`src/clients/python/asb_client/client.py:111–157`. -/
def handleError (c : AsbClient) (resp : Response) : Option ClientExn :=
  if 200 ≤ resp.statusCode ∧ resp.statusCode < 300 then none
  else
    let data := bodyData resp
    match errorFields c.texts data with
    | .error e => some e
    | .ok (message, errorCode) => some (raiseError c resp.statusCode data message errorCode)

/-! ### What is raised -/

/-- Whether a value is text. -/
def isText : PyVal → Bool
  | .str _ => true
  | _ => false

@[simp] theorem isText_str (s : String) : isText (.str s) = true := rfl

theorem isText_iff (v : PyVal) : isText v = true ↔ ∃ s, v = .str s := by
  cases v <;> simp [isText]

/-- The code reaches `AsbError.__init__` twice, once in the keywords that are handed on. -/
theorem asbRateLimitErrorInit_error (message status : PyVal) (code : PyVal)
    (rest : List (String × PyVal)) :
    asbRateLimitErrorInit message status (("error_code", code) :: rest) =
      .error (.typeError "got multiple values for keyword argument") := by
  have hdup : ¬ ((([("status_code", status), ("error_code", .str "RATE_LIMIT_EXCEEDED")] ++
      ("error_code", code) :: rest).map Prod.fst).Nodup) := by simp
  unfold asbRateLimitErrorInit asbErrorInit bindKeywords
  rw [if_neg hdup]
  rfl

/-- The cost reaches `AsbError.__init__`, which has no such keyword. -/
theorem asbOverageErrorInit_error (message status cost data : PyVal) :
    asbOverageErrorInit message status [("overage_cost_usd", cost), ("response", data)] =
      .error (.typeError "got an unexpected keyword argument 'overage_cost_usd'") := rfl

private theorem getAttr_ne_asb (data : PyVal) (key : String) (e : AsbError) :
    getAttr data key ≠ .error (.asb e) := by
  cases data <;> simp [getAttr]

private theorem raised_bind_ne_asb {α : Type} {x : Except ClientExn α}
    {f : α → Except ClientExn AsbError} {e : AsbError} (hx : x ≠ .error (.asb e))
    (hf : ∀ a, raised (f a) ≠ .asb e) : raised (x >>= f) ≠ .asb e := by
  cases x with
  | ok a => exact hf a
  | error a =>
    rintro rfl
    exact hx rfl

/-- A response with status 429 never raises an `AsbError`. -/
theorem raiseError_rateLimit (c : AsbClient) (data message code : PyVal) (e : AsbError) :
    raiseError c 429 data message code ≠ .asb e := by
  unfold raiseError
  rw [if_neg (by decide), if_neg (by decide), if_pos rfl]
  apply raised_bind_ne_asb (getAttr_ne_asb _ _ _)
  intro detail
  apply raised_bind_ne_asb (getAttr_ne_asb _ _ _)
  intro limit
  apply raised_bind_ne_asb (getAttr_ne_asb _ _ _)
  intro remaining
  apply raised_bind_ne_asb (getAttr_ne_asb _ _ _)
  intro resetAt
  rw [asbRateLimitErrorInit_error]
  simp [raised]

/-- Nor does a response with status 402. -/
theorem raiseError_overage (c : AsbClient) (data message code : PyVal) (e : AsbError) :
    raiseError c 402 data message code ≠ .asb e := by
  unfold raiseError
  rw [if_neg (by decide), if_neg (by decide), if_neg (by decide), if_pos rfl]
  apply raised_bind_ne_asb (getAttr_ne_asb _ _ _)
  intro detail
  apply raised_bind_ne_asb (getAttr_ne_asb _ _ _)
  intro cost
  rw [asbOverageErrorInit_error]
  simp [raised]

/-- Any other status raises an `AsbError` with the message and the code, provided that the message
of a 403 is text. -/
theorem raiseError_eq_asb (c : AsbClient) {status : Nat} (data message code : PyVal)
    (h402 : status ≠ 402) (h429 : status ≠ 429)
    (h403 : status = 403 → isText message = true) :
    ∃ e, raiseError c status data message code = .asb e ∧ e.statusCode = .int status ∧
      e.message = message ∧ e.errorCode = code := by
  unfold raiseError
  simp only [h429, h402, if_false]
  by_cases hs : status = 403
  · obtain ⟨s, rfl⟩ := (isText_iff message).mp (h403 hs)
    simp only [hs, if_true, isAuthError]
    split
    · next h => cases h
    · exact ⟨_, rfl, rfl, rfl, rfl⟩
    · exact ⟨_, rfl, rfl, rfl, rfl⟩
  · simp only [hs, if_false]
    split
    · exact ⟨_, rfl, rfl, rfl, rfl⟩
    · exact ⟨_, rfl, rfl, rfl, rfl⟩

/-- A 403 whose message is not text fails on `message.lower()`. -/
theorem raiseError_of_not_text (c : AsbClient) (data : PyVal) {message : PyVal} (code : PyVal)
    (h : isText message = false) (e : AsbError) :
    raiseError c 403 data message code ≠ .asb e := by
  unfold raiseError
  rw [if_pos rfl]
  cases message <;> simp [isText, isAuthError] at h ⊢

/-- When a response raises an `AsbError`, given the message and the code. -/
theorem raiseError_asb_iff (c : AsbClient) (status : Nat) (data message code : PyVal) :
    (∃ e, raiseError c status data message code = .asb e ∧ e.statusCode = .int status) ↔
      status ≠ 402 ∧ status ≠ 429 ∧ (status = 403 → isText message = true) := by
  constructor
  · rintro ⟨e, he, -⟩
    refine ⟨?_, ?_, ?_⟩
    · rintro rfl
      exact raiseError_overage c data message code e he
    · rintro rfl
      exact raiseError_rateLimit c data message code e he
    · rintro rfl
      by_contra hn
      exact raiseError_of_not_text c data code (by simpa using hn) e he
  · rintro ⟨h402, h429, h403⟩
    obtain ⟨e, he, hstatus, -⟩ := raiseError_eq_asb c data message code h402 h429 h403
    exact ⟨e, he, hstatus⟩

/-! ### Any response -/

/-- The message that a dictionary carries for the client is text. -/
def TextMessage (d : Dict String PyVal) : Prop :=
  match d.get? "detail" with
  | some (.dict detail) =>
    match (Dict.ofList detail).get? "message" with
    | some message => isText message = true
    | none => TopText d
  | _ => TopText d
where
  /-- The first value of the two fields that is true, if any, is text. -/
  TopText (d : Dict String PyVal) : Prop :=
    ∀ v ∈ [d.get? "message", d.get? "detail"].reduceOption.find? PyVal.truthy, isText v = true

/-- The client can read a body: it is a JSON object, or not JSON at all; for a 403 the message of
an object is text. -/
def Readable (resp : Response) : Prop :=
  match resp.body with
  | .text _ => True
  | .json (.dict items) => resp.statusCode = 403 → TextMessage (Dict.ofList items)
  | .json _ => False

private theorem isText_topMessage (texts : TextFunctions) (d : Dict String PyVal) :
    isText (topMessage texts d) = true ↔ TextMessage.TopText d := by
  have hnone : PyVal.none.truthy = false := rfl
  unfold topMessage TextMessage.TopText
  cases hm : d.get? "message" with
  | none =>
    cases hd : d.get? "detail" with
    | none => simp [hnone]
    | some detail =>
      by_cases ht : detail.truthy = true
      · simp [hnone, ht]
      · simp [hnone, ht]
  | some message =>
    by_cases hmt : message.truthy = true
    · simp [hmt]
    · cases hd : d.get? "detail" with
      | none => simp [hnone, hmt]
      | some detail =>
        by_cases ht : detail.truthy = true
        · simp [ht, hmt]
        · simp [ht, hmt]

/-- What the client takes as the message of an object is text as `TextMessage` says. -/
private theorem errorFields_text (texts : TextFunctions) (items : List (String × PyVal)) :
    ∃ message code, errorFields texts (.dict items) = .ok (message, code) ∧
      (isText message = true ↔ TextMessage (Dict.ofList items)) := by
  simp only [errorFields, TextMessage]
  split
  · next detail _ =>
    refine ⟨_, _, rfl, ?_⟩
    cases (Dict.ofList detail).get? "message" with
    | some message => exact Iff.rfl
    | none => exact isText_topMessage texts _
  · exact ⟨_, _, rfl, isText_topMessage texts _⟩

private theorem textMessage_of_text (s : String) :
    TextMessage (Dict.ofList [("message", .str s)]) := by
  change ∀ v ∈ [some (PyVal.str s), none].reduceOption.find? PyVal.truthy, isText v = true
  intro v hv
  have hmem : v = .str s := by
    simpa using List.mem_of_find?_eq_some hv
  rw [hmem, isText_str]

/-- When a response that is not a success raises an `AsbError` with its status. -/
theorem handleError_asb_iff (c : AsbClient) (resp : Response)
    (hfail : ¬ (200 ≤ resp.statusCode ∧ resp.statusCode < 300)) :
    (∃ e, handleError c resp = some (.asb e) ∧ e.statusCode = .int resp.statusCode) ↔
      resp.statusCode ≠ 402 ∧ resp.statusCode ≠ 429 ∧ Readable resp := by
  unfold handleError
  rw [if_neg hfail]
  dsimp only
  obtain ⟨status, body⟩ := resp
  cases body with
  | text s =>
    -- a text becomes an object with that message
    obtain ⟨message, code, hfields, htext⟩ := errorFields_text c.texts
      [("message", .str (if s = "" then "HTTP " ++ toString status else s))]
    have hmessage := htext.mpr (textMessage_of_text _)
    simp only [bodyData, hfields, Option.some.injEq, raiseError_asb_iff, Readable, hmessage,
      implies_true]
  | json v =>
    cases v with
    | dict items =>
      obtain ⟨message, code, hfields, htext⟩ := errorFields_text c.texts items
      simp only [bodyData, hfields, Option.some.injEq, raiseError_asb_iff, Readable, htext]
    | _ => simp [bodyData, errorFields, Readable]

/-! ### Responses of the server -/

/-- The exceptions that the server raises: `APIError` with extra fields, which are keyword
arguments besides its own parameters; the two of the rate limiter; and plain details. -/
inductive ServerException : HTTPException → Prop
  | apiError {statusCode : Nat} {errorCode message : String} {extra : List (String × PyVal)}
      (hmessage : message ≠ "") (hnodup : (extra.map Prod.fst).Nodup)
      (hextra : ∀ p ∈ extra, p.1 ∉ ["status_code", "error_code", "message", "headers"]) :
      ServerException (APIError statusCode errorCode message extra)
  | rateLimitExceeded (e : RateLimitExceeded) : ServerException e.toHTTP
  | overageLimitExceeded (overageCostUsd : ℚ) :
      ServerException (OverageLimitExceeded overageCostUsd)
  | plain (statusCode : Nat) (detail : String) (headers : Dict String String) :
      ServerException ⟨statusCode, .str detail, headers⟩

/-- A response of the server, as the client receives it. -/
def received (sent : JSONResponse) : Response := ⟨sent.statusCode, .json (.dict sent.content.items)⟩

/-- The client raises an `AsbError` that carries what was sent. -/
def Carries (sent : JSONResponse) (r : Option ClientExn) : Prop :=
  ∃ e, r = some (.asb e) ∧ e.statusCode = .int sent.statusCode ∧
    sent.content.get? "error_code" = some e.errorCode ∧
    sent.content.get? "message" = some e.message ∧
    (sent.statusCode = 429 → sent.content.get? "limit" = some e.limit ∧
      sent.content.get? "remaining" = some e.remaining ∧
      sent.content.get? "reset_at" = some e.resetAt) ∧
    (sent.statusCode = 402 → sent.content.get? "overage_cost_usd" = some e.overageCostUsd)

/-- An extra field `detail` that is a dictionary gives the same code and no other message. -/
def DetailAgrees (exc : HTTPException) : Prop :=
  ∀ d, exc.detail = .dict d → ∀ detail, d.get? "detail" = some (.dict detail) →
    (Dict.ofList detail).get? "error_code" = d.get? "error_code" ∧
      ∀ message ∈ (Dict.ofList detail).get? "message", d.get? "message" = some message

/-- The response that stands for an exception has a code and a message that is not empty, and its
field `detail` is that of the exception. -/
private def Sends (exc : HTTPException) (content : Dict String PyVal) : Prop :=
  ∃ code message, message ≠ "" ∧ content.get? "error_code" = some (.str code) ∧
    content.get? "message" = some (.str message) ∧
    (DetailAgrees exc ↔ ∀ detail, content.get? "detail" = some (.dict detail) →
      (Dict.ofList detail).get? "error_code" = some (.str code) ∧
        ∀ m ∈ (Dict.ofList detail).get? "message", m = .str message)

private theorem sends_of_dict (f : TextFunctions) {exc : HTTPException} {d : Dict String PyVal}
    {code message : String} (hd : exc.detail = .dict d) (hne : message ≠ "")
    (hcode : d.get? "error_code" = some (.str code))
    (hmessage : d.get? "message" = some (.str message)) :
    Sends exc (structuredHttpExceptionHandler f exc).content := by
  rw [handler_of_complete f hd (by rw [hcode]; rfl) (by rw [hmessage]; rfl)]
  refine ⟨code, message, hne, hcode, hmessage, ?_⟩
  constructor
  · intro h detail hdetail
    obtain ⟨hc, hm⟩ := h d hd detail hdetail
    refine ⟨hc.trans hcode, fun m hmem ↦ ?_⟩
    exact (Option.some.inj (hmessage.symm.trans (hm m hmem))).symm
  · intro h d' hd' detail hdetail
    obtain rfl : d = d' := Detail.dict.inj (hd.symm.trans hd')
    obtain ⟨hc, hm⟩ := h detail hdetail
    refine ⟨hc.trans hcode.symm, fun m hmem ↦ ?_⟩
    rw [hm m hmem, hmessage]

/-- Every exception of the server is sent so. -/
private theorem sends_of_server (f : TextFunctions) {exc : HTTPException}
    (h : ServerException exc) : Sends exc (structuredHttpExceptionHandler f exc).content := by
  cases h with
  | @apiError statusCode errorCode message extra hmessage hnodup hextra =>
    have hkey (k : String) (hk : k ∈ ["status_code", "error_code", "message", "headers"]) :
        k ∉ extra.map Prod.fst := by
      intro hmem
      obtain ⟨p, hp, rfl⟩ := List.mem_map.mp hmem
      exact hextra p hp hk
    exact sends_of_dict f rfl hmessage (Dict.get?_ofList_append _ (hkey "error_code" (by simp)))
      (Dict.get?_ofList_append _ (hkey "message" (by simp)))
  | rateLimitExceeded e => exact sends_of_dict f rfl (by decide) rfl rfl
  | overageLimitExceeded cost => exact sends_of_dict f rfl (by decide) rfl rfl
  | plain statusCode detail headers =>
    rw [handler_of_text]
    refine ⟨_, _, detailStr_ne_empty _, rfl, rfl, ?_⟩
    constructor
    · intro _ _ hdetail
      cases hdetail
    · intro _ _ hd
      cases hd

/-- What the client reads of it: the code and the message that were sent, unless a dictionary in
the field `detail` says otherwise. -/
private theorem errorFields_of_sends (texts : TextFunctions) {exc : HTTPException}
    {content : Dict String PyVal} (h : Sends exc content) :
    ∃ code message, errorFields texts (.dict content.items) = .ok (message, code) ∧
      (content.get? "error_code" = some code ∧ content.get? "message" = some message ↔
        DetailAgrees exc) := by
  obtain ⟨code, message, hne, hcode, hmessage, hagrees⟩ := h
  have htop : topMessage texts content = .str message := by
    simp [topMessage, hmessage, PyVal.truthy, hne]
  simp only [errorFields, Dict.ofList_items, htop]
  split
  · next detail hdetail =>
    refine ⟨_, _, rfl, ?_⟩
    rw [hagrees, hcode, hmessage]
    constructor
    · rintro ⟨hc, hm⟩ detail' hdetail'
      obtain rfl : detail = detail' := PyVal.dict.inj
        (Option.some.inj (hdetail.symm.trans hdetail'))
      constructor
      · cases hget : (Dict.ofList detail).get? "error_code" with
        | none => simp [hget] at hc
        | some v => simpa [hget] using hc.symm
      · intro m hmem
        rw [Option.mem_def.mp hmem] at hm
        exact (Option.some.inj hm).symm
    · intro hall
      obtain ⟨hc, hm⟩ := hall detail hdetail
      refine ⟨by rw [hc]; rfl, ?_⟩
      cases hget : (Dict.ofList detail).get? "message" with
      | none => rfl
      | some m => rw [hm m hget]; rfl
  · next hno =>
    refine ⟨_, _, rfl, ?_⟩
    rw [hagrees, hcode, hmessage]
    exact ⟨fun _ detail hdetail ↦ absurd hdetail (hno detail), fun _ ↦ ⟨rfl, rfl⟩⟩

/-- When the client raises an `AsbError` that carries what the server sent for an exception. -/
theorem serverError_carries_iff (c : AsbClient) (f : TextFunctions) {exc : HTTPException}
    (h : ServerException exc) :
    Carries (structuredHttpExceptionHandler f exc)
        (handleError c (received (structuredHttpExceptionHandler f exc))) ↔
      ¬ (200 ≤ exc.statusCode ∧ exc.statusCode < 300) ∧ exc.statusCode ≠ 402 ∧
        exc.statusCode ≠ 429 ∧ DetailAgrees exc := by
  have hsends := sends_of_server f h
  have hstatus := statusCode_handler f exc
  generalize structuredHttpExceptionHandler f exc = sent at hsends hstatus
  obtain ⟨code, message, hfields, hagrees⟩ := errorFields_of_sends c.texts hsends
  unfold handleError received bodyData
  simp only [hstatus, hfields]
  by_cases hok : 200 ≤ exc.statusCode ∧ exc.statusCode < 300
  · rw [if_pos hok]
    refine iff_of_false ?_ fun hall ↦ hall.1 hok
    rintro ⟨e, he, -⟩
    cases he
  · rw [if_neg hok]
    constructor
    · rintro ⟨e, he, hstat, hcode, hmsg, -⟩
      have hraise := Option.some.inj he
      obtain ⟨h402, h429, h403⟩ := (raiseError_asb_iff c exc.statusCode (.dict sent.content.items)
        message code).mp ⟨e, hraise, by rw [← hstatus]; exact hstat⟩
      obtain ⟨e', hraise', -, hm, hc⟩ := raiseError_eq_asb c (.dict sent.content.items) message
        code h402 h429 h403
      obtain rfl : e' = e := ClientExn.asb.inj (hraise'.symm.trans hraise)
      exact ⟨hok, h402, h429, hagrees.mp ⟨hc ▸ hcode, hm ▸ hmsg⟩⟩
    · rintro ⟨-, h402, h429, hdetail⟩
      obtain ⟨hcode, hmsg⟩ := hagrees.mpr hdetail
      obtain ⟨_, s, _, _, hs, _⟩ := hsends
      obtain rfl : message = .str s := Option.some.inj (hmsg.symm.trans hs)
      obtain ⟨e, he, hstat, hm, hc⟩ := raiseError_eq_asb c (.dict sent.content.items) (.str s)
        code h402 h429 fun _ ↦ isText_str s
      refine ⟨e, congrArg some he, by rw [hstat, hstatus], by rw [hc, hcode], by rw [hm, hmsg],
        fun h' ↦ absurd (hstatus.symm.trans h') h429, fun h' ↦ absurd (hstatus.symm.trans h') h402⟩

/-- For every exception of the server the client raises an `AsbError` that carries it, exactly if
its status is neither a success nor 402 nor 429, and a dictionary in an extra field `detail` does
not say otherwise. Any other response that is not a success raises an `AsbError` with its status,
exactly if its status is neither 402 nor 429 and the client can read the body. -/
theorem clientAgrees_iff (c : AsbClient) (f : TextFunctions) :
    (∀ exc, ServerException exc →
      (Carries (structuredHttpExceptionHandler f exc)
          (handleError c (received (structuredHttpExceptionHandler f exc))) ↔
        ¬ (200 ≤ exc.statusCode ∧ exc.statusCode < 300) ∧ exc.statusCode ≠ 402 ∧
          exc.statusCode ≠ 429 ∧ DetailAgrees exc)) ∧
    ∀ resp : Response, ¬ (200 ≤ resp.statusCode ∧ resp.statusCode < 300) →
      ((∃ e, handleError c resp = some (.asb e) ∧ e.statusCode = .int resp.statusCode) ↔
        resp.statusCode ≠ 402 ∧ resp.statusCode ≠ 429 ∧ Readable resp) :=
  ⟨fun _ h ↦ serverError_carries_iff c f h, fun resp h ↦ handleError_asb_iff c resp h⟩

private def sampleTexts : TextFunctions := ⟨⟨id, id, some, some⟩, fun _ ↦ ""⟩

private def sampleClient : AsbClient := ⟨some "sk_1", sampleTexts⟩

private def notFound : HTTPException := APIError 404 "SESSION_NOT_FOUND" "Session not found" []

/-- A missing session is carried, and a page of a proxy is an `AsbError`. -/
theorem clientAgrees_iff_sample :
    Carries (structuredHttpExceptionHandler sampleTexts notFound)
      (handleError sampleClient (received (structuredHttpExceptionHandler sampleTexts notFound))) ∧
    ∃ e, handleError sampleClient ⟨502, .text "Bad Gateway"⟩ = some (.asb e) ∧
      e.statusCode = .int 502 := by
  obtain ⟨hserver, hother⟩ := clientAgrees_iff sampleClient sampleTexts
  constructor
  · apply (hserver notFound (.apiError (by decide) (by decide) (by simp))).mpr
    refine ⟨by decide, by decide, by decide, ?_⟩
    rintro d ⟨⟩ detail hdetail
    cases hdetail
  · exact (hother ⟨502, .text "Bad Gateway"⟩ (by decide)).mpr ⟨by decide, by decide, trivial⟩

/-- A rate limit that is exceeded is not carried, and a body that is a JSON array gives no
`AsbError`. -/
theorem not_clientAgrees :
    (¬ ∀ (c : AsbClient) (f : TextFunctions) (exc : HTTPException), ServerException exc →
      Carries (structuredHttpExceptionHandler f exc)
        (handleError c (received (structuredHttpExceptionHandler f exc)))) ∧
    ¬ ∀ (c : AsbClient) (resp : Response), ¬ (200 ≤ resp.statusCode ∧ resp.statusCode < 300) →
      ∃ e, handleError c resp = some (.asb e) ∧ e.statusCode = .int resp.statusCode := by
  constructor
  · intro h
    obtain ⟨e, he, -⟩ := h sampleClient sampleTexts _ (.rateLimitExceeded ⟨10, 0, 1700000000⟩)
    have htype : handleError sampleClient (received (structuredHttpExceptionHandler sampleTexts
        (RateLimitExceeded.toHTTP ⟨10, 0, 1700000000⟩))) =
          some (.typeError "got multiple values for keyword argument") := by
      decide +kernel
    rw [htype] at he
    cases he
  · intro h
    obtain ⟨e, he, -⟩ := h sampleClient ⟨500, .json (.list [])⟩ (by decide)
    have hattribute : handleError sampleClient ⟨500, .json (.list [])⟩ =
        some (.attributeError "object has no attribute 'get'") := by
      decide +kernel
    rw [hattribute] at he
    cases he

end AsbCloudApi.Client
