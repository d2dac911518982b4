import AsbCloudApi.Routes.BillingRuns
import AsbCloudApi.Routes.Checkout

/-!
# Who pays for what

Library `Routes`. Any number of billing requests and webhook deliveries, interleaved operation by
operation. Stripe signs an event of a completed checkout only for a session that was opened. Then
every upgrade of a key was opened by a request with that key at the price of its tier, and nobody
is shown the portal or the invoices of a customer that is not his own.
-/

namespace AsbCloudApi.Routes

open Base Api Db Session

/-- What happens in a billing request: the key store gives it a key, it opens a checkout session,
it calls the key store, or it is shown what belongs to a customer. -/
inductive BillingEvent where
  | authenticated (keyId : String)
  | opened (params : SessionParams)
  | called (m : Mutation)
  | shown (customer : String)
  deriving DecidableEq

/-- What the requests share, and what has happened in which of them. -/
structure BillingState (I : Type) where
  deliveries : WebhookLog I
  log : List (I × BillingEvent)

variable {I : Type}

/-- The table of the keys. -/
abbrev BillingState.keys (s : BillingState I) : ApiKeys := s.deliveries.shared.apiKeys

/-- An event is noted. -/
def BillingState.note (s : BillingState I) (i : I) (e : BillingEvent) : BillingState I :=
  { s with log := s.log ++ [(i, e)] }

/-- A completed session as an event reports it; the metadata may come in another order. -/
structure ReportsSession (o : EventObject) (params : SessionParams) : Prop where
  metadata : ∃ metadata, o.metadata = some metadata ∧
    ∀ name, metadata.get? name = params.metadata.get? name
  email : o.get "customer_email" = some params.customerEmail

/-- An event that Stripe may sign after what has happened. -/
def Genuine (log : List (I × BillingEvent)) (event : StripeEvent) : Prop :=
  event.type = "checkout.session.completed" →
    ∃ i params, (i, .opened params) ∈ log ∧ ReportsSession event.object params

/-- What the key store may return for a key. -/
def KeyRecord.Of (keys : ApiKeys) (keyId : String) : KeyRecord → Prop
  | .dict row => keys.get? keyId = some row
  | .apiKey _ => True
  | .missing => True

/-- Note the calls of the key store that change it. -/
def BillingState.deliver (s : BillingState I) (i : I) (o : WebhookOp) (w : WebhookLog I) :
    BillingState I :=
  match o with
  | .mutate m => ⟨w, s.log ++ [(i, .called m)]⟩
  | _ => { s with deliveries := w }

/-- A step of a request. Any operation may fail, and with Stripe it may have had its effect. -/
inductive BillingExec (i : I) :
    (o : BillingOp) → BillingState I → Except Exn o.Ans → BillingState I → Prop
  | verified {s : BillingState I} {raw : String} (keyId : String) :
      BillingExec i (.auth (.verify raw)) s (.ok (some keyId)) (s.note i (.authenticated keyId))
  | unverified {s : BillingState I} {raw : String} :
      BillingExec i (.auth (.verify raw)) s (.ok none) s
  | failed {s : BillingState I} {o : BillingOp} (e : Exn) : BillingExec i o s (.error e) s
  | got {s : BillingState I} {keyId : String} {key : KeyRecord} (h : key.Of s.keys keyId) :
      BillingExec i (.get keyId) s (.ok key) s
  | opened {s : BillingState I} {params : SessionParams} (r : Except Exn CheckoutResponse) :
      BillingExec i (.createSession params) s r (s.note i (.opened params))
  | portal {s : BillingState I} {customer url : String} (r : Except Exn String) :
      BillingExec i (.createPortal customer url) s r (s.note i (.shown customer))
  | invoices {s : BillingState I} {customer : String} {n : Nat} (r : Except Exn (List Invoice)) :
      BillingExec i (.listInvoices customer n) s r (s.note i (.shown customer))
  | rejected {s : BillingState I} (e : ConstructError) :
      BillingExec i .constructEvent s (.ok (.error e)) s
  | received {s : BillingState I} {event : StripeEvent} (h : Genuine s.log event) :
      BillingExec i .constructEvent s (.ok (.ok event)) s
  | delivered {s : BillingState I} {o : WebhookOp} {r : Except Exn o.Ans} {w : WebhookLog I}
      (h : WebhookExec i o s.deliveries r w) :
      BillingExec i (.webhook o) s r (s.deliver i o w)

/-! ### What is rightful -/

section Rightful

variable (environ : Dict String String) (keys₀ : ApiKeys)

/-- The session that a request for a tier opens. -/
def CheckoutRequest.session (request : CheckoutRequest) : SessionParams :=
  tierSession request (getTierPriceId environ request.tier.value)

/-- The session that a request for a license opens. -/
def LicenseCheckoutRequest.session (request : LicenseCheckoutRequest) : SessionParams :=
  licenseSession request (getLicensePriceId environ request.licenseType.value)

/-- The customer belongs to the key: its row had it at the start, or a completed checkout of the
key named it. -/
def CustomerOf (log : List (I × BillingEvent)) (k c : String) : Prop :=
  (∃ row, keys₀.get? k = some row ∧ row.stripeCustomerId = some c) ∨
    ∃ j tier sub, (j, .called (.upgradeTier k tier sub (some c))) ∈ log

/-- A checkout that was opened for a key, by a request with that key, at the price of its tier. -/
structure OpenedFor (log : List (I × BillingEvent)) (j : I) (request : CheckoutRequest) :
    Prop where
  authenticated : (j, .authenticated request.keyId) ∈ log
  priced : getTierPriceId environ request.tier.value ≠ ""

/-- What may happen after what has happened before. -/
def RightfulBilling (before : List (I × BillingEvent)) : I × BillingEvent → Prop
  | (i, .opened params) =>
    (∃ request : CheckoutRequest, params = request.session environ ∧
      OpenedFor environ before i request) ∨
    ∃ request : LicenseCheckoutRequest, params = request.session environ ∧
      getLicensePriceId environ request.licenseType.value ≠ ""
  | (_, .called (.upgradeTier keyId tier _ _)) =>
    ∃ j request, request.keyId = keyId ∧ request.tier.value = tier ∧
      (j, .opened (request.session environ)) ∈ before ∧ OpenedFor environ before j request
  | (_, .called (.addLicense ident licenseType _)) =>
    ∃ j request, request.licenseType.value = licenseType ∧
      (j, .opened (LicenseCheckoutRequest.session environ request)) ∈ before ∧
      getLicensePriceId environ licenseType ≠ "" ∧ (request.email ≠ "" → ident = request.email)
  | (i, .shown customer) =>
    ∃ k, (i, .authenticated k) ∈ before ∧ CustomerOf keys₀ before k customer
  | _ => True

end Rightful

/-! ### What a request asks for -/

section Stages

variable (environ : Dict String String)

/-- What a request knows: nothing yet, its key, the customer of its key, or an event. -/
inductive BillingStage where
  | fresh
  | authenticated (keyId : String)
  | found (keyId : String) (customer : Option String)
  | received (event : StripeEvent)

/-- What a request asks for with what it knows. -/
def billingProtocol : Prog.Protocol Exn BillingOp.Ans BillingStage where
  allowed o g :=
    match o, g with
    | .auth _, .fresh => True
    | .get keyId, .authenticated keyId' => keyId = keyId'
    | .createSession params, .authenticated keyId => ∃ request : CheckoutRequest,
      params = request.session environ ∧ request.keyId = keyId ∧
        getTierPriceId environ request.tier.value ≠ ""
    | .createSession params, .fresh => ∃ request : LicenseCheckoutRequest,
      params = request.session environ ∧
        getLicensePriceId environ request.licenseType.value ≠ ""
    | .createPortal customer _, .found _ customer' => customer' = some customer
    | .listInvoices customer _, .found _ customer' => customer' = some customer
    | .constructEvent, .fresh => True
    | .webhook (.mutate m), .received event =>
      ∃ tokenHex, eventMutation event tokenHex = .ok (some m)
    | .webhook _, .received _ => True
    | _, _ => False
  possible _ _ _ := True
  next o g r :=
    match o, r with
    | .auth (.verify _), .ok (some keyId) => .authenticated keyId
    | .get keyId, .ok key => .found keyId (stripeCustomerId key)
    | .constructEvent, .ok (.ok event) => .received event
    | _, _ => g

variable {environ}

private theorem follows_authenticate (authorization : Option String) :
    Prog.Follows (billingProtocol environ) (fun r g ↦ ∀ k, r = .ok k → g = .authenticated k)
      (authenticate authorization) .fresh := by
  unfold authenticate getApiKey
  split
  · exact nofun
  · refine ⟨trivial, fun r _ ↦ ?_⟩
    match r with
    | .error e => exact nofun
    | .ok none => exact nofun
    | .ok (some keyId) =>
      change Prog.Follows _ _ (Prog.embed _ (if _ then _ else _)) _
      split
      · exact nofun
      · rintro k hk
        cases hk
        rfl

/-- Whatever Stripe answers, the request ends. -/
private theorem follows_stripeCall {o : BillingOp} {g : BillingStage}
    (h : (billingProtocol environ).allowed o g) : Prog.Follows (billingProtocol environ)
      (fun _ _ ↦ True) (stripeCall (.perform o)) g := by
  refine ⟨h, fun r _ ↦ ?_⟩
  match r with
  | .ok a => exact trivial
  | .error (.py e) => exact trivial
  | .error (.http e) => exact trivial

private theorem follows_createCheckout (authorization : Option String) (request : CheckoutRequest) :
    Prog.Follows (billingProtocol environ) (fun _ _ ↦ True)
      (createCheckout environ authorization request) .fresh := by
  apply (follows_authenticate authorization).bind
  · intro k g hg
    obtain rfl := hg k rfl
    dsimp only
    split
    · exact trivial
    · next hkey =>
      split
      · exact trivial
      · next hprice => exact follows_stripeCall ⟨request, rfl, not_not.mp hkey, hprice⟩
  · exact fun _ _ _ ↦ trivial

private theorem follows_createLicenseCheckout (request : LicenseCheckoutRequest) :
    Prog.Follows (billingProtocol environ) (fun _ _ ↦ True)
      (createLicenseCheckout environ request) .fresh := by
  unfold createLicenseCheckout
  dsimp only
  split
  · exact trivial
  · next hprice => exact follows_stripeCall ⟨request, rfl, hprice⟩

private theorem follows_callerCustomer (authorization : Option String) :
    Prog.Follows (billingProtocol environ)
      (fun r g ↦ ∀ c, r = .ok c → ∃ k, g = .found k (some c))
      (callerCustomer authorization) .fresh := by
  apply (follows_authenticate authorization).bind
  · intro k g hg
    obtain rfl := hg k rfl
    refine ⟨rfl, fun r _ ↦ ?_⟩
    cases r with
    | error e => exact nofun
    | ok key =>
      change Prog.Follows _ _ (if _ then _ else _)
        (BillingStage.found k (stripeCustomerId key))
      cases stripeCustomerId key with
      | none => exact nofun
      | some c =>
        split
        · exact nofun
        · rintro c' hc
          cases hc
          exact ⟨k, rfl⟩
  · exact fun _ _ _ ↦ nofun

private theorem follows_customerPortal (authorization : Option String) :
    Prog.Follows (billingProtocol environ) (fun _ _ ↦ True)
      (customerPortal authorization) .fresh := by
  apply (follows_callerCustomer authorization).bind
  · intro c g hg
    obtain ⟨k, rfl⟩ := hg c rfl
    exact follows_stripeCall rfl
  · exact fun _ _ _ ↦ trivial

private theorem follows_listInvoices (authorization : Option String) :
    Prog.Follows (billingProtocol environ) (fun _ _ ↦ True)
      (listInvoices authorization) .fresh := by
  apply (follows_callerCustomer authorization).bind
  · intro c g hg
    obtain ⟨k, rfl⟩ := hg c rfl
    exact follows_stripeCall rfl
  · exact fun _ _ _ ↦ trivial

/-- The only call of the key store that a delivery makes is that of its event. -/
private theorem only_stripeWebhook (app : WebhookApp) (event : StripeEvent) (tokenHex : String) :
    Prog.Only (fun o ↦ ∀ m, o = .mutate m → eventMutation event tokenHex = .ok (some m))
      (stripeWebhook app ⟨.ok event, tokenHex⟩) := by
  apply Prog.Only.ite
  · exact trivial
  · apply Prog.Only.bind
    · unfold recordEventOnce
      apply Prog.Only.ite
      · exact trivial
      · split
        · exact Prog.only_perform nofun
        · exact Prog.only_perform nofun
    · intro first
      apply Prog.Only.ite
      · exact trivial
      · unfold processEvent
        apply Prog.Only.ite
        · exact trivial
        · split
          · exact trivial
          · exact trivial
          · next m hm =>
            refine ⟨?_, fun r ↦ ?_⟩
            · rintro m' hm'
              cases hm'
              exact hm
            · cases r with
              | ok u => exact trivial
              | error e => exact trivial

private theorem follows_delivery {event : StripeEvent} {tokenHex : String}
    {p : WebhookProg WebhookReply}
    (hp : Prog.Only (fun o ↦ ∀ m, o = .mutate m → eventMutation event tokenHex = .ok (some m)) p) :
    Prog.Follows (billingProtocol environ) (fun _ _ ↦ True)
      (p.embed fun o ↦ .perform (BillingOp.webhook o)) (.received event) := by
  induction p with
  | done r => exact trivial
  | call o k ih =>
    refine ⟨?_, fun r _ ↦ ih r (hp.2 r)⟩
    cases o with
    | tryRecordStripeEvent | rememberEvent => exact trivial
    | mutate m => exact ⟨tokenHex, hp.1 m rfl⟩

private theorem follows_receiveWebhook (app : WebhookApp) (tokenHex : String) :
    Prog.Follows (billingProtocol environ) (fun _ _ ↦ True)
      (receiveWebhook app tokenHex) .fresh := by
  unfold receiveWebhook
  dsimp only
  split
  · next hsecret =>
    unfold stripeWebhook
    rw [if_pos hsecret]
    exact trivial
  · next hsecret =>
    refine ⟨trivial, fun r _ ↦ ?_⟩
    match r with
    | .error e => exact trivial
    | .ok (.ok event) => exact follows_delivery (only_stripeWebhook app event tokenHex)
    | .ok (.error e) =>
      change Prog.Follows _ _ (Prog.embed _ (stripeWebhook _ _)) _
      unfold stripeWebhook
      rw [if_neg hsecret]
      cases e with
      | importError | signatureVerificationError | other => exact trivial

/-- Every request, whichever route it takes. -/
theorem follows_handleBilling (app : WebhookApp) (q : BillingRequest) :
    Prog.Follows (billingProtocol environ) (fun _ _ ↦ True) (handleBilling app environ q)
      .fresh := by
  cases q with
  | checkout authorization request =>
    exact (follows_createCheckout authorization request).bind (fun _ _ _ ↦ trivial)
      fun _ _ _ ↦ trivial
  | licenseCheckout request =>
    exact (follows_createLicenseCheckout request).bind (fun _ _ _ ↦ trivial) fun _ _ _ ↦ trivial
  | portal authorization =>
    exact (follows_customerPortal authorization).bind (fun _ _ _ ↦ trivial) fun _ _ _ ↦ trivial
  | invoices authorization =>
    exact (follows_listInvoices authorization).bind (fun _ _ _ ↦ trivial) fun _ _ _ ↦ trivial
  | webhook tokenHex =>
    exact (follows_receiveWebhook app tokenHex).bind (fun _ _ _ ↦ trivial) fun _ _ _ ↦ trivial

end Stages

/-! ### What a completed checkout calls -/

section Completed

variable {o : EventObject} {tokenHex price : String} {m : Mutation}

private theorem SoldLicense.truthy_value (t : SoldLicense) : truthy (some t.value) = true := by
  cases t <;> rfl

/-- A checkout for a tier upgrades the key it was opened for to this tier. -/
theorem eq_upgradeTier_of_tierSession {request : CheckoutRequest}
    (ho : ReportsSession o (tierSession request price))
    (h : checkoutMutation o tokenHex = .ok (some m)) : m = .upgradeTier request.keyId
      request.tier.value (o.get "subscription") (o.get "customer") := by
  obtain ⟨metadata, hmetadata, hsame⟩ := ho.metadata
  have hkey : metadata.get? "key_id" = some request.keyId := hsame "key_id"
  have htier : metadata.get? "tier" = some request.tier.value := hsame "tier"
  have hlicense : metadata.get? "license_type" = none := hsame "license_type"
  simp only [checkoutMutation, EventObject.indexMetadata, hmetadata, bind, Except.bind, hkey,
    htier, hlicense] at h
  split at h
  · cases h
    rfl
  · cases h

/-- A checkout for a license sells one of its type, to the address that was given. -/
theorem eq_addLicense_of_licenseSession {request : LicenseCheckoutRequest}
    (ho : ReportsSession o (licenseSession request price))
    (h : checkoutMutation o tokenHex = .ok (some m)) : ∃ ident, m = .addLicense ident
      request.licenseType.value ("sk_license_" ++ tokenHex) ∧
      (request.email ≠ "" → ident = request.email) := by
  obtain ⟨metadata, hmetadata, hsame⟩ := ho.metadata
  have hkey : metadata.get? "key_id" = none := hsame "key_id"
  have htier : metadata.get? "tier" = none := hsame "tier"
  have hlicense : metadata.get? "license_type" = some request.licenseType.value :=
    hsame "license_type"
  have hemail : o.get "customer_email" = some request.email := ho.email
  simp only [checkoutMutation, EventObject.indexMetadata, hmetadata, bind, Except.bind, hkey,
    htier, hlicense, hemail, SoldLicense.truthy_value] at h
  rw [if_neg (fun hno ↦ Bool.false_ne_true hno.1), if_pos trivial] at h
  split at h
  · cases h
    refine ⟨_, rfl, fun hgiven ↦ ?_⟩
    simp [orOption, truthy, hgiven]
  · cases h

end Completed

section Invariant

variable {environ : Dict String String} {keys₀ : ApiKeys}

/-- What a request knows is true. -/
def BillingStage.Held (keys₀ : ApiKeys)
    (log : List (I × BillingEvent)) (i : I) : BillingStage → Prop
  | .fresh => True
  | .authenticated k => (i, .authenticated k) ∈ log
  | .found k customer => (i, .authenticated k) ∈ log ∧
    ∀ c, customer = some c → CustomerOf keys₀ log k c
  | .received event => Genuine log event

variable (environ keys₀) in
/-- All that has happened was rightful, the table names only customers of their keys, and every
request knows what is true. -/
structure BillingInv (s : BillingState I) (stage : I → BillingStage) : Prop where
  rightful : Justified (RightfulBilling environ keys₀) s.log
  table : ∀ k row c, s.keys.get? k = some row → row.stripeCustomerId = some c →
    CustomerOf keys₀ s.log k c
  held : ∀ i, (stage i).Held keys₀ s.log i

theorem CustomerOf.mono {log more : List (I × BillingEvent)} {k c : String}
    (h : CustomerOf keys₀ log k c) : CustomerOf keys₀ (log ++ more) k c := by
  rcases h with h | ⟨j, tier, sub, h⟩
  · exact .inl h
  · exact .inr ⟨j, tier, sub, List.mem_append_left _ h⟩

theorem Genuine.mono {log more : List (I × BillingEvent)} {event : StripeEvent}
    (h : Genuine log event) : Genuine (log ++ more) event := by
  intro htype
  obtain ⟨i, params, hmem, hreports⟩ := h htype
  exact ⟨i, params, List.mem_append_left _ hmem, hreports⟩

theorem BillingStage.Held.mono {log more : List (I × BillingEvent)} {i : I} {g : BillingStage}
    (h : g.Held keys₀ log i) : g.Held keys₀ (log ++ more) i := by
  cases g with
  | fresh => exact trivial
  | authenticated k => exact List.mem_append_left _ h
  | found k customer =>
    exact ⟨List.mem_append_left _ h.1, fun c hc ↦ (h.2 c hc).mono⟩
  | received event => exact Genuine.mono h

theorem OpenedFor.mono {log more : List (I × BillingEvent)} {j : I} {request : CheckoutRequest}
    (h : OpenedFor environ log j request) : OpenedFor environ (log ++ more) j request :=
  ⟨List.mem_append_left _ h.authenticated, h.priced⟩

/-- A session that was opened is that of a request for a tier or for a license. -/
private theorem session_of_opened {log : List (I × BillingEvent)} {j : I} {params : SessionParams}
    (hlog : Justified (RightfulBilling environ keys₀) log) (h : (j, .opened params) ∈ log) :
    (∃ request : CheckoutRequest, params = request.session environ ∧
      OpenedFor environ log j request) ∨
    ∃ request : LicenseCheckoutRequest, params = request.session environ ∧
      getLicensePriceId environ request.licenseType.value ≠ "" := by
  obtain ⟨before, after, rfl⟩ := List.append_of_mem h
  rcases hlog before _ after rfl with ⟨request, rfl, hfor⟩ | hlicense
  · exact .inl ⟨request, rfl, hfor.mono⟩
  · exact .inr hlicense

/-- A call of the key store for a genuine event is rightful. -/
theorem rightful_called {log : List (I × BillingEvent)} (i : I) {event : StripeEvent}
    {tokenHex : String} {m : Mutation} (hlog : Justified (RightfulBilling environ keys₀) log)
    (hevent : Genuine log event) (h : eventMutation event tokenHex = .ok (some m)) :
    RightfulBilling environ keys₀ log (i, .called m) := by
  by_cases htype : event.type = "checkout.session.completed"
  · obtain ⟨j, params, hmem, hreports⟩ := hevent htype
    rw [eventMutation, if_pos htype] at h
    rcases session_of_opened hlog hmem with ⟨request, rfl, hfor⟩ | ⟨request, rfl, hprice⟩
    · obtain rfl := eq_upgradeTier_of_tierSession hreports h
      exact ⟨j, request, rfl, rfl, hmem, hfor⟩
    · obtain ⟨ident, rfl, hident⟩ := eq_addLicense_of_licenseSession hreports h
      exact ⟨j, request, rfl, hmem, hprice, hident⟩
  · cases mutationCase_of_eventMutation h with
    | upgraded hc | sold hc => exact absurd hc htype
    | updated | deleted | paymentFailed | paid => exact trivial

/-! ### Every step keeps it -/

/-- A delivery changes the table by the call it makes, or not at all. -/
private theorem keys_of_webhookExec {i : I} {o : WebhookOp} {w w' : WebhookLog I}
    {r : Except Exn o.Ans} (h : WebhookExec i o w r w') :
    w'.shared.apiKeys = w.shared.apiKeys ∨
      ∃ m, o = .mutate m ∧ m.exec w.shared.apiKeys = .ok w'.shared.apiKeys := by
  have hrecord (id type : String) :
      ((WebhookOp.tryRecordStripeEvent id type).exec w.shared).2.apiKeys = w.shared.apiKeys := by
    simp only [WebhookOp.exec]
    split <;> rfl
  have hremember (id : String) :
      ((WebhookOp.rememberEvent id).exec w.shared).2.apiKeys = w.shared.apiKeys := by
    simp only [WebhookOp.exec]
    split <;> rfl
  cases h with
  | recorded | recordLost => exact .inl (hrecord _ _)
  | remembered => exact .inl (hremember _)
  | notRecorded | recordFailed | known | callFailed => exact .inl rfl
  | called h | callLost e h => exact .inr ⟨_, rfl, h⟩

/-- A call names a customer of a key only where it upgrades the key. -/
private theorem customerOf_exec {log : List (I × BillingEvent)} {i : I} {m : Mutation}
    {keys keys' : ApiKeys} (h : m.exec keys = .ok keys')
    (htable : ∀ k row c, keys.get? k = some row → row.stripeCustomerId = some c →
      CustomerOf keys₀ log k c) (k : String) (row : ApiKeyRow) (c : String)
    (hrow : keys'.get? k = some row) (hc : row.stripeCustomerId = some c) :
    CustomerOf keys₀ (log ++ [(i, .called m)]) k c := by
  rw [get?_exec h, Option.map_eq_some_iff] at hrow
  obtain ⟨old, hold, rfl⟩ := hrow
  by_cases hup : ∃ tier sub customer, m = .upgradeTier k tier sub customer
  · obtain ⟨tier, sub, customer, rfl⟩ := hup
    rw [Mutation.rowAfter, if_pos rfl] at hc
    cases customer with
    | none => exact (htable k old c hold hc).mono
    | some c' =>
      obtain rfl : c' = c := Option.some.inj hc
      exact .inr ⟨i, tier, sub, List.mem_append_right _ List.mem_cons_self⟩
  · rw [stripeCustomerId_rowAfter (fun tier sub customer heq ↦ hup ⟨_, _, _, heq⟩)] at hc
    exact (htable k old c hold hc).mono

variable [DecidableEq I] {s : BillingState I} {stage : I → BillingStage} {i : I}

private theorem held_update {log more : List (I × BillingEvent)} {g : BillingStage}
    (h : ∀ j, (stage j).Held keys₀ log j) (hg : g.Held keys₀ (log ++ more) i) (j : I) :
    (Function.update stage i g j).Held keys₀ (log ++ more) j := by
  by_cases hj : j = i
  · subst hj
    rwa [Function.update_self]
  · rw [Function.update_of_ne hj]
    exact (h j).mono

/-- Something rightful is noted. -/
private theorem BillingInv.note (h : BillingInv environ keys₀ s stage) {e : BillingEvent}
    {g : BillingStage} (he : RightfulBilling environ keys₀ s.log (i, e))
    (hg : g.Held keys₀ (s.log ++ [(i, e)]) i) :
    BillingInv environ keys₀ (s.note i e) (Function.update stage i g) :=
  ⟨h.rightful.concat he, fun k row c hrow hc ↦ (h.table k row c hrow hc).mono,
    held_update h.held hg⟩

/-- A request learns something true, and nothing is noted. -/
private theorem BillingInv.learn (h : BillingInv environ keys₀ s stage) {w : WebhookLog I}
    (hkeys : w.shared.apiKeys = s.keys) {g : BillingStage} (hg : g.Held keys₀ s.log i) :
    BillingInv environ keys₀ { s with deliveries := w } (Function.update stage i g) := by
  refine ⟨h.rightful, fun k row c hrow hc ↦ ?_, fun j ↦ ?_⟩
  · change w.shared.apiKeys.get? k = some row at hrow
    rw [hkeys] at hrow
    exact h.table k row c hrow hc
  · have hheld : (Function.update stage i g j).Held keys₀ (s.log ++ []) j :=
      held_update h.held (by rwa [List.append_nil]) j
    rwa [List.append_nil] at hheld

/-- What the protocol allows keeps the invariant. -/
theorem BillingInv.step (h : BillingInv environ keys₀ s stage) {o : BillingOp}
    {r : Except Exn o.Ans} {s' : BillingState I}
    (ha : (billingProtocol environ).allowed o (stage i)) (he : BillingExec i o s r s') :
    BillingInv environ keys₀ s'
      (Function.update stage i ((billingProtocol environ).next o (stage i) r)) := by
  have hheld := h.held i
  have hstay : BillingInv environ keys₀ s (Function.update stage i (stage i)) := by
    rwa [Function.update_eq_self]
  cases he with
  | verified keyId =>
    exact h.note trivial (List.mem_append_right _ List.mem_cons_self)
  | unverified | rejected => exact hstay
  | failed e =>
    cases o with
    | auth o =>
      cases o
      exact hstay
    | get | createSession | createPortal | listInvoices | constructEvent | webhook => exact hstay
  | @got _ keyId key hkey =>
    cases hg : stage i with
    | fresh | found | received =>
      rw [hg] at ha
      exact ha.elim
    | authenticated k =>
      rw [hg] at ha hheld
      obtain rfl : keyId = k := ha
      refine h.learn rfl ⟨hheld, fun c hc ↦ ?_⟩
      cases key with
      | dict row => exact h.table keyId row c hkey hc
      | apiKey | missing => cases hc
  | opened r =>
    apply h.note ?_ hheld.mono
    cases hg : stage i with
    | found | received =>
      rw [hg] at ha
      exact ha.elim
    | fresh =>
      rw [hg] at ha
      exact .inr ha
    | authenticated k =>
      rw [hg] at ha hheld
      obtain ⟨request, rfl, rfl, hprice⟩ := ha
      exact .inl ⟨request, rfl, hheld, hprice⟩
  | portal r | invoices r =>
    apply h.note ?_ hheld.mono
    cases hg : stage i with
    | fresh | authenticated | received =>
      rw [hg] at ha
      exact ha.elim
    | found k customer =>
      rw [hg] at ha hheld
      exact ⟨k, hheld.1, hheld.2 _ ha⟩
  | received hevent => exact h.learn rfl hevent
  | @delivered _ o r w hw =>
    cases o with
    | tryRecordStripeEvent | rememberEvent =>
      apply h.learn ?_ hheld
      exact (keys_of_webhookExec hw).resolve_right fun ⟨m, hm, _⟩ ↦ nomatch hm
    | mutate m =>
      cases hg : stage i with
      | fresh | authenticated | found =>
        rw [hg] at ha
        exact ha.elim
      | received event =>
        rw [hg] at ha hheld
        obtain ⟨tokenHex, hm⟩ := ha
        refine ⟨h.rightful.concat (rightful_called i h.rightful hheld hm), ?_,
          held_update h.held hheld.mono⟩
        intro k row c hrow hc
        rcases keys_of_webhookExec hw with hkeys | ⟨m', hm', hexec⟩
        · change w.shared.apiKeys.get? k = some row at hrow
          rw [hkeys] at hrow
          exact (h.table k row c hrow hc).mono
        · cases hm'
          exact customerOf_exec hexec h.table k row c hrow hc

end Invariant

/-! ### Requests interleaved -/

section Interleaved

variable [DecidableEq I]

/-- Billing requests in the midst of their work. -/
abbrev Billing (I : Type) :=
  Prog.Config Exn BillingOp.Ans BillingReply I (BillingState I) BillingStage

/-- Requests that have not started. -/
def startBilling (app : WebhookApp) (environ : Dict String String) (s₀ : WebhookState)
    (requests : I → BillingRequest) : Billing I where
  shared := ⟨⟨s₀, []⟩, []⟩
  stage _ := .fresh
  prog i := handleBilling app environ (requests i)

/-- Any interleaving of the requests. -/
def BillingReach (environ : Dict String String) : Billing I → Billing I → Prop :=
  Relation.ReflTransGen (Prog.Step BillingExec (billingProtocol environ))

/-- Whatever is interleaved: each upgrade of a key was opened by a request with that key, for that
tier and at its price; each license was opened at the price of its type and goes to the address
given; what is shown to a request belongs to a customer of its key, which the key had from
the start or got by its own checkout; and the table names no other customers. -/
theorem billing_rightful {app : WebhookApp} {environ : Dict String String} {s₀ : WebhookState}
    {requests : I → BillingRequest} {d : Billing I}
    (hd : BillingReach environ (startBilling app environ s₀ requests) d) :
    Justified (RightfulBilling environ s₀.apiKeys) d.shared.log ∧
      ∀ k row c, d.shared.keys.get? k = some row → row.stripeCustomerId = some c →
        CustomerOf s₀.apiKeys d.shared.log k c := by
  have hstart : BillingInv environ s₀.apiKeys (startBilling app environ s₀ requests).shared
      (startBilling app environ s₀ requests).stage :=
    ⟨justified_nil, fun k row c hrow hc ↦ .inl ⟨row, hrow, hc⟩, fun _ ↦ trivial⟩
  obtain ⟨hinv, -⟩ := Prog.interleaving_sound (Q := fun _ _ _ ↦ True)
    (J := BillingInv environ s₀.apiKeys)
    (fun s stage i o r s' hJ ha he ↦ ⟨trivial, hJ.step ha he⟩) hd hstart
    fun i ↦ follows_handleBilling app (requests i)
  exact ⟨hinv.rightful, hinv.table⟩

end Interleaved

section Sample

private def paidFor (params : SessionParams) : StripeEvent :=
  ⟨some "evt_1", "checkout.session.completed", ⟨some params.metadata,
    Dict.ofList [("customer_email", some params.customerEmail), ("customer", some "cus_1")]⟩⟩

/-- Nothing fails; the event is that of the first session. -/
private def billingHandler (i : Fin 3) :
    (o : BillingOp) → BillingState (Fin 3) → Except Exn o.Ans × BillingState (Fin 3)
  | .auth (.verify _), s => (.ok (some "key_1"), s.note i (.authenticated "key_1"))
  | .get keyId, s => (.ok ((s.keys.get? keyId).elim .missing .dict), s)
  | .createSession params, s => (.ok ⟨"https://pay", "cs_1"⟩, s.note i (.opened params))
  | .createPortal customer _, s => (.ok "https://portal", s.note i (.shown customer))
  | .listInvoices customer _, s => (.ok [], s.note i (.shown customer))
  | .constructEvent, s =>
    match s.log with
    | (_, .authenticated _) :: (_, .opened params) :: _ => (.ok (.ok (paidFor params)), s)
    | _ => (.ok (.error .other), s)
  | .webhook (.mutate m), s =>
    match m.exec s.keys with
    | .ok keys => (.ok (), s.deliver i (.mutate m) (s.deliveries.call i m keys))
    | .error e => (.error e.exn, s)
  | .webhook (.rememberEvent id), s =>
    if id ∈ s.deliveries.shared.processedEvents then (.ok false, s)
    else (.ok true, s.deliver i (.rememberEvent id)
      (s.deliveries.note ((WebhookOp.rememberEvent id).exec s.deliveries.shared).2 i
        (.recorded id)))
  | .webhook (.tryRecordStripeEvent _ _), s => (.error (.py ⟨.other, "not set up"⟩), s)

private theorem billingHandler_exec (i : Fin 3) (o : BillingOp) (s : BillingState (Fin 3)) :
    BillingExec i o s (billingHandler i o s).1 (billingHandler i o s).2 := by
  cases o with
  | auth o =>
    cases o
    exact .verified "key_1"
  | get keyId =>
    refine .got ?_
    cases h : s.keys.get? keyId with
    | none => exact trivial
    | some row => exact h
  | createSession => exact .opened _
  | createPortal => exact .portal _
  | listInvoices => exact .invoices _
  | constructEvent =>
    dsimp only [billingHandler]
    split
    · next i' k j params log hlog =>
      refine .received fun _ ↦ ⟨j, params, ?_, ⟨_, rfl, fun _ ↦ rfl⟩, rfl⟩
      rw [hlog]
      exact List.mem_cons_of_mem _ List.mem_cons_self
    · exact .rejected _
  | webhook o =>
    cases o with
    | tryRecordStripeEvent => exact .failed _
    | rememberEvent id =>
      dsimp only [billingHandler]
      split
      · next h => exact .delivered (.known (by simp [WebhookOp.exec, h]))
      · next h => exact .delivered (.remembered (by simp [WebhookOp.exec, h]))
    | mutate m =>
      dsimp only [billingHandler]
      split
      · next keys h => exact .delivered (.called h)
      · exact .failed _

private def billingRequests : Fin 3 → BillingRequest
  | 0 => .checkout (some "Bearer sk_live_a") ⟨.pro, "key_1", "a@example.com"⟩
  | 1 => .webhook "00"
  | 2 => .portal (some "Bearer sk_live_a")

private def unpaidKeys : ApiKeys :=
  Dict.ofList [("key_1", ⟨"free", none, 0, false, none, none, none, none, none⟩)]

private def sampleEnviron : Dict String String := Dict.ofList [("STRIPE_PRICE_PRO", "price_pro")]

private def upgradedKey : ApiKeyRow :=
  ⟨"pro", none, 0, false, some "cus_1", none, some "active", none, none⟩

/-- A key is upgraded, and shown the portal of the customer that the checkout named. -/
theorem billing_rightful_sample : ∃ d : Billing (Fin 3),
    (2, .shown "cus_1") ∈ d.shared.log ∧ CustomerOf unpaidKeys d.shared.log "key_1" "cus_1" := by
  obtain ⟨d, hd, hs⟩ := Prog.reach_runs (P := billingProtocol sampleEnviron) (h := billingHandler)
    billingHandler_exec (by decide : ([0, 1, 2] : List (Fin 3)).Nodup)
    (startBilling ⟨"whsec_test", some .plain⟩ sampleEnviron ⟨unpaidKeys, Dict.empty, ∅⟩
      billingRequests)
  obtain ⟨-, htable⟩ := billing_rightful hd
  refine ⟨d, ?_, htable "key_1" upgradedKey "cus_1" ?_ rfl⟩
  · rw [hs]
    decide +kernel
  · rw [hs]
    decide +kernel

end Sample

end AsbCloudApi.Routes
