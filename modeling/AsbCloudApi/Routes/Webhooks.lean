import AsbCloudApi.Base.Prog
import AsbCloudApi.Db.AuthStore
import AsbCloudApi.Session.Models
import Mathlib.Data.Finset.Basic

/-!
# Stripe webhook

Library `Routes`. Models `src/asb_api/api/routes/webhooks.py`. A delivery is a coroutine; its
operations are the calls of the key store and of the set `_processed_events`.
-/

namespace AsbCloudApi.Routes

open Base Api Db Session

/-- `event["data"]["object"]`: its metadata, and its fields that are text or null. -/
structure EventObject where
  metadata : Option (Dict String String)
  fields : Dict String (Option String)
  deriving DecidableEq

namespace EventObject

/-- `object.get(name)`. -/
def get (o : EventObject) (name : String) : Option String := (o.fields.get? name).join

/-- `object[name]`. -/
def index (o : EventObject) (name : String) : Except Exn (Option String) :=
  match o.fields.get? name with
  | some value => .ok value
  | none => .error (.py (.keyError name))

/-- `object["metadata"]`. -/
def indexMetadata (o : EventObject) : Except Exn (Dict String String) :=
  match o.metadata with
  | some metadata => .ok metadata
  | none => .error (.py (.keyError "metadata"))

end EventObject

/-- A Stripe event. -/
structure StripeEvent where
  id : Option String
  type : String
  object : EventObject
  deriving DecidableEq

/-- The calls that change the key store. -/
inductive Mutation where
  | upgradeTier (keyId tier : String) (stripeSubscriptionId stripeCustomerId : Option String)
  | addLicense (keyIdOrEmail licenseType rawLicense : String)
  | updateSubscriptionStatus (customerId status : Option String)
  | downgradeToFree (customerId : Option String)
  deriving DecidableEq

/-- Execute a call on the table. -/
def Mutation.exec : Mutation → ApiKeys → Except DbError ApiKeys
  | .upgradeTier keyId tier sub customer, keys =>
    PostgresKeyStore.upgradeTier keys keyId tier sub customer
  | .addLicense ident licenseType raw, keys =>
    PostgresKeyStore.addLicense keys ident licenseType raw
  | .updateSubscriptionStatus customer status, keys =>
    PostgresKeyStore.updateSubscriptionStatus keys customer status
  | .downgradeToFree customer, keys => PostgresKeyStore.downgradeToFree keys customer

/-- Whether `key_store` offers `try_record_stripe_event`. -/
inductive StoreKind where
  | recording
  | plain
  deriving DecidableEq

/-- The operations of a delivery. `rememberEvent` looks an id up in `_processed_events` and adds
it. -/
inductive WebhookOp where
  | tryRecordStripeEvent (eventId eventType : String)
  | rememberEvent (eventId : String)
  | mutate (m : Mutation)

/-- What each of them answers. -/
abbrev WebhookOp.Ans : WebhookOp → Type
  | .tryRecordStripeEvent _ _ => Bool
  | .rememberEvent _ => Bool
  | .mutate _ => Unit

/-- A coroutine of the webhook. -/
abbrev WebhookProg := Prog Exn WebhookOp.Ans

/-- What has been set up: the secret of the environment, empty if there is none, and the store. -/
structure WebhookApp where
  webhookSecret : String
  keyStore : Option StoreKind

/-- Why there is no event. -/
inductive ConstructError where
  | importError
  | signatureVerificationError
  | other

/-- A request: what Stripe's library makes of it, and the digits drawn for a license. -/
structure WebhookRequest where
  constructed : Except ConstructError StripeEvent
  tokenHex : String

/-- The answer `{"received": True}`, with `"duplicate": True` or without. -/
structure WebhookReply where
  duplicate : Bool
  deriving DecidableEq

/-- `_record_event_once`; `src/asb_api/api/routes/webhooks.py:20–35`. -/
def recordEventOnce (app : WebhookApp) (event : StripeEvent) : WebhookProg Bool :=
  if !truthy event.id then pure true
  else
    match app.keyStore with
    | some .recording =>
      .perform (WebhookOp.tryRecordStripeEvent (event.id.getD "") event.type)
    | _ => .perform (WebhookOp.rememberEvent (event.id.getD ""))

/-- `x or y`. -/
def orOption (x y : Option String) : Option String := if truthy x then x else y

/-- The call for a completed checkout; `src/asb_api/api/routes/webhooks.py:62–81`. -/
def checkoutMutation (session : EventObject) (tokenHex : String) :
    Except Exn (Option Mutation) := do
  let metadata ← session.indexMetadata
  let keyId := metadata.get? "key_id"
  let tier := metadata.get? "tier"
  let licenseType := metadata.get? "license_type"
  if truthy keyId ∧ truthy tier then
    .ok (some (.upgradeTier (keyId.getD "") (tier.getD "") (session.get "subscription")
      (session.get "customer")))
  else if truthy licenseType then
    let ident := orOption keyId (orOption (session.get "customer_email") (session.get "customer"))
    if truthy ident then
      .ok (some (.addLicense (ident.getD "") (licenseType.getD "") ("sk_license_" ++ tokenHex)))
    else .ok none
  else .ok none

/-- The call that an event leads to, if it leads to one;
`src/asb_api/api/routes/webhooks.py:62–102`. -/
def eventMutation (event : StripeEvent) (tokenHex : String) : Except Exn (Option Mutation) :=
  if event.type = "checkout.session.completed" then checkoutMutation event.object tokenHex
  else if event.type = "customer.subscription.updated" then do
    let customerId ← event.object.index "customer"
    let status ← event.object.index "status"
    .ok (some (.updateSubscriptionStatus customerId status))
  else if event.type = "customer.subscription.deleted" then do
    let customerId ← event.object.index "customer"
    .ok (some (.downgradeToFree customerId))
  else if event.type = "invoice.payment_failed" then do
    let customerId ← event.object.index "customer"
    .ok (some (.updateSubscriptionStatus customerId (some "past_due")))
  else if event.type = "invoice.paid" then do
    let customerId ← event.object.index "customer"
    .ok (some (.updateSubscriptionStatus customerId (some "active")))
  else .ok none

/-- What follows the recording of an event; `src/asb_api/api/routes/webhooks.py:58–104`. -/
def processEvent (app : WebhookApp) (event : StripeEvent) (tokenHex : String) :
    WebhookProg WebhookReply :=
  if app.keyStore.isNone then pure ⟨false⟩
  else
    match eventMutation event tokenHex with
    | .error e => .raise e
    | .ok none => pure ⟨false⟩
    | .ok (some m) => do
      let _ ← .perform (WebhookOp.mutate m)
      pure ⟨false⟩

/-- `stripe_webhook`; `src/asb_api/api/routes/webhooks.py:38–104`. -/
def stripeWebhook (app : WebhookApp) (request : WebhookRequest) : WebhookProg WebhookReply :=
  if app.webhookSecret = "" then
    .raise (.http ⟨500, .str "STRIPE_WEBHOOK_SECRET not configured", Dict.empty⟩)
  else
    match request.constructed with
    | .error .importError => .raise (.py ⟨.other, "No module named 'stripe'"⟩)
    | .error .signatureVerificationError =>
      .raise (.http ⟨400, .str "Invalid signature", Dict.empty⟩)
    | .error .other => .raise (.http ⟨400, .str "Invalid payload", Dict.empty⟩)
    | .ok event => do
      let first ← recordEventOnce app event
      if !first then pure ⟨true⟩
      else processEvent app event request.tokenHex

/-- The calls by the type of their event. -/
inductive MutationCase (event : StripeEvent) (tokenHex : String) : Mutation → Prop where
  | upgraded {keyId tier : String} (htype : event.type = "checkout.session.completed") :
      MutationCase event tokenHex (.upgradeTier keyId tier (event.object.get "subscription")
        (event.object.get "customer"))
  | sold {ident licenseType : String} (htype : event.type = "checkout.session.completed") :
      MutationCase event tokenHex (.addLicense ident licenseType ("sk_license_" ++ tokenHex))
  | updated {customerId status : Option String}
      (htype : event.type = "customer.subscription.updated")
      (hc : event.object.index "customer" = .ok customerId)
      (hs : event.object.index "status" = .ok status) :
      MutationCase event tokenHex (.updateSubscriptionStatus customerId status)
  | deleted {customerId : Option String} (htype : event.type = "customer.subscription.deleted")
      (hc : event.object.index "customer" = .ok customerId) :
      MutationCase event tokenHex (.downgradeToFree customerId)
  | paymentFailed {customerId : Option String} (htype : event.type = "invoice.payment_failed")
      (hc : event.object.index "customer" = .ok customerId) :
      MutationCase event tokenHex (.updateSubscriptionStatus customerId (some "past_due"))
  | paid {customerId : Option String} (htype : event.type = "invoice.paid")
      (hc : event.object.index "customer" = .ok customerId) :
      MutationCase event tokenHex (.updateSubscriptionStatus customerId (some "active"))

private theorem mutationCase_checkout {event : StripeEvent} {tokenHex : String} {m : Mutation}
    (htype : event.type = "checkout.session.completed")
    (h : checkoutMutation event.object tokenHex = .ok (some m)) :
    MutationCase event tokenHex m := by
  unfold checkoutMutation at h
  obtain ⟨metadata, -, h⟩ := bind_eq_ok_iff.mp h
  dsimp only at h
  split at h
  · cases h
    exact .upgraded htype
  · split at h
    · split at h
      · cases h
        exact .sold htype
      · cases h
    · cases h

theorem mutationCase_of_eventMutation {event : StripeEvent} {tokenHex : String} {m : Mutation}
    (h : eventMutation event tokenHex = .ok (some m)) : MutationCase event tokenHex m := by
  unfold eventMutation at h
  split at h
  · next htype => exact mutationCase_checkout htype h
  · split at h
    · next htype =>
      obtain ⟨customerId, hc, h⟩ := bind_eq_ok_iff.mp h
      obtain ⟨status, hs, h⟩ := bind_eq_ok_iff.mp h
      cases h
      exact .updated htype hc hs
    · split at h
      · next htype =>
        obtain ⟨customerId, hc, h⟩ := bind_eq_ok_iff.mp h
        cases h
        exact .deleted htype hc
      · split at h
        · next htype =>
          obtain ⟨customerId, hc, h⟩ := bind_eq_ok_iff.mp h
          cases h
          exact .paymentFailed htype hc
        · split at h
          · next htype =>
            obtain ⟨customerId, hc, h⟩ := bind_eq_ok_iff.mp h
            cases h
            exact .paid htype hc
          · cases h

/-! ### Deliveries one after another -/

/-- The tables and the set that deliveries share. -/
structure WebhookState where
  apiKeys : ApiKeys
  stripeEvents : StripeEvents
  processedEvents : Finset String
  deriving DecidableEq

/-- Whether an event id has been recorded, with the store that is set up. -/
def WebhookState.Recorded (app : WebhookApp) (s : WebhookState) (id : String) : Prop :=
  match app.keyStore with
  | some .recording => (s.stripeEvents.get? id).isSome
  | _ => id ∈ s.processedEvents

/-- Execute an operation. -/
def WebhookOp.exec : (o : WebhookOp) → WebhookState → Except Exn o.Ans × WebhookState
  | .tryRecordStripeEvent eventId eventType, s =>
    match PostgresKeyStore.tryRecordStripeEvent s.stripeEvents eventId eventType with
    | (.error e, _) => (.error e.exn, s)
    | (.ok first, events) => (.ok first, { s with stripeEvents := events })
  | .rememberEvent eventId, s =>
    if eventId ∈ s.processedEvents then (.ok false, s)
    else (.ok true, { s with processedEvents := insert eventId s.processedEvents })
  | .mutate m, s =>
    match m.exec s.apiKeys with
    | .error e => (.error e.exn, s)
    | .ok keys => (.ok (), { s with apiKeys := keys })

/-- A request, and the database failures that its calls of the key store meet. -/
structure Delivery where
  request : WebhookRequest
  recordFails : Option Exn
  mutationFails : Option Exn

/-- The call of the key store as it goes in this delivery. -/
def Delivery.mutate (d : Delivery) (m : Mutation) (keys : ApiKeys) : Except Exn ApiKeys :=
  match d.mutationFails with
  | some e => .error e
  | none =>
    match m.exec keys with
    | .error e => .error e.exn
    | .ok keys => .ok keys

/-- The shared state, and the call of this delivery that has been applied. -/
structure DeliveryState where
  shared : WebhookState
  applied : Option Mutation

/-- Answer the operations of a delivery. -/
def deliveryHandler (d : Delivery) :
    (o : WebhookOp) → DeliveryState → Except Exn o.Ans × DeliveryState
  | .tryRecordStripeEvent eventId eventType, s =>
    match d.recordFails with
    | some e => (.error e, s)
    | none => (((WebhookOp.tryRecordStripeEvent eventId eventType).exec s.shared).1,
        { s with shared := ((WebhookOp.tryRecordStripeEvent eventId eventType).exec s.shared).2 })
  | .rememberEvent eventId, s =>
    (((WebhookOp.rememberEvent eventId).exec s.shared).1,
      { s with shared := ((WebhookOp.rememberEvent eventId).exec s.shared).2 })
  | .mutate m, s =>
    match d.mutate m s.shared.apiKeys with
    | .error e => (.error e, s)
    | .ok keys => (.ok (), ⟨{ s.shared with apiKeys := keys }, some m⟩)

/-- What a delivery is answered, and the call it has applied. -/
structure DeliveryOutcome where
  reply : Except Exn WebhookReply
  applied : Option Mutation
  deriving DecidableEq

/-- One delivery after another. -/
def deliver (app : WebhookApp) (s : WebhookState) (d : Delivery) : DeliveryOutcome × WebhookState :=
  let (r, t) := Prog.run (deliveryHandler d) (stripeWebhook app d.request) ⟨s, none⟩
  (⟨r, t.applied⟩, t.shared)

/-! ### What a delivery does -/

section Spec

variable {app : WebhookApp} {event : StripeEvent} {id : String} (d : Delivery)

/-- In this delivery the record of an id does not raise: only the statement of a recording store
could. -/
def Delivery.RecordHolds (app : WebhookApp) (event : StripeEvent) (id : String) : Prop :=
  app.keyStore = some .recording →
    d.recordFails = none ∧ PostgresKeyStore.checkParams [some id, some event.type] = .ok ()

/-- The record of an id: refused, found, or made; it is refused only if it raises. -/
inductive RecordCase (app : WebhookApp) (id : String) (holds : Prop) (s : WebhookState) :
    Except Exn Bool → WebhookState → Prop where
  | refused (e : Exn) (h : ¬ holds) : RecordCase app id holds s (.error e) s
  | found (h : s.Recorded app id) : RecordCase app id holds s (.ok false) s
  | made {s' : WebhookState} (h : holds) (hnew : ¬ s.Recorded app id)
      (hkeys : s'.apiKeys = s.apiKeys)
      (hrec : ∀ j, s'.Recorded app j ↔ j = id ∨ s.Recorded app j) :
      RecordCase app id holds s (.ok true) s'

/-- The statement of a recording store is refused only for its parameters. -/
theorem recordCase_tryRecord (hk : app.keyStore = some .recording) (id type : String)
    (s : WebhookState) :
    RecordCase app id (PostgresKeyStore.checkParams [some id, some type] = .ok ()) s
      ((WebhookOp.tryRecordStripeEvent id type).exec s).1
      ((WebhookOp.tryRecordStripeEvent id type).exec s).2 := by
  have hrec (s : WebhookState) (j : String) :
      s.Recorded app j ↔ (s.stripeEvents.get? j).isSome := by
    rw [WebhookState.Recorded, hk]
  dsimp only [WebhookOp.exec, PostgresKeyStore.tryRecordStripeEvent]
  cases hparams : PostgresKeyStore.checkParams [some id, some type] with
  | error e => exact .refused _ fun h ↦ nomatch h
  | ok u =>
    by_cases hsome : (s.stripeEvents.get? id).isSome
    · simp only [hsome, if_true]
      exact .found ((hrec _ _).mpr hsome)
    · simp only [hsome]
      refine .made trivial (fun h ↦ hsome ((hrec _ _).mp h)) rfl ?_
      intro j
      rw [hrec, hrec]
      change ((s.stripeEvents.set id type).get? j).isSome ↔ _
      rw [Dict.get?_set]
      split
      · next he => simp [he]
      · next he => simp [Ne.symm he]

/-- The set refuses nothing. -/
theorem recordCase_remember (hk : app.keyStore ≠ some .recording) (id : String)
    (s : WebhookState) :
    RecordCase app id True s ((WebhookOp.rememberEvent id).exec s).1
      ((WebhookOp.rememberEvent id).exec s).2 := by
  have hrec (s : WebhookState) (j : String) : s.Recorded app j ↔ j ∈ s.processedEvents := by
    unfold WebhookState.Recorded
    split
    · next h => exact absurd h hk
    · rfl
  unfold WebhookOp.exec
  dsimp only
  split
  · next h => exact .found ((hrec _ _).mpr h)
  · next h =>
    refine .made trivial (fun h' ↦ h ((hrec _ _).mp h')) rfl ?_
    intro j
    rw [hrec, hrec, Finset.mem_insert]

/-- A record leaves the table, and keeps what is recorded. -/
theorem RecordCase.keeps {holds : Prop} {s s' : WebhookState} {r : Except Exn Bool}
    (h : RecordCase app id holds s r s') :
    s'.apiKeys = s.apiKeys ∧ ∀ j, s.Recorded app j → s'.Recorded app j := by
  cases h with
  | refused e _ => exact ⟨rfl, fun _ hj ↦ hj⟩
  | found _ => exact ⟨rfl, fun _ hj ↦ hj⟩
  | made _ _ hkeys hrec => exact ⟨hkeys, fun j hj ↦ (hrec j).mpr (Or.inr hj)⟩

/-- An id that is told to be new was not recorded, and is from then on. -/
theorem RecordCase.of_true {holds : Prop} {s s' : WebhookState}
    (h : RecordCase app id holds s (.ok true) s') :
    ¬ s.Recorded app id ∧ ∀ j, s'.Recorded app j ↔ j = id ∨ s.Recorded app j := by
  cases h with
  | made _ hnew _ hrec => exact ⟨hnew, hrec⟩

private theorem RecordCase.congr {holds holds' : Prop} {s s' : WebhookState}
    {r : Except Exn Bool} (h : RecordCase app id holds s r s') (hiff : holds ↔ holds') :
    RecordCase app id holds' s r s' := propext hiff ▸ h

/-- An event with an id is looked up and recorded, with either store. -/
theorem run_recordEventOnce (hid : event.id = some id) (hne : id ≠ "") (s : DeliveryState) :
    ∃ r s', Prog.run (deliveryHandler d) (recordEventOnce app event) s = (r, ⟨s', s.applied⟩) ∧
      RecordCase app id (d.RecordHolds app event id) s.shared r s' := by
  obtain ⟨htruthy, hget⟩ := given_of_eq_some hid hne
  unfold recordEventOnce
  rw [htruthy, if_neg (by decide), hget]
  split
  · next hk =>
    rw [Prog.run_perform]
    dsimp only [deliveryHandler]
    cases hd : d.recordFails with
    | some e =>
      refine ⟨_, _, rfl, .refused e fun h ↦ ?_⟩
      rw [(h hk).1] at hd
      cases hd
    | none =>
      refine ⟨_, _, rfl, (recordCase_tryRecord hk _ _ s.shared).congr ?_⟩
      exact ⟨fun h _ ↦ ⟨hd, h⟩, fun h ↦ (h hk).2⟩
  · next hk =>
    rw [Prog.run_perform]
    refine ⟨_, _, rfl, (recordCase_remember hk _ s.shared).congr ?_⟩
    exact ⟨fun _ h ↦ absurd h hk, fun _ ↦ trivial⟩

/-- An event without an id is not recorded. -/
theorem run_recordEventOnce_of_no_id (hid : truthy event.id = false) (s : DeliveryState) :
    Prog.run (deliveryHandler d) (recordEventOnce app event) s = (.ok true, s) := by
  rw [recordEventOnce, hid]
  rfl

/-- Behind the record: the call that the event leads to, as it goes. -/
def Delivery.process (event : StripeEvent) (keys : ApiKeys) : DeliveryOutcome × ApiKeys :=
  match eventMutation event d.request.tokenHex with
  | .error e => (⟨.error e, none⟩, keys)
  | .ok none => (⟨.ok ⟨false⟩, none⟩, keys)
  | .ok (some m) =>
    match d.mutate m keys with
    | .error e => (⟨.error e, none⟩, keys)
    | .ok keys => (⟨.ok ⟨false⟩, some m⟩, keys)

private theorem run_processEvent (hk : app.keyStore.isSome) (s : WebhookState) :
    Prog.run (deliveryHandler d) (processEvent app event d.request.tokenHex) ⟨s, none⟩ =
      ((d.process event s.apiKeys).1.reply,
        ⟨{ s with apiKeys := (d.process event s.apiKeys).2 },
          (d.process event s.apiKeys).1.applied⟩) := by
  have hsome : app.keyStore.isNone = false := by
    rw [← Option.not_isSome, hk]
    rfl
  unfold processEvent Delivery.process
  rw [hsome, if_neg (by decide)]
  cases eventMutation event d.request.tokenHex with
  | error e => rfl
  | ok m =>
    cases m with
    | none => rfl
    | some m =>
      dsimp only
      rw [Prog.run_bind, Prog.run_perform]
      dsimp only [deliveryHandler]
      cases d.mutate m s.apiKeys with
      | error e => rfl
      | ok keys => rfl

/-- What a delivery does to the table: nothing, or the call that its event leads to. -/
inductive KeysCase (d : Delivery) (keys : ApiKeys) : Option Mutation → ApiKeys → Prop where
  | unchanged : KeysCase d keys none keys
  | applied {event : StripeEvent} {m : Mutation} {keys' : ApiKeys}
      (hc : d.request.constructed = .ok event)
      (hm : eventMutation event d.request.tokenHex = .ok (some m))
      (he : m.exec keys = .ok keys') : KeysCase d keys (some m) keys'

private theorem keysCase_process (hc : d.request.constructed = .ok event) (keys : ApiKeys) :
    KeysCase d keys (d.process event keys).1.applied (d.process event keys).2 := by
  unfold Delivery.process
  cases hm : eventMutation event d.request.tokenHex with
  | error e => exact .unchanged
  | ok m =>
    cases m with
    | none => exact .unchanged
    | some m =>
      dsimp only
      cases hgo : d.mutate m keys with
      | error e => exact .unchanged
      | ok keys' =>
        refine .applied hc hm ?_
        unfold Delivery.mutate at hgo
        split at hgo
        · cases hgo
        · split at hgo
          · cases hgo
          · next he =>
            cases hgo
            exact he

private theorem only_recordEventOnce (app : WebhookApp) (event : StripeEvent) :
    Prog.Only (fun o ↦ ∀ m, o ≠ .mutate m) (recordEventOnce app event) := by
  unfold recordEventOnce
  split
  · exact Prog.only_done _
  · split
    · exact Prog.only_perform (by simp)
    · exact Prog.only_perform (by simp)

private theorem deliveryHandler_keeps {o : WebhookOp} (ho : ∀ m, o ≠ .mutate m)
    (s : DeliveryState) : (deliveryHandler d o s).2.applied = s.applied ∧
      (deliveryHandler d o s).2.shared.apiKeys = s.shared.apiKeys := by
  cases o with
  | tryRecordStripeEvent eventId eventType =>
    unfold deliveryHandler
    split
    · exact ⟨rfl, rfl⟩
    · refine ⟨rfl, ?_⟩
      dsimp only [WebhookOp.exec]
      split <;> rfl
  | rememberEvent eventId =>
    refine ⟨rfl, ?_⟩
    dsimp only [deliveryHandler, WebhookOp.exec]
    split <;> rfl
  | mutate m => exact absurd rfl (ho m)

theorem keysCase_deliver (app : WebhookApp) (s : WebhookState) :
    KeysCase d s.apiKeys (deliver app s d).1.applied (deliver app s d).2.apiKeys := by
  unfold deliver stripeWebhook
  by_cases hs : app.webhookSecret = ""
  · rw [if_pos hs]
    exact .unchanged
  · rw [if_neg hs]
    cases hc : d.request.constructed with
    | error e => cases e <;> exact .unchanged
    | ok event =>
      dsimp only
      have hkept := (only_recordEventOnce app event).run_keeps (h := deliveryHandler d)
        (P := fun t ↦ t.applied = none ∧ t.shared.apiKeys = s.apiKeys)
        (fun o t ho ht ↦ ⟨(deliveryHandler_keeps d ho t).1.trans ht.1,
          (deliveryHandler_keeps d ho t).2.trans ht.2⟩) (s := ⟨s, none⟩) ⟨rfl, rfl⟩
      rw [Prog.run_bind]
      generalize Prog.run (deliveryHandler d) (recordEventOnce app event) ⟨s, none⟩ = out at hkept ⊢
      obtain ⟨r, s', applied⟩ := out
      obtain ⟨rfl, hkeys⟩ := hkept
      dsimp only at hkeys
      rw [← hkeys]
      rcases r with _ | _ | _
      · exact .unchanged
      · exact .unchanged
      · dsimp only
        rw [Bool.not_true, if_neg Bool.false_ne_true]
        by_cases hk : app.keyStore.isSome
        · rw [run_processEvent d hk]
          exact keysCase_process d hc s'.apiKeys
        · rw [processEvent, if_pos (by simpa using hk)]
          exact .unchanged

/-- A delivery of an event with an id: refused without effect, answered as a duplicate, or the
one that records the id and goes on. -/
inductive DeliverCase (app : WebhookApp) (event : StripeEvent) (id : String) (d : Delivery)
    (s : WebhookState) : DeliveryOutcome → WebhookState → Prop where
  | refused (e : Exn) (h : ¬ (app.webhookSecret ≠ "" ∧ d.RecordHolds app event id)) :
      DeliverCase app event id d s ⟨.error e, none⟩ s
  | duplicate (h : s.Recorded app id) : DeliverCase app event id d s ⟨.ok ⟨true⟩, none⟩ s
  | first {s' : WebhookState} (hs : app.webhookSecret ≠ "") (hd : d.RecordHolds app event id)
      (hnew : ¬ s.Recorded app id) (hkeys : s'.apiKeys = (d.process event s.apiKeys).2)
      (hrec : ∀ j, s'.Recorded app j ↔ j = id ∨ s.Recorded app j) :
      DeliverCase app event id d s (d.process event s.apiKeys).1 s'

/-- A delivery brings an event with an id. -/
def Delivery.Brings (event : StripeEvent) (id : String) : Prop :=
  d.request.constructed = .ok event ∧ event.id = some id ∧ id ≠ ""

variable {d} in
theorem deliver_case (hk : app.keyStore.isSome) (hb : d.Brings event id) (s : WebhookState) :
    DeliverCase app event id d s (deliver app s d).1 (deliver app s d).2 := by
  obtain ⟨hc, hid, hne⟩ := hb
  unfold deliver stripeWebhook
  by_cases hs : app.webhookSecret = ""
  · rw [if_pos hs]
    exact .refused _ fun h ↦ h.1 hs
  · rw [if_neg hs, hc]
    dsimp only
    obtain ⟨r, s', hrun, hcase⟩ := run_recordEventOnce d hid hne ⟨s, none⟩
    rw [Prog.run_bind, hrun]
    cases hcase with
    | refused e h => exact .refused e fun h' ↦ h h'.2
    | found h => exact .duplicate h
    | made hd hnew hkeys hrec =>
      dsimp only
      rw [Bool.not_true, if_neg (by decide), run_processEvent d hk]
      dsimp only at hkeys hrec
      rw [hkeys]
      exact .first hs hd hnew rfl hrec

private theorem recorded_deliver_of_no_id (hk : app.keyStore.isSome)
    (hno : ∀ event, d.request.constructed = .ok event → truthy event.id = false)
    (s : WebhookState) (j : String) :
    (deliver app s d).2.Recorded app j ↔ s.Recorded app j := by
  unfold deliver stripeWebhook
  by_cases hs : app.webhookSecret = ""
  · rw [if_pos hs]
    rfl
  · rw [if_neg hs]
    cases hc : d.request.constructed with
    | error e => cases e <;> rfl
    | ok event =>
      dsimp only
      rw [Prog.run_bind, run_recordEventOnce_of_no_id d (hno event hc)]
      dsimp only
      rw [Bool.not_true, if_neg (by decide), run_processEvent d hk]
      rfl

/-- The id of the event of a delivery gets recorded: there is a secret, the id is new, and its
record does not raise. -/
structure Delivery.Records (app : WebhookApp) (s : WebhookState) (event : StripeEvent)
    (id : String) : Prop where
  secret : app.webhookSecret ≠ ""
  fresh : ¬ s.Recorded app id
  holds : d.RecordHolds app event id

/-- A delivery records nothing, or the id of the event it brings. -/
theorem recorded_deliver (hk : app.keyStore.isSome) (s : WebhookState) :
    (∀ j, (deliver app s d).2.Recorded app j ↔ s.Recorded app j) ∨
    ∃ event id, d.Brings event id ∧ d.Records app s event id ∧
      ∀ j, (deliver app s d).2.Recorded app j ↔ j = id ∨ s.Recorded app j := by
  by_cases hb : ∃ event id, d.Brings event id
  · obtain ⟨event, id, hb⟩ := hb
    have hcase := deliver_case hk hb s
    generalize (deliver app s d).1 = out at hcase
    generalize (deliver app s d).2 = s' at hcase ⊢
    cases hcase with
    | refused e h => exact Or.inl fun _ ↦ Iff.rfl
    | duplicate h => exact Or.inl fun _ ↦ Iff.rfl
    | first hs hd hnew _ hrec => exact Or.inr ⟨event, id, hb, ⟨hs, hnew, hd⟩, hrec⟩
  · refine Or.inl fun j ↦ recorded_deliver_of_no_id d hk ?_ s j
    intro event hc
    cases hid : event.id with
    | none => rfl
    | some id =>
      by_cases hne : id = ""
      · subst hne
        rfl
      · exact absurd ⟨event, id, hc, hid, hne⟩ hb

end Spec

end AsbCloudApi.Routes
