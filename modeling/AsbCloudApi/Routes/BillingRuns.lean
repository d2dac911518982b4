import AsbCloudApi.Base.Run
import AsbCloudApi.Routes.Webhooks

/-!
# What runs of deliveries leave in the table

Library `Routes`. The table after any deliveries is what the applied calls have made of it. A
cancelled subscription stays on the free tier until its key is upgraded, with the status that the
latest event for its customer gave it.
-/

namespace AsbCloudApi.Routes

open Base Api Db PostgresKeyStore

/-- What a call makes of the row of a key. -/
def Mutation.rowAfter (keys : ApiKeys) (k : String) : Mutation → ApiKeyRow → ApiKeyRow
  | .upgradeTier keyId tier sub customer, row =>
    if k = keyId then upgradedRow tier sub customer row else row
  | .addLicense ident licenseType raw, row =>
    if licenseTarget keys ident = some k then licensedRow licenseType raw row else row
  | .updateSubscriptionStatus customerId status, row =>
    if customerId.isSome ∧ row.stripeCustomerId = customerId then
      { row with subscriptionStatus := status }
    else row
  | .downgradeToFree customerId, row =>
    if customerId.isSome ∧ row.stripeCustomerId = customerId then freeRow row else row

theorem eq_of_exec {m : Mutation} {keys keys' : ApiKeys} (h : m.exec keys = .ok keys') :
    keys' = keys.mapValues (m.rowAfter keys) := by
  cases m with
  | upgradeTier keyId tier sub customer => exact eq_of_upgradeTier h
  | addLicense ident licenseType raw => exact eq_of_addLicense h
  | updateSubscriptionStatus customerId status => exact eq_of_updateSubscriptionStatus h
  | downgradeToFree customerId => exact eq_of_downgradeToFree h

theorem get?_exec {m : Mutation} {keys keys' : ApiKeys} (h : m.exec keys = .ok keys')
    (k : String) : keys'.get? k = (keys.get? k).map (m.rowAfter keys k) := by
  rw [eq_of_exec h]
  exact Dict.get?_mapValues _ _ _

section Run

variable (app : WebhookApp)

/-- The calls that the deliveries have applied, in order. -/
def appliedCalls (s : WebhookState) (ds : List Delivery) : List Mutation :=
  (outputs (deliver app) s ds).filterMap DeliveryOutcome.applied

theorem appliedCalls_append (s : WebhookState) (ds es : List Delivery) :
    appliedCalls app s (ds ++ es) =
      appliedCalls app s ds ++ appliedCalls app (final (deliver app) s ds) es := by
  unfold appliedCalls
  rw [outputs_append, List.filterMap_append]

theorem appliedCalls_singleton (s : WebhookState) (d : Delivery) :
    appliedCalls app s [d] = (deliver app s d).1.applied.toList := by
  unfold appliedCalls
  cases h : (deliver app s d).1.applied <;> simp [h]

variable {app}

/-- What every call preserves holds of the table after any deliveries. -/
theorem table_induction {P : List Mutation → ApiKeys → Prop}
    (hstep : ∀ ms keys m keys', P ms keys → m.exec keys = .ok keys' → P (ms ++ [m]) keys')
    {s : WebhookState} (h : P [] s.apiKeys) (ds : List Delivery) :
    P (appliedCalls app s ds) (final (deliver app) s ds).apiKeys := by
  induction ds using List.reverseRecOn with
  | nil => exact h
  | append_singleton ds d ih =>
    rw [appliedCalls_append, appliedCalls_singleton, final_append]
    have hcase := keysCase_deliver d app (final (deliver app) s ds)
    change P _ (deliver app (final (deliver app) s ds) d).2.apiKeys
    generalize (deliver app (final (deliver app) s ds) d).1.applied = applied at hcase ⊢
    generalize (deliver app (final (deliver app) s ds) d).2.apiKeys = keys' at hcase ⊢
    cases hcase with
    | unchanged =>
      rw [Option.toList_none, List.append_nil]
      exact ih
    | applied hc hm he => exact hstep _ _ _ _ ih he

/-- An applied call is the one that the event of some delivery leads to. -/
theorem mem_appliedCalls {s : WebhookState} {ds : List Delivery} {m : Mutation}
    (h : m ∈ appliedCalls app s ds) : ∃ d ∈ ds, ∃ event, d.request.constructed = .ok event ∧
      MutationCase event d.request.tokenHex m := by
  induction ds using List.reverseRecOn with
  | nil => cases h
  | append_singleton ds d ih =>
    rw [appliedCalls_append, appliedCalls_singleton, List.mem_append] at h
    rcases h with hbefore | hlast
    · obtain ⟨d', hd', hevent⟩ := ih hbefore
      exact ⟨d', List.mem_append_left _ hd', hevent⟩
    · have hcase := keysCase_deliver d app (final (deliver app) s ds)
      rw [Option.mem_toList.mp hlast] at hcase
      cases hcase with
      | applied hc hm he =>
        exact ⟨d, List.mem_append_right _ List.mem_cons_self, _, hc,
          mutationCase_of_eventMutation hm⟩

end Run

/-! ### Cancelled subscriptions -/

/-- The status that a call gives to the rows of a customer. -/
def Mutation.statusFor (c : String) : Mutation → Option (Option String)
  | .upgradeTier _ _ _ _ => none
  | .addLicense _ _ _ => none
  | .updateSubscriptionStatus customerId status => if customerId = some c then some status else none
  | .downgradeToFree customerId => if customerId = some c then some (some "canceled") else none

/-- The status after a cancellation and further calls. -/
def lastStatus (c : String) (ms : List Mutation) : Option String :=
  ms.foldl (fun status m ↦ (m.statusFor c).getD status) (some "canceled")

/-- No call upgrades the key. -/
def NotUpgraded (k : String) (ms : List Mutation) : Prop :=
  ∀ m ∈ ms, ∀ tier sub customer, m ≠ .upgradeTier k tier sub customer

/-- If the row of the key belongs to the customer, it has neither a tier nor a subscription, and
the status given. -/
def Canceled (k c : String) (status : Option String) (keys : ApiKeys) : Prop :=
  ∀ row, keys.get? k = some row → row.stripeCustomerId = some c →
    row.tier = "free" ∧ row.stripeSubscriptionId = none ∧ row.subscriptionStatus = status

/-- A row of the customer is one of those that a call for a customer concerns exactly if the call
is for this one. -/
private theorem concerns_iff {customerId : Option String} {c : String} {row : ApiKeyRow}
    (h : row.stripeCustomerId = some c) :
    (customerId.isSome ∧ row.stripeCustomerId = customerId) ↔ customerId = some c := by
  rw [h]
  constructor
  · exact fun hc ↦ hc.2.symm
  · rintro rfl
    exact ⟨rfl, rfl⟩

private theorem ne_of_notUpgraded {k keyId tier : String} {sub customer : Option String}
    (hno : ∀ t s c, Mutation.upgradeTier keyId tier sub customer ≠ .upgradeTier k t s c) :
    k ≠ keyId := by
  rintro rfl
  exact hno tier sub customer rfl

/-- The customer of a row changes only where its key is upgraded. -/
theorem stripeCustomerId_rowAfter {m : Mutation} {k : String}
    (hno : ∀ tier sub customer, m ≠ .upgradeTier k tier sub customer) (keys : ApiKeys)
    (row : ApiKeyRow) : (m.rowAfter keys k row).stripeCustomerId = row.stripeCustomerId := by
  cases m with
  | upgradeTier keyId tier sub customer =>
    rw [Mutation.rowAfter, if_neg (ne_of_notUpgraded hno)]
  | addLicense ident licenseType raw =>
    dsimp only [Mutation.rowAfter]
    split <;> rfl
  | updateSubscriptionStatus customerId status =>
    dsimp only [Mutation.rowAfter]
    split <;> rfl
  | downgradeToFree customerId =>
    dsimp only [Mutation.rowAfter]
    split <;> rfl

/-- A call that does not upgrade the key leaves a cancelled row so, with the status it gives. -/
theorem Canceled.exec {k c : String} {status : Option String} {keys keys' : ApiKeys}
    (h : Canceled k c status keys) {m : Mutation} (hexec : m.exec keys = .ok keys')
    (hno : ∀ tier sub customer, m ≠ .upgradeTier k tier sub customer) :
    Canceled k c ((m.statusFor c).getD status) keys' := by
  intro row' hrow' hcust
  rw [get?_exec hexec, Option.map_eq_some_iff] at hrow'
  obtain ⟨row, hrow, rfl⟩ := hrow'
  rw [stripeCustomerId_rowAfter hno] at hcust
  have hold := h row hrow hcust
  cases m with
  | upgradeTier keyId tier sub customer =>
    rw [Mutation.rowAfter, if_neg (ne_of_notUpgraded hno)]
    exact hold
  | addLicense ident licenseType raw =>
    dsimp only [Mutation.rowAfter]
    split
    · exact hold
    · exact hold
  | updateSubscriptionStatus customerId status' =>
    simp only [Mutation.rowAfter, Mutation.statusFor, concerns_iff hcust]
    split
    · exact ⟨hold.1, hold.2.1, rfl⟩
    · exact hold
  | downgradeToFree customerId =>
    simp only [Mutation.rowAfter, Mutation.statusFor, concerns_iff hcust]
    split
    · exact ⟨rfl, rfl, rfl⟩
    · exact hold

/-- A cancellation. -/
theorem canceled_downgradeToFree {c : String} {keys keys' : ApiKeys}
    (h : (Mutation.downgradeToFree (some c)).exec keys = .ok keys') (k : String) :
    Canceled k c (some "canceled") keys' := by
  intro row' hrow' hcust
  rw [get?_exec h, Option.map_eq_some_iff] at hrow'
  obtain ⟨row, hrow, rfl⟩ := hrow'
  rw [stripeCustomerId_rowAfter (by simp)] at hcust
  rw [Mutation.rowAfter, if_pos ((concerns_iff hcust).mpr rfl)]
  exact ⟨rfl, rfl, rfl⟩

theorem lastStatus_concat (c : String) (ms : List Mutation) (m : Mutation) :
    lastStatus c (ms ++ [m]) = (m.statusFor c).getD (lastStatus c ms) := List.foldl_concat _ _ _ _

/-- A status after a cancellation comes from a later call, unless it is `canceled`. -/
private theorem lastStatus_eq (c : String) (ms : List Mutation) :
    lastStatus c ms = some "canceled" ∨ ∃ m ∈ ms, m.statusFor c = some (lastStatus c ms) := by
  induction ms using List.reverseRecOn with
  | nil => exact Or.inl rfl
  | append_singleton ms m ih =>
    rw [lastStatus_concat]
    cases hm : m.statusFor c with
    | some status =>
      right
      exact ⟨m, List.mem_append_right _ List.mem_cons_self, hm⟩
    | none =>
      rw [Option.getD_none]
      rcases ih with hcanceled | ⟨m', hm', hstatus⟩
      · exact Or.inl hcanceled
      · exact Or.inr ⟨m', List.mem_append_left _ hm', hstatus⟩

/-- The event says that a subscription of the customer is active. -/
def StripeEvent.Activates (event : StripeEvent) (c : String) : Prop :=
  event.object.index "customer" = .ok (some c) ∧ (event.type = "invoice.paid" ∨
    event.type = "customer.subscription.updated" ∧
      event.object.index "status" = .ok (some "active"))

/-- Only such an event gives the status `active`. -/
theorem activates_of_statusFor {event : StripeEvent} {hex c : String} {m : Mutation}
    (hm : MutationCase event hex m) (h : m.statusFor c = some (some "active")) :
    event.Activates c := by
  cases hm with
  | upgraded htype => cases h
  | sold htype => cases h
  | updated htype hc hs =>
    dsimp only [Mutation.statusFor] at h
    split at h
    · next hcust =>
      obtain rfl := Option.some.inj h
      exact ⟨hcust ▸ hc, Or.inr ⟨htype, hs⟩⟩
    · cases h
  | deleted htype hc =>
    dsimp only [Mutation.statusFor] at h
    split at h
    · simp at h
    · cases h
  | paymentFailed htype hc =>
    dsimp only [Mutation.statusFor] at h
    split at h
    · simp at h
    · cases h
  | paid htype hc =>
    dsimp only [Mutation.statusFor] at h
    split at h
    · next hcust => exact ⟨hcust ▸ hc, Or.inl htype⟩
    · cases h

/-- After a subscription is cancelled and until its key is upgraded, the row of the key is free and
without a subscription, and has the status that the latest event for the customer gave it: it is
`active` only if such an event has said so. -/
theorem canceled_until_upgraded {app : WebhookApp} {s : WebhookState} {d : Delivery}
    {es : List Delivery} {c k : String}
    (hdel : (deliver app s d).1.applied = some (.downgradeToFree (some c)))
    (hno : NotUpgraded k (appliedCalls app (deliver app s d).2 es)) :
    Canceled k c (lastStatus c (appliedCalls app (deliver app s d).2 es))
        (final (deliver app) s (d :: es)).apiKeys ∧
      (lastStatus c (appliedCalls app (deliver app s d).2 es) = some "active" →
        ∃ d' ∈ es, ∃ event, d'.request.constructed = .ok event ∧ event.Activates c) := by
  have hstart : Canceled k c (some "canceled") (deliver app s d).2.apiKeys := by
    have hcase := keysCase_deliver d app s
    rw [hdel] at hcase
    cases hcase with
    | applied hc hm he => exact canceled_downgradeToFree he k
  rw [final_cons]
  generalize (deliver app s d).2 = s' at hno hstart ⊢
  constructor
  · revert hno
    apply table_induction (P := fun ms keys ↦
      NotUpgraded k ms → Canceled k c (lastStatus c ms) keys) ?_ (fun _ ↦ hstart)
    intro ms keys m keys' hms hexec hno
    have hcanceled := hms fun m' hm' ↦ hno m' (List.mem_append_left _ hm')
    rw [lastStatus_concat]
    exact hcanceled.exec hexec (hno m (List.mem_append_right _ List.mem_cons_self))
  · intro hactive
    rcases lastStatus_eq c (appliedCalls app s' es) with hcanceled | ⟨m, hm, hstatus⟩
    · rw [hactive] at hcanceled
      simp at hcanceled
    · obtain ⟨d', hd', event, hc, hcase⟩ := mem_appliedCalls hm
      rw [hactive] at hstatus
      exact ⟨d', hd', event, hc, activates_of_statusFor hcase hstatus⟩

private def stripeApp : WebhookApp := ⟨"whsec_test", some .recording⟩

private def proRow : ApiKeyRow :=
  ⟨"pro", none, 0, false, some "cus_1", some "sub_1", some "active", none, none⟩

private def proState : WebhookState := ⟨Dict.ofList [("key_1", proRow)], Dict.empty, ∅⟩

/-- An event for the customer of the key. -/
private def customerDelivery (id type : String) : Delivery :=
  ⟨⟨.ok ⟨some id, type, ⟨none, Dict.ofList [("customer", some "cus_1")]⟩⟩, ""⟩, none, none⟩

private theorem deletion_applied :
    (deliver stripeApp proState
      (customerDelivery "evt_1" "customer.subscription.deleted")).1.applied =
        some (.downgradeToFree (some "cus_1")) := by
  decide +kernel

private theorem invoice_applied (type status : String)
    (h : (type, status) ∈ [("invoice.payment_failed", "past_due"), ("invoice.paid", "active")]) :
    appliedCalls stripeApp (deliver stripeApp proState
      (customerDelivery "evt_1" "customer.subscription.deleted")).2
        [customerDelivery "evt_2" type] =
          [.updateSubscriptionStatus (some "cus_1") (some status)] := by
  simp only [List.mem_cons, List.not_mem_nil, or_false, Prod.mk.injEq] at h
  rcases h with ⟨rfl, rfl⟩ | ⟨rfl, rfl⟩ <;> decide +kernel

/-- A subscription is cancelled, and an invoice fails afterwards. -/
theorem canceled_until_upgraded_sample : Canceled "key_1" "cus_1" (some "past_due")
    (final (deliver stripeApp) proState
      [customerDelivery "evt_1" "customer.subscription.deleted",
        customerDelivery "evt_2" "invoice.payment_failed"]).apiKeys := by
  have hcalls := invoice_applied "invoice.payment_failed" "past_due" (by simp)
  have hno : NotUpgraded "key_1" (appliedCalls stripeApp (deliver stripeApp proState
      (customerDelivery "evt_1" "customer.subscription.deleted")).2
        [customerDelivery "evt_2" "invoice.payment_failed"]) := by
    rw [hcalls]
    simp [NotUpgraded]
  have hcanceled := (canceled_until_upgraded deletion_applied hno).1
  rw [hcalls] at hcanceled
  exact hcanceled

/-- A cancelled subscription does not stay so: an invoice is paid afterwards, and the status is
`active`. -/
theorem not_canceled_until_upgraded : ¬ ∀ (app : WebhookApp) (s : WebhookState) (d : Delivery)
    (es : List Delivery) (c k : String),
    (deliver app s d).1.applied = some (.downgradeToFree (some c)) →
    NotUpgraded k (appliedCalls app (deliver app s d).2 es) →
    ∀ row, (final (deliver app) s (d :: es)).apiKeys.get? k = some row →
      row.stripeCustomerId = some c →
        row.tier = "free" ∧ row.subscriptionStatus ≠ some "active" := by
  intro h
  have hrow : (final (deliver stripeApp) proState
      [customerDelivery "evt_1" "customer.subscription.deleted",
        customerDelivery "evt_2" "invoice.paid"]).apiKeys.get? "key_1" =
      some { proRow with
        tier := "free", stripeSubscriptionId := none, subscriptionStatus := some "active" } := by
    decide +kernel
  refine (h stripeApp proState _ _ "cus_1" "key_1" deletion_applied ?_ _ hrow rfl).2 rfl
  rw [invoice_applied "invoice.paid" "active" (by simp)]
  simp [NotUpgraded]

end AsbCloudApi.Routes
