import AsbCloudApi.Base.Run
import AsbCloudApi.Routes.Webhooks

/-!
# Retried webhook deliveries

Library `Routes`. An event is recorded before its call of the key store. If that call raises, the
delivery fails, Stripe delivers the event again, and the record makes it a duplicate: the update
is lost exactly if the call raises in the delivery that records the event.
-/

namespace AsbCloudApi.Routes

open Base Api Db Session

section Retries

variable (app : WebhookApp) (s : WebhookState) (ds : List Delivery)

/-- What is answered to the `n`-th delivery. -/
def outcomeAt (n : Nat) (d : Delivery) : DeliveryOutcome :=
  (deliver app (before (deliver app) s ds n) d).1

/-- The call that the event leads to has been applied by a delivery of it. -/
def AppliedBy (event : StripeEvent) (n : Nat) : Prop :=
  ∃ k ≤ n, ∃ d, ds[k]? = some d ∧ d.request.constructed = .ok event ∧
    ∃ m, eventMutation event d.request.tokenHex = .ok (some m) ∧
      (outcomeAt app s ds k d).applied = some m

/-- Whenever an event with an id is answered with success, its call has been applied. -/
def NoUpdateLost : Prop :=
  ∀ n d event id, ds[n]? = some d → d.Brings event id →
    (∃ reply, (outcomeAt app s ds n d).reply = .ok reply) →
    (∃ m, eventMutation event d.request.tokenHex = .ok (some m)) → AppliedBy app s ds event n

/-- Where a delivery records its event, the call of the key store does not raise. -/
def CallsHold : Prop :=
  ∀ (n : Nat) (d : Delivery) event id m, ds[n]? = some d → d.Brings event id →
    d.Records app (before (deliver app) s ds n) event id →
    eventMutation event d.request.tokenHex = .ok (some m) →
    ∃ keys, d.mutate m (before (deliver app) s ds n).apiKeys = .ok keys

/-- No event of the sequence was recorded before it. -/
def Unrecorded : Prop :=
  ∀ d ∈ ds, ∀ event id, d.Brings event id → ¬ s.Recorded app id

/-- An id names one event. -/
def IdsIdentify : Prop :=
  ∀ d ∈ ds, ∀ d' ∈ ds, ∀ event event' id, d.Brings event id → d'.Brings event' id → event = event'

/-- An event is delivered again after a failure, until it is answered with success. -/
def Redelivered : Prop :=
  ∀ n d event id, ds[n]? = some d → d.Brings event id →
    (∃ e, (outcomeAt app s ds n d).reply = .error e) →
    ∃ k d', n < k ∧ ds[k]? = some d' ∧ d'.request.constructed = .ok event ∧
      ∃ reply, (outcomeAt app s ds k d').reply = .ok reply

variable {app s ds}

/-- Whether an event calls for a change does not depend on the digits drawn. -/
theorem eventMutation_some {event : StripeEvent} {hex : String} {m : Mutation}
    (h : eventMutation event hex = .ok (some m)) (hex' : String) :
    ∃ m', eventMutation event hex' = .ok (some m') := by
  unfold eventMutation at h ⊢
  split
  · next hcheckout =>
    rw [if_pos hcheckout] at h
    unfold checkoutMutation at h ⊢
    cases hmeta : event.object.indexMetadata with
    | error e =>
      rw [hmeta] at h
      cases h
    | ok metadata =>
      rw [hmeta] at h
      simp only [bind, Except.bind] at h ⊢
      split
      · exact ⟨_, rfl⟩
      · next hsub =>
        rw [if_neg hsub] at h
        split
        · next hlic =>
          rw [if_pos hlic] at h
          split
          · exact ⟨_, rfl⟩
          · next hident =>
            rw [if_neg hident] at h
            cases h
        · next hlic =>
          rw [if_neg hlic] at h
          cases h
  · next hcheckout =>
    rw [if_neg hcheckout] at h
    exact ⟨m, h⟩

variable (hk : app.keyStore.isSome)
include hk

/-- An id that is new in the record comes with the event of the delivery. -/
private theorem records_of_recorded {s : WebhookState} {d : Delivery} {id : String}
    (hnew : ¬ s.Recorded app id) (hrec : (deliver app s d).2.Recorded app id) :
    ∃ event, d.Brings event id ∧ d.Records app s event id := by
  rcases recorded_deliver d hk s with hsame | ⟨event, i, hb, hr, hall⟩
  · exact absurd ((hsame id).mp hrec) hnew
  · rcases (hall id).mp hrec with rfl | hold
    · exact ⟨event, hb, hr⟩
    · exact absurd hold hnew

private theorem recorded_mono {id : String} (s : WebhookState) (d : Delivery)
    (h : s.Recorded app id) : (deliver app s d).2.Recorded app id := by
  rcases recorded_deliver d hk s with hsame | ⟨event, i, hb, -, hall⟩
  · exact (hsame id).mpr h
  · exact (hall id).mpr (Or.inr h)

/-- Where an event is recorded, its id is in the record afterwards, and the outcome is that of the
call it leads to. -/
private theorem deliver_of_records {s : WebhookState} {d : Delivery} {event : StripeEvent}
    {id : String} (hb : d.Brings event id) (h : d.Records app s event id) :
    (deliver app s d).1 = (d.process event s.apiKeys).1 ∧
      (deliver app s d).2.Recorded app id := by
  have hcase := deliver_case hk hb s
  generalize (deliver app s d).1 = out at hcase ⊢
  generalize (deliver app s d).2 = s' at hcase ⊢
  cases hcase with
  | refused e hno => exact absurd ⟨h.secret, h.holds⟩ hno
  | duplicate hold => exact absurd hold h.fresh
  | first _ _ _ _ hall => exact ⟨rfl, (hall id).mpr (Or.inl rfl)⟩

/-- An event that is answered with success has been recorded by then. -/
private theorem exists_records {n : Nat} {d : Delivery} {event : StripeEvent} {id : String}
    (hnew : ¬ s.Recorded app id) (hd : ds[n]? = some d) (hb : d.Brings event id)
    {reply : WebhookReply} (hreply : (outcomeAt app s ds n d).reply = .ok reply) :
    ∃ k ≤ n, ∃ d', ds[k]? = some d' ∧ ∃ event', d'.Brings event' id ∧
      d'.Records app (before (deliver app) s ds k) event' id := by
  have hcase := deliver_case hk hb (before (deliver app) s ds n)
  unfold outcomeAt at hreply
  generalize hout : (deliver app (before (deliver app) s ds n) d).1 = out at hcase hreply
  generalize (deliver app (before (deliver app) s ds n) d).2 = s' at hcase
  cases hcase with
  | refused e hno => cases hreply
  | duplicate h =>
    obtain ⟨k, hkn, d', hd', hrec⟩ :=
      exists_step_of_before _ (P := (WebhookState.Recorded app · id)) hnew h
    exact ⟨k, by omega, d', hd', records_of_recorded hk hrec.1 hrec.2⟩
  | first hs hold hno _ _ => exact ⟨n, le_refl n, d, hd, event, hb, hs, hno, hold⟩

/-- A call is applied only where its event is recorded. -/
private theorem records_of_applied {s : WebhookState} {d : Delivery} {event : StripeEvent}
    {id : String} (hb : d.Brings event id) {m : Mutation}
    (h : (deliver app s d).1.applied = some m) : d.Records app s event id := by
  have hcase := deliver_case hk hb s
  generalize (deliver app s d).1 = out at hcase h
  generalize (deliver app s d).2 = s' at hcase
  cases hcase with
  | refused e _ => cases h
  | duplicate _ => cases h
  | first hs hold hnew _ _ => exact ⟨hs, hnew, hold⟩

/-- An id is recorded by one delivery only. -/
private theorem records_unique {i j : Nat} {d d' : Delivery} {event : StripeEvent} {id : String}
    (hi : ds[i]? = some d) (hj : ds[j]? = some d') (hb : d.Brings event id)
    (hb' : d'.Brings event id) (hri : d.Records app (before (deliver app) s ds i) event id)
    (hrj : d'.Records app (before (deliver app) s ds j) event id) : i = j := by
  have hlate {i j : Nat} {d d' : Delivery} (hi : ds[i]? = some d) (hb : d.Brings event id)
      (hri : d.Records app (before (deliver app) s ds i) event id)
      (hrj : d'.Records app (before (deliver app) s ds j) event id) : ¬ i < j := by
    intro hij
    have hafter : (before (deliver app) s ds (i + 1)).Recorded app id := by
      rw [before_succ hi]
      exact (deliver_of_records hk hb hri).2
    have hkept := before_mono _ (P := (WebhookState.Recorded app · id)) (recorded_mono hk) hij
      hafter
    exact hrj.fresh hkept
  have hij := hlate hi hb hri hrj
  have hji := hlate hj hb' hrj hri
  omega

/-- If the calls hold where events are recorded, no update is lost. -/
theorem noUpdateLost_of_callsHold (hnew : Unrecorded app s ds) (hids : IdsIdentify ds)
    (hcalls : CallsHold app s ds) : NoUpdateLost app s ds := by
  intro n d event id hd hb hreply hm
  obtain ⟨reply, hreply⟩ := hreply
  obtain ⟨m, hm⟩ := hm
  have hmem := List.mem_of_getElem? hd
  obtain ⟨k, hkn, d', hd', event', hb', hrec⟩ :=
    exists_records hk (hnew d hmem event id hb) hd hb hreply
  obtain rfl := hids d hmem d' (List.mem_of_getElem? hd') event event' id hb hb'
  obtain ⟨m', hm'⟩ := eventMutation_some hm d'.request.tokenHex
  obtain ⟨keys, hgo⟩ := hcalls k d' event id m' hd' hb' hrec hm'
  refine ⟨k, hkn, d', hd', hb'.1, m', hm', ?_⟩
  rw [outcomeAt, (deliver_of_records hk hb' hrec).1]
  simp only [Delivery.process, hm', hgo]

/-- If failed deliveries are repeated until they succeed and no update is lost, the calls hold
where events are recorded. -/
theorem callsHold_of_noUpdateLost (hre : Redelivered app s ds) (hlost : NoUpdateLost app s ds) :
    CallsHold app s ds := by
  intro n d event id m hd hb hrec hm
  cases hgo : d.mutate m (before (deliver app) s ds n).apiKeys with
  | ok keys => exact ⟨keys, rfl⟩
  | error e =>
    have hout : outcomeAt app s ds n d = ⟨.error e, none⟩ := by
      rw [outcomeAt, (deliver_of_records hk hb hrec).1]
      simp only [Delivery.process, hm, hgo]
    obtain ⟨i, d', hni, hd', hc', hreply⟩ := hre n d event id hd hb ⟨e, by rw [hout]⟩
    obtain ⟨j, -, d'', hd'', hc'', m'', -, happlied⟩ := hlost i d' event id hd' ⟨hc', hb.2⟩ hreply
      (eventMutation_some hm _)
    have hb'' : d''.Brings event id := ⟨hc'', hb.2⟩
    have hrec'' := records_of_applied hk hb'' happlied
    obtain rfl := records_unique hk hd hd'' hb hb'' hrec hrec''
    obtain rfl := Option.some.inj (hd.symm.trans hd'')
    rw [hout] at happlied
    cases happlied

omit hk in
/-- No update is lost if the calls hold in the deliveries that record their events; and with
failed deliveries repeated until they succeed, only then. -/
theorem noUpdateLost_iff_callsHold (hk : app.keyStore.isSome) (hnew : Unrecorded app s ds)
    (hids : IdsIdentify ds) :
    (CallsHold app s ds → NoUpdateLost app s ds) ∧
      (Redelivered app s ds → NoUpdateLost app s ds → CallsHold app s ds) :=
  ⟨noUpdateLost_of_callsHold hk hnew hids, callsHold_of_noUpdateLost hk⟩

end Retries

private def paidEvent : StripeEvent :=
  ⟨some "evt_1", "invoice.paid", ⟨none, Dict.ofList [("customer", some "cus_1")]⟩⟩

private def paidDelivery (recordFails mutationFails : Option Exn) : Delivery :=
  ⟨⟨.ok paidEvent, ""⟩, recordFails, mutationFails⟩

/-- The event delivered twice; the first delivery may fail. -/
private def paidTwice (recordFails mutationFails : Option Exn) : List Delivery :=
  [paidDelivery recordFails mutationFails, paidDelivery none none]

private def billingApp : WebhookApp := ⟨"whsec_test", some .recording⟩

private def noEvents : WebhookState := ⟨Dict.empty, Dict.empty, ∅⟩

private def connectionLost : Exn := .py ⟨.other, "connection lost"⟩

section PaidTwice

variable {recordFails mutationFails : Option Exn}

private theorem paidTwice_brings {d : Delivery} (h : d ∈ paidTwice recordFails mutationFails)
    {event : StripeEvent} {id : String} (hb : d.Brings event id) : event = paidEvent := by
  have hc : d.request.constructed = .ok paidEvent := by
    simp only [paidTwice, List.mem_cons, List.not_mem_nil, or_false] at h
    rcases h with rfl | rfl <;> rfl
  exact (Except.ok.inj (hc.symm.trans hb.1)).symm

private theorem paidTwice_unrecorded :
    Unrecorded billingApp noEvents (paidTwice recordFails mutationFails) := by
  intro d _ event id _ h
  cases h

private theorem paidTwice_idsIdentify : IdsIdentify (paidTwice recordFails mutationFails) := by
  intro d hd d' hd' event event' id hb hb'
  rw [paidTwice_brings hd hb, paidTwice_brings hd' hb']

end PaidTwice

/-- The record of the event raises in the first delivery, and the second one applies the call. -/
theorem noUpdateLost_iff_callsHold_sample :
    outcomeAt billingApp noEvents (paidTwice (some connectionLost) none) 0
        (paidDelivery (some connectionLost) none) = ⟨.error connectionLost, none⟩ ∧
      NoUpdateLost billingApp noEvents (paidTwice (some connectionLost) none) := by
  refine ⟨by decide +kernel,
    (noUpdateLost_iff_callsHold rfl paidTwice_unrecorded paidTwice_idsIdentify).1 ?_⟩
  intro n d event id m hd hb hrec hm
  obtain rfl := paidTwice_brings (List.mem_of_getElem? hd) hb
  match n, hd with
  | 0, hd =>
    obtain rfl : paidDelivery (some connectionLost) none = d := Option.some.inj hd
    cases (hrec.holds rfl).1
  | 1, hd =>
    obtain rfl : paidDelivery none none = d := Option.some.inj hd
    obtain rfl := Option.some.inj (Except.ok.inj hm)
    exact ⟨Dict.empty, by decide +kernel⟩

/-- Updates are lost: the call raises in the first delivery, and the second one is a duplicate. -/
theorem not_noUpdateLost : ¬ ∀ (app : WebhookApp) (s : WebhookState) (ds : List Delivery),
    app.keyStore.isSome → Unrecorded app s ds → IdsIdentify ds → Redelivered app s ds →
    NoUpdateLost app s ds := by
  intro h
  have hfirst : outcomeAt billingApp noEvents (paidTwice none (some connectionLost)) 0
      (paidDelivery none (some connectionLost)) = ⟨.error connectionLost, none⟩ := by
    decide +kernel
  have hsecond : outcomeAt billingApp noEvents (paidTwice none (some connectionLost)) 1
      (paidDelivery none none) = ⟨.ok ⟨true⟩, none⟩ := by
    decide +kernel
  have hre : Redelivered billingApp noEvents (paidTwice none (some connectionLost)) := by
    intro n d event id hd hb herr
    obtain rfl := paidTwice_brings (List.mem_of_getElem? hd) hb
    match n, hd, herr with
    | 0, _, _ => exact ⟨1, paidDelivery none none, by omega, rfl, rfl, ⟨true⟩, by rw [hsecond]⟩
    | 1, hd, herr =>
      have hdel : paidDelivery none none = d := Option.some.inj hd
      obtain ⟨e, he⟩ := herr
      rw [← hdel, hsecond] at he
      cases he
  have hkept := h billingApp noEvents _ rfl paidTwice_unrecorded paidTwice_idsIdentify hre
  obtain ⟨k, hk, d, hd, -, m, -, happlied⟩ := hkept 1 (paidDelivery none none) paidEvent "evt_1" rfl
    ⟨rfl, rfl, by decide⟩ ⟨⟨true⟩, by rw [hsecond]⟩ ⟨_, rfl⟩
  match k, hd with
  | 0, hd =>
    have hdel : paidDelivery none (some connectionLost) = d := Option.some.inj hd
    rw [← hdel, hfirst] at happlied
    cases happlied
  | 1, hd =>
    have hdel : paidDelivery none none = d := Option.some.inj hd
    rw [← hdel, hsecond] at happlied
    cases happlied

end AsbCloudApi.Routes
