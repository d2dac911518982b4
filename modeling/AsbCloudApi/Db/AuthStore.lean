import AsbCloudApi.Base.Dict
import AsbCloudApi.Db.Usage

/-!
# PostgreSQL key store

Library `Db`. Models the statements of `src/asb_api/db/auth_store.py` that change API keys and
record Stripe events, over `api_keys` and `stripe_events` of
`src/asb_api/db/connection.py:54–62` and `119–130`. Both tables are maps from their primary key.
-/

namespace AsbCloudApi.Db

open Base Api

/-- A row of `api_keys`. -/
structure ApiKeyRow where
  tier : String
  ownerEmail : Option String
  createdAt : ℚ
  revoked : Bool
  stripeCustomerId : Option String
  stripeSubscriptionId : Option String
  subscriptionStatus : Option String
  licenseType : Option String
  licenseKey : Option String
  deriving DecidableEq

/-- The table `api_keys`. -/
abbrev ApiKeys := Dict String ApiKeyRow

/-- The table `stripe_events`: the type of each recorded event. -/
abbrev StripeEvents := Dict String String

namespace PostgresKeyStore

/-- The text parameters of a statement. -/
def checkParams (params : List (Option String)) : Except DbError Unit :=
  if params.any (·.any hasNul) then .error (.characterNotInRepertoire "parameter") else .ok ()

/-- `upgrade_tier`; `src/asb_api/db/auth_store.py:104–123`. -/
def upgradeTier (keys : ApiKeys) (keyId tier : String)
    (stripeSubscriptionId stripeCustomerId : Option String) : Except DbError ApiKeys := do
  checkParams [some tier, stripeSubscriptionId, stripeCustomerId, some keyId]
  match keys.get? keyId with
  | none => .ok keys
  | some row =>
    checkVarchar "tier" 16 tier
    .ok (keys.set keyId { row with
      tier := tier
      stripeSubscriptionId := stripeSubscriptionId
      stripeCustomerId := stripeCustomerId.orElse fun _ ↦ row.stripeCustomerId
      subscriptionStatus := some "active" })

/-- The newest key of an owner that is not revoked; `src/asb_api/db/auth_store.py:161–165`. Which
one of several keys of the same instant `ORDER BY … LIMIT 1` takes is left open; here it is
the first of the table. -/
def newestKeyOf (keys : ApiKeys) (email : String) : Option String :=
  let candidates := keys.items.filter fun p ↦ p.2.ownerEmail = some email ∧ !p.2.revoked
  (candidates.foldl (fun best p ↦
    match best with
    | none => some p
    | some b => if b.2.createdAt < p.2.createdAt then some p else best) none).map Prod.fst

/-- `add_license`; `src/asb_api/db/auth_store.py:147–169`. -/
def addLicense (keys : ApiKeys) (keyIdOrEmail licenseType rawLicense : String) :
    Except DbError ApiKeys := do
  checkParams [some licenseType, some rawLicense, some keyIdOrEmail]
  let keyId := if "key_".toList.isPrefixOf keyIdOrEmail.toList then some keyIdOrEmail
    else newestKeyOf keys keyIdOrEmail
  match keyId.bind fun k ↦ (keys.get? k).map (k, ·) with
  | none => .ok keys
  | some (k, row) =>
    .ok (keys.set k { row with licenseType := some licenseType, licenseKey := some rawLicense })

/-- `UPDATE api_keys SET … WHERE stripe_customer_id = $n`; nothing equals NULL. -/
def updateCustomer (keys : ApiKeys) (customerId : Option String)
    (f : ApiKeyRow → ApiKeyRow) : ApiKeys :=
  keys.mapValues fun _ row ↦
    if customerId.isSome ∧ row.stripeCustomerId = customerId then f row else row

/-- `update_subscription_status`; `src/asb_api/db/auth_store.py:171–180`. -/
def updateSubscriptionStatus (keys : ApiKeys) (customerId status : Option String) :
    Except DbError ApiKeys := do
  checkParams [status, customerId]
  .ok (updateCustomer keys customerId fun row ↦ { row with subscriptionStatus := status })

/-- `downgrade_to_free`; `src/asb_api/db/auth_store.py:182–191`. -/
def downgradeToFree (keys : ApiKeys) (customerId : Option String) : Except DbError ApiKeys := do
  checkParams [customerId]
  .ok (updateCustomer keys customerId fun row ↦
    { row with
      tier := "free", subscriptionStatus := some "canceled", stripeSubscriptionId := none })

/-- `try_record_stripe_event`; `src/asb_api/db/auth_store.py:125–137`. -/
def tryRecordStripeEvent (events : StripeEvents) (eventId eventType : String) :
    Except DbError Bool × StripeEvents :=
  match checkParams [some eventId, some eventType] with
  | .error e => (.error e, events)
  | .ok () =>
    if (events.get? eventId).isSome then (.ok false, events)
    else (.ok true, events.set eventId eventType)

/-! ### What the statements leave in a row -/

section Rows

variable {keys keys' : ApiKeys}

/-- A row after `upgrade_tier`. -/
def upgradedRow (tier : String) (sub customer : Option String) (row : ApiKeyRow) : ApiKeyRow :=
  { row with
    tier := tier
    stripeSubscriptionId := sub
    stripeCustomerId := customer.orElse fun _ ↦ row.stripeCustomerId
    subscriptionStatus := some "active" }

theorem eq_of_upgradeTier {keyId tier : String} {sub customer : Option String}
    (h : upgradeTier keys keyId tier sub customer = .ok keys') :
    keys' = keys.mapValues fun k row ↦
      if k = keyId then upgradedRow tier sub customer row else row := by
  unfold upgradeTier at h
  obtain ⟨-, -, h⟩ := bind_eq_ok_iff.mp h
  cases hrow : keys.get? keyId with
  | none =>
    rw [hrow] at h
    cases h
    symm
    apply Dict.mapValues_eq_self
    intro k row hk
    rw [if_neg]
    rintro rfl
    rw [hrow] at hk
    cases hk
  | some row =>
    rw [hrow] at h
    obtain ⟨-, -, h⟩ := bind_eq_ok_iff.mp h
    cases h
    exact Dict.set_eq_mapValues hrow (upgradedRow tier sub customer)

/-- The key whose row `add_license` updates, if there is one. -/
def licenseTarget (keys : ApiKeys) (keyIdOrEmail : String) : Option String :=
  (if "key_".toList.isPrefixOf keyIdOrEmail.toList then some keyIdOrEmail
    else newestKeyOf keys keyIdOrEmail).filter fun k ↦ (keys.get? k).isSome

theorem isSome_of_licenseTarget {ident k : String} (h : licenseTarget keys ident = some k) :
    (keys.get? k).isSome := (Option.filter_eq_some_iff.mp h).2

/-- A row after `add_license`. -/
def licensedRow (licenseType raw : String) (row : ApiKeyRow) : ApiKeyRow :=
  { row with licenseType := some licenseType, licenseKey := some raw }

theorem eq_of_addLicense {ident licenseType raw : String}
    (h : addLicense keys ident licenseType raw = .ok keys') :
    keys' = keys.mapValues fun k row ↦
      if licenseTarget keys ident = some k then licensedRow licenseType raw row else row := by
  unfold addLicense at h
  obtain ⟨-, -, h⟩ := bind_eq_ok_iff.mp h
  dsimp only at h
  unfold licenseTarget
  generalize (if "key_".toList.isPrefixOf ident.toList then some ident
    else newestKeyOf keys ident) = selected at h ⊢
  cases selected with
  | none =>
    cases h
    exact (Dict.mapValues_eq_self fun _ _ _ ↦ rfl).symm
  | some keyId =>
    cases hrow : keys.get? keyId with
    | none =>
      simp only [Option.bind_some, hrow, Option.map_none] at h
      cases h
      rw [Option.filter_some, hrow]
      exact (Dict.mapValues_eq_self fun _ _ _ ↦ rfl).symm
    | some row =>
      simp only [Option.bind_some, hrow, Option.map_some] at h
      cases h
      rw [Option.filter_some, hrow, Option.isSome_some, if_pos rfl]
      refine (Dict.set_eq_mapValues hrow (licensedRow licenseType raw)).trans ?_
      simp only [Option.some.injEq, @eq_comm _ keyId]

private theorem eq_of_checkParams {params : List (Option String)} {keys'' : ApiKeys}
    (h : (checkParams params >>= fun _ ↦ Except.ok keys'') = .ok keys') : keys' = keys'' := by
  obtain ⟨-, -, h⟩ := bind_eq_ok_iff.mp h
  exact (Except.ok.inj h).symm

theorem eq_of_updateSubscriptionStatus {customerId status : Option String}
    (h : updateSubscriptionStatus keys customerId status = .ok keys') :
    keys' = keys.mapValues fun _ row ↦
      if customerId.isSome ∧ row.stripeCustomerId = customerId then
        { row with subscriptionStatus := status }
      else row := eq_of_checkParams h

/-- A row after `downgrade_to_free`. -/
def freeRow (row : ApiKeyRow) : ApiKeyRow :=
  { row with tier := "free", subscriptionStatus := some "canceled", stripeSubscriptionId := none }

theorem eq_of_downgradeToFree {customerId : Option String}
    (h : downgradeToFree keys customerId = .ok keys') :
    keys' = keys.mapValues fun _ row ↦
      if customerId.isSome ∧ row.stripeCustomerId = customerId then freeRow row else row :=
  eq_of_checkParams h

/-- The columns that `add_license` selects by stay as they are. -/
def KeepsSelection (f : String → ApiKeyRow → ApiKeyRow) : Prop :=
  ∀ k row, (f k row).ownerEmail = row.ownerEmail ∧ (f k row).createdAt = row.createdAt ∧
    (f k row).revoked = row.revoked

private theorem newestKeyOf_mapValues {f : String → ApiKeyRow → ApiKeyRow}
    (hf : KeepsSelection f) (email : String) :
    newestKeyOf (keys.mapValues f) email = newestKeyOf keys email := by
  let g : String × ApiKeyRow → String × ApiKeyRow := fun p ↦ (p.1, f p.1 p.2)
  have hfilter (items : List (String × ApiKeyRow)) :
      (items.map g).filter (fun p ↦ p.2.ownerEmail = some email ∧ !p.2.revoked) =
        (items.filter fun p ↦ p.2.ownerEmail = some email ∧ !p.2.revoked).map g := by
    rw [List.filter_map]
    congr 1
    apply List.filter_congr
    intro p _
    simp only [Function.comp_apply, g, (hf p.1 p.2).1, (hf p.1 p.2).2.2]
  have hfold (items : List (String × ApiKeyRow)) (best : Option (String × ApiKeyRow)) :
      ((items.map g).foldl (fun best p ↦
        match best with
        | none => some p
        | some b => if b.2.createdAt < p.2.createdAt then some p else best) (best.map g)) =
      (items.foldl (fun best p ↦
        match best with
        | none => some p
        | some b => if b.2.createdAt < p.2.createdAt then some p else best) best).map g := by
    induction items generalizing best with
    | nil => rfl
    | cons p items ih =>
      rw [List.map_cons, List.foldl_cons, List.foldl_cons, ← ih]
      congr 1
      cases best with
      | none => rfl
      | some b =>
        simp only [Option.map_some, g, (hf p.1 p.2).2.1, (hf b.1 b.2).2.1]
        split <;> rfl
  unfold newestKeyOf
  dsimp only
  change Option.map Prod.fst (List.foldl _ (Option.map g none)
    (List.filter _ (keys.items.map g))) = _
  rw [hfilter, hfold, Option.map_map]
  rfl

/-- Which row an identifier selects depends on these columns only. -/
theorem licenseTarget_mapValues {f : String → ApiKeyRow → ApiKeyRow} (hf : KeepsSelection f)
    (ident : String) : licenseTarget (keys.mapValues f) ident = licenseTarget keys ident := by
  unfold licenseTarget
  rw [newestKeyOf_mapValues hf]
  simp only [Dict.get?_mapValues, Option.isSome_map]

end Rows

end PostgresKeyStore
end AsbCloudApi.Db
