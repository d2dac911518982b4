import AsbCloudApi.Base.Writes
import AsbCloudApi.Routes.BillingRuns

/-!
# Purchased licenses

Library `Routes`. A license is stored in the row that the purchaser's identifier selects, over the
one that is there. After any deliveries all licenses are stored exactly if every purchase selects a
row of its own.
-/

namespace AsbCloudApi.Routes

open Base Api Db PostgresKeyStore

/-- The identifier and the license key, if the call stores a license. -/
def Mutation.purchase : Mutation → Option (String × String)
  | .upgradeTier _ _ _ _ => none
  | .addLicense ident _ raw => some (ident, raw)
  | .updateSubscriptionStatus _ _ => none
  | .downgradeToFree _ => none

/-- The license in the row of a key. -/
def storedLicense (keys : ApiKeys) (k : String) : Option String :=
  (keys.get? k).bind ApiKeyRow.licenseKey

/-- Where each purchase puts its license. -/
def licenseWrites (keys : ApiKeys) (ps : List (String × String)) :
    List (Option String × String) := ps.map fun p ↦ (licenseTarget keys p.1, p.2)

/-- Storing a license puts it into the selected row; no other call touches a license. -/
theorem storedLicense_exec {m : Mutation} {keys keys' : ApiKeys} (h : m.exec keys = .ok keys')
    (k : String) : storedLicense keys' k =
      match m.purchase with
      | none => storedLicense keys k
      | some (ident, raw) =>
        if licenseTarget keys ident = some k then some raw else storedLicense keys k := by
  unfold storedLicense
  rw [get?_exec h]
  cases hrow : keys.get? k with
  | none =>
    cases m with
    | addLicense ident licenseType raw =>
      dsimp only [Mutation.purchase]
      rw [if_neg]
      · rfl
      · intro hsel
        have hsome := isSome_of_licenseTarget hsel
        rw [hrow] at hsome
        cases hsome
    | _ => rfl
  | some row =>
    cases m with
    | addLicense ident licenseType raw =>
      simp only [Option.map_some, Option.bind_some, Mutation.rowAfter, Mutation.purchase]
      split <;> rfl
    | _ =>
      simp only [Option.map_some, Option.bind_some, Mutation.rowAfter, Mutation.purchase]
      split <;> rfl

/-- No call changes which row an identifier selects. -/
theorem licenseTarget_exec {m : Mutation} {keys keys' : ApiKeys} (h : m.exec keys = .ok keys')
    (ident : String) : licenseTarget keys' ident = licenseTarget keys ident := by
  rw [eq_of_exec h]
  apply licenseTarget_mapValues
  intro k row
  cases m <;> dsimp only [Mutation.rowAfter] <;> split <;> exact ⟨rfl, rfl, rfl⟩

section Purchases

variable (app : WebhookApp) (s : WebhookState) (ds : List Delivery)

/-- Every delivery is a purchase that has been processed. -/
def AllPurchases : Prop :=
  ∀ out ∈ outputs (deliver app) s ds, ∃ ident licenseType raw,
    out.applied = some (.addLicense ident licenseType raw)

/-- The identifier and the license key of each purchase. -/
def purchasesOf : List (String × String) :=
  (appliedCalls app s ds).filterMap Mutation.purchase

/-- Every license that was sold is in some row at the end. -/
def NoLicenseLost : Prop :=
  ∀ p ∈ purchasesOf app s ds, ∃ k row, (final (deliver app) s ds).apiKeys.get? k = some row ∧
    row.licenseKey = some p.2

/-- Every purchase selects a row, and no two the same. -/
structure SelectsOwnRows : Prop where
  found : ∀ p ∈ purchasesOf app s ds, (licenseTarget s.apiKeys p.1).isSome
  distinct : ((purchasesOf app s ds).map fun p ↦ licenseTarget s.apiKeys p.1).Nodup

/-- The license keys are new and differ from each other, as random ones do. -/
structure FreshLicenses : Prop where
  unused : ∀ p ∈ purchasesOf app s ds, ∀ k, storedLicense s.apiKeys k ≠ some p.2
  distinct : ((purchasesOf app s ds).map Prod.snd).Nodup

variable {app s ds}

/-- After any deliveries every row holds the last license put there. -/
theorem storedLicense_of_purchases (k : String) :
    storedLicense (final (deliver app) s ds).apiKeys k =
      cellAfter (storedLicense s.apiKeys k) k (licenseWrites s.apiKeys (purchasesOf app s ds)) := by
  have hboth := @table_induction app (fun ms keys ↦
    (∀ ident, licenseTarget keys ident = licenseTarget s.apiKeys ident) ∧
      ∀ k, storedLicense keys k = cellAfter (storedLicense s.apiKeys k) k
        (licenseWrites s.apiKeys (ms.filterMap Mutation.purchase))) ?_ s
    ⟨fun _ ↦ rfl, fun _ ↦ rfl⟩ ds
  · exact hboth.2 k
  · rintro ms keys m keys' ⟨htarget, hstored⟩ hexec
    constructor
    · exact fun ident ↦ (licenseTarget_exec hexec ident).trans (htarget ident)
    · intro k
      rw [storedLicense_exec hexec, List.filterMap_append]
      cases hm : m.purchase with
      | none => simp [hm, hstored]
      | some p =>
        have hwrites : licenseWrites s.apiKeys
            (ms.filterMap Mutation.purchase ++ [m].filterMap Mutation.purchase) =
              licenseWrites s.apiKeys (ms.filterMap Mutation.purchase) ++
                [(licenseTarget s.apiKeys p.1, p.2)] := by
          simp [licenseWrites, hm]
        rw [hwrites, cellAfter_concat, ← htarget, hstored]

private theorem noLicenseLost_iff_allKept : NoLicenseLost app s ds ↔
      AllKept (storedLicense s.apiKeys) (licenseWrites s.apiKeys (purchasesOf app s ds)) := by
  have hcell (k raw : String) :
      (∃ row, (final (deliver app) s ds).apiKeys.get? k = some row ∧ row.licenseKey = some raw) ↔
        cellAfter (storedLicense s.apiKeys k) k
          (licenseWrites s.apiKeys (purchasesOf app s ds)) = some raw := by
    rw [← storedLicense_of_purchases]
    exact Option.bind_eq_some_iff.symm
  constructor
  · intro hlost w hw
    obtain ⟨p, hp, rfl⟩ := List.mem_map.mp hw
    obtain ⟨k, hk⟩ := hlost p hp
    exact ⟨k, (hcell k p.2).mp hk⟩
  · intro hkept p hp
    obtain ⟨k, hk⟩ := hkept _ (List.mem_map_of_mem hp)
    exact ⟨k, (hcell k p.2).mpr hk⟩

private theorem licenseWrites_fst (keys : ApiKeys) (ps : List (String × String)) :
    (licenseWrites keys ps).map Prod.fst = ps.map fun p ↦ licenseTarget keys p.1 := by
  rw [licenseWrites, List.map_map]
  rfl

private theorem licenseWrites_snd (keys : ApiKeys) (ps : List (String × String)) :
    (licenseWrites keys ps).map Prod.snd = ps.map Prod.snd := by
  rw [licenseWrites, List.map_map]
  rfl

/-- In every run of deliveries, among them any purchases: if every purchase selects a row of its
own, no license is lost; with fresh license keys, only then. -/
theorem noLicenseLost_iff_selectsOwnRows :
    (SelectsOwnRows app s ds → NoLicenseLost app s ds) ∧
      (FreshLicenses app s ds → NoLicenseLost app s ds → SelectsOwnRows app s ds) := by
  rw [noLicenseLost_iff_allKept]
  constructor
  · intro hown
    apply allKept_of_nodup
    · intro w hw
      obtain ⟨p, hp, rfl⟩ := List.mem_map.mp hw
      exact hown.found p hp
    · rw [licenseWrites_fst]
      exact hown.distinct
  · intro hfresh hkept
    have hown := nodup_of_allKept (by rw [licenseWrites_snd]; exact hfresh.distinct) ?_ hkept
    · rw [licenseWrites_fst] at hown
      exact ⟨fun p hp ↦ hown.1 _ (List.mem_map_of_mem hp), hown.2⟩
    · intro w hw
      obtain ⟨p, hp, rfl⟩ := List.mem_map.mp hw
      exact hfresh.unused p hp

end Purchases

private def shopApp : WebhookApp := ⟨"whsec_test", some .recording⟩

private def buyerRow (licenseType licenseKey : Option String) : ApiKeyRow :=
  ⟨"free", some "buyer@example.com", 0, false, none, none, none, licenseType, licenseKey⟩

/-- One key, of a buyer. -/
private def shopState : WebhookState :=
  ⟨Dict.ofList [("key_1", buyerRow none none)], Dict.empty, ∅⟩

private def tokenOf (digit : Char) : String := String.ofList (List.replicate 48 digit)

/-- A purchase by e-mail. -/
private def emailPurchase (id email : String) (digit : Char) : Delivery :=
  ⟨⟨.ok ⟨some id, "checkout.session.completed", ⟨some (Dict.ofList [("license_type", "solo")]),
    Dict.ofList [("customer_email", some email)]⟩⟩, tokenOf digit⟩, none, none⟩

private def emailOutcome (email : String) (digit : Char) : DeliveryOutcome :=
  ⟨.ok ⟨false⟩, some (.addLicense email "solo" ("sk_license_" ++ tokenOf digit))⟩

/-- Two keys, each of another buyer. -/
private def twoBuyers : WebhookState :=
  ⟨Dict.ofList [("key_1", buyerRow none none),
    ("key_2", { buyerRow none none with ownerEmail := some "other@example.com" })], Dict.empty, ∅⟩

private def twoPurchases : List Delivery :=
  [emailPurchase "evt_1" "buyer@example.com" 'a', emailPurchase "evt_2" "other@example.com" 'b']

/-- Two buyers purchase a license each, and no license is lost. -/
theorem noLicenseLost_iff_selectsOwnRows_sample : NoLicenseLost shopApp twoBuyers twoPurchases := by
  have houtputs : outputs (deliver shopApp) twoBuyers twoPurchases =
      [emailOutcome "buyer@example.com" 'a', emailOutcome "other@example.com" 'b'] := by
    decide +kernel
  have hpurchases : purchasesOf shopApp twoBuyers twoPurchases =
      [("buyer@example.com", "sk_license_" ++ tokenOf 'a'),
        ("other@example.com", "sk_license_" ++ tokenOf 'b')] := by
    rw [purchasesOf, appliedCalls, houtputs]
    rfl
  apply noLicenseLost_iff_selectsOwnRows.1
  constructor
  · rw [hpurchases]
    decide +kernel
  · rw [hpurchases]
    decide +kernel

/-- Two purchases of one buyer. -/
private def purchasedTwice : List Delivery :=
  [emailPurchase "evt_1" "buyer@example.com" 'a', emailPurchase "evt_2" "buyer@example.com" 'b']

private theorem purchasedTwice_outputs : outputs (deliver shopApp) shopState purchasedTwice =
    [emailOutcome "buyer@example.com" 'a', emailOutcome "buyer@example.com" 'b'] := by
  decide +kernel

private theorem eq_buyerRow {licenseType licenseKey : Option String} {k : String}
    {row : ApiKeyRow}
    (h : (Dict.ofList [("key_1", buyerRow licenseType licenseKey)]).get? k = some row) :
    row = buyerRow licenseType licenseKey := by
  have hmem := (Dict.mem_items_iff _ _ _).mpr h
  exact (Prod.mk.inj (List.mem_singleton.mp hmem)).2

/-- Licenses are lost: of two purchases of one buyer only the second is stored. -/
theorem not_noLicenseLost : ¬ ∀ (app : WebhookApp) (s : WebhookState) (ds : List Delivery),
    AllPurchases app s ds → FreshLicenses app s ds → NoLicenseLost app s ds := by
  intro h
  have hpurchases : purchasesOf shopApp shopState purchasedTwice =
        [("buyer@example.com", "sk_license_" ++ tokenOf 'a'),
          ("buyer@example.com", "sk_license_" ++ tokenOf 'b')] := by
    rw [purchasesOf, appliedCalls, purchasedTwice_outputs]
    rfl
  have hall : AllPurchases shopApp shopState purchasedTwice := by
    rw [AllPurchases, purchasedTwice_outputs]
    simp [emailOutcome]
  have hfresh : FreshLicenses shopApp shopState purchasedTwice := by
    constructor
    · intro p _ k hstored
      obtain ⟨row, hrow, hlicense⟩ := Option.bind_eq_some_iff.mp hstored
      rw [eq_buyerRow hrow] at hlicense
      cases hlicense
    · rw [hpurchases]
      decide +kernel
  have hfinal : (final (deliver shopApp) shopState purchasedTwice).apiKeys = Dict.ofList
        [("key_1", buyerRow (some "solo") (some ("sk_license_" ++ tokenOf 'b')))] := by
    decide +kernel
  obtain ⟨k, row, hrow, hlicense⟩ := h shopApp shopState _ hall hfresh
    ("buyer@example.com", "sk_license_" ++ tokenOf 'a') (by
      rw [hpurchases]
      exact List.mem_cons_self)
  rw [hfinal] at hrow
  rw [eq_buyerRow hrow] at hlicense
  revert hlicense
  decide +kernel

end AsbCloudApi.Routes
