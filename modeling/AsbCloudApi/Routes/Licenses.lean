import AsbCloudApi.Billing.License
import AsbCloudApi.Routes.Webhooks

/-!
# Verifying licenses

Library `Routes`. Models `src/asb_api/api/routes/licenses.py`, and relates the license keys that
the webhook sells to the ones that it verifies.
-/

namespace AsbCloudApi.Routes

open Base Base.Text Api Billing

/-- `VerifyLicenseRequest`; `src/asb_api/api/routes/licenses.py:12–15`. -/
structure VerifyLicenseRequest where
  licenseKey : Chars
  licenseType : Chars
  domain : Chars

/-- The answer `{"valid": True}`. -/
structure VerifyLicenseReply where
  valid : Bool
  deriving DecidableEq

/-- `verify_license` at an instant, with the secret of the environment, empty if there is none;
`src/asb_api/api/routes/licenses.py:18–27`. -/
def verifyLicense (lic : SelfHostedLicense) (now : ℚ) (request : VerifyLicenseRequest) :
    Except HTTPException VerifyLicenseReply :=
  if lic.secretKey = [] then
    .error (APIError 500 "INTERNAL_ERROR" "LICENSE_SECRET_KEY not configured" [])
  else
    let (valid, error) :=
      lic.verifyFull now request.licenseKey request.licenseType request.domain
    if !valid then
      .error (APIError 400 "BAD_REQUEST"
        (if error = "" then "License verification failed" else error) [])
    else .ok ⟨true⟩

/-- With a secret, what is accepted is what `verify_full` finds valid. -/
theorem verifyLicense_ok {lic : SelfHostedLicense} {now : ℚ} {request : VerifyLicenseRequest}
    {reply : VerifyLicenseReply} (h : verifyLicense lic now request = .ok reply) :
    (lic.verifyFull now request.licenseKey request.licenseType request.domain).1 = true := by
  unfold verifyLicense at h
  split at h
  · cases h
  · generalize lic.verifyFull now request.licenseKey request.licenseType request.domain = out at h ⊢
    obtain ⟨valid, error⟩ := out
    cases valid with
    | false => cases h
    | true => rfl

/-- For some domain and at some instant, a license key is accepted for a license type. -/
def SoldLicenseVerifies (lic : SelfHostedLicense) (rawLicense licenseType : String) : Prop :=
  ∃ domain now reply,
    verifyLicense lic now ⟨rawLicense.toList, licenseType.toList, domain⟩ = .ok reply

/-- `secrets.token_hex(24)` was drawn. -/
def Delivery.DrawsTokenHex (d : Delivery) : Prop :=
  d.request.tokenHex.toList.length = 48 ∧ ∀ c ∈ d.request.tokenHex.toList, isLowerHexDigit c = true

/-- A license key that is sold has the prefix and the digits that were drawn. -/
theorem rawLicense_of_applied {app : WebhookApp} {s : WebhookState} {d : Delivery}
    {ident licenseType rawLicense : String}
    (h : (deliver app s d).1.applied = some (.addLicense ident licenseType rawLicense)) :
    rawLicense = "sk_license_" ++ d.request.tokenHex := by
  have hcase := keysCase_deliver d app s
  rw [h] at hcase
  cases hcase with
  | applied hc hm he =>
    cases mutationCase_of_eventMutation hm with
    | sold htype => rfl

/-- A key in three parts is malformed. -/
theorem parseKey_of_token {lic : SelfHostedLicense} {token : Chars} (h : '_' ∉ token) :
    lic.parseKey ("sk_license_".toList ++ token) = none := by
  unfold SelfHostedLicense.parseKey
  rw [SelfHostedLicense.splitOn_sk_license, List.splitOn_eq_singleton h]

/-- A malformed key is never accepted. -/
theorem not_verifies_of_malformed {lic : SelfHostedLicense} {rawLicense licenseType : String}
    (h : lic.parseKey rawLicense.toList = none) :
    ¬ SoldLicenseVerifies lic rawLicense licenseType := by
  rintro ⟨domain, now, reply, hok⟩
  have hvalid := verifyLicense_ok hok
  unfold SelfHostedLicense.verifyFull at hvalid
  rw [h] at hvalid
  cases hvalid

/-- No license key that the webhook sells is ever accepted: none is parsed. -/
theorem not_soldLicenseVerifies {app : WebhookApp} {s : WebhookState} {d : Delivery}
    {ident licenseType rawLicense : String}
    (h : (deliver app s d).1.applied = some (.addLicense ident licenseType rawLicense))
    (hhex : d.DrawsTokenHex) (lic : SelfHostedLicense) :
    lic.parseKey rawLicense.toList = none ∧ ¬ SoldLicenseVerifies lic rawLicense licenseType := by
  have hunder : '_' ∉ d.request.tokenHex.toList := by
    intro hc
    cases hhex.2 _ hc
  have hparse : lic.parseKey rawLicense.toList = none := by
    rw [rawLicense_of_applied h, String.toList_append, parseKey_of_token hunder]
  exact ⟨hparse, not_verifies_of_malformed hparse⟩

private def licenseDelivery : Delivery where
  request := {
    constructed := .ok ⟨some "evt_1", "checkout.session.completed",
      ⟨some (Dict.ofList [("license_type", "solo")]), Dict.ofList [("customer", some "cus_1")]⟩⟩
    tokenHex := "000102030405060708090a0b0c0d0e0f1011121314151617" }
  recordFails := none
  mutationFails := none

private theorem licenseDelivery_applied :
    (deliver ⟨"whsec_test", some .recording⟩ ⟨Dict.empty, Dict.empty, ∅⟩
      licenseDelivery).1.applied = some (.addLicense "cus_1" "solo"
        "sk_license_000102030405060708090a0b0c0d0e0f1011121314151617") := by
  decide +kernel

private theorem licenseDelivery_drawsTokenHex : licenseDelivery.DrawsTokenHex := by
  constructor
  · rfl
  · exact List.all_eq_true.mp (by decide +kernel)

private def testLicense : SelfHostedLicense where
  secretKey := "test-secret".toList
  hexdigest _ _ := .zeros 64
  toAscii := id

/-- A license bought by a customer. -/
theorem not_soldLicenseVerifies_sample : ¬ SoldLicenseVerifies testLicense
    "sk_license_000102030405060708090a0b0c0d0e0f1011121314151617" "solo" :=
  (not_soldLicenseVerifies licenseDelivery_applied licenseDelivery_drawsTokenHex testLicense).2

/-- Some license key that the webhook sells does not verify. -/
theorem exists_sold_not_verified : ∃ app s d ident licenseType rawLicense lic,
    (deliver app s d).1.applied = some (.addLicense ident licenseType rawLicense) ∧
      d.DrawsTokenHex ∧ ¬ SoldLicenseVerifies lic rawLicense licenseType := by
  refine ⟨_, _, _, _, _, _, testLicense, licenseDelivery_applied, licenseDelivery_drawsTokenHex, ?_⟩
  apply not_verifies_of_malformed
  decide +kernel

end AsbCloudApi.Routes
