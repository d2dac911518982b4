import AsbCloudApi.Routes.Authorization
import AsbCloudApi.Routes.WebhookOnce

/-!
# Billing routes

Library `Routes`. Models `src/asb_api/api/routes/checkout.py`, `src/asb_api/api/routes/billing.py`
and the prices of `src/asb_api/billing/__init__.py:5–46`. A request is a coroutine; its operations
are the calls of the key store, of Stripe's library and of the webhook.
-/

namespace AsbCloudApi.Routes

open Base Api Db Session

/-! ### Prices -/

def tierPriceEnv : Dict String String :=
  Dict.ofList [("starter", "STRIPE_PRICE_STARTER"), ("pro", "STRIPE_PRICE_PRO"),
    ("enterprise", "STRIPE_PRICE_ENTERPRISE")]

def licensePriceEnv : Dict String String :=
  Dict.ofList [("solo", "STRIPE_LICENSE_SOLO"), ("team", "STRIPE_LICENSE_TEAM"),
    ("enterprise", "STRIPE_LICENSE_ENTERPRISE")]

/-- `EnvPriceMap(env_by_key).get(key, "")`; `src/asb_api/billing/__init__.py:18–31`. -/
def envPrice (envByKey environ : Dict String String) (key : String) : String :=
  match envByKey.get? key with
  | none => ""
  | some envKey => (environ.get? envKey).getD ""

/-- `get_tier_price_id`. -/
def getTierPriceId (environ : Dict String String) (tier : String) : String :=
  envPrice tierPriceEnv environ tier

/-- `get_license_price_id`. -/
def getLicensePriceId (environ : Dict String String) (licenseType : String) : String :=
  envPrice licensePriceEnv environ licenseType

/-! ### Requests -/

/-- `CheckoutRequest.tier`. -/
inductive PaidTier where
  | starter
  | pro
  | enterprise
  deriving DecidableEq

def PaidTier.value : PaidTier → String
  | .starter => "starter"
  | .pro => "pro"
  | .enterprise => "enterprise"

/-- `LicenseCheckoutRequest.license_type`. -/
inductive SoldLicense where
  | solo
  | team
  | enterprise
  deriving DecidableEq

def SoldLicense.value : SoldLicense → String
  | .solo => "solo"
  | .team => "team"
  | .enterprise => "enterprise"

/-- `CheckoutRequest`. -/
structure CheckoutRequest where
  tier : PaidTier
  keyId : String
  email : String

/-- `LicenseCheckoutRequest`. -/
structure LicenseCheckoutRequest where
  licenseType : SoldLicense
  email : String

/-- `CheckoutResponse`. -/
structure CheckoutResponse where
  checkoutUrl : String
  sessionId : String

/-- The arguments of `stripe.checkout.Session.create`. -/
structure SessionParams where
  paymentMethodTypes : List String
  price : String
  quantity : Nat
  mode : String
  customerEmail : String
  successUrl : String
  cancelUrl : String
  metadata : Dict String String
  allowPromotionCodes : Option Bool
  deriving DecidableEq

/-- The session of `create_checkout`; `src/asb_api/api/routes/checkout.py:41–53`. -/
def tierSession (request : CheckoutRequest) (price : String) : SessionParams where
  paymentMethodTypes := ["card"]
  price := price
  quantity := 1
  mode := "subscription"
  customerEmail := request.email
  successUrl := "https://asbcloud.io/success?session_id=\x7bCHECKOUT_SESSION_ID\x7d"
  cancelUrl := "https://asbcloud.io/pricing"
  metadata := Dict.ofList [("key_id", request.keyId), ("tier", request.tier.value)]
  allowPromotionCodes := some true

/-- The session of `create_license_checkout`; `src/asb_api/api/routes/checkout.py:72–84`. -/
def licenseSession (request : LicenseCheckoutRequest) (price : String) : SessionParams where
  paymentMethodTypes := ["card"]
  price := price
  quantity := 1
  mode := "payment"
  customerEmail := request.email
  successUrl := "https://asbcloud.io/success?session_id=\x7bCHECKOUT_SESSION_ID\x7d" ++
    "&license_type=" ++ request.licenseType.value
  cancelUrl := "https://asbcloud.io/self-hosted"
  metadata := Dict.ofList [("license_type", request.licenseType.value)]
  allowPromotionCodes := none

/-- An invoice as `list_invoices` reports it. -/
structure Invoice where
  id : String
  amountPaid : Int
  currency : String
  status : Option String
  created : Int
  invoicePdf : Option String

/-- What `key_store.get` returns: the dictionary of the PostgreSQL store, the record of the
in-memory store, or nothing. -/
inductive KeyRecord where
  | dict (row : ApiKeyRow)
  | apiKey (key : APIKey)
  | missing

/-- `_stripe_customer_id`; `src/asb_api/api/routes/billing.py:23–26`. -/
def stripeCustomerId : KeyRecord → Option String
  | .dict row => row.stripeCustomerId
  | .apiKey _ => none
  | .missing => none

/-! ### The routes -/

/-- The operations of the billing routes. -/
inductive BillingOp where
  | auth (o : AuthOp)
  | get (keyId : String)
  | createSession (params : SessionParams)
  | createPortal (customer returnUrl : String)
  | listInvoices (customer : String) (limit : Nat)
  | constructEvent
  | webhook (o : WebhookOp)

/-- What each of them answers. -/
abbrev BillingOp.Ans : BillingOp → Type
  | .auth o => o.Ans
  | .get _ => KeyRecord
  | .createSession _ => CheckoutResponse
  | .createPortal _ _ => String
  | .listInvoices _ _ => List Invoice
  | .constructEvent => Except ConstructError StripeEvent
  | .webhook o => o.Ans

/-- A coroutine of a billing route. -/
abbrev BillingProg := Prog Exn BillingOp.Ans

/-- `Depends(get_api_key)`. -/
def authenticate (authorization : Option String) : BillingProg String :=
  (getApiKey authorization).embed fun o ↦ .perform (BillingOp.auth o)

/-- `try: p except Exception as e: raise HTTPException(500, f"Stripe error: {e}")`. -/
def stripeCall {α : Type} (p : BillingProg α) : BillingProg α :=
  p.resume fun r ↦
    match r with
    | .ok a => pure a
    | .error (.py e) => .raise (.http ⟨500, .str ("Stripe error: " ++ e.text), Dict.empty⟩)
    -- the library raises no HTTPException
    | .error (.http e) => .raise (.http e)

/-- `create_checkout`; `src/asb_api/api/routes/checkout.py:28–56`. -/
def createCheckout (environ : Dict String String) (authorization : Option String)
    (request : CheckoutRequest) : BillingProg CheckoutResponse := do
  let authenticatedKeyId ← authenticate authorization
  if request.keyId ≠ authenticatedKeyId then
    .raise (.http ⟨403, .str "Cannot create checkout for another API key", Dict.empty⟩)
  else
    let priceId := getTierPriceId environ request.tier.value
    if priceId = "" then .raise (.http ⟨400, .str "Invalid tier", Dict.empty⟩)
    else stripeCall (.perform (BillingOp.createSession (tierSession request priceId)))

/-- `create_license_checkout`; `src/asb_api/api/routes/checkout.py:65–86`. -/
def createLicenseCheckout (environ : Dict String String) (request : LicenseCheckoutRequest) :
    BillingProg CheckoutResponse :=
  let priceId := getLicensePriceId environ request.licenseType.value
  if priceId = "" then .raise (.http ⟨400, .str "Invalid license type", Dict.empty⟩)
  else stripeCall (.perform (BillingOp.createSession (licenseSession request priceId)))

/-- The customer of the caller's key, as `customer_portal` and `list_invoices` find it;
`src/asb_api/api/routes/billing.py:30–35` and `49–54`. -/
def callerCustomer (authorization : Option String) : BillingProg String := do
  let keyId ← authenticate authorization
  let key ← .perform (BillingOp.get keyId)
  let customerId := stripeCustomerId key
  if !truthy customerId then .raise (.http ⟨400, .str "No Stripe customer found", Dict.empty⟩)
  else pure (customerId.getD "")

/-- `customer_portal`; `src/asb_api/api/routes/billing.py:29–45`. -/
def customerPortal (authorization : Option String) : BillingProg String := do
  let customerId ← callerCustomer authorization
  stripeCall (.perform (BillingOp.createPortal customerId "https://asbcloud.io/dashboard"))

/-- `list_invoices`; `src/asb_api/api/routes/billing.py:48–73`. -/
def listInvoices (authorization : Option String) : BillingProg (List Invoice) := do
  let customerId ← callerCustomer authorization
  stripeCall (.perform (BillingOp.listInvoices customerId 10))

/-- `stripe_webhook` with the event that Stripe's library makes of its payload;
`src/asb_api/api/routes/webhooks.py:38–104`. -/
def receiveWebhook (app : WebhookApp) (tokenHex : String) : BillingProg WebhookReply :=
  let route (constructed : Except ConstructError StripeEvent) : BillingProg WebhookReply :=
    (stripeWebhook app ⟨constructed, tokenHex⟩).embed fun o ↦ .perform (BillingOp.webhook o)
  -- without a secret the payload is not looked at
  if app.webhookSecret = "" then route (.error .other)
  else do
    let constructed ← .perform BillingOp.constructEvent
    route constructed

/-- A request to one of the billing routes. -/
inductive BillingRequest where
  | checkout (authorization : Option String) (request : CheckoutRequest)
  | licenseCheckout (request : LicenseCheckoutRequest)
  | portal (authorization : Option String)
  | invoices (authorization : Option String)
  | webhook (tokenHex : String)

/-- What they reply. -/
inductive BillingReply where
  | session (response : CheckoutResponse)
  | portalUrl (url : String)
  | invoices (invoices : List Invoice)
  | received (reply : WebhookReply)

/-- Handle a request. -/
def handleBilling (app : WebhookApp) (environ : Dict String String) :
    BillingRequest → BillingProg BillingReply
  | .checkout authorization request => do
    let response ← createCheckout environ authorization request
    pure (.session response)
  | .licenseCheckout request => do
    let response ← createLicenseCheckout environ request
    pure (.session response)
  | .portal authorization => do
    let url ← customerPortal authorization
    pure (.portalUrl url)
  | .invoices authorization => do
    let invoices ← listInvoices authorization
    pure (.invoices invoices)
  | .webhook tokenHex => do
    let reply ← receiveWebhook app tokenHex
    pure (.received reply)

end AsbCloudApi.Routes
