import AsbCloudApi.Base.Dict
import Mathlib.Data.Rat.Defs

/-!
# Sessions and scrapes

Library `Session`. The records of `src/asb_api/session/models.py`. A body dictionary enters the
program only through `json.dumps`, so it is given by that text.
-/

namespace AsbCloudApi.Session

open Base

/-- `SessionInfo`; `src/asb_api/session/models.py:5–15`. -/
structure SessionInfo where
  sessionId : String
  keyId : String
  region : String
  fingerprint : Option String
  cookies : Dict String String
  createdAt : ℚ
  lastUsed : ℚ
  requestCount : Nat
  expiresAt : ℚ
  deriving DecidableEq

/-- `ScrapeRequest.method`. -/
inductive Method where
  | get
  | post
  deriving DecidableEq

/-- `ScrapeRequest.session_type`. -/
inductive SessionType where
  | stateless
  | stateful
  | statefulReset
  deriving DecidableEq

/-- `ScrapeRequest`; `src/asb_api/session/models.py:18–30`. -/
structure ScrapeRequest where
  url : String
  method : Method := .get
  headers : Dict String String := Dict.empty
  data : Option String := none
  proxyProvider : Option String := none
  region : Option String := none
  fingerprint : Option String := none
  timeout : Int := 30
  screenshot : Bool := false
  sessionId : Option String := none
  sessionType : SessionType := .stateless
  deriving DecidableEq

/-- `ScrapeMetadata`; `src/asb_api/session/models.py:33–42`. -/
structure ScrapeMetadata where
  requestId : String
  provider : String
  region : Option String
  fingerprintId : String
  workerId : String
  durationMs : Int
  blockDetected : Bool
  retries : Nat
  deriving DecidableEq

/-- `ScrapeResponse.status`. -/
inductive ScrapeStatus where
  | success
  | error
  | successWithRetries
  deriving DecidableEq

/-- The text of a status, as it is stored and sent. -/
def ScrapeStatus.text : ScrapeStatus → String
  | .success => "success"
  | .error => "error"
  | .successWithRetries => "success_with_retries"

/-- `ScrapeResponse`; `src/asb_api/session/models.py:45–55`. -/
structure ScrapeResponse where
  requestId : String
  status : ScrapeStatus
  html : Option String := none
  screenshotUrl : Option String := none
  cookies : Dict String String := Dict.empty
  headers : Dict String String := Dict.empty
  metadata : Option ScrapeMetadata := none
  errorCode : Option String := none
  message : Option String := none
  deriving DecidableEq

/-- Truth value of an optional text: `None` and the empty text are false. -/
def truthy : Option String → Bool
  | none => false
  | some s => s ≠ ""

/-- A text that is given and not empty. -/
theorem given_of_eq_some {x : Option String} {s : String} (h : x = some s) (hne : s ≠ "") :
    truthy x = true ∧ x.getD "" = s := by
  subst h
  exact ⟨decide_eq_true hne, rfl⟩

/-- `x or y` on texts. -/
def orElse (x : Option String) (y : String) : String :=
  match x with
  | none => y
  | some s => if s = "" then y else s

end AsbCloudApi.Session
