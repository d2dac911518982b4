import AsbCloudApi.Api.Errors

/-!
# Proxies

Library `Providers`. The proxy record and the two provider exceptions of
`src/asb_api/providers/base.py`.
-/

namespace AsbCloudApi.Providers

open Api

/-- `ProxyConfig.protocol`. -/
inductive ProxyProtocol where
  | http
  | socks5
  | socks4
  deriving DecidableEq

/-- `ProxyConfig`; `src/asb_api/providers/base.py:14–23`. -/
structure ProxyConfig where
  host : String
  port : Int
  username : Option String := none
  password : Option String := none
  protocol : ProxyProtocol := .http
  region : Option String := none
  sticky : Bool := false
  sessionToken : Option String := none
  deriving DecidableEq

/-- `except (PoolExhaustedError, ProviderError)`. -/
def isProviderFailure (e : PyError) : Bool :=
  e.cls = .poolExhaustedError || e.cls = .providerError

end AsbCloudApi.Providers
