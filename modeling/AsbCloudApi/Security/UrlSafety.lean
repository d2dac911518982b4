import AsbCloudApi.Api.Errors
import AsbCloudApi.Net.UrlParse

/-!
# URL safety and log redaction

Library `Security`. Models `src/asb_api/security.py`. Name resolution goes through the C library:
a host in a numeric form is its own answer, any other host is looked up.
-/

namespace AsbCloudApi.Security

open Base Text Net Api

/-- `SecurityConfig`, without the redaction of headers; `src/asb_api/security.py:17–26`. -/
structure SecurityConfig where
  logUrlDomainsOnly : Bool := true
  blockPrivateNetworks : Bool := false
  allowedSchemes : List String := ["http", "https"]

/-- `PRIVATE_HOSTNAMES`; `src/asb_api/security.py:57–65`. -/
def privateHostnames : List String :=
  ["localhost", "localhost.localdomain", "127.0.0.1", "::1", "0.0.0.0",
    "metadata.google.internal", "169.254.169.254"]

/-- The suffixes of internal names; `src/asb_api/security.py:106`. -/
def internalSuffixes : List String := [".local", ".internal", ".lan"]

/-- The substrings of internal names; `src/asb_api/security.py:108`. -/
def internalParts : List String :=
  ["metadata", "169.254", "10.", "192.168.", "172.16.", "172.17.", "172.18."]

/-- A square bracket. -/
def isBracket (c : Char) : Bool := c = '[' || c = ']'

/-- `_is_private_address`; `src/asb_api/security.py:68–79`. -/
def isPrivateAddress (address : Chars) : Bool :=
  match ipAddress (strip isBracket address) with
  | none => false
  | some ip => ip.isInternal

/-! ### Name resolution -/

/-- The DNS: the addresses of a name, none if there is no such name. -/
abbrev Resolver := Chars → List Chars

/-- One number of a numeric host: hexadecimal, octal or decimal as in C. -/
def numberC (s : Chars) : Option Nat :=
  match s with
  | '0' :: x :: rest =>
    if x = 'x' || x = 'X' then
      if !rest.isEmpty && rest.all (isRadixDigit 16) then some (ofDigits 16 rest) else none
    else if (x :: rest).all (isRadixDigit 8) then some (ofDigits 8 (x :: rest)) else none
  | s => if isDigits s then some (ofDigits 10 s) else none

/-- The C library's `inet_aton`: one to four numbers, the last of which fills the rest. -/
def inetAton (s : Chars) : Option (BitVec 32) := do
  let parts ← (s.splitOn '.').mapM numberC
  let last ← parts.getLast?
  let init := parts.dropLast
  if 3 < init.length || init.any (255 < ·) || 256 ^ (4 - init.length) ≤ last then none
  else some (BitVec.ofNat 32
    ((init.zipIdx.map fun (n, i) ↦ n * 256 ^ (3 - i)).sum + last))

/-- The name under which a host is looked up: the host itself if it is ASCII and no label is too
long nor, but for the last one, empty; nothing stands for `UnicodeError`. -/
def idnaName (u : UnicodeTables) (host : Chars) : Option Chars :=
  if host.all isAscii then
    let labels := host.splitOn '.'
    if labels.dropLast.all (fun l ↦ 0 < l.length && l.length < 64) &&
      labels.getLast?.all (·.length < 64) then some host else none
  else u.idna host

/-- `getaddrinfo` on an encoded name. -/
def getaddrinfo (dns : Resolver) (name : Chars) : List Chars :=
  match inetAton name with
  | some ip => [IPv4.format ip]
  | none => dns name

/-- `_resolved_host_addresses`; `src/asb_api/security.py:82–93`. Nothing stands for the
`UnicodeError` that the handler does not catch. -/
def resolvedHostAddresses (u : UnicodeTables) (dns : Resolver) (host : Chars) :
    Option (List Chars) :=
  (idnaName u host).map (getaddrinfo dns)

/-! ### The check -/

/-- `host.lower().strip("[]")`. -/
def hostLower (u : UnicodeTables) (host : Chars) : Chars := strip isBracket (u.lowerText host)

/-- The part of `_is_private_or_localhost` before the lookup; `src/asb_api/security.py:98–110`. -/
def isPrivateByName (u : UnicodeTables) (host : Chars) : Bool :=
  host.isEmpty ||
    privateHostnames.any (·.toList = hostLower u host) ||
    isPrivateAddress (hostLower u host) ||
    internalSuffixes.any (·.toList.isSuffixOf (hostLower u host)) ||
    internalParts.any fun x ↦ decide (x.toList <:+: hostLower u host)

/-- `_is_private_or_localhost`; `src/asb_api/security.py:96–113`. -/
def isPrivateOrLocalhost (u : UnicodeTables) (dns : Resolver) (host : Chars) : Option Bool :=
  if isPrivateByName u host then some true
  else (resolvedHostAddresses u dns (hostLower u host)).map fun addresses ↦
    addresses.any isPrivateAddress

/-- A 400 response. -/
def badRequest (errorCode message : String) : Exn :=
  .http ⟨400, .dict (Dict.ofList [("error_code", .str errorCode), ("message", .str message)]),
    Dict.empty⟩

/-- `parsed.hostname or fallback`. -/
def hostnameOr (u : UnicodeTables) (parsed : ParseResult) (fallback : Chars) : Chars :=
  let hostname := (parsed.hostname u).getD []
  if hostname.isEmpty then fallback else hostname

/-- The host that is checked; `src/asb_api/security.py:165`. -/
def checkedHost (u : UnicodeTables) (parsed : ParseResult) : Chars :=
  hostnameOr u parsed (before ':' parsed.netloc)

/-- `validate_scrape_url` up to the scheme; `src/asb_api/security.py:135–163`. -/
def acceptedParts (u : UnicodeTables) (cfg : SecurityConfig) (url : String) :
    Except Exn ParseResult :=
  let missing := badRequest "INVALID_URL_SCHEME"
    "URL must include scheme and host (e.g. https://example.com)"
  if url = "" then .error (badRequest "BAD_REQUEST" "Missing or invalid URL")
  else
    match UrlParse.urlparse u url.toList with
    | none => .error missing
    | some parsed =>
      if parsed.scheme.isEmpty || parsed.netloc.isEmpty then .error missing
      else
        let scheme := String.ofList (asciiLower parsed.scheme)
        let allowed := if cfg.allowedSchemes.isEmpty then ["http", "https"] else cfg.allowedSchemes
        if scheme ∉ allowed then
          .error (badRequest "INVALID_URL_SCHEME" ("Unsupported URL scheme '" ++ scheme ++
            "'. Only http and https are allowed."))
        else .ok parsed

/-- `validate_scrape_url`; `src/asb_api/security.py:123–175`. A host that the `idna` codec refuses
raises one `UnicodeError`, whatever it is refused for. -/
def validateScrapeUrl (u : UnicodeTables) (cfg : SecurityConfig) (dns : Resolver) (url : String) :
    Except Exn String :=
  match acceptedParts u cfg url with
  | .error e => .error e
  | .ok parsed =>
    if !cfg.blockPrivateNetworks then .ok url
    else
      match isPrivateOrLocalhost u dns (checkedHost u parsed) with
      | none => .error (.py ⟨.unicodeError,
          "encoding with 'idna' codec failed (UnicodeError: label empty or too long)"⟩)
      | some true => .error (badRequest "PRIVATE_NETWORK_BLOCKED"
          ("Requests to private networks, localhost, or internal metadata services are " ++
            "not allowed in this configuration."))
      | some false => .ok url

/-- `redact_url_for_logging`; `src/asb_api/security.py:182–208`. -/
def redactUrlForLogging (u : UnicodeTables) (cfg : SecurityConfig) (url : String)
    (domainsOnly : Option Bool) : String :=
  let useDomainsOnly := domainsOnly.getD cfg.logUrlDomainsOnly
  if url = "" then ""
  else
    match UrlParse.urlparse u url.toList with
    | none => "[REDACTED_URL]"
    | some parsed =>
      if !useDomainsOnly then url
      else if !parsed.netloc.isEmpty then
        let host := hostnameOr u parsed (afterLast '@' parsed.netloc)
        match parsed.port with
        | none => "[REDACTED_URL]"
        | some port =>
          let port := match port with
            | none => []
            | some 0 => []
            | some n => ':' :: Nat.toDigits 10 n
          String.ofList (host ++ port)
      else
        let segments := url.toList.splitOn '/'
        if "://".toList <:+: url.toList then
          match segments[2]? with
          | some s => String.ofList s
          | none => "[REDACTED_URL]"
        else String.ofList (segments.headD [])

end AsbCloudApi.Security
