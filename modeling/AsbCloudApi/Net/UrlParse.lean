import AsbCloudApi.Net.IpAddress

/-!
# URL parsing in Python

Library `Net`. `urllib.parse.urlparse` (Python 3.11) as far as scheme, authority, host and port
are concerned. The path keeps its parameters, query and fragment.
-/

namespace AsbCloudApi.Net

open Base Text

/-- What depends on Unicode tables. Each function is used on texts with a character outside
ASCII only. -/
structure UnicodeTables where
  /-- `str.lower`. -/
  lower : Chars → Chars
  /-- `unicodedata.normalize("NFKC", s)`. -/
  nfkc : Chars → Chars
  /-- `s.encode("idna")`; nothing stands for `UnicodeError`. -/
  idna : Chars → Option Chars
  /-- Domain to ASCII of the URL standard, also for labels that start with `xn--`. -/
  domainToAscii : Chars → Option Chars

/-- `s.lower()`. -/
def UnicodeTables.lowerText (u : UnicodeTables) (s : Chars) : Chars :=
  if s.all isAscii then asciiLower s else u.lower s

/-- `ParseResult`, up to the parts that are not used. -/
structure ParseResult where
  scheme : Chars
  netloc : Chars
  rest : Chars
  deriving DecidableEq

namespace UrlParse

/-- `scheme_chars`. -/
def isSchemeChar (c : Char) : Bool := c.isAlphanum || c = '+' || c = '-' || c = '.'

/-- Leading control characters and spaces go, tabs and newlines go everywhere. Trailing ones
stay. -/
def clean (url : Chars) : Chars := (url.dropWhile isC0OrSpace).filter (!isTabOrNewline ·)

/-- The scheme in lower case and what follows its colon; an empty scheme if there is none. -/
def splitScheme (url : Chars) : Chars × Chars :=
  let scheme := before ':' url
  if ':' ∈ url && (url.head?.any Char.isAlpha) && scheme.all isSchemeChar then
    (asciiLower scheme, after ':' url)
  else ([], url)

/-- Where `_splitnetloc` ends the authority: a backslash is none of these characters. -/
def endsNetloc (c : Char) : Bool := c = '/' || c = '?' || c = '#'

/-- `_check_bracketed_host`. -/
def checkBracketedHost (hostname : Chars) : Bool :=
  if hostname.head? = some 'v' then
    let version := before '.' hostname.tail
    !version.isEmpty && version.all (isRadixDigit 16) && '.' ∈ hostname &&
      !(after '.' hostname).isEmpty
  else
    match ipAddress hostname with
    | some (.v6 _) => true
    | _ => false

/-- `_check_bracketed_netloc`. -/
def checkBracketedNetloc (netloc : Chars) : Bool :=
  let hostnameAndPort := afterLast '@' netloc
  if '[' ∈ hostnameAndPort then
    let bracketed := after '[' hostnameAndPort
    let port := after ']' bracketed
    (before '[' hostnameAndPort).isEmpty && (port.isEmpty || port.head? = some ':') &&
      checkBracketedHost (before ']' bracketed)
  else checkBracketedHost (before ':' hostnameAndPort)

/-- `_checknetloc`: no character may turn into a delimiter under NFKC normalization. -/
def checkNetloc (u : UnicodeTables) (netloc : Chars) : Bool :=
  if netloc.all isAscii then true
  else
    let n := netloc.filter fun c ↦ c ≠ '@' && c ≠ ':' && c ≠ '#' && c ≠ '?'
    let normal := u.nfkc n
    n = normal || !normal.any (fun c ↦ c = '/' || c = '?' || c = '#' || c = '@' || c = ':')

/-- The checks of brackets in an authority. -/
def checkBrackets (netloc : Chars) : Bool :=
  if '[' ∈ netloc then ']' ∈ netloc && checkBracketedNetloc netloc else ']' ∉ netloc

/-- `urlparse(url)`; nothing stands for `ValueError`. -/
def urlparse (u : UnicodeTables) (url : Chars) : Option ParseResult :=
  let (scheme, rest) := splitScheme (clean url)
  match rest with
  | '/' :: '/' :: rest =>
    let netloc := rest.takeWhile (!endsNetloc ·)
    if checkBrackets netloc && checkNetloc u netloc then
      some ⟨scheme, netloc, rest.dropWhile (!endsNetloc ·)⟩
    else none
  | rest => some ⟨scheme, [], rest⟩

end UrlParse

namespace ParseResult

/-- `_hostinfo`: the host and the text of the port. -/
def hostinfo (r : ParseResult) : Chars × Chars :=
  let hostinfo := afterLast '@' r.netloc
  if '[' ∈ hostinfo then
    let bracketed := after '[' hostinfo
    (before ']' bracketed, after ':' (after ']' bracketed))
  else (before ':' hostinfo, after ':' hostinfo)

/-- `hostname`: in lower case up to a percent sign, which starts a scope id. -/
def hostname (u : UnicodeTables) (r : ParseResult) : Option Chars :=
  let hostname := r.hostinfo.1
  if hostname.isEmpty then none
  else if '%' ∈ hostname then
    some (u.lowerText (before '%' hostname) ++ '%' :: after '%' hostname)
  else some (u.lowerText hostname)

/-- `port`: absent, out of range or no number (`ValueError`), or a number. The limit of `int` to
4300 digits is left out, which only as many leading zeros would show. -/
def port (r : ParseResult) : Option (Option Nat) :=
  let port := r.hostinfo.2
  if port.isEmpty then some none
  else if isDigits port && ofDigits 10 port ≤ 65535 then some (some (ofDigits 10 port))
  else none

end ParseResult
end AsbCloudApi.Net
