import AsbCloudApi.Net.UrlParse

/-!
# URL parsing in the browser

Library `Net`. The host of an absolute `http` or `https` URL by the URL standard, which
Chromium follows. A backslash counts as a slash, spaces at both ends go, the host is percent
decoded before it is read, and any numeric host is an IPv4 address.
-/

namespace AsbCloudApi.Net.Whatwg

open Base Text

/-- A host that can be contacted: an address, or a name that the DNS resolves. -/
inductive Host where
  | domain (name : Chars)
  | address (ip : IPAddress)
  deriving DecidableEq

/-- Leading and trailing control characters and spaces go, tabs and newlines go everywhere. -/
def clean (url : Chars) : Chars := (strip isC0OrSpace url).filter (!isTabOrNewline ·)

/-- The end of the authority of an `http` or `https` URL. -/
def endsAuthority (c : Char) : Bool := c = '/' || c = '\\' || c = '?' || c = '#'

/-! ### Host parsing -/

/-- The value of a byte that is a hexadecimal digit. -/
def hexByte? (b : UInt8) : Option Nat := digitVal? (Char.ofNat b.toNat)

/-- Percent decoding of a sequence of bytes. -/
def percentDecode : List UInt8 → List UInt8
  | b :: x :: y :: rest =>
    match decide (b = 37), hexByte? x, hexByte? y with
    | true, some m, some n => UInt8.ofNat (m * 16 + n) :: percentDecode rest
    | _, _, _ => b :: percentDecode (x :: y :: rest)
  | bs => bs

/-- Percent decoding of a host. Bytes that are no UTF-8 become replacement characters, which
domain to ASCII refuses; nothing stands for that failure. -/
def decodeHost (input : Chars) : Option Chars :=
  if '%' ∈ input then
    (String.fromUTF8? ⟨(percentDecode (String.ofList input).toUTF8.toList).toArray⟩).map
      String.toList
  else some input

/-- Whether a label is to be decoded as Punycode. -/
def isPunycode (label : Chars) : Bool := "xn--".toList.isPrefixOf label

/-- Domain to ASCII. -/
def domainToAscii (u : UnicodeTables) (domain : Chars) : Option Chars :=
  if domain.all isAscii && !((asciiLower domain).splitOn '.').any isPunycode then
    if domain.isEmpty then none else some (asciiLower domain)
  else u.domainToAscii domain

/-- A forbidden domain code point. -/
def isForbidden (c : Char) : Bool :=
  c.toNat ≤ 0x20 || c.toNat = 0x7f ||
    "#/:<>?@[\\]^|%".toList.contains c

/-- The IPv4 number parser. -/
def ipv4Number (s : Chars) : Option Nat :=
  let radixDigits (radix : Nat) (ds : Chars) :=
    if ds.all (isRadixDigit radix) then some (ofDigits radix ds) else none
  match s with
  | [] => none
  | '0' :: x :: rest =>
    if x = 'x' || x = 'X' then radixDigits 16 rest else radixDigits 8 (x :: rest)
  | s => radixDigits 10 s

/-- The labels of a domain, without an empty one at its end. -/
def labels (domain : Chars) : List Chars :=
  let parts := domain.splitOn '.'
  if 1 < parts.length && parts.getLast? = some [] then parts.dropLast else parts

/-- The ends-in-a-number checker. -/
def endsInNumber (domain : Chars) : Bool :=
  match (labels domain).getLast? with
  | none => false
  | some last => isDigits last || (ipv4Number last).isSome

/-- The IPv4 parser. -/
def ipv4 (domain : Chars) : Option (BitVec 32) := do
  let numbers ← (labels domain).mapM ipv4Number
  let last ← numbers.getLast?
  let init := numbers.dropLast
  if 3 < init.length || init.any (255 < ·) || 256 ^ (4 - init.length) ≤ last then none
  else some (BitVec.ofNat 32
    ((init.zipIdx.map fun (n, i) ↦ n * 256 ^ (3 - i)).sum + last))

/-- The dotted end of an IPv6 address: exactly four numbers without leading zeros. -/
def ipv4InIpv6 (s : Chars) : Option (List Nat) :=
  match IPv4.parse s with
  | some ip => some [ip.toNat / 2 ^ 16, ip.toNat % 2 ^ 16]
  | none => none

/-- The loop of the IPv6 parser: the pieces so far and where `::` stood. The budget bounds
the number of pieces. -/
def ipv6Pieces : Nat → Chars → List Nat → Option Nat → Option (List Nat × Option Nat)
  | _, [], pieces, compress => some (pieces, compress)
  | 0, _ :: _, _, _ => none
  | fuel + 1, ':' :: rest, pieces, compress =>
    if pieces.length = 8 || compress.isSome then none
    else ipv6Pieces fuel rest (pieces ++ [0]) (some (pieces.length + 1))
  | fuel + 1, s, pieces, compress =>
    if pieces.length = 8 then none
    else
      let digits := (s.take 4).takeWhile (isRadixDigit 16)
      match s.drop digits.length with
      | [] => some (pieces ++ [ofDigits 16 digits], compress)
      | ':' :: rest =>
        if rest.isEmpty then none
        else ipv6Pieces fuel rest (pieces ++ [ofDigits 16 digits]) compress
      | '.' :: _ =>
        if digits.isEmpty || 6 < pieces.length then none
        else (ipv4InIpv6 s).map fun ps ↦ (pieces ++ ps, compress)
      | _ => none

/-- The IPv6 parser. -/
def ipv6 (s : Chars) : Option (BitVec 128) := do
  let (pieces, compress) ← match s with
    | ':' :: ':' :: rest => ipv6Pieces 9 rest [0] (some 1)
    | ':' :: _ => none
    | s => ipv6Pieces 9 s [] none
  match compress with
  | none => if pieces.length = 8 then some (IPv6.ofHextets pieces) else none
  | some k => some (IPv6.ofHextets
      (pieces.take k ++ List.replicate (8 - pieces.length) 0 ++ pieces.drop k))

/-- The host parser. -/
def parseHost (u : UnicodeTables) (input : Chars) : Option Host :=
  if input.head? = some '[' then
    if input.getLast? = some ']' then
      (ipv6 input.tail.dropLast).map fun ip ↦ .address (.v6 ip)
    else none
  else do
    let domain ← decodeHost input
    let asciiDomain ← domainToAscii u domain
    if asciiDomain.any isForbidden then none
    else if endsInNumber asciiDomain then (ipv4 asciiDomain).map fun ip ↦ .address (.v4 ip)
    else some (.domain asciiDomain)

/-! ### The authority -/

/-- The host in an authority without user information, up to a colon outside brackets, and
what follows that colon. -/
def splitPort : Bool → Chars → Chars × Option Chars
  | _, [] => ([], none)
  | inside, c :: rest =>
    if c = ':' && !inside then ([], some rest)
    else
      let inside := if c = '[' then true else if c = ']' then false else inside
      let (host, port) := splitPort inside rest
      (c :: host, port)

/-- The port is absent, empty or a number in range. -/
def portOk : Option Chars → Bool
  | none => true
  | some port => port.all Char.isDigit && ofDigits 10 port ≤ 65535

/-- The host that a browser contacts for a URL, if the URL is valid. -/
def host (u : UnicodeTables) (url : Chars) : Option Host :=
  let (scheme, rest) := UrlParse.splitScheme (clean url)
  if scheme = "http".toList || scheme = "https".toList then
    let authority := (rest.dropWhile fun c ↦ c = '/' || c = '\\').takeWhile (!endsAuthority ·)
    let (host, port) := splitPort false (afterLast '@' authority)
    if host.isEmpty || !portOk port then none else parseHost u host
  else none

end AsbCloudApi.Net.Whatwg
