import AsbCloudApi.Base.Text
import Mathlib.Algebra.GroupWithZero.Nat

/-!
# IP addresses

Library `Net`. The part of Python's `ipaddress` (3.11) that URL checks rest on: reading an
address from text and classifying it. An address is a number of 32 or 128 bits.
-/

namespace AsbCloudApi.Net

open Base Text

/-- `IPv4Address` or `IPv6Address`; a scope id plays no part in the classification. -/
inductive IPAddress where
  | v4 (ip : BitVec 32)
  | v6 (ip : BitVec 128)
  deriving DecidableEq

/-- A network: its first address and the length of the fixed part. -/
structure Network (w : Nat) where
  address : BitVec w
  length : Nat

/-- `ip in network`. -/
def Network.contains {w : Nat} (net : Network w) (ip : BitVec w) : Bool :=
  ip >>> (w - net.length) == net.address >>> (w - net.length)

namespace IPv4

/-- `_parse_octet`. -/
def parseOctet (s : Chars) : Option Nat :=
  if !isDigits s || 3 < s.length || (s ≠ ['0'] && s.head? = some '0') then none
  else if 255 < ofDigits 10 s then none
  else some (ofDigits 10 s)

/-- Four octets, the most significant one first. -/
def ofOctets (a b c d : Nat) : BitVec 32 := BitVec.ofNat 32 (((a * 256 + b) * 256 + c) * 256 + d)

/-- `IPv4Address(s)`. -/
def parse (s : Chars) : Option (BitVec 32) :=
  match s.splitOn '.' with
  | [a, b, c, d] => do
    let a ← parseOctet a
    let b ← parseOctet b
    let c ← parseOctet c
    let d ← parseOctet d
    some (ofOctets a b c d)
  | _ => none

/-- `str(ip)`: four decimal octets. -/
def format (ip : BitVec 32) : Chars :=
  let n := ip.toNat
  let octet (k : Nat) : Chars := Nat.toDigits 10 (n / 256 ^ k % 256)
  octet 3 ++ '.' :: octet 2 ++ '.' :: octet 1 ++ '.' :: octet 0

/-- `_private_networks`. -/
def privateNetworks : List (Network 32) :=
  [⟨ofOctets 0 0 0 0, 8⟩, ⟨ofOctets 10 0 0 0, 8⟩, ⟨ofOctets 127 0 0 0, 8⟩,
    ⟨ofOctets 169 254 0 0, 16⟩, ⟨ofOctets 172 16 0 0, 12⟩, ⟨ofOctets 192 0 0 0, 24⟩,
    ⟨ofOctets 192 0 0 170, 31⟩, ⟨ofOctets 192 0 2 0, 24⟩, ⟨ofOctets 192 168 0 0, 16⟩,
    ⟨ofOctets 198 18 0 0, 15⟩, ⟨ofOctets 198 51 100 0, 24⟩, ⟨ofOctets 203 0 113 0, 24⟩,
    ⟨ofOctets 240 0 0 0, 4⟩, ⟨ofOctets 255 255 255 255, 32⟩]

/-- `_private_networks_exceptions`. -/
def privateNetworksExceptions : List (Network 32) :=
  [⟨ofOctets 192 0 0 9, 32⟩, ⟨ofOctets 192 0 0 10, 32⟩]

/-- `is_private`. -/
def isPrivate (ip : BitVec 32) : Bool :=
  privateNetworks.any (·.contains ip) && !privateNetworksExceptions.any (·.contains ip)

/-- `is_loopback`. -/
def isLoopback (ip : BitVec 32) : Bool := (⟨ofOctets 127 0 0 0, 8⟩ : Network 32).contains ip

/-- `is_link_local`. -/
def isLinkLocal (ip : BitVec 32) : Bool := (⟨ofOctets 169 254 0 0, 16⟩ : Network 32).contains ip

/-- `is_reserved`. -/
def isReserved (ip : BitVec 32) : Bool := (⟨ofOctets 240 0 0 0, 4⟩ : Network 32).contains ip

/-- `is_unspecified`. -/
def isUnspecified (ip : BitVec 32) : Bool := ip == 0

end IPv4

namespace IPv6

/-- `_parse_hextet`. -/
def parseHextet (s : Chars) : Option Nat :=
  if s.isEmpty || !s.all (isRadixDigit 16) || 4 < s.length then none else some (ofDigits 16 s)

/-- The last part of an address with an IPv4 suffix becomes two hextets. -/
def expandSuffix (parts : List Chars) : Option (List Chars) :=
  match parts.getLast? with
  | none => some parts
  | some last =>
    if '.' ∈ last then do
      let ip ← IPv4.parse last
      some (parts.dropLast ++
        [Nat.toDigits 16 (ip.toNat / 2 ^ 16), Nat.toDigits 16 (ip.toNat % 2 ^ 16)])
    else some parts

/-- The indices of empty parts, disregarding both ends: where `::` stands. -/
def skipIndices (parts : List Chars) : List Nat :=
  (List.range parts.length).filter fun i ↦
    0 < i && i + 1 < parts.length && (parts[i]?.any List.isEmpty)

/-- How many parts stand for hextets before and after the skipped run of zeros, and the length
of that run. -/
def layout (parts : List Chars) : Option (Nat × Nat × Nat) :=
  let headEmpty := parts.head?.any List.isEmpty
  let lastEmpty := parts.getLast?.any List.isEmpty
  match skipIndices parts with
  | [] =>
    if parts.length ≠ 8 || headEmpty || lastEmpty then none else some (parts.length, 0, 0)
  | [skip] =>
    let hi := if headEmpty then skip - 1 else skip
    let lo := if lastEmpty then parts.length - skip - 2 else parts.length - skip - 1
    if (headEmpty && hi ≠ 0) || (lastEmpty && lo ≠ 0) || 8 < hi + lo + 1 then none
    else some (hi, lo, 8 - (hi + lo))
  | _ => none

/-- Hextets, the most significant one first. -/
def ofHextets (hs : List Nat) : BitVec 128 :=
  BitVec.ofNat 128 (hs.foldl (fun n h ↦ n * 2 ^ 16 + h) 0)

/-- `IPv6Address(s)` without its scope id. -/
def parseUnscoped (s : Chars) : Option (BitVec 128) :=
  let parts := s.splitOn ':'
  if s.isEmpty || parts.length < 3 then none else do
    let parts ← expandSuffix parts
    if 9 < parts.length then none else do
      let (hi, lo, skipped) ← layout parts
      let upper ← (parts.take hi).mapM parseHextet
      let lower ← (parts.drop (parts.length - lo)).mapM parseHextet
      some (ofHextets (upper ++ List.replicate skipped 0 ++ lower))

/-- `IPv6Address(s)`: a scope id must not be empty nor hold a further percent sign. -/
def parse (s : Chars) : Option (BitVec 128) :=
  if '/' ∈ s then none
  else if '%' ∈ s then
    if (after '%' s).isEmpty || '%' ∈ after '%' s then none else parseUnscoped (before '%' s)
  else parseUnscoped s

/-- `_private_networks`. -/
def privateNetworks : List (Network 128) :=
  [⟨ofHextets [0, 0, 0, 0, 0, 0, 0, 1], 128⟩, ⟨ofHextets [0, 0, 0, 0, 0, 0, 0, 0], 128⟩,
    ⟨ofHextets [0, 0, 0, 0, 0, 0xffff, 0, 0], 96⟩, ⟨ofHextets [0x64, 0xff9b, 1, 0, 0, 0, 0, 0], 48⟩,
    ⟨ofHextets [0x100, 0, 0, 0, 0, 0, 0, 0], 64⟩, ⟨ofHextets [0x2001, 0, 0, 0, 0, 0, 0, 0], 23⟩,
    ⟨ofHextets [0x2001, 0xdb8, 0, 0, 0, 0, 0, 0], 32⟩,
    ⟨ofHextets [0x2002, 0, 0, 0, 0, 0, 0, 0], 16⟩,
    ⟨ofHextets [0xfc00, 0, 0, 0, 0, 0, 0, 0], 7⟩, ⟨ofHextets [0xfe80, 0, 0, 0, 0, 0, 0, 0], 10⟩]

/-- `_private_networks_exceptions`. -/
def privateNetworksExceptions : List (Network 128) :=
  [⟨ofHextets [0x2001, 1, 0, 0, 0, 0, 0, 1], 128⟩, ⟨ofHextets [0x2001, 1, 0, 0, 0, 0, 0, 2], 128⟩,
    ⟨ofHextets [0x2001, 3, 0, 0, 0, 0, 0, 0], 32⟩,
    ⟨ofHextets [0x2001, 4, 0x112, 0, 0, 0, 0, 0], 48⟩,
    ⟨ofHextets [0x2001, 0x20, 0, 0, 0, 0, 0, 0], 28⟩,
    ⟨ofHextets [0x2001, 0x30, 0, 0, 0, 0, 0, 0], 28⟩]

/-- `_reserved_networks`. -/
def reservedNetworks : List (Network 128) :=
  [⟨ofHextets [0, 0, 0, 0, 0, 0, 0, 0], 8⟩, ⟨ofHextets [0x100, 0, 0, 0, 0, 0, 0, 0], 8⟩,
    ⟨ofHextets [0x200, 0, 0, 0, 0, 0, 0, 0], 7⟩, ⟨ofHextets [0x400, 0, 0, 0, 0, 0, 0, 0], 6⟩,
    ⟨ofHextets [0x800, 0, 0, 0, 0, 0, 0, 0], 5⟩, ⟨ofHextets [0x1000, 0, 0, 0, 0, 0, 0, 0], 4⟩,
    ⟨ofHextets [0x4000, 0, 0, 0, 0, 0, 0, 0], 3⟩, ⟨ofHextets [0x6000, 0, 0, 0, 0, 0, 0, 0], 3⟩,
    ⟨ofHextets [0x8000, 0, 0, 0, 0, 0, 0, 0], 3⟩, ⟨ofHextets [0xa000, 0, 0, 0, 0, 0, 0, 0], 3⟩,
    ⟨ofHextets [0xc000, 0, 0, 0, 0, 0, 0, 0], 3⟩, ⟨ofHextets [0xe000, 0, 0, 0, 0, 0, 0, 0], 4⟩,
    ⟨ofHextets [0xf000, 0, 0, 0, 0, 0, 0, 0], 5⟩, ⟨ofHextets [0xf800, 0, 0, 0, 0, 0, 0, 0], 6⟩,
    ⟨ofHextets [0xfe00, 0, 0, 0, 0, 0, 0, 0], 9⟩]

/-- `ipv4_mapped`. -/
def ipv4Mapped (ip : BitVec 128) : Option (BitVec 32) :=
  if ip >>> 32 = 0xffff then some (ip.setWidth 32) else none

/-- `is_private`. -/
def isPrivate (ip : BitVec 128) : Bool :=
  match ipv4Mapped ip with
  | some ip => IPv4.isPrivate ip
  | none => privateNetworks.any (·.contains ip) && !privateNetworksExceptions.any (·.contains ip)

/-- `is_loopback`. -/
def isLoopback (ip : BitVec 128) : Bool := ip == 1

/-- `is_link_local`. -/
def isLinkLocal (ip : BitVec 128) : Bool :=
  match ipv4Mapped ip with
  | some ip => IPv4.isLinkLocal ip
  | none => (⟨ofHextets [0xfe80, 0, 0, 0, 0, 0, 0, 0], 10⟩ : Network 128).contains ip

/-- `is_reserved`. -/
def isReserved (ip : BitVec 128) : Bool :=
  match ipv4Mapped ip with
  | some ip => IPv4.isReserved ip
  | none => reservedNetworks.any (·.contains ip)

/-- `is_unspecified`. -/
def isUnspecified (ip : BitVec 128) : Bool :=
  match ipv4Mapped ip with
  | some ip => IPv4.isUnspecified ip
  | none => ip == 0

end IPv6

/-- `ipaddress.ip_address(s)`; nothing stands for `ValueError`. -/
def ipAddress (s : Chars) : Option IPAddress :=
  match IPv4.parse s with
  | some ip => some (.v4 ip)
  | none => (IPv6.parse s).map .v6

namespace IPAddress

/-- Private, loopback, link-local, reserved or unspecified. -/
def isInternal : IPAddress → Bool
  | .v4 ip => IPv4.isPrivate ip || IPv4.isLoopback ip || IPv4.isLinkLocal ip ||
      IPv4.isReserved ip || IPv4.isUnspecified ip
  | .v6 ip => IPv6.isPrivate ip || IPv6.isLoopback ip || IPv6.isLinkLocal ip ||
      IPv6.isReserved ip || IPv6.isUnspecified ip

end IPAddress
end AsbCloudApi.Net
