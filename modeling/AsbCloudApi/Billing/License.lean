import AsbCloudApi.Base.Numeral
import Mathlib.Algebra.Order.Ring.Rat
import Mathlib.Data.Rat.Cast.Order

/-!
# Self-hosted licenses

Library `Billing`. Models `src/asb_api/billing/license.py`. HMAC-SHA256 is a parameter: the
hexadecimal digest of a key and a message, both encoded as UTF-8.
-/

namespace AsbCloudApi.Billing

open Base Base.Text

/-- A hexadecimal digit as Python writes it. -/
def isLowerHexDigit (c : Char) : Bool := c.isDigit || ('a' ≤ c && c ≤ 'f')

/-- A character of `string.hexdigits`. -/
def isHexDigit (c : Char) : Bool := isLowerHexDigit c || ('A' ≤ c && c ≤ 'F')

/-- `n` hexadecimal digits as Python writes them. -/
structure HexText (n : Nat) where
  chars : Chars
  length_chars : chars.length = n
  lower : ∀ c ∈ chars, isLowerHexDigit c = true

namespace HexText

variable {n : Nat} (h : HexText n)

/-- `h[:m]`. -/
def take (m : Nat) (hmn : m ≤ n) : HexText m where
  chars := h.chars.take m
  length_chars := by rw [List.length_take, h.length_chars, Nat.min_eq_left hmn]
  lower c hc := h.lower c (List.mem_of_mem_take hc)

/-- Zeros only. -/
def zeros (n : Nat) : HexText n where
  chars := List.replicate n '0'
  length_chars := List.length_replicate
  lower c hc := by
    rw [List.eq_of_mem_replicate hc]
    rfl

/-- The digits that a text lists. -/
def ofString (n : Nat) (text : String)
    (htext : text.toList.length = n ∧ text.toList.all isLowerHexDigit = true) : HexText n :=
  ⟨text.toList, htext.1, List.all_eq_true.mp htext.2⟩

theorem isHexDigit_of_mem {c : Char} (hc : c ∈ h.chars) : isHexDigit c = true := by
  unfold isHexDigit
  rw [h.lower c hc, Bool.true_or]

theorem underscore_not_mem : '_' ∉ h.chars := by
  intro hc
  cases h.lower _ hc

end HexText

/-- `SelfHostedLicense`, with the functions it rests on. -/
structure SelfHostedLicense where
  secretKey : Chars
  /-- `hmac.new(key, message, hashlib.sha256).hexdigest()`. -/
  hexdigest : Chars → Chars → HexText 64
  /-- The space or digit that a character stands for which is not ASCII. -/
  toAscii : Char → Char

namespace SelfHostedLicense

variable (lic : SelfHostedLicense)

/-- `_payload`; `src/asb_api/billing/license.py:50–51`. Nothing stands for `ValueError`. -/
def payload (licenseType domain token : Chars) (expiryTs : Int) : Option Chars :=
  (strOfInt expiryTs).map fun expiry ↦
    licenseType ++ ':' :: (domain ++ ':' :: (token ++ ':' :: expiry))

/-- The signature of a payload: the first 16 digits of its HMAC. -/
def sign (payload : Chars) : HexText 16 := (lic.hexdigest lic.secretKey payload).take 16 (by omega)

/-- `generate`, for the token that is drawn; `src/asb_api/billing/license.py:12–19`. Nothing stands
for `ValueError`. -/
def generate (licenseType domain : Chars) (expiryTs : Int) (token : HexText 16) : Option Chars := do
  let payload ← payload licenseType domain token.chars expiryTs
  let expiry ← strOfInt expiryTs
  let sig := lic.sign payload
  some ("sk_license_".toList ++ (token.chars ++ '_' :: (expiry ++ '_' :: sig.chars)))

/-- `_parse_key`; `src/asb_api/billing/license.py:53–67`. -/
def parseKey (licenseKey : Chars) : Option (Chars × Int × Chars) :=
  match licenseKey.splitOn '_' with
  | [sk, license, token, expiryRaw, sig] =>
    if sk ≠ "sk".toList ∨ license ≠ "license".toList then none
    else if token.length ≠ 16 ∨ sig.length ≠ 16 then none
    else if (token ++ sig).any fun c ↦ !isHexDigit c then none
    else (intOfText lic.toAscii expiryRaw).map (token, ·, sig)
  | _ => none

/-- `verify`; `src/asb_api/billing/license.py:21–31`. Nothing stands for `ValueError`. -/
def verify (licenseKey licenseType domain : Chars) (expiryTs : Int) : Option Bool :=
  match lic.parseKey licenseKey with
  | none => some false
  | some (token, parsedExpiry, providedSig) =>
    if parsedExpiry ≠ expiryTs then some false
    else (payload licenseType domain token expiryTs).map fun payload ↦
      (lic.sign payload).chars = providedSig

/-- `verify_full` at an instant; `src/asb_api/billing/license.py:33–48`. -/
def verifyFull (now : ℚ) (licenseKey licenseType domain : Chars) : Bool × String :=
  match lic.parseKey licenseKey with
  | none => (false, "Malformed license key")
  | some (token, expiryTs, providedSig) =>
    if expiryTs < now then (false, "License key expired")
    else
      match payload licenseType domain token expiryTs with
      | none => (false, "Invalid expiry in license key")
      | some payload =>
        if (lic.sign payload).chars ≠ providedSig then (false, "Invalid license signature")
        else (true, "")

/-! ### What is parsed back -/

variable {lic}

/-- A generated key and the payload that it signs. -/
theorem generate_eq_some {licenseType domain key : Chars} {expiryTs : Int} {token : HexText 16}
    (h : lic.generate licenseType domain expiryTs token = some key) :
    ∃ expiry signed, strOfInt expiryTs = some expiry ∧
      payload licenseType domain token.chars expiryTs = some signed ∧
      key = "sk_license_".toList ++
        (token.chars ++ '_' :: (expiry ++ '_' :: (lic.sign signed).chars)) := by
  unfold generate at h
  cases hs : strOfInt expiryTs with
  | none =>
    rw [payload, hs] at h
    cases h
  | some expiry =>
    cases hp : payload licenseType domain token.chars expiryTs with
    | none =>
      rw [hp] at h
      cases h
    | some signed =>
      rw [hp, hs] at h
      exact ⟨expiry, signed, rfl, rfl, (Option.some.inj h).symm⟩

/-- A text that starts like a license key, split at its underscores. -/
theorem splitOn_sk_license (s : Chars) :
    ("sk_license_".toList ++ s).splitOn '_' = "sk".toList :: "license".toList :: s.splitOn '_' := by
  have hparts : "sk_license_".toList ++ s = "sk".toList ++ '_' :: ("license".toList ++ '_' :: s) :=
    rfl
  rw [hparts, List.splitOn_append_cons_self_of_not_mem (by decide),
    List.splitOn_append_cons_self_of_not_mem (by decide)]

/-- A token, an expiry and a signature are parsed back. -/
theorem parseKey_eq_some {token sig : HexText 16} {expiryTs : Int} {expiry : Chars}
    (he : strOfInt expiryTs = some expiry) :
    lic.parseKey ("sk_license_".toList ++
      (token.chars ++ '_' :: (expiry ++ '_' :: sig.chars))) =
        some (token.chars, expiryTs, sig.chars) := by
  have hhex : ((token.chars ++ sig.chars).any fun c ↦ !isHexDigit c) = false := by
    rw [List.any_eq_false]
    intro c hc
    rcases List.mem_append.mp hc with ht | hs
    · simp [token.isHexDigit_of_mem ht]
    · simp [sig.isHexDigit_of_mem hs]
  unfold parseKey
  rw [splitOn_sk_license, List.splitOn_append_cons_self_of_not_mem token.underscore_not_mem,
    List.splitOn_append_cons_self_of_not_mem (underscore_not_mem_strOfInt he),
    List.splitOn_eq_singleton sig.underscore_not_mem]
  dsimp only
  rw [if_neg (by simp), if_neg (by simp [token.length_chars, sig.length_chars]), hhex,
    if_neg Bool.false_ne_true, intOfText_strOfInt lic.toAscii he]
  rfl

/-- A generated key is parsed back. -/
theorem parseKey_generate {licenseType domain key : Chars} {expiryTs : Int} {token : HexText 16}
    (h : lic.generate licenseType domain expiryTs token = some key) :
    ∃ signed, payload licenseType domain token.chars expiryTs = some signed ∧
      lic.parseKey key = some (token.chars, expiryTs, (lic.sign signed).chars) := by
  obtain ⟨expiry, signed, he, hp, rfl⟩ := generate_eq_some h
  exact ⟨signed, hp, parseKey_eq_some he⟩

/-- A key is generated exactly if its expiry has a text. -/
theorem generate_isSome {licenseType domain : Chars} {expiryTs : Int} {token : HexText 16} :
    (lic.generate licenseType domain expiryTs token).isSome ↔
      (digits expiryTs).length ≤ intMaxStrDigits := by
  rw [← strOfInt_isSome]
  unfold generate payload
  cases strOfInt expiryTs with
  | none => exact Iff.rfl
  | some expiry => exact Iff.rfl

variable (lic) in
/-- Every key that is generated is parsed back to its token, expiry and signature, verifies for
its own expiry only, and is valid until then. -/
theorem generate_roundTrip (licenseType domain : Chars) (expiryTs : Int) (token : HexText 16) :
    ((lic.generate licenseType domain expiryTs token).isSome ↔
      (digits expiryTs).length ≤ intMaxStrDigits) ∧
    ∀ key, lic.generate licenseType domain expiryTs token = some key →
      (∃ signed, payload licenseType domain token.chars expiryTs = some signed ∧
        lic.parseKey key = some (token.chars, expiryTs, (lic.sign signed).chars)) ∧
      (∀ e, lic.verify key licenseType domain e = some (decide (e = expiryTs))) ∧
      ∀ now : ℚ, lic.verifyFull now key licenseType domain =
        if now ≤ expiryTs then (true, "") else (false, "License key expired") := by
  refine ⟨generate_isSome, ?_⟩
  intro key hkey
  obtain ⟨signed, hp, hparse⟩ := parseKey_generate hkey
  refine ⟨⟨signed, hp, hparse⟩, ?_, ?_⟩
  · intro e
    unfold verify
    rw [hparse]
    dsimp only
    by_cases he : e = expiryTs
    · rw [if_neg (by simp [he]), he, hp]
      simp
    · rw [if_pos (Ne.symm he), decide_eq_false he]
  · intro now
    unfold verifyFull
    rw [hparse]
    dsimp only
    by_cases hnow : now ≤ expiryTs
    · rw [if_neg (not_lt.mpr hnow), if_pos hnow, hp]
      simp
    · rw [if_pos (not_le.mp hnow), if_neg hnow]

/-! ### What a key is bound to -/

/-- At an instant, a key is valid for no other license type and domain. -/
def BoundTo (lic : SelfHostedLicense) (now : ℚ) (key licenseType domain : Chars) : Prop :=
  ∀ t d, (t, d) ≠ (licenseType, domain) → (lic.verifyFull now key t d).1 = false

/-- No other payload has the same signature. -/
def SignsOnly (lic : SelfHostedLicense) (signed : Chars) : Prop :=
  ∀ payload, (lic.sign payload).chars = (lic.sign signed).chars → payload = signed

/-- What is valid is not expired and has the payload that was signed. -/
theorem verifyFull_generate {licenseType domain key signed : Chars} {expiryTs : Int}
    {token : HexText 16} (hp : payload licenseType domain token.chars expiryTs = some signed)
    (h : lic.generate licenseType domain expiryTs token = some key) (hone : lic.SignsOnly signed)
    (now : ℚ) (t d : Chars) : (lic.verifyFull now key t d).1 = true ↔
      now ≤ expiryTs ∧ payload t d token.chars expiryTs = some signed := by
  obtain ⟨signed', hp', hparse⟩ := parseKey_generate h
  obtain rfl := Option.some.inj (hp.symm.trans hp')
  unfold verifyFull
  rw [hparse]
  dsimp only
  split
  · next hlt => simp [not_le.mpr hlt]
  · next hle =>
    cases hq : payload t d token.chars expiryTs with
    | none => simp
    | some q =>
      dsimp only
      split
      · next hne =>
        simp only [Bool.false_eq_true, Option.some.injEq, false_iff, not_and]
        rintro - rfl
        exact hne rfl
      · next heq =>
        simp only [true_iff, Option.some.injEq]
        exact ⟨not_lt.mp hle, hone q (not_not.mp heq)⟩

/-- Two payloads of one token and expiry agree if their first two parts do. -/
theorem payload_eq_iff {t d t' d' token : Chars} {expiryTs : Int} {signed : Chars}
    (hp : payload t d token expiryTs = some signed) :
    payload t' d' token expiryTs = some signed ↔ t' ++ ':' :: d' = t ++ ':' :: d := by
  unfold payload at hp ⊢
  cases hs : strOfInt expiryTs with
  | none =>
    rw [hs] at hp
    cases hp
  | some expiry =>
    rw [hs, Option.map_some, Option.some.injEq] at hp
    subst hp
    have hsplit (t d : Chars) : t ++ ':' :: (d ++ ':' :: (token ++ ':' :: expiry)) =
        (t ++ ':' :: d) ++ ':' :: (token ++ ':' :: expiry) := by simp
    rw [Option.map_some, Option.some.injEq, hsplit, hsplit, List.append_left_inj]

/-- Without the delimiter in either, two parts can be told from their joined text. -/
theorem join_inj_iff (t d : Chars) : (∀ t' d' : Chars, t' ++ ':' :: d' = t ++ ':' :: d →
    t' = t ∧ d' = d) ↔ ':' ∉ t ∧ ':' ∉ d := by
  constructor
  · intro hinj
    constructor
    · intro hc
      obtain ⟨a, b, rfl⟩ := List.append_of_mem hc
      have hlen := congrArg List.length (hinj a (b ++ ':' :: d) (by simp)).1
      simp at hlen
    · intro hc
      obtain ⟨a, b, rfl⟩ := List.append_of_mem hc
      have hlen := congrArg List.length (hinj (t ++ ':' :: a) b (by simp)).1
      simp at hlen
  · rintro ⟨ht, hd⟩ t' d' hjoin
    rcases List.append_eq_append_iff.mp hjoin with ⟨a, rfl, ha⟩ | ⟨a, rfl, ha⟩
    · cases a with
      | nil => simpa using ha
      | cons c a =>
        obtain ⟨rfl, -⟩ := List.cons.inj ha
        simp at ht
    · cases a with
      | nil => simpa using ha.symm
      | cons c a =>
        obtain ⟨rfl, rfl⟩ := List.cons.inj ha
        simp at hd

/-- As long as it has not expired, a key is bound to its license type and domain exactly if
neither contains a colon. -/
theorem boundTo_iff {licenseType domain key signed : Chars} {expiryTs : Int} {token : HexText 16}
    (h : lic.generate licenseType domain expiryTs token = some key)
    (hp : payload licenseType domain token.chars expiryTs = some signed)
    (hone : lic.SignsOnly signed) (now : ℚ) : lic.BoundTo now key licenseType domain ↔
      (':' ∉ licenseType ∧ ':' ∉ domain) ∨ expiryTs < now := by
  have hvalid (t d : Chars) : (lic.verifyFull now key t d).1 = true ↔
      now ≤ expiryTs ∧ t ++ ':' :: d = licenseType ++ ':' :: domain := by
    rw [verifyFull_generate hp h hone, payload_eq_iff hp]
  rw [← join_inj_iff]
  constructor
  · intro hbound
    by_cases hexp : expiryTs < now
    · exact Or.inr hexp
    · left
      intro t d hjoin
      by_contra hne
      have hinvalid := hbound t d fun heq ↦ hne (Prod.mk.inj heq)
      rw [(hvalid t d).mpr ⟨not_lt.mp hexp, hjoin⟩] at hinvalid
      cases hinvalid
  · intro hor t d hne
    rw [Bool.eq_false_iff]
    intro htrue
    obtain ⟨hle, hjoin⟩ := (hvalid t d).mp htrue
    rcases hor with hinj | hexp
    · exact hne (Prod.ext_iff.mpr (hinj t d hjoin))
    · exact absurd hle (not_le.mpr hexp)

/-- A digest that is the given one on one message, and zeros elsewhere. -/
private def digestOn (message : Chars) (digest : HexText 64) (_key m : Chars) : HexText 64 :=
  if m = message then digest
  else HexText.zeros 64

private theorem signsOnly_digestOn {key message : Chars} {digest : HexText 64} {f : Char → Char}
    (h : digest.chars.take 16 ≠ List.replicate 16 '0') :
    SignsOnly ⟨key, digestOn message digest, f⟩ message := by
  intro p hp
  by_contra hne
  change ((digestOn message digest key p).chars.take 16) =
    ((digestOn message digest key message).chars.take 16) at hp
  unfold digestOn at hp
  rw [if_neg hne, if_pos rfl] at hp
  exact h hp.symm

private def sampleLicense (message digest : String)
    (h : digest.toList.length = 64 ∧ digest.toList.all isLowerHexDigit = true) :
    SelfHostedLicense :=
  ⟨"test-secret".toList, digestOn message.toList (.ofString 64 digest h), id⟩

private def sampleToken : HexText 16 := .ofString 16 "0011223344556677" (by decide +kernel)

/-- A license for a domain without a port. -/
theorem boundTo_iff_sample : ∃ lic : SelfHostedLicense, ∃ key,
    lic.generate "solo".toList "example.com".toList 1700000000 sampleToken = some key ∧
      lic.BoundTo 1600000000 key "solo".toList "example.com".toList := by
  have hgen : (sampleLicense "solo:example.com:0011223344556677:1700000000"
      "3f32c7496c5fb36818e2d4ecb36a4c047486c8d8d89cb8e109ab6807c5a7cfeb"
      (by decide +kernel)).generate
        "solo".toList "example.com".toList 1700000000 sampleToken =
      some "sk_license_0011223344556677_1700000000_3f32c7496c5fb368".toList := by
    decide +kernel
  refine ⟨_, _, hgen, (boundTo_iff hgen (by decide +kernel) (signsOnly_digestOn
    (by decide +kernel)) _).mpr (Or.inl (by decide +kernel))⟩

/-- A license for a domain with a port is also valid for another license type and domain. -/
theorem not_boundTo : ∃ lic : SelfHostedLicense, ∃ domain key signed,
    lic.generate "solo".toList domain 1700000000 sampleToken = some key ∧
      payload "solo".toList domain sampleToken.chars 1700000000 = some signed ∧
      lic.SignsOnly signed ∧ ¬ lic.BoundTo 1600000000 key "solo".toList domain := by
  refine ⟨sampleLicense "solo:example.com:8080:0011223344556677:1700000000"
      "426b0ebe5e779fdd39f259897ebdac4f6eb26fab08a80582a5509d16622884a3"
      (by decide +kernel),
    "example.com:8080".toList, "sk_license_0011223344556677_1700000000_426b0ebe5e779fdd".toList,
    "solo:example.com:8080:0011223344556677:1700000000".toList, by decide +kernel,
    by decide +kernel, signsOnly_digestOn (by decide +kernel), ?_⟩
  intro hbound
  have hinvalid := hbound "solo:example.com".toList "8080".toList (by decide +kernel)
  revert hinvalid
  decide +kernel

end SelfHostedLicense

end AsbCloudApi.Billing
