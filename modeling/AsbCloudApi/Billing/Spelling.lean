import AsbCloudApi.Billing.License

/-!
# Spellings of a license key

Library `Billing`. The signature of `src/asb_api/billing/license.py` covers the expiry as a number,
while `_parse_key` reads it with `int()`, which takes many texts for one number. A key has other
spellings that are accepted.
-/

namespace AsbCloudApi.Billing.SelfHostedLicense

open Base Base.Text

variable (lic : SelfHostedLicense)

/-- A key in the form that `generate` gives it, from the fields that `_parse_key` returns;
`src/asb_api/billing/license.py:19`. -/
def reencode (licenseKey : Chars) : Option Chars := do
  let (token, expiryTs, sig) ← lic.parseKey licenseKey
  let expiry ← strOfInt expiryTs
  some ("sk_license_".toList ++ (token ++ '_' :: (expiry ++ '_' :: sig)))

/-- `verify_full` or `verify` accepts the key for some license type and domain. -/
def Accepts (licenseKey : Chars) : Prop :=
  ∃ licenseType domain, (∃ now, (lic.verifyFull now licenseKey licenseType domain).1 = true) ∨
    ∃ expiryTs, lic.verify licenseKey licenseType domain expiryTs = some true

/-- The text of the expiry. -/
def expiryText (licenseKey : Chars) : Chars := ((licenseKey.splitOn '_')[3]?).getD []

variable {lic}

/-- An accepted key can be parsed, and its expiry can be written. -/
theorem exists_of_accepts {key : Chars} (h : lic.Accepts key) :
    ∃ token expiryTs sig expiry,
      lic.parseKey key = some (token, expiryTs, sig) ∧ strOfInt expiryTs = some expiry := by
  have hwritten {licenseType domain token signed : Chars} {expiryTs : Int}
      (hp : payload licenseType domain token expiryTs = some signed) :
      ∃ expiry, strOfInt expiryTs = some expiry := by
    obtain ⟨expiry, he, -⟩ := Option.map_eq_some_iff.mp hp
    exact ⟨expiry, he⟩
  obtain ⟨licenseType, domain, ⟨now, hfull⟩ | ⟨expected, hverify⟩⟩ := h
  · unfold verifyFull at hfull
    split at hfull
    · cases hfull
    · next token expiryTs sig hparse =>
      split at hfull
      · cases hfull
      · split at hfull
        · cases hfull
        · next signed hp =>
          obtain ⟨expiry, he⟩ := hwritten hp
          exact ⟨token, expiryTs, sig, expiry, hparse, he⟩
  · unfold verify at hverify
    split at hverify
    · cases hverify
    · next token expiryTs sig hparse =>
      split at hverify
      · cases hverify
      · next heq =>
        obtain ⟨signed, hp, -⟩ := Option.map_eq_some_iff.mp hverify
        obtain ⟨expiry, he⟩ := hwritten hp
        exact ⟨token, expiryTs, sig, expiry, hparse, by rwa [not_not.mp heq]⟩

/-- The fields of a key and its text. -/
theorem of_parseKey {key token sig : Chars} {expiryTs : Int}
    (h : lic.parseKey key = some (token, expiryTs, sig)) :
    key = "sk_license_".toList ++ (token ++ '_' :: (expiryText key ++ '_' :: sig)) ∧
      intOfText lic.toAscii (expiryText key) = some expiryTs := by
  unfold parseKey at h
  split at h
  · next sk license token' expiryRaw sig' hsplit =>
    have htext : expiryText key = expiryRaw := by
      rw [expiryText, hsplit]
      rfl
    split at h
    · cases h
    · next hprefix =>
      rw [not_or, not_not, not_not] at hprefix
      obtain ⟨rfl, rfl⟩ := hprefix
      split at h
      · cases h
      · split at h
        · cases h
        · obtain ⟨n, hn, hfields⟩ := Option.map_eq_some_iff.mp h
          cases hfields
          have hjoin : ['_'].intercalate (key.splitOn '_') = key := List.intercalate_splitOn '_'
          have hparts : ['_'].intercalate (key.splitOn '_') =
              "sk_license_".toList ++ (token ++ '_' :: (expiryRaw ++ '_' :: sig)) := by
            rw [hsplit]
            simp [List.intercalate]
          rw [htext]
          exact ⟨hjoin.symm.trans hparts, hn⟩
  · cases h

/-- An accepted key is spelled as `generate` spells it exactly if its expiry is canonical. -/
theorem reencode_eq_iff {key : Chars} (h : lic.Accepts key) :
    lic.reencode key = some key ↔ Canonical (expiryText key) := by
  obtain ⟨token, expiryTs, sig, expiry, hparse, hexpiry⟩ := exists_of_accepts h
  obtain ⟨hkey, hint⟩ := of_parseKey hparse
  have hreencode : lic.reencode key =
      some ("sk_license_".toList ++ (token ++ '_' :: (expiry ++ '_' :: sig))) := by
    simp only [reencode, hparse, hexpiry, Option.bind_eq_bind, Option.bind_some]
  rw [← strOfInt_eq_iff_canonical hint, hreencode, hexpiry, Option.some.injEq, Option.some.injEq]
  constructor
  · intro hsame
    have hfields := List.append_cancel_left (hsame.trans hkey)
    have hrest := (List.cons.inj (List.append_cancel_left hfields)).2
    exact List.append_cancel_right hrest
  · intro hsame
    rw [hsame]
    exact hkey.symm

private def sampleDigest (_key _message : Chars) : HexText 64 :=
  ⟨"3f32c7496c5fb36818e2d4ecb36a4c047486c8d8d89cb8e109ab6807c5a7cfeb".toList, by decide +kernel,
    List.all_eq_true.mp (by decide +kernel)⟩

private def sampleLicenses : SelfHostedLicense := ⟨"test-secret".toList, sampleDigest, id⟩

/-- A key as it was generated. -/
theorem reencode_eq_iff_sample : sampleLicenses.reencode
    "sk_license_0011223344556677_1700000000_3f32c7496c5fb368".toList =
      some "sk_license_0011223344556677_1700000000_3f32c7496c5fb368".toList := by
  refine (reencode_eq_iff ⟨"solo".toList, "example.com".toList,
    Or.inr ⟨1700000000, by decide +kernel⟩⟩).mpr (Or.inr ⟨false, "1700000000".toList, ?_⟩)
  decide +kernel

/-- The same key with a space before its expiry is accepted as well. -/
theorem not_oneSpelling : ¬ ∀ (lic : SelfHostedLicense) (key : Chars), lic.Accepts key →
    lic.reencode key = some key := by
  intro h
  have hsame := h sampleLicenses "sk_license_0011223344556677_ 1700000000_3f32c7496c5fb368".toList
    ⟨"solo".toList, "example.com".toList, Or.inl ⟨1600000000, by decide +kernel⟩⟩
  revert hsame
  decide +kernel

end AsbCloudApi.Billing.SelfHostedLicense
