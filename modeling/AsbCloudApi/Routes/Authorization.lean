import AsbCloudApi.Base.Prog
import AsbCloudApi.Base.Text
import AsbCloudApi.Db.KeyStore
import AsbCloudApi.Session.Models

/-!
# Authorization

Library `Routes`. Models `get_api_key` of `src/asb_api/api/auth.py:91–105`, on which every route
with an API key depends. After any history of the key store, a header is answered with a key
exactly if it presents a secret of that key which is still live.
-/

namespace AsbCloudApi.Routes

open Base Text Api Billing Db Session

/-- `c.isspace()`. -/
def isSpace (c : Char) : Bool :=
  let n := c.toNat
  (9 ≤ n && n ≤ 13) || (28 ≤ n && n ≤ 32) || n = 0x85 || n = 0xa0 || n = 0x1680 ||
    (0x2000 ≤ n && n ≤ 0x200a) || n = 0x2028 || n = 0x2029 || n = 0x202f || n = 0x205f ||
    n = 0x3000

/-- `authorization.removeprefix("Bearer ").strip()`. -/
def rawOf (authorization : String) : String :=
  String.ofList (strip isSpace (removePrefix "Bearer ".toList authorization.toList))

def missingAuth : HTTPException := APIError 403 "MISSING_AUTH" "Authorization header missing" []

def invalidApiKey : HTTPException :=
  APIError 403 "INVALID_API_KEY" "API key is invalid or revoked" []

/-- The operation of the dependency: `verify` of the key store. -/
inductive AuthOp where
  | verify (raw : String)

/-- What it answers. -/
abbrev AuthOp.Ans : AuthOp → Type
  | .verify _ => Option String

/-- `get_api_key`; `src/asb_api/api/auth.py:91–105`. -/
def getApiKey (authorization : Option String) : Prog Exn AuthOp.Ans String :=
  if !truthy authorization then .raise (.http missingAuth)
  else do
    let keyId ← .perform (AuthOp.verify (rawOf (authorization.getD "")))
    if !truthy keyId then .raise (.http invalidApiKey) else pure (keyId.getD "")

/-! ### What a header presents -/

/-- A header presents a secret: it is the secret with white space around it, with or without the
scheme before. -/
def Presents (authorization raw : String) : Prop :=
  ∃ a b, (∀ c ∈ a, isSpace c = true) ∧ (∀ c ∈ b, isSpace c = true) ∧
    (authorization.toList = a ++ raw.toList ++ b ∨
      authorization.toList = "Bearer ".toList ++ (a ++ raw.toList ++ b))

/-- Digits of a secret are no white space. -/
private theorem isSpace_of_isLowerHexDigit {c : Char} (h : isLowerHexDigit c = true) :
    isSpace c = false := by
  have hn : (48 ≤ c.toNat ∧ c.toNat ≤ 57) ∨ (97 ≤ c.toNat ∧ c.toNat ≤ 102) := by
    simp only [isLowerHexDigit, Char.isDigit, Bool.or_eq_true, Bool.and_eq_true,
      decide_eq_true_eq] at h
    exact h
  simp only [isSpace, Bool.or_eq_false_iff, Bool.and_eq_false_iff, decide_eq_false_iff_not]
  omega

private theorem trimmed_raw (i : Issue) : Trimmed isSpace i.raw.toList := by
  have hall : ∀ c ∈ i.raw.toList, isSpace c = false := by
    intro c hc
    simp only [Issue.raw, String.toList_append, String.toList_ofList, List.mem_append] at hc
    rcases hc with hfront | hhex
    · exact forall_mem_of_all (P := fun c ↦ isSpace c = false) (by decide +kernel) c hfront
    · exact isSpace_of_isLowerHexDigit (i.secretHex.lower c hhex)
  exact ⟨fun c hc ↦ hall c (List.mem_of_mem_head? hc), fun c hc ↦ hall c (List.mem_of_getLast? hc)⟩

/-- A text that starts with a secret, or with white space before it, does not start with the
scheme. -/
private theorem not_scheme_first {a b : Chars} (ha : ∀ c ∈ a, isSpace c = true) (i : Issue) :
    ¬ "Bearer ".toList <+: a ++ i.raw.toList ++ b := by
  intro h
  rw [List.append_assoc] at h
  cases a with
  | nil =>
    rw [List.nil_append, Issue.raw, String.toList_append, List.append_assoc] at h
    cases (List.cons_prefix_cons.mp h).1
  | cons c a =>
    have hc : 'B' = c := (List.cons_prefix_cons.mp h).1
    subst hc
    cases ha 'B' List.mem_cons_self

/-- What is left of a header is an issued secret exactly if the header presents it. -/
theorem rawOf_eq_iff (authorization : String) (i : Issue) :
    rawOf authorization = i.raw ↔ Presents authorization i.raw := by
  have hstrip : rawOf authorization = i.raw ↔
      strip isSpace (removePrefix "Bearer ".toList authorization.toList) = i.raw.toList := by
    rw [rawOf, ← String.toList_inj, String.toList_ofList]
  rw [hstrip, strip_eq_iff (trimmed_raw i)]
  unfold Presents removePrefix
  split
  · next h =>
    obtain ⟨rest, hrest⟩ := List.isPrefixOf_iff_prefix.mp h
    rw [← hrest, List.drop_left]
    constructor
    · rintro ⟨a, b, rfl, ha, hb⟩
      exact ⟨a, b, ha, hb, .inr rfl⟩
    · rintro ⟨a, b, ha, hb, heq | heq⟩
      · exact absurd ⟨rest, heq⟩ (not_scheme_first ha i)
      · exact ⟨a, b, List.append_cancel_left heq, ha, hb⟩
  · next h =>
    constructor
    · rintro ⟨a, b, hsplit, ha, hb⟩
      exact ⟨a, b, ha, hb, .inl hsplit⟩
    · rintro ⟨a, b, ha, hb, heq | heq⟩
      · exact ⟨a, b, heq, ha, hb⟩
      · rw [heq] at h
        exact absurd (List.isPrefixOf_iff_prefix.mpr (List.prefix_append _ _)) h

/-! ### Which key a header gives -/

/-- What the dependency gives if the store answers as told. -/
def authorized (verify : String → Option String) (authorization : Option String) :
    Except Exn String :=
  (Prog.run (fun (.verify raw) (_ : Unit) ↦ (.ok (verify raw), ())) (getApiKey authorization) ()).1

theorem authorized_of_missing (verify : String → Option String) {authorization : Option String}
    (h : truthy authorization = false) :
    authorized verify authorization = .error (.http missingAuth) := by
  simp [authorized, getApiKey, h]

theorem authorized_of_given (verify : String → Option String) {authorization : Option String}
    (h : truthy authorization = true) : authorized verify authorization =
      if truthy (verify (rawOf (authorization.getD ""))) then
        .ok ((verify (rawOf (authorization.getD ""))).getD "")
      else .error (.http invalidApiKey) := by
  unfold authorized getApiKey
  rw [h, Bool.not_true, if_neg Bool.false_ne_true, Prog.run_bind, Prog.run_perform]
  dsimp only
  cases truthy (verify (rawOf (authorization.getD ""))) with
  | true => rfl
  | false => rfl

private theorem raw_ne_empty (i : Issue) : i.raw ≠ "" := by
  intro h
  have hlist := congrArg String.toList h
  rw [Issue.raw, String.toList_append] at hlist
  cases hlist

private theorem keyId_ne_empty (i : Issue) : i.keyId ≠ "" := by
  intro h
  have hlist := congrArg String.toList h
  rw [Issue.keyId, String.toList_append] at hlist
  cases hlist

section Verified

variable {sha256 : String → HexText 64} {ops : List KeyOp} {authorization : Option String}

/-- With a store that answers a secret as long as it is live. -/
private theorem authorized_iff {accepts : Issue → Prop} {verify : String → Option String}
    (h : ∀ k, verify (rawOf (authorization.getD "")) = some k ↔
      Live accepts ops (rawOf (authorization.getD "")) k) (k : String) :
    authorized verify authorization = .ok k ↔ ∃ given i, authorization = some given ∧
      Issued accepts ops i false ∧ Presents given i.raw ∧ i.keyId = k := by
  constructor
  · intro hok
    cases hgiven : truthy authorization with
    | false =>
      rw [authorized_of_missing verify hgiven] at hok
      cases hok
    | true =>
      rw [authorized_of_given verify hgiven] at hok
      cases hverify : verify (rawOf (authorization.getD "")) with
      | none =>
        rw [hverify] at hok
        cases hok
      | some k' =>
        obtain ⟨i, hi, hraw, hk⟩ := (h k').mp hverify
        rw [hverify] at hok
        split at hok
        · obtain rfl : k' = k := Except.ok.inj hok
          cases authorization with
          | none => cases hgiven
          | some given => exact ⟨given, i, rfl, hi, (rawOf_eq_iff given i).mp hraw.symm, hk⟩
        · cases hok
  · rintro ⟨given, i, rfl, hi, hpresents, rfl⟩
    have hraw : rawOf given = i.raw := (rawOf_eq_iff given i).mpr hpresents
    have hverify : verify (rawOf given) = some i.keyId := (h i.keyId).mpr ⟨i, hi, hraw.symm, rfl⟩
    have hgiven : truthy (some given) = true := by
      apply decide_eq_true
      rintro rfl
      exact raw_ne_empty i hraw.symm
    rw [authorized_of_given verify hgiven, Option.getD_some, hverify, if_pos, Option.getD_some]
    exact decide_eq_true (keyId_ne_empty i)

/-- After any history of a key store, a header gives a key exactly if it presents a live secret of
that key. Otherwise the request is refused with 403, and with `MISSING_AUTH` exactly if there is
no header or an empty one. -/
theorem authorization_exact (hfresh : Fresh ops)
    (hinj : NoCollision sha256 ops (rawOf (authorization.getD ""))) :
    (∀ k, authorized (verifiedInMemory sha256 ops) authorization = .ok k ↔
      ∃ given i, authorization = some given ∧ Issued (fun _ ↦ True) ops i false ∧
        Presents given i.raw ∧ i.keyId = k) ∧
    (∀ k, authorized (verifiedInPostgres sha256 ops) authorization = .ok k ↔
      ∃ given i, authorization = some given ∧
        Issued PostgresKeyStore.Insertable ops i false ∧ Presents given i.raw ∧ i.keyId = k) ∧
    ∀ verify e, authorized verify authorization = .error e →
      e = .http (if truthy authorization then invalidApiKey else missingAuth) := by
  refine ⟨?_, ?_, ?_⟩
  · exact authorized_iff fun k ↦ InMemoryKeyStore.verify_final_iff sha256 hfresh hinj
  · exact authorized_iff fun k ↦ PostgresKeyStore.verify_final_iff hfresh hinj
  · intro verify e he
    cases hgiven : truthy authorization with
    | false =>
      rw [authorized_of_missing verify hgiven] at he
      exact (Except.error.inj he).symm
    | true =>
      rw [authorized_of_given verify hgiven] at he
      split at he
      · cases he
      · exact (Except.error.inj he).symm

end Verified

private def digestText : String :=
  "9774317f1645c83467f34b9827608fc1b62589ee246091e44f69dbed89a7c784"

/-- The digest of `sk_live_` and 48 zeros. -/
private def sampleDigest (_ : String) : HexText 64 := .ofString 64 digestText (by decide +kernel)

/-- A key is created, and its secret presented with the scheme and a blank at the end. -/
theorem authorization_exact_sample :
    let issue : Issue := ⟨"free", none, HexText.zeros 48, HexText.zeros 16, 0⟩
    authorized (verifiedInPostgres sampleDigest [.create issue])
      (some ("Bearer " ++ issue.raw ++ " ")) = .ok issue.keyId := by
  intro issue
  have hpresents : Presents ("Bearer " ++ issue.raw ++ " ") issue.raw := by
    refine ⟨[], [' '], nofun, List.forall_mem_singleton.mpr rfl, .inr ?_⟩
    simp only [String.toList_append, List.nil_append, List.append_assoc]
    rfl
  have hraw : rawOf ("Bearer " ++ issue.raw ++ " ") = issue.raw :=
    (rawOf_eq_iff _ issue).mpr hpresents
  have hinj : NoCollision sampleDigest [.create issue]
      (rawOf ((some ("Bearer " ++ issue.raw ++ " ")).getD "")) := by
    rw [Option.getD_some, hraw]
    apply (Set.injOn_singleton sampleDigest issue.raw).mono
    rintro s (rfl | ⟨i, hi, rfl⟩)
    · rfl
    · rw [List.mem_singleton.mp hi]
      rfl
  have hfresh : Fresh [.create issue] := ⟨List.nodup_singleton _, List.nodup_singleton _⟩
  obtain ⟨-, hpostgres, -⟩ := authorization_exact hfresh hinj
  refine (hpostgres _).mpr ⟨_, issue, rfl, ⟨[], [], rfl, by decide, ?_⟩, hpresents, rfl⟩
  exact iff_of_false Bool.false_ne_true List.not_mem_nil

end AsbCloudApi.Routes
