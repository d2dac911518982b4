import AsbCloudApi.Api.Auth
import AsbCloudApi.Db.AuthStore

/-!
# Issuing and verifying keys in PostgreSQL

Library `Db`. Models `create`, `verify` and `revoke` of `src/asb_api/db/auth_store.py` over the
table `api_keys` with its hash column. Both key stores keep the same book, but for the keys that
the table refuses to issue.
-/

namespace AsbCloudApi.Db

open Base Billing Api

/-- A row of `api_keys` with its `key_hash`. -/
structure KeyRow extends ApiKeyRow where
  keyHash : HexText 64

/-- The table, by its primary key. -/
abbrev KeyTable := Dict String KeyRow

/-- The dictionary that `create` returns; `src/asb_api/db/auth_store.py:24–34`. -/
structure CreatedKey where
  keyId : String
  tier : String
  ownerEmail : Option String
  revoked : Bool
  stripeCustomerId : Option String
  stripeSubscriptionId : Option String
  subscriptionStatus : Option String
  licenseType : Option String
  licenseKey : Option String

namespace PostgresKeyStore

variable (sha256 : String → HexText 64)

/-- What the columns of a new row can hold. -/
def checkInsert (i : Issue) (stripeCustomerId : Option String) : Except DbError Unit := do
  checkVarchar "key_id" 32 i.keyId
  checkVarchar "tier" 16 i.tier
  checkParams [i.ownerEmail, stripeCustomerId]

/-- `create`; `src/asb_api/db/auth_store.py:9–34`. The id is the primary key, the hash is unique. -/
def create (table : KeyTable) (i : Issue) (stripeCustomerId : Option String) :
    Except DbError (String × CreatedKey) × KeyTable :=
  let h := sha256 i.raw
  match checkInsert i stripeCustomerId with
  | .error e => (.error e, table)
  | .ok () =>
    if (table.get? i.keyId).isSome then (.error (.uniqueViolation "key_id"), table)
    else if table.items.any fun p ↦ p.2.keyHash = h then
      (.error (.uniqueViolation "key_hash"), table)
    else
      (.ok (i.raw,
          ⟨i.keyId, i.tier, i.ownerEmail, false, stripeCustomerId, none, none, none, none⟩),
        table.set i.keyId
          ⟨⟨i.tier, i.ownerEmail, i.now, false, stripeCustomerId, none, none, none, none⟩, h⟩)

/-- `verify`; `src/asb_api/db/auth_store.py:36–48`. -/
def verify (table : KeyTable) (raw : String) : Option String :=
  let h := sha256 raw
  (table.items.find? fun p ↦ decide (p.2.keyHash = h) && !p.2.revoked).map Prod.fst

/-- `revoke`; `src/asb_api/db/auth_store.py:74–82`. -/
def revoke (table : KeyTable) (keyId : String) : Except DbError Unit × KeyTable :=
  match checkParams [some keyId] with
  | .error e => (.error e, table)
  | .ok () =>
    (.ok (), table.mapValues fun k row ↦ if k = keyId then { row with revoked := true } else row)

/-- Run one call with the arguments that both stores take. -/
def step (table : KeyTable) : KeyOp → Except DbError KeyAnswer × KeyTable
  | .create i =>
    let (answer, table) := create sha256 table i none
    (answer.map fun p ↦ .created p.1 p.2.keyId, table)
  | .revoke keyId =>
    let (answer, table) := revoke table keyId
    (answer.map fun _ ↦ .revoked, table)
  | .verify raw => (.ok (.verified (verify sha256 table raw)), table)

/-- The columns can hold what the caller sends. -/
def Insertable (i : Issue) : Prop :=
  fitsVarchar 16 i.tier ∧ i.ownerEmail.any hasNul = false

instance : DecidablePred Insertable := fun _ ↦ inferInstanceAs (Decidable (_ ∧ _))

/-! ### The book of the table -/

/-- The book of the table. -/
def book (table : KeyTable) : KeyBook := fun k ↦
  (table.get? k).map fun row ↦ ⟨row.keyHash, row.revoked⟩

/-- The query finds a row of the book. -/
theorem answers_verify (table : KeyTable) : Answers sha256 (book table) (verify sha256 table) := by
  apply answers_scan table (fun row ↦ ⟨row.keyHash, row.revoked⟩)
    fun raw row ↦ decide (row.keyHash = sha256 raw) && !row.revoked
  intro raw row
  rw [KeyEntry.mk.injEq, Bool.and_eq_true, Bool.not_eq_true', decide_eq_true_eq]

/-- An id never holds U+0000. -/
theorem fitsVarchar_keyId (i : Issue) : fitsVarchar 32 i.keyId := by
  apply fitsVarchar_append (P := fun c ↦ isLowerHexDigit c = true) (by decide) _ (by decide)
  · have hlen : (String.ofList i.keyHex.chars).length = 16 := by
      rw [String.length_ofList, i.keyHex.length_chars]
    rw [hlen]
    decide
  · rw [String.toList_ofList]
    exact i.keyHex.lower

theorem checkInsert_ok_iff (i : Issue) : checkInsert i none = .ok () ↔ Insertable i := by
  have hid := (checkVarchar_ok_iff "key_id" 32 i.keyId).mpr (fitsVarchar_keyId i)
  unfold checkInsert Insertable
  rw [bind_ok_iff, bind_ok_iff, checkVarchar_ok_iff, checkVarchar_ok_iff, checkParams]
  simp [fitsVarchar_keyId]

section Runs

variable {sha256} {ops : List KeyOp} {table : KeyTable}

/-- The rows of the table are those of issues. -/
theorem exists_issue_of_row (hbook : book table = bookOf sha256 Insertable ops)
    (hfresh : Fresh ops) {k : String} {row : KeyRow} (h : table.get? k = some row) :
    ∃ i ∈ issuesOf ops, i.keyId = k ∧ row.keyHash = sha256 i.raw := by
  have hentry : bookOf sha256 Insertable ops k = some ⟨row.keyHash, row.revoked⟩ := by
    rw [← hbook, book, h]
    rfl
  obtain ⟨i, hi, hk, hhash⟩ := (bookOf_eq_some_iff sha256 hfresh).mp hentry
  exact ⟨i, hi.mem, hk, hhash⟩

variable (sha256 table) in
/-- A row that the columns cannot hold is refused, and nothing is handed out. -/
theorem create_of_not_insertable {i : Issue} (h : ¬ Insertable i) :
    ∃ e, create sha256 table i none = (.error e, table) := by
  cases hcheck : checkInsert i none with
  | error e => exact ⟨e, by rw [create, hcheck]⟩
  | ok u => exact absurd ((checkInsert_ok_iff i).mp hcheck) h

/-- With a new id and a new secret, any other row goes in. -/
theorem create_of_insertable (hbook : book table = bookOf sha256 Insertable ops) {i : Issue}
    (hfresh : Fresh (ops ++ [.create i])) {raw : String}
    (hinj : NoCollision sha256 (ops ++ [.create i]) raw) (h : Insertable i) :
    create sha256 table i none =
      (.ok (i.raw, ⟨i.keyId, i.tier, i.ownerEmail, false, none, none, none, none, none⟩),
        table.set i.keyId ⟨⟨i.tier, i.ownerEmail, i.now, false, none, none, none, none, none⟩,
          sha256 i.raw⟩) := by
  have hid : table.get? i.keyId = none := by
    cases hrow : table.get? i.keyId with
    | none => rfl
    | some row =>
      obtain ⟨j, hj, hk, -⟩ := exists_issue_of_row hbook hfresh.of_append hrow
      exact absurd hk (hfresh.ne_of_concat hj).2
  have hhash : (table.items.any fun p ↦ p.2.keyHash = sha256 i.raw) = false := by
    rw [List.any_eq_false]
    rintro ⟨k, row⟩ hmem heq
    have hrow := (table.mem_items_iff k row).mp hmem
    obtain ⟨j, hj, -, hhash⟩ := exists_issue_of_row hbook hfresh.of_append hrow
    have hsame : sha256 j.raw = sha256 i.raw := hhash.symm.trans (of_decide_eq_true heq)
    have hsplit : issuesOf (ops ++ [.create i]) = issuesOf ops ++ [i] := issuesOf_append ops _
    have hraw := hinj (Or.inr ⟨j, by rw [hsplit]; exact List.mem_append_left _ hj, rfl⟩)
      (Or.inr ⟨i, by rw [hsplit]; exact List.mem_append_right _ List.mem_cons_self, rfl⟩) hsame
    exact (hfresh.ne_of_concat hj).1 hraw
  simp only [create, (checkInsert_ok_iff i).mpr h, hid, hhash]
  rfl

/-- Revoking marks the row of its key, if there is one. -/
theorem get?_revoke (j k : String) : (revoke table j).2.get? k =
    if j = k ∧ hasNul j = false then (table.get? k).map ({ · with revoked := true })
    else table.get? k := by
  unfold revoke checkParams
  cases hnul : hasNul j with
  | true => simp [hnul]
  | false =>
    simp only [List.any_cons, Option.any_some, hnul, List.any_nil, Bool.or_false,
      Bool.false_eq_true, if_false, Dict.get?_mapValues, and_true, @eq_comm _ k]
    split
    · rfl
    · exact Option.map_id_apply

/-- A call does to the table what it does to the book, if its draws are new to the table. -/
theorem book_step {op : KeyOp} (hbook : book table = bookOf sha256 Insertable ops)
    (hfresh : Fresh (ops ++ [op])) {raw : String} (hinj : NoCollision sha256 (ops ++ [op]) raw) :
    book (step sha256 table op).2 = (book table).step sha256 Insertable op := by
  funext k
  cases op with
  | create i =>
    by_cases h : Insertable i
    · simp only [step, create_of_insertable hbook hfresh hinj h, KeyBook.step, if_pos h, book,
        Dict.get?_set, Function.update_apply, @eq_comm _ k]
      split <;> rfl
    · obtain ⟨e, he⟩ := create_of_not_insertable sha256 table h
      simp only [step, he, KeyBook.step, if_neg h]
  | revoke j =>
    simp only [step, book, get?_revoke, KeyBook.step]
    by_cases hk : k = j
    · subst hk
      rw [Function.update_self]
      cases hrow : table.get? k with
      | none => simp
      | some row =>
        -- the id of a row has no U+0000
        obtain ⟨i, -, rfl, -⟩ := exists_issue_of_row hbook hfresh.of_append hrow
        rw [if_pos ⟨rfl, (fitsVarchar_keyId i).1⟩]
        rfl
    · rw [Function.update_of_ne hk, if_neg fun h ↦ hk h.1.symm]
      rfl
  | verify raw => rfl

theorem book_final {raw : String} (hfresh : Fresh ops) (hinj : NoCollision sha256 ops raw) :
    book (final (step sha256) Dict.empty ops) = bookOf sha256 Insertable ops := by
  induction ops using List.reverseRecOn with
  | nil => rfl
  | append_singleton ops op ih =>
    have hbook := ih hfresh.of_append hinj.of_append
    rw [final_append, final_cons, final_nil, book_step hbook hfresh hinj, hbook, bookOf_concat]

/-- In every reachable state, the table verifies exactly the secrets of live keys. -/
theorem verify_final_iff {raw : String} (hfresh : Fresh ops) (hinj : NoCollision sha256 ops raw)
    {k : String} : verify sha256 (final (step sha256) Dict.empty ops) raw = some k ↔
      Live Insertable ops raw k := by
  have h := answers_verify sha256 (final (step sha256) Dict.empty ops)
  rw [book_final hfresh hinj] at h
  exact h.eq_some_iff hfresh hinj

end Runs

end PostgresKeyStore
open PostgresKeyStore

/-! ### Both stores -/

/-- It makes no difference for a secret which other issues are refused. -/
theorem live_insertable_iff {ops : List KeyOp} {raw k : String}
    (h : ∀ i ∈ issuesOf ops, i.raw = raw → Insertable i) :
    Live Insertable ops raw k ↔ Live (fun _ ↦ True) ops raw k := by
  apply exists_congr
  intro i
  apply and_congr_left
  rintro ⟨hraw, -⟩
  constructor
  · rintro ⟨before, after, hsplit, -, hrevoked⟩
    exact ⟨before, after, hsplit, trivial, hrevoked⟩
  · intro hi
    have hins := h i hi.mem hraw
    obtain ⟨before, after, hsplit, -, hrevoked⟩ := hi
    exact ⟨before, after, hsplit, hins, hrevoked⟩

section Both

variable (sha256 : String → HexText 64) (ops : List KeyOp) (raw : String)

/-- What the in-memory store answers for a secret after a history of calls. -/
def verifiedInMemory : Option String :=
  (final (InMemoryKeyStore.step sha256) .new ops).verify sha256 raw

/-- What the PostgreSQL store answers for a secret after a history of calls. -/
def verifiedInPostgres : Option String :=
  verify sha256 (final (step sha256) Dict.empty ops) raw

variable {sha256 ops raw}

/-- After any history of calls, each store answers a secret with the key that it was handed out
with, unless that key was revoked since. A revoked key stays revoked, and calls about other
secrets could be left out. The stores answer alike, but for the issues that the table refuses:
these hand out nothing. -/
theorem verification_exact (hfresh : Fresh ops) (hinj : NoCollision sha256 ops raw) :
    (∀ k, verifiedInMemory sha256 ops raw = some k ↔ Live (fun _ ↦ True) ops raw k) ∧
    (∀ k, verifiedInPostgres sha256 ops raw = some k ↔ Live Insertable ops raw k) ∧
    ((∀ i ∈ issuesOf ops, i.raw = raw → Insertable i) →
      verifiedInPostgres sha256 ops raw = verifiedInMemory sha256 ops raw) ∧
    (∀ before i after, ops = before ++ .create i :: after →
      let s := final (InMemoryKeyStore.step sha256) .new before
      let table := final (step sha256) Dict.empty before
      (s.step sha256 (.create i)).1 = .created i.raw i.keyId ∧
      (Insertable i → (step sha256 table (.create i)).1 = .ok (.created i.raw i.keyId)) ∧
      (¬ Insertable i → ∃ e, step sha256 table (.create i) = (.error e, table)) ∧
      (i.raw = raw → .revoke i.keyId ∈ after →
        verifiedInMemory sha256 ops raw = none ∧ verifiedInPostgres sha256 ops raw = none)) ∧
    (∀ before op after, ops = before ++ op :: after → op.Other (issuesOf ops) raw →
      verifiedInMemory sha256 (before ++ after) raw = verifiedInMemory sha256 ops raw ∧
      verifiedInPostgres sha256 (before ++ after) raw = verifiedInPostgres sha256 ops raw) := by
  have hmemory := fun k ↦ InMemoryKeyStore.verify_final_iff sha256 hfresh hinj (k := k)
  have hpostgres := fun k ↦ verify_final_iff hfresh hinj (k := k)
  refine ⟨hmemory, hpostgres, ?_, ?_, ?_⟩
  · intro hins
    apply Option.ext
    intro k
    exact (hpostgres k).trans ((live_insertable_iff hins).trans (hmemory k).symm)
  · intro before i after hops
    subst hops
    have hsplit : before ++ .create i :: after = before ++ [.create i] ++ after := by simp
    have hfresh' : Fresh (before ++ [.create i]) := by
      rw [hsplit] at hfresh
      exact hfresh.of_append
    have hinj' : NoCollision sha256 (before ++ [.create i]) raw := by
      rw [hsplit] at hinj
      exact hinj.of_append
    refine ⟨rfl, ?_, ?_, ?_⟩
    · intro hins
      have hbook := book_final hfresh'.of_append hinj'.of_append
      simp only [step, create_of_insertable hbook hfresh' hinj' hins]
      rfl
    · intro hins
      obtain ⟨e, he⟩ := create_of_not_insertable sha256
        (final (step sha256) Dict.empty before) hins
      exact ⟨e, by simp only [step, he]; rfl⟩
    · rintro rfl hrevoked
      refine ⟨Option.eq_none_iff_forall_ne_some.mpr fun k hk ↦ ?_,
        Option.eq_none_iff_forall_ne_some.mpr fun k hk ↦ ?_⟩
      · exact not_live_of_revoked hfresh hrevoked k ((hmemory k).mp hk)
      · exact not_live_of_revoked hfresh hrevoked k ((hpostgres k).mp hk)
  · intro before op after hops hother
    subst hops
    have hinj' := hinj.mono (issuesOf_skip before after op).subset
    refine ⟨Option.ext fun k ↦ ?_, Option.ext fun k ↦ ?_⟩
    · exact (InMemoryKeyStore.verify_final_iff sha256 hfresh.skip hinj').trans
        ((live_skip hother).symm.trans (hmemory k).symm)
    · exact (verify_final_iff hfresh.skip hinj').trans
        ((live_skip hother).symm.trans (hpostgres k).symm)

end Both

private def sampleIssue : Issue where
  tier := "starter"
  ownerEmail := some "a@example.com"
  secretHex := .ofString 48 "0123456789abcdef0123456789abcdef0123456789abcdef" (by decide +kernel)
  keyHex := .ofString 16 "0a1b2c3d4e5f6071" (by decide +kernel)
  now := 0

private def otherIssue : Issue where
  tier := "free"
  ownerEmail := none
  secretHex := .ofString 48 "fedcba9876543210fedcba9876543210fedcba9876543210" (by decide +kernel)
  keyHex := .ofString 16 "8899aabbccddeeff" (by decide +kernel)
  now := 1

private def sampleDigest (raw : String) : HexText 64 :=
  if raw = sampleIssue.raw then
    .ofString 64 "3c8eddda936b734efa4d3bb2dc3f9a1deb81180f420c0e0e22d95b41f754ac45"
      (by decide +kernel)
  else
    .ofString 64 "819ac1e31111b9b516134fb288d8ea314391d879f6c5d5d67742fd6cd89fd1e4"
      (by decide +kernel)

private def sampleOps : List KeyOp :=
  [.create sampleIssue, .verify sampleIssue.raw, .create otherIssue, .revoke otherIssue.keyId]

/-- Two keys, of which the second is revoked. -/
theorem verification_exact_sample :
    verifiedInMemory sampleDigest sampleOps sampleIssue.raw = some sampleIssue.keyId ∧
      verifiedInPostgres sampleDigest sampleOps sampleIssue.raw = some sampleIssue.keyId := by
  have hinj : NoCollision sampleDigest sampleOps sampleIssue.raw := by
    have hpair : Set.InjOn sampleDigest {sampleIssue.raw, otherIssue.raw} :=
      Set.injOn_pair.mpr fun h ↦ absurd h (by decide +kernel)
    apply hpair.mono
    rintro s (rfl | ⟨i, hi, rfl⟩)
    · exact Or.inl rfl
    · rcases List.mem_cons.mp hi with rfl | hi
      · exact Or.inl rfl
      · rw [List.mem_singleton.mp hi]
        exact Or.inr rfl
  have hfresh : Fresh sampleOps := ⟨by decide +kernel, by decide +kernel⟩
  obtain ⟨hmemory, hpostgres, -⟩ := verification_exact hfresh hinj
  have hkeys : sampleIssue.keyId ≠ otherIssue.keyId := by decide +kernel
  have hrevoked : .revoke sampleIssue.keyId ∉ sampleOps.tail := by simp [sampleOps, hkeys]
  refine ⟨(hmemory _).mpr ?_, (hpostgres _).mpr ?_⟩
  · exact ⟨sampleIssue, ⟨[], _, rfl, trivial, iff_of_false Bool.false_ne_true hrevoked⟩, rfl, rfl⟩
  · exact ⟨sampleIssue, ⟨[], _, rfl, by decide +kernel,
      iff_of_false Bool.false_ne_true hrevoked⟩, rfl, rfl⟩

/-- A tier of seventeen characters. -/
private def longTierIssue : Issue := { sampleIssue with tier := "enterprise-annual" }

/-- The in-memory store issues a key of this tier, the table refuses it. -/
theorem not_sameAnswers : ¬ ∀ (sha256 : String → HexText 64) (ops : List KeyOp) (raw : String),
    Fresh ops → NoCollision sha256 ops raw →
      verifiedInPostgres sha256 ops raw = verifiedInMemory sha256 ops raw := by
  intro h
  have hinj : NoCollision sampleDigest [.create longTierIssue] longTierIssue.raw := by
    apply (Set.injOn_singleton sampleDigest longTierIssue.raw).mono
    rintro s (rfl | ⟨i, hi, rfl⟩)
    · rfl
    · rw [List.mem_singleton.mp hi]
      rfl
  have hsame := h sampleDigest [.create longTierIssue] longTierIssue.raw
    ⟨by decide +kernel, by decide +kernel⟩ hinj
  revert hsame
  decide +kernel

end AsbCloudApi.Db
