import AsbCloudApi.Api.Errors
import Mathlib.Algebra.Order.Ring.Rat

/-!
# Usage records in PostgreSQL

Library `Db`. The `usage_records` table of `src/asb_api/db/connection.py:80–92` and the insert of
`src/asb_api/db/usage.py:8–27`. A column type refuses what it cannot hold: a `VARCHAR(n)` a
longer text, any text the character U+0000, an `INTEGER` what exceeds 32 bits; the key must
be present in `api_keys`.
-/

namespace AsbCloudApi.Db

open Api

/-- Why a statement fails: PostgreSQL refuses it, or the driver refuses a parameter and does not
send the statement. -/
inductive DbError where
  | characterNotInRepertoire (column : String)
  | stringDataRightTruncation (column : String)
  | numericValueOutOfRange (column : String)
  | foreignKeyViolation (column : String)
  | uniqueViolation (column : String)
  | dataError (message : String)
  deriving DecidableEq

/-- The exception that a refusal raises. -/
def DbError.exn : DbError → Exn
  | .characterNotInRepertoire _ => .py ⟨.other, "invalid byte sequence for encoding \"UTF8\": 0x00"⟩
  | .stringDataRightTruncation _ => .py ⟨.other, "value too long for type character varying"⟩
  | .numericValueOutOfRange _ => .py ⟨.other, "integer out of range"⟩
  | .foreignKeyViolation _ => .py ⟨.other, "violates foreign key constraint"⟩
  | .uniqueViolation _ => .py ⟨.other, "duplicate key value violates unique constraint"⟩
  | .dataError message => .py ⟨.other, message⟩

/-- Every text parameter is sent as UTF-8 without U+0000. -/
def hasNul (s : String) : Bool := s.toList.contains (Char.ofNat 0)

/-- A value of a `VARCHAR(n)` column. A longer text of which only spaces exceed the length, which
PostgreSQL cuts, is refused as well here. -/
def checkVarchar (column : String) (n : Nat) (s : String) : Except DbError Unit :=
  if hasNul s then .error (.characterNotInRepertoire column)
  else if n < s.length then .error (.stringDataRightTruncation column)
  else .ok ()

/-- A value of a nullable `VARCHAR(n)` column. -/
def checkVarchar? (column : String) (n : Nat) : Option String → Except DbError Unit
  | none => .ok ()
  | some s => checkVarchar column n s

/-- A value of an `INTEGER` column. -/
def checkInteger (column : String) (n : Int) : Except DbError Unit :=
  if -2 ^ 31 ≤ n ∧ n < 2 ^ 31 then .ok () else .error (.numericValueOutOfRange column)

/-- Whether a text fits a `VARCHAR(n)` column. That PostgreSQL cuts off an excess of spaces only is
left out. -/
def fitsVarchar (n : Nat) (s : String) : Prop := hasNul s = false ∧ s.length ≤ n

instance (n : Nat) (s : String) : Decidable (fitsVarchar n s) :=
  inferInstanceAs (Decidable (_ ∧ _))

/-- A text with a fixed front fits if all characters of the rest are of a kind, U+0000 is not. -/
theorem fitsVarchar_append {n : Nat} {front text : String} {P : Char → Prop}
    (hfront : hasNul front = false) (htext : ∀ c ∈ text.toList, P c) (hnul : ¬ P (Char.ofNat 0))
    (hlength : front.length + text.length ≤ n) : fitsVarchar n (front ++ text) := by
  refine ⟨?_, by rwa [String.length_append]⟩
  have hno : List.contains text.toList (Char.ofNat 0) = false := by
    by_contra h
    exact hnul (htext _ (List.contains_iff_mem.mp (by simpa using h)))
  rw [hasNul, String.toList_append, List.contains_append, hno, Bool.or_false]
  exact hfront

/-- Whether a value fits a nullable `VARCHAR(n)` column. -/
def fitsVarchar? (n : Nat) (s : Option String) : Prop := ∀ x ∈ s, fitsVarchar n x

instance (n : Nat) (s : Option String) : Decidable (fitsVarchar? n s) :=
  inferInstanceAs (Decidable (∀ x ∈ s, fitsVarchar n x))

/-- Whether a number fits an `INTEGER` column. -/
def fitsInteger (n : Int) : Prop := -2 ^ 31 ≤ n ∧ n < 2 ^ 31

instance (n : Int) : Decidable (fitsInteger n) := inferInstanceAs (Decidable (_ ∧ _))

/-- The arguments of `record`; `src/asb_api/db/usage.py:8–17`. -/
structure UsageArgs where
  keyId : String
  requestId : String
  domain : Option String
  status : String
  durationMs : Int
  blockDetected : Bool
  region : Option String
  deriving DecidableEq

/-- The arguments with which `increment` calls `record`; `src/asb_api/db/usage.py:29–38`. -/
def UsageArgs.ofIncrement (keyId : String) : UsageArgs :=
  ⟨keyId, "unknown", none, "success", 0, false, none⟩

@[simp] theorem UsageArgs.ofIncrement_keyId (keyId : String) :
    (UsageArgs.ofIncrement keyId).keyId = keyId := rfl

/-- A row of `usage_records`, without its serial number. -/
structure UsageRecord where
  keyId : String
  requestId : String
  domain : Option String
  status : String
  durationMs : Int
  blockDetected : Bool
  region : Option String
  createdAt : ℚ
  deriving DecidableEq

/-- The row that `record` inserts at an instant. -/
def UsageArgs.row (args : UsageArgs) (now : ℚ) : UsageRecord :=
  ⟨args.keyId, args.requestId, args.domain, args.status, args.durationMs, args.blockDetected,
    args.region, now⟩

/-- The part of the database that usage tracking reads and writes: the key ids of `api_keys`
and the rows of `usage_records` in insertion order. -/
structure UsageDb where
  apiKeys : List String
  usageRecords : List UsageRecord
  deriving DecidableEq

namespace PostgresUsageTracker

/-- The column checks of the `INSERT`, argument by argument. -/
def checkRow (db : UsageDb) (row : UsageRecord) : Except DbError Unit := do
  checkVarchar "key_id" 32 row.keyId
  checkVarchar "request_id" 32 row.requestId
  checkVarchar? "domain" 255 row.domain
  checkVarchar "status" 16 row.status
  checkInteger "duration_ms" row.durationMs
  checkVarchar? "region" 8 row.region
  if row.keyId ∈ db.apiKeys then .ok () else .error (.foreignKeyViolation "key_id")

/-- `record`; `src/asb_api/db/usage.py:11–27`. The row's instant is the default `NOW()`. -/
def record (db : UsageDb) (row : UsageRecord) : Except DbError UsageDb := do
  checkRow db row
  .ok { db with usageRecords := db.usageRecords ++ [row] }

end PostgresUsageTracker

theorem checkVarchar_ok_iff (column : String) (n : Nat) (s : String) :
    checkVarchar column n s = .ok () ↔ fitsVarchar n s := by
  unfold checkVarchar fitsVarchar
  split
  · next h => simp [h]
  · next h =>
    split
    · next hn => simp [Nat.not_le.mpr hn]
    · next hn => simpa [h] using Nat.not_lt.mp hn

theorem checkVarchar?_ok_iff (column : String) (n : Nat) (s : Option String) :
    checkVarchar? column n s = .ok () ↔ fitsVarchar? n s := by
  cases s with
  | none => simp [checkVarchar?, fitsVarchar?]
  | some x => simp [checkVarchar?, fitsVarchar?, checkVarchar_ok_iff]

theorem checkInteger_ok_iff (column : String) (n : Int) :
    checkInteger column n = .ok () ↔ fitsInteger n := by
  unfold checkInteger fitsInteger
  split
  · next h => exact ⟨fun _ ↦ h, fun _ ↦ rfl⟩
  · next h => exact ⟨fun he ↦ (nomatch he), fun hi ↦ absurd hi h⟩

/-- A row satisfies the table definition: every value fits its column, the key exists. -/
structure RowFits (db : UsageDb) (row : UsageRecord) : Prop where
  keyId : fitsVarchar 32 row.keyId
  requestId : fitsVarchar 32 row.requestId
  domain : fitsVarchar? 255 row.domain
  status : fitsVarchar 16 row.status
  durationMs : fitsInteger row.durationMs
  region : fitsVarchar? 8 row.region
  present : row.keyId ∈ db.apiKeys

theorem bind_ok_iff {α : Type} (x : Except DbError Unit) (y : Except DbError α) (a : α) :
    (x >>= fun _ ↦ y) = .ok a ↔ x = .ok () ∧ y = .ok a := by
  rw [bind_eq_ok_iff]
  constructor
  · rintro ⟨_, hx, hy⟩
    exact ⟨hx, hy⟩
  · rintro ⟨hx, hy⟩
    exact ⟨(), hx, hy⟩

theorem checkRow_ok_iff (db : UsageDb) (row : UsageRecord) :
    PostgresUsageTracker.checkRow db row = .ok () ↔ RowFits db row := by
  unfold PostgresUsageTracker.checkRow
  simp only [bind_ok_iff, checkVarchar_ok_iff, checkVarchar?_ok_iff, checkInteger_ok_iff]
  constructor
  · rintro ⟨hk, hr, hd, hs, hm, hg, hp⟩
    refine ⟨hk, hr, hd, hs, hm, hg, ?_⟩
    by_contra hn
    rw [if_neg hn] at hp
    cases hp
  · rintro ⟨hk, hr, hd, hs, hm, hg, hp⟩
    exact ⟨hk, hr, hd, hs, hm, hg, by rw [if_pos hp]⟩

/-- The insert succeeds exactly on rows that fit, and then adds that one row. -/
theorem record_ok_iff (db db' : UsageDb) (row : UsageRecord) :
    PostgresUsageTracker.record db row = .ok db' ↔
      RowFits db row ∧ db' = { db with usageRecords := db.usageRecords ++ [row] } := by
  unfold PostgresUsageTracker.record
  rw [bind_ok_iff, checkRow_ok_iff, Except.ok.injEq, eq_comm (a := db')]

end AsbCloudApi.Db
