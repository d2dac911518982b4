import AsbCloudApi.Base.Dict
import AsbCloudApi.Base.Run
import AsbCloudApi.Billing.License
import Mathlib.Data.Set.Function
import Mathlib.Logic.Function.Basic

/-!
# API keys

Library `Api`. Models the in-memory key store of `src/asb_api/api/auth.py`. SHA-256 is a parameter:
the hexadecimal digest of a text, encoded as UTF-8. What a key store has to say about a secret
depends on its history alone; the book of keys is what both stores keep of it.
-/

namespace AsbCloudApi.Api

open Base Billing

instance {n : Nat} : DecidableEq (HexText n) := fun a b ↦
  decidable_of_iff (a.chars = b.chars) <| by
    cases a
    cases b
    exact (HexText.mk.injEq ..).symm.to_iff

/-- A `create` call: its arguments, the random digits that it draws, and the clock. -/
structure Issue where
  tier : String
  ownerEmail : Option String
  secretHex : HexText 48
  keyHex : HexText 16
  now : ℚ

/-- The secret that is handed out. -/
def Issue.raw (i : Issue) : String := "sk_live_" ++ String.ofList i.secretHex.chars

/-- The id of the key. -/
def Issue.keyId (i : Issue) : String := "key_" ++ String.ofList i.keyHex.chars

/-- `APIKey`; `src/asb_api/api/auth.py:11–18`. -/
structure APIKey where
  keyId : String
  keyHash : HexText 64
  tier : String
  ownerEmail : Option String
  createdAt : ℚ
  revoked : Bool

/-- One entry of `_keys`. -/
structure KeyInfo where
  hash : HexText 64
  tier : String
  email : Option String
  revoked : Bool
  createdAt : ℚ

/-- `InMemoryKeyStore`; `src/asb_api/api/auth.py:21–23`. -/
structure InMemoryKeyStore where
  keys : Dict String KeyInfo

/-- The calls of a key store. -/
inductive KeyOp where
  | create (i : Issue)
  | revoke (keyId : String)
  | verify (raw : String)

/-- What a call answers. -/
inductive KeyAnswer where
  | created (raw keyId : String)
  | revoked
  | verified (keyId : Option String)
  deriving DecidableEq

section Store

variable (sha256 : String → HexText 64)

namespace InMemoryKeyStore

/-- `__init__`. -/
def new : InMemoryKeyStore := ⟨Dict.empty⟩

/-- `create`; `src/asb_api/api/auth.py:25–43`. -/
def create (s : InMemoryKeyStore) (i : Issue) : (String × APIKey) × InMemoryKeyStore :=
  let h := sha256 i.raw
  ((i.raw, ⟨i.keyId, h, i.tier, i.ownerEmail, i.now, false⟩),
    ⟨s.keys.set i.keyId ⟨h, i.tier, i.ownerEmail, false, i.now⟩⟩)

/-- `verify`; `src/asb_api/api/auth.py:45–50`. The first entry that is not revoked and has the
hash. -/
def verify (s : InMemoryKeyStore) (raw : String) : Option String :=
  let h := sha256 raw
  (s.keys.items.find? fun p ↦ !p.2.revoked && decide (h = p.2.hash)).map Prod.fst

/-- `revoke`; `src/asb_api/api/auth.py:65–67`. -/
def revoke (s : InMemoryKeyStore) (keyId : String) : InMemoryKeyStore :=
  match s.keys.get? keyId with
  | none => s
  | some info => ⟨s.keys.set keyId { info with revoked := true }⟩

/-- Run one call. -/
def step (s : InMemoryKeyStore) : KeyOp → KeyAnswer × InMemoryKeyStore
  | .create i =>
    let ((raw, key), s) := s.create sha256 i
    (.created raw key.keyId, s)
  | .revoke keyId => (.revoked, s.revoke keyId)
  | .verify raw => (.verified (s.verify sha256 raw), s)

end InMemoryKeyStore

/-! ### The book of keys -/

/-- What a store keeps of a key to decide about its secret. -/
@[ext] structure KeyEntry where
  hash : HexText 64
  revoked : Bool

/-- The keys of a store. -/
abbrev KeyBook := String → Option KeyEntry

/-- One call, where `accepts` says which issues go through. -/
def KeyBook.step (accepts : Issue → Prop) [DecidablePred accepts] (b : KeyBook) : KeyOp → KeyBook
  | .create i =>
    if accepts i then Function.update b i.keyId (some ⟨sha256 i.raw, false⟩) else b
  | .revoke keyId => Function.update b keyId ((b keyId).map ({ · with revoked := true }))
  | .verify _ => b

/-- The book after a history of calls. -/
def bookOf (accepts : Issue → Prop) [DecidablePred accepts] (ops : List KeyOp) : KeyBook :=
  ops.foldl (KeyBook.step sha256 accepts) fun _ ↦ none

end Store

/-- The issues of a history. -/
def issuesOf (ops : List KeyOp) : List Issue :=
  ops.filterMap fun op ↦
    match op with
    | .create i => some i
    | _ => none

/-- A call of the history issued this, and whether the key was revoked afterwards. -/
def Issued (accepts : Issue → Prop) (ops : List KeyOp) (i : Issue) (revoked : Bool) : Prop :=
  ∃ before after, ops = before ++ .create i :: after ∧ accepts i ∧
    (revoked = true ↔ .revoke i.keyId ∈ after)

/-- A secret was handed out with a key, and the key has not been revoked since. -/
def Live (accepts : Issue → Prop) (ops : List KeyOp) (raw keyId : String) : Prop :=
  ∃ i, Issued accepts ops i false ∧ i.raw = raw ∧ i.keyId = keyId

/-- No secret and no id is drawn twice. -/
structure Fresh (ops : List KeyOp) : Prop where
  raws : ((issuesOf ops).map Issue.raw).Nodup
  keyIds : ((issuesOf ops).map Issue.keyId).Nodup

/-! ### The book follows the history -/

section History

variable {accepts : Issue → Prop} {ops : List KeyOp} {i : Issue} {r : Bool}

theorem issuesOf_append (ops more : List KeyOp) :
    issuesOf (ops ++ more) = issuesOf ops ++ issuesOf more := List.filterMap_append

/-- What is fresh in a history is fresh in its start. -/
theorem Fresh.of_append {more : List KeyOp} (h : Fresh (ops ++ more)) : Fresh ops := by
  have hsub : (issuesOf ops).Sublist (issuesOf (ops ++ more)) := by
    rw [issuesOf_append]
    exact List.sublist_append_left _ _
  exact ⟨(hsub.map Issue.raw).nodup h.raws, (hsub.map Issue.keyId).nodup h.keyIds⟩

theorem issuesOf_skip (before after : List KeyOp) (op : KeyOp) :
    (issuesOf (before ++ after)).Sublist (issuesOf (before ++ op :: after)) :=
  ((List.sublist_cons_self op after).append_left before).filterMap _

/-- Nor does leaving a call out draw anything twice. -/
theorem Fresh.skip {before after : List KeyOp} {op : KeyOp} (h : Fresh (before ++ op :: after)) :
    Fresh (before ++ after) :=
  ⟨((issuesOf_skip before after op).map Issue.raw).nodup h.raws,
    ((issuesOf_skip before after op).map Issue.keyId).nodup h.keyIds⟩

/-- What a last call draws was not drawn before. -/
theorem Fresh.ne_of_concat {j : Issue} (h : Fresh (ops ++ [.create i])) (hj : j ∈ issuesOf ops) :
    j.raw ≠ i.raw ∧ j.keyId ≠ i.keyId := by
  have hsplit : issuesOf (ops ++ [.create i]) = issuesOf ops ++ [i] := issuesOf_append ops _
  have hraws := h.raws
  have hids := h.keyIds
  rw [hsplit, List.map_append, List.nodup_append] at hraws hids
  exact ⟨hraws.2.2 _ (List.mem_map_of_mem hj) _ List.mem_cons_self,
    hids.2.2 _ (List.mem_map_of_mem hj) _ List.mem_cons_self⟩

theorem Issued.mem (h : Issued accepts ops i r) : i ∈ issuesOf ops := by
  obtain ⟨before, after, rfl, -, -⟩ := h
  rw [issuesOf_append]
  exact List.mem_append_right _ List.mem_cons_self

theorem Issued.accepted (h : Issued accepts ops i r) : accepts i := by
  obtain ⟨before, after, -, ha, -⟩ := h
  exact ha

/-- What one more call changes: it issues, or it revokes what was issued. -/
theorem issued_concat {op : KeyOp} : Issued accepts (ops ++ [op]) i r ↔
    (op = .create i ∧ accepts i ∧ r = false) ∨
      ∃ r', Issued accepts ops i r' ∧ (r = true ↔ r' = true ∨ op = .revoke i.keyId) := by
  constructor
  · rintro ⟨before, after, hsplit, ha, hr⟩
    induction after using List.reverseRecOn with
    | nil =>
      obtain ⟨rfl, hop⟩ := List.append_inj' hsplit rfl
      refine Or.inl ⟨List.singleton_inj.mp hop, ha, ?_⟩
      simpa using hr
    | append_singleton after last _ =>
      rw [← List.cons_append, ← List.append_assoc] at hsplit
      obtain ⟨rfl, hop⟩ := List.append_inj' hsplit rfl
      obtain rfl := List.singleton_inj.mp hop
      classical
      refine Or.inr ⟨decide (.revoke i.keyId ∈ after), ⟨before, after, rfl, ha, by simp⟩, ?_⟩
      rw [hr, List.mem_append, List.mem_singleton, decide_eq_true_eq, @eq_comm _ op]
  · rintro (⟨rfl, ha, rfl⟩ | ⟨r', ⟨before, after, rfl, ha, hr'⟩, hr⟩)
    · exact ⟨ops, [], rfl, ha, by simp⟩
    · refine ⟨before, after ++ [op], by simp, ha, ?_⟩
      rw [hr, hr', List.mem_append, List.mem_singleton, @eq_comm _ op]

/-- A call that neither issues this nor revokes its key changes nothing for it. -/
theorem issued_concat_of_ne {op : KeyOp} (hcreate : op = .create i → ¬ accepts i)
    (hrevoke : op ≠ .revoke i.keyId) :
    Issued accepts (ops ++ [op]) i r ↔ Issued accepts ops i r := by
  rw [issued_concat]
  constructor
  · rintro (⟨hop, ha, -⟩ | ⟨r', h, hr⟩)
    · exact absurd ha (hcreate hop)
    · rwa [Bool.eq_iff_iff.mpr (hr.trans (or_iff_left hrevoke))]
  · intro h
    exact Or.inr ⟨r, h, (or_iff_left hrevoke).symm⟩

/-- Such a call may be left out wherever it stands. -/
theorem issued_skip {before after : List KeyOp} {op : KeyOp}
    (hcreate : op = .create i → ¬ accepts i) (hrevoke : op ≠ .revoke i.keyId) :
    Issued accepts (before ++ op :: after) i r ↔ Issued accepts (before ++ after) i r := by
  induction after using List.reverseRecOn generalizing r with
  | nil =>
    rw [List.append_nil]
    exact issued_concat_of_ne hcreate hrevoke
  | append_singleton after last ih =>
    have hleft : before ++ op :: (after ++ [last]) = before ++ op :: after ++ [last] := by simp
    rw [hleft, ← List.append_assoc, issued_concat, issued_concat]
    simp only [ih]

/-- A call about another secret than this one, or about its key. -/
def KeyOp.Other (issues : List Issue) (raw : String) : KeyOp → Prop
  | .create i => i.raw ≠ raw
  | .revoke keyId => ∀ i ∈ issues, i.raw = raw → i.keyId ≠ keyId
  | .verify _ => True

/-- Calls about other secrets may be left out. -/
theorem live_skip {before after : List KeyOp} {op : KeyOp} {raw k : String}
    (h : op.Other (issuesOf (before ++ op :: after)) raw) :
    Live accepts (before ++ op :: after) raw k ↔ Live accepts (before ++ after) raw k := by
  have hskip (i : Issue) (hi : i ∈ issuesOf (before ++ op :: after)) (hraw : i.raw = raw) :
      Issued accepts (before ++ op :: after) i false ↔
        Issued accepts (before ++ after) i false := by
    apply issued_skip
    · rintro rfl
      exact absurd hraw h
    · rintro rfl
      exact h i hi hraw rfl
  constructor
  · rintro ⟨i, hi, hraw, hk⟩
    exact ⟨i, (hskip i hi.mem hraw).mp hi, hraw, hk⟩
  · rintro ⟨i, hi, hraw, hk⟩
    have hmem := (issuesOf_skip before after op).subset hi.mem
    exact ⟨i, (hskip i hmem hraw).mpr hi, hraw, hk⟩

end History

section Book

variable (sha256 : String → HexText 64) {accepts : Issue → Prop} [DecidablePred accepts]
  {ops : List KeyOp}

theorem bookOf_concat (op : KeyOp) : bookOf sha256 accepts (ops ++ [op]) =
    (bookOf sha256 accepts ops).step sha256 accepts op := List.foldl_concat ..

/-- A call that is not about a key leaves its entry alone. -/
theorem KeyBook.step_of_ne (b : KeyBook) {op : KeyOp} {k : String}
    (hcreate : ∀ j, op = .create j → ¬ (accepts j ∧ j.keyId = k)) (hrevoke : op ≠ .revoke k) :
    b.step sha256 accepts op k = b k := by
  cases op with
  | create i =>
    simp only [KeyBook.step]
    split
    · next ha =>
      have hne : k ≠ i.keyId := fun hk ↦ hcreate i rfl ⟨ha, hk.symm⟩
      exact Function.update_of_ne hne _ b
    · rfl
  | revoke j =>
    have hne : k ≠ j := fun hk ↦ hrevoke (by rw [hk])
    exact Function.update_of_ne hne _ b
  | verify raw => rfl

/-- The book holds what was issued, marked by whether it was revoked. -/
theorem bookOf_eq_some_iff (hfresh : Fresh ops) {k : String} {e : KeyEntry} :
    bookOf sha256 accepts ops k = some e ↔
      ∃ i, Issued accepts ops i e.revoked ∧ i.keyId = k ∧ e.hash = sha256 i.raw := by
  induction ops using List.reverseRecOn generalizing k e with
  | nil =>
    refine iff_of_false (Option.some_ne_none e).symm ?_
    rintro ⟨i, h, -⟩
    cases h.mem
  | append_singleton ops op ih =>
    have ih := @ih hfresh.of_append
    rw [bookOf_concat]
    by_cases hcreate : ∃ j, op = .create j ∧ accepts j ∧ j.keyId = k
    · obtain ⟨j, rfl, ha, rfl⟩ := hcreate
      rw [KeyBook.step, if_pos ha, Function.update_self]
      constructor
      · rintro ⟨⟩
        exact ⟨j, issued_concat.mpr (Or.inl ⟨rfl, ha, rfl⟩), rfl, rfl⟩
      · rintro ⟨i, hi, hk, hhash⟩
        rcases issued_concat.mp hi with ⟨hop, -, hr⟩ | ⟨r', hold, -⟩
        · cases hop
          exact congrArg some (KeyEntry.ext hhash hr).symm
        · -- the id would have been drawn before
          exact absurd hk (hfresh.ne_of_concat hold.mem).2
    · by_cases hrevoke : op = .revoke k
      · subst hrevoke
        rw [KeyBook.step, Function.update_self, Option.map_eq_some_iff]
        constructor
        · rintro ⟨e', he', rfl⟩
          obtain ⟨i, hi, rfl, hhash⟩ := ih.mp he'
          exact ⟨i, issued_concat.mpr (Or.inr ⟨_, hi, by simp⟩), rfl, hhash⟩
        · rintro ⟨i, hi, rfl, hhash⟩
          rcases issued_concat.mp hi with ⟨hop, -⟩ | ⟨r', hold, hr⟩
          · cases hop
          · refine ⟨⟨e.hash, r'⟩, ih.mpr ⟨i, hold, rfl, hhash⟩, ?_⟩
            exact KeyEntry.ext rfl (hr.mpr (Or.inr rfl)).symm
      · have hother : ∀ j, op = .create j → ¬ (accepts j ∧ j.keyId = k) :=
          fun j hj hjk ↦ hcreate ⟨j, hj, hjk⟩
        rw [KeyBook.step_of_ne sha256 _ hother hrevoke, ih]
        apply exists_congr
        intro i
        apply and_congr_left
        rintro ⟨rfl, -⟩
        exact (issued_concat_of_ne (fun hop ha ↦ hother i hop ⟨ha, rfl⟩) hrevoke).symm

/-- A key is revoked or not. -/
theorem Issued.unique (hfresh : Fresh ops) {i : Issue} {r r' : Bool}
    (h : Issued accepts ops i r) (h' : Issued accepts ops i r') : r = r' := by
  classical
  have hbook : bookOf (fun _ ↦ HexText.zeros 64) accepts ops i.keyId = some ⟨_, r⟩ :=
    (bookOf_eq_some_iff _ hfresh).mpr ⟨i, h, rfl, rfl⟩
  have hbook' : bookOf (fun _ ↦ HexText.zeros 64) accepts ops i.keyId = some ⟨_, r'⟩ :=
    (bookOf_eq_some_iff _ hfresh).mpr ⟨i, h', rfl, rfl⟩
  rw [hbook] at hbook'
  cases hbook'
  rfl

/-! ### What a store answers -/

/-- A store answers a secret with a key of the book that is not revoked and has its hash, if there
is one. -/
structure Answers (b : KeyBook) (verify : String → Option String) : Prop where
  sound : ∀ {raw k}, verify raw = some k → b k = some ⟨sha256 raw, false⟩
  complete : ∀ {raw k}, b k = some ⟨sha256 raw, false⟩ → verify raw ≠ none

variable {sha256} {verify : String → Option String} {raw : String}

/-- So does a scan of its rows for a live one with the hash. -/
theorem answers_scan {α : Type} (rows : Dict String α) (entry : α → KeyEntry)
    (found : String → α → Bool)
    (hfound : ∀ raw row, found raw row = true ↔ entry row = ⟨sha256 raw, false⟩) :
    Answers sha256 (fun k ↦ (rows.get? k).map entry)
      fun raw ↦ (rows.items.find? fun p ↦ found raw p.2).map Prod.fst := by
  refine ⟨?_, ?_⟩
  · intro raw k h
    obtain ⟨⟨k', row⟩, hfind, rfl⟩ := Option.map_eq_some_iff.mp h
    have hrow := (rows.mem_items_iff k' row).mp (List.mem_of_find?_eq_some hfind)
    have hentry : found raw row = true := by simpa using List.find?_some hfind
    exact Option.map_eq_some_iff.mpr ⟨row, hrow, (hfound raw row).mp hentry⟩
  · intro raw k h hnone
    obtain ⟨row, hrow, hentry⟩ := Option.map_eq_some_iff.mp h
    have hmem := (rows.mem_items_iff k row).mpr hrow
    have hnot := List.find?_eq_none.mp (Option.map_eq_none_iff.mp hnone) _ hmem
    exact hnot ((hfound raw row).mpr hentry)

/-- Of two secrets that were issued or asked for, no two share a hash. -/
def NoCollision (sha256 : String → HexText 64) (ops : List KeyOp) (raw : String) : Prop :=
  Set.InjOn sha256 {s | s = raw ∨ ∃ i ∈ issuesOf ops, i.raw = s}

theorem NoCollision.mono {more : List KeyOp} (h : NoCollision sha256 more raw)
    (hsub : issuesOf ops ⊆ issuesOf more) : NoCollision sha256 ops raw := by
  apply Set.InjOn.mono _ h
  rintro s (rfl | ⟨i, hi, rfl⟩)
  · exact Or.inl rfl
  · exact Or.inr ⟨i, hsub hi, rfl⟩

theorem NoCollision.of_append {more : List KeyOp} (h : NoCollision sha256 (ops ++ more) raw) :
    NoCollision sha256 ops raw := by
  apply h.mono
  rw [issuesOf_append]
  exact List.subset_append_left _ _

theorem Fresh.eq_of_raw_eq (hfresh : Fresh ops) {i j : Issue} (hi : i ∈ issuesOf ops)
    (hj : j ∈ issuesOf ops) (h : i.raw = j.raw) : i = j :=
  List.inj_on_of_nodup_map hfresh.raws hi hj h

/-- The answer is the key that the secret was handed out with, unless it was revoked since. -/
theorem Answers.eq_some_iff (h : Answers sha256 (bookOf sha256 accepts ops) verify)
    (hfresh : Fresh ops) (hinj : NoCollision sha256 ops raw) {k : String} :
    verify raw = some k ↔ Live accepts ops raw k := by
  have hissue {k' : String} (hk' : verify raw = some k') :
      ∃ i, Issued accepts ops i false ∧ i.raw = raw ∧ i.keyId = k' := by
    obtain ⟨i, hi, hk, hhash⟩ := (bookOf_eq_some_iff sha256 hfresh).mp (h.sound hk')
    exact ⟨i, hi, (hinj (Or.inl rfl) (Or.inr ⟨i, hi.mem, rfl⟩) hhash).symm, hk⟩
  constructor
  · exact hissue
  · rintro ⟨i, hi, rfl, rfl⟩
    obtain ⟨k', hk'⟩ := Option.ne_none_iff_exists'.mp <|
      h.complete ((bookOf_eq_some_iff sha256 hfresh).mpr ⟨i, hi, rfl, rfl⟩)
    obtain ⟨j, hj, hraw, rfl⟩ := hissue hk'
    rw [hk', hfresh.eq_of_raw_eq hj.mem hi.mem hraw]

/-- A revoked key stays revoked. -/
theorem not_live_of_revoked {before after : List KeyOp} {i : Issue}
    (hfresh : Fresh (before ++ .create i :: after)) (h : .revoke i.keyId ∈ after) (k : String) :
    ¬ Live accepts (before ++ .create i :: after) i.raw k := by
  rintro ⟨j, hj, hraw, -⟩
  have hi : i ∈ issuesOf (before ++ .create i :: after) := by
    rw [issuesOf_append]
    exact List.mem_append_right _ List.mem_cons_self
  obtain rfl := hfresh.eq_of_raw_eq hj.mem hi hraw
  have hrevoked : Issued accepts (before ++ .create j :: after) j true :=
    ⟨before, after, rfl, hj.accepted, iff_of_true rfl h⟩
  cases hj.unique hfresh hrevoked

end Book

namespace InMemoryKeyStore

variable (sha256 : String → HexText 64)

/-- The book of the store. -/
def book (s : InMemoryKeyStore) : KeyBook := fun k ↦
  (s.keys.get? k).map fun info ↦ ⟨info.hash, info.revoked⟩

/-- The scan finds an entry of the book. -/
theorem answers_verify (s : InMemoryKeyStore) : Answers sha256 s.book (s.verify sha256) := by
  apply answers_scan s.keys (fun info ↦ ⟨info.hash, info.revoked⟩)
    fun raw info ↦ !info.revoked && decide (sha256 raw = info.hash)
  intro raw info
  rw [KeyEntry.mk.injEq, Bool.and_eq_true, Bool.not_eq_true', decide_eq_true_eq, and_comm,
    @eq_comm _ (sha256 raw)]

/-- Revoking marks the entry of its key, if there is one. -/
theorem get?_revoke (s : InMemoryKeyStore) (j k : String) : (s.revoke j).keys.get? k =
    if j = k then (s.keys.get? k).map ({ · with revoked := true }) else s.keys.get? k := by
  unfold revoke
  split
  · next hnone =>
    split
    · next hk =>
      subst hk
      rw [hnone]
      rfl
    · rfl
  · next info hinfo =>
    rw [Dict.get?_set]
    split
    · next hk =>
      subst hk
      rw [hinfo]
      rfl
    · rfl

/-- Every call does to the store what it does to the book. -/
theorem book_step (s : InMemoryKeyStore) (op : KeyOp) :
    (s.step sha256 op).2.book = s.book.step sha256 (fun _ ↦ True) op := by
  funext k
  cases op with
  | create i =>
    simp only [step, create, book, KeyBook.step, if_true, Function.update_apply, Dict.get?_set,
      @eq_comm _ k]
    split <;> rfl
  | revoke j =>
    simp only [step, book, KeyBook.step, Function.update_apply, get?_revoke, @eq_comm _ k]
    split
    · next hk =>
      subst hk
      rw [Option.map_map, Option.map_map]
      rfl
    · rfl
  | verify raw => rfl

theorem book_final (ops : List KeyOp) :
    (final (step sha256) new ops).book = bookOf sha256 (fun _ ↦ True) ops := by
  induction ops using List.reverseRecOn with
  | nil => rfl
  | append_singleton ops op ih =>
    rw [final_append, final_cons, final_nil, book_step, ih, bookOf_concat]

/-- In every reachable state, the in-memory store verifies exactly the secrets of live keys. -/
theorem verify_final_iff {ops : List KeyOp} {raw : String} (hfresh : Fresh ops)
    (hinj : NoCollision sha256 ops raw) {k : String} :
    (final (step sha256) new ops).verify sha256 raw = some k ↔ Live (fun _ ↦ True) ops raw k := by
  have h := (final (step sha256) new ops).answers_verify sha256
  rw [book_final] at h
  exact h.eq_some_iff hfresh hinj

end InMemoryKeyStore
end AsbCloudApi.Api
