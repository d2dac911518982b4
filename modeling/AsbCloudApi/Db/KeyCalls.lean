import AsbCloudApi.Base.Linearize
import AsbCloudApi.Db.Connection

/-!
# Concurrent key store calls

Library `Db`. What the statements of `src/asb_api/db/auth_store.py` do to `api_keys` and
`stripe_events`, and the coroutines of `create`, `revoke` and `verify` over them. In every
interleaving, over a pool of any size and with calls that fail at any point, the calls answer
as the atomic store does in one order, which respects the order in time. So a key is
refused from the moment its revocation has returned.
-/

namespace AsbCloudApi.Db

open Base Api Billing

/-- The tables of the key store. -/
structure AuthTables where
  keys : KeyTable
  events : StripeEvents

namespace KeyTable

/-- The rows without their hashes. -/
def rows (table : KeyTable) : ApiKeys := table.mapValues fun _ row ↦ row.toApiKeyRow

/-- The same hashes with other rows. -/
def withRows (table : KeyTable) (rows : ApiKeys) : KeyTable :=
  table.mapValues fun k row ↦ { row with toApiKeyRow := (rows.get? k).getD row.toApiKeyRow }

/-- `INSERT INTO api_keys`; `created_at` is the default `NOW()`. -/
def insert (table : KeyTable) (keyId : String) (keyHash : HexText 64) (tier : String)
    (ownerEmail stripeCustomerId : Option String) (now : ℚ) : Except DbError KeyTable := do
  checkVarchar "key_id" 32 keyId
  checkVarchar "tier" 16 tier
  PostgresKeyStore.checkParams [ownerEmail, stripeCustomerId]
  if (table.get? keyId).isSome then .error (.uniqueViolation "key_id")
  else if table.items.any fun p ↦ p.2.keyHash = keyHash then
    .error (.uniqueViolation "key_hash")
  else
    .ok (table.set keyId
      ⟨⟨tier, ownerEmail, now, false, stripeCustomerId, none, none, none, none⟩, keyHash⟩)

/-- The insert is what `create` does to the table. -/
theorem insert_create (sha256 : String → HexText 64) (table : KeyTable) (i : Issue)
    (stripeCustomerId : Option String) :
    PostgresKeyStore.create sha256 table i stripeCustomerId =
      match insert table i.keyId (sha256 i.raw) i.tier i.ownerEmail stripeCustomerId i.now with
      | .error e => (.error e, table)
      | .ok table' =>
        (.ok (i.raw, ⟨i.keyId, i.tier, i.ownerEmail, false, stripeCustomerId, none, none, none,
          none⟩), table') := by
  unfold PostgresKeyStore.create insert PostgresKeyStore.checkInsert
  cases checkVarchar "key_id" 32 i.keyId with
  | error e => rfl
  | ok _ =>
    cases checkVarchar "tier" 16 i.tier with
    | error e => rfl
    | ok _ =>
      cases PostgresKeyStore.checkParams [i.ownerEmail, stripeCustomerId] with
      | error e => rfl
      | ok _ =>
        simp only [bind, Except.bind]
        split
        · rfl
        · split
          · rfl
          · rfl

end KeyTable

namespace AuthTables

open Pooled PostgresKeyStore

/-- A statement that sets the rows of `api_keys`, or is refused. -/
def setRows (t : AuthTables) (rows : Except DbError ApiKeys) :
    Except StoreExn Unit × AuthTables :=
  match rows with
  | .error e => (.error (.exn e.exn), t)
  | .ok rows => (.ok (), { t with keys := t.keys.withRows rows })

/-- A query with a text parameter. -/
def query {α : Type} (t : AuthTables) (param : String) (answer : α) :
    Except StoreExn α × AuthTables :=
  match PostgresKeyStore.checkParams [some param] with
  | .error e => (.error (.exn e.exn), t)
  | .ok () => (.ok answer, t)

/-- `UPDATE api_keys SET license_type = …, license_key = … WHERE key_id = …`. -/
def licensed (rows : ApiKeys) (target : Option String) (licenseType rawLicense param : String) :
    Except DbError ApiKeys := do
  checkParams [some licenseType, some rawLicense, some param]
  match target.bind fun k ↦ (rows.get? k).map (k, ·) with
  | none => .ok rows
  | some (k, row) =>
    .ok (rows.set k { row with licenseType := some licenseType, licenseKey := some rawLicense })

/-- What a statement does to the tables of the key store, at an instant of the server. Statements
on other tables answer `others` and leave these tables alone. -/
def act (others : (s : Statement) → Except StoreExn s.Ans) :
    (s : Statement) → ℚ → AuthTables → Except StoreExn s.Ans × AuthTables
  | .insertKey keyId keyHash tier ownerEmail customer, now, t =>
    match t.keys.insert keyId keyHash tier ownerEmail customer now with
    | .error e => (.error (.exn e.exn), t)
    | .ok keys => (.ok (), { t with keys := keys })
  | .selectKeyByHash keyHash, _, t =>
    (.ok ((t.keys.items.find? fun p ↦ decide (p.2.keyHash = keyHash) && !p.2.revoked).map
      Prod.fst), t)
  | .selectKey keyId, _, t => query t keyId ((t.keys.get? keyId).map (keyId, ·))
  | .revokeKey keyId, _, t =>
    match revoke t.keys keyId with
    | (.error e, _) => (.error (.exn e.exn), t)
    | (.ok (), keys) => (.ok (), { t with keys := keys })
  | .selectKeys, _, t =>
    (.ok (t.keys.items.mergeSort fun p q ↦ decide (q.2.createdAt ≤ p.2.createdAt)), t)
  | .upgradeTier keyId tier sub customer, _, t =>
    setRows t (upgradeTier t.keys.rows keyId tier sub customer)
  | .insertStripeEvent eventId eventType, _, t =>
    match tryRecordStripeEvent t.events eventId eventType with
    | (.error e, _) => (.error (.exn e.exn), t)
    | (.ok recorded, events) =>
      (.ok (if recorded then some eventId else none), { t with events := events })
  | .selectTier keyId, _, t => query t keyId ((t.keys.get? keyId).map (·.tier))
  | .setLicenseOfKey licenseType rawLicense keyId, _, t =>
    setRows t (licensed t.keys.rows (some keyId) licenseType rawLicense keyId)
  | .setLicenseOfOwner licenseType rawLicense email, _, t =>
    setRows t (licensed t.keys.rows (newestKeyOf t.keys.rows email) licenseType rawLicense email)
  | .setSubscriptionStatus customer status, _, t =>
    setRows t (updateSubscriptionStatus t.keys.rows customer status)
  | .downgradeToFree customer, _, t => setRows t (downgradeToFree t.keys.rows customer)
  | s, _, t => (others s, t)

end AuthTables

/-! ### The calls of the atomic store -/

namespace Pooled

/-- The request that makes one call. -/
def keyRequest : KeyOp → Request KeyAnswer
  | .create i => do
    let (raw, key) ← .perform (StoreCall.createKey i none)
    pure (.created raw key.keyId)
  | .revoke keyId => do
    let _ ← .perform (StoreCall.revoke keyId)
    pure .revoked
  | .verify raw => do
    let keyId ← .perform (StoreCall.verify raw)
    pure (.verified keyId)

section Calls

variable (sha256 : String → HexText 64)

/-- The statement of a call. -/
def keyStatement : KeyOp → Statement
  | .create i => .insertKey i.keyId (sha256 i.raw) i.tier i.ownerEmail none
  | .revoke keyId => .revokeKey keyId
  | .verify raw => .selectKeyByHash (sha256 raw)

/-- What a call makes of the answer to its statement. -/
def keyAnswer : (op : KeyOp) → (keyStatement sha256 op).Ans → KeyAnswer
  | .create i, _ => .created i.raw i.keyId
  | .revoke _, _ => .revoked
  | .verify _, keyId => .verified keyId

/-- A call with the instant at which its statement took effect. -/
def stamped (x : ℚ) : KeyOp → KeyOp
  | .create i => .create { i with now := x }
  | op => op

/-- A call sends its statement once, and answers with what it makes of it. -/
theorem performs_keyRequest (st : Stores) (op : KeyOp) :
    Once.Performs (keyStatement st.sha256 op) (keyAnswer st.sha256 op)
      ((keyRequest op).embed (StoreCall.prog st)) := by
  have hsend : Once.Performs (keyStatement st.sha256 op) id
      (connected fun conn ↦ send conn (keyStatement st.sha256 op)) := Once.performs_lend _
  cases op with
  | create i =>
    simp only [keyRequest, Prog.embed_bind, Prog.embed_perform]
    let key : CreatedKey := ⟨i.keyId, i.tier, i.ownerEmail, false, none, none, none, none, none⟩
    exact (hsend.bind fun _ ↦ (i.raw, key)).bind fun p ↦ KeyAnswer.created p.1 p.2.keyId
  | revoke keyId =>
    simp only [keyRequest, Prog.embed_bind, Prog.embed_perform]
    exact hsend.bind fun _ ↦ KeyAnswer.revoked
  | verify raw =>
    simp only [keyRequest, Prog.embed_bind, Prog.embed_perform]
    exact hsend.bind KeyAnswer.verified

variable (others : (s : Statement) → Except StoreExn s.Ans)

/-- The statement of a call does to the keys what the atomic call does, and is answered as that. -/
def ActsAs (op : KeyOp) (x : ℚ) (t : AuthTables) : Prop :=
  (AuthTables.act others (keyStatement sha256 op) x t).2.keys =
      (Db.PostgresKeyStore.step sha256 t.keys (stamped x op)).2 ∧
    ∀ a, (AuthTables.act others (keyStatement sha256 op) x t).1 = .ok a →
      (Db.PostgresKeyStore.step sha256 t.keys (stamped x op)).1 = .ok (keyAnswer sha256 op a)

private theorem actsAs_create (i : Issue) (t : AuthTables) :
    ActsAs sha256 others (.create i) i.now t := by
  unfold ActsAs
  simp only [keyStatement, AuthTables.act, Db.PostgresKeyStore.step, stamped,
    KeyTable.insert_create]
  cases KeyTable.insert t.keys i.keyId (sha256 i.raw) i.tier i.ownerEmail none i.now with
  | error e =>
    refine ⟨rfl, fun a ha ↦ ?_⟩
    have hraised : Except.error (StoreExn.exn e.exn) = Except.ok a := ha
    cases hraised
  | ok keys => exact ⟨rfl, fun _ _ ↦ rfl⟩

theorem actsAs (op : KeyOp) (x : ℚ) (t : AuthTables) : ActsAs sha256 others op x t := by
  cases op with
  | create i => exact actsAs_create sha256 others { i with now := x } t
  | revoke keyId =>
    unfold ActsAs
    simp only [keyStatement, AuthTables.act, Db.PostgresKeyStore.step, stamped,
      Db.PostgresKeyStore.revoke]
    cases Db.PostgresKeyStore.checkParams [some keyId] with
    | error e =>
      refine ⟨rfl, fun a ha ↦ ?_⟩
      have hraised : Except.error (StoreExn.exn e.exn) = Except.ok a := ha
      cases hraised
    | ok _ => exact ⟨rfl, fun _ _ ↦ rfl⟩
  | verify raw =>
    refine ⟨rfl, fun a ha ↦ ?_⟩
    obtain rfl := Except.ok.inj ha
    rfl

end Calls

/-! ### Histories of concurrent calls -/

section Concurrent

variable {I : Type} {st : Stores} {maxPool : Nat}
  {others : (s : Statement) → Except StoreExn s.Ans} (op : I → KeyOp)

/-- The calls of a history, for the atomic store. -/
def callsOf (history : List (I × ℚ)) : List KeyOp := history.map fun p ↦ stamped p.2 (op p.1)

/-- The keys after a history are those of the atomic store. -/
theorem keys_replay (sha256 : String → HexText 64) (t : AuthTables) (history : List (I × ℚ)) :
    (replay (AuthTables.act others) (fun i ↦ keyStatement sha256 (op i)) t history).keys =
      final (Db.PostgresKeyStore.step sha256) t.keys (callsOf op history) := by
  induction history using List.reverseRecOn with
  | nil => rfl
  | append_singleton history p ih =>
    rw [replay_concat, (actsAs sha256 others _ _ _).1, ih, callsOf, callsOf, List.map_append,
      final_append]
    rfl

variable (st maxPool others) in
/-- Any interleaving of calls over the tables of the key store, where acquisitions, statements and
releases raise at any time and a statement may raise after its effect. -/
def KeyReaches [DecidableEq I] :
    Process I AuthTables KeyAnswer → Process I AuthTables KeyAnswer → Prop :=
  Reaches maxPool (Effect StoreExn.fault (AuthTables.act others)) fun _ t ↦ t

variable (st) in
/-- The coroutine of call `i` before its first step. -/
def unstarted (i : I) : StoreProg KeyAnswer := (keyRequest (op i)).embed (StoreCall.prog st)

variable (st) in
/-- A history of what took effect: it makes the keys what they are, no call that has not started is
in it, and a call that has returned stands where the atomic store answers what it returned. -/
structure HistoryOf (start : KeyTable) (history : List (I × ℚ))
    (d : Process I AuthTables KeyAnswer) : Prop where
  once : (history.map Prod.fst).Nodup
  keys : d.shared.inner.keys = final (Db.PostgresKeyStore.step st.sha256) start (callsOf op history)
  unstarted : ∀ i, d.prog i = unstarted st op i → i ∉ history.map Prod.fst
  returned : ∀ i a, d.prog i = .done (.ok a) → ∃ front x back, history = front ++ (i, x) :: back ∧
    (Db.PostgresKeyStore.step st.sha256
      (final (Db.PostgresKeyStore.step st.sha256) start (callsOf op front))
      (stamped x (op i))).1 = .ok a

variable (st others) in
/-- A history with the stage that each call is in. -/
def Hist (t : AuthTables) (history : List (I × ℚ)) (d : Process I AuthTables KeyAnswer) : Prop :=
  ∃ stage, Linear (AuthTables.act others) (fun i ↦ keyStatement st.sha256 (op i)) t history
      d.shared.inner stage ∧
    ∀ i, Prog.Follows Once.discipline (fun r g ↦ ∀ b, r = .ok b → ∃ a,
      g = .answered (keyStatement st.sha256 (op i)) (.ok a) ∧ b = keyAnswer st.sha256 (op i) a)
      (d.prog i) (stage i)

variable {op} {t : AuthTables} {history : List (I × ℚ)} {b d : Process I AuthTables KeyAnswer}

theorem hist_start (t : AuthTables) : Hist st others op t []
    (start st maxPool t fun i ↦ keyRequest (op i)) :=
  ⟨_, linear_start _ _ t, fun i ↦ performs_keyRequest st (op i)⟩

/-- What has happened stays the start of what has happened. -/
theorem Hist.extend [DecidableEq I] (h : Hist st others op t history b)
    (hr : KeyReaches maxPool others b d) : ∃ more, Hist st others op t (history ++ more) d := by
  obtain ⟨stage, hl, hf⟩ := h
  obtain ⟨stage', hr⟩ := Prog.restage Once.discipline hr stage
  obtain ⟨⟨more, hl'⟩, hf'⟩ := linear_sound hr hl hf
  exact ⟨more, stage', hl', hf'⟩

/-- A call that has been answered has started: with a connection, it would send a statement. -/
private theorem not_follows_unstarted {k : KeyOp} {s : Statement} {a : Except StoreExn s.Ans}
    {Q : Except StoreExn KeyAnswer → Once StoreExn Statement.Ans → Prop} :
    ¬ Prog.Follows Once.discipline Q ((keyRequest k).embed (StoreCall.prog st))
      (.answered s a) := by
  intro h
  cases k with
  | create | revoke | verify => cases (h.2 (.ok (0 : Conn)) trivial).1

theorem Hist.historyOf (h : Hist st others op t history d) :
    HistoryOf st op t.keys history d := by
  obtain ⟨stage, hl, hf⟩ := h
  refine ⟨hl.nodup, ?_, ?_, ?_⟩
  · rw [hl.state, keys_replay]
  · intro i hi
    rcases hl.stages i with htodo | ⟨a, ha⟩
    · exact hl.todo i htodo
    · have hfi := hf i
      rw [hi, ha] at hfi
      exact False.elim (not_follows_unstarted hfi)
  · intro i b hi
    have hfi := hf i
    rw [hi] at hfi
    obtain ⟨a, ha, rfl⟩ := hfi b rfl
    obtain ⟨front, x, back, rfl, hans⟩ := hl.answered i a ha
    refine ⟨front, x, back, rfl, ?_⟩
    rw [← keys_replay op st.sha256 t front]
    exact (actsAs st.sha256 others _ _ _).2 a hans

variable [DecidableEq I]

/-- At any moment of an interleaving of calls there is a history of what took effect, and it is the
start of the histories at all later moments. So a call that has returned stands before each
call that starts afterwards. -/
theorem keyCalls_linearizable
    (hb : KeyReaches maxPool others (start st maxPool t fun i ↦ keyRequest (op i)) b) :
    ∃ front, HistoryOf st op t.keys front b ∧
      ∀ d, KeyReaches maxPool others b d → ∃ back, HistoryOf st op t.keys (front ++ back) d := by
  obtain ⟨front, hfront⟩ := (hist_start t).extend hb
  refine ⟨_, hfront.historyOf, fun d hd ↦ ?_⟩
  obtain ⟨back, hback⟩ := hfront.extend hd
  exact ⟨back, hback.historyOf⟩

/-! ### Keys while they live and after -/

variable (op) in
/-- No two calls draw the same secret or the same id. -/
def FreshCalls : Prop :=
  ∀ i j a b, op i = .create a → op j = .create b → a.raw = b.raw ∨ a.keyId = b.keyId → i = j

variable (op) in
/-- The digest tells a secret from the secrets that the calls draw. -/
def NoCollisions (sha256 : String → HexText 64) (raw : String) : Prop :=
  Set.InjOn sha256 {s | s = raw ∨ ∃ i a, op i = .create a ∧ a.raw = s}

omit [DecidableEq I] in
/-- What a history issues was drawn by one of its calls. -/
theorem mem_issuesOf_callsOf {a : Issue} (h : a ∈ issuesOf (callsOf op history)) :
    ∃ p ∈ history, ∃ a', op p.1 = .create a' ∧ a' = { a with now := a'.now } := by
  simp only [issuesOf, List.mem_filterMap, callsOf, List.mem_map] at h
  obtain ⟨_, ⟨p, hp, rfl⟩, ha⟩ := h
  cases hop : op p.1 with
  | create a' =>
    rw [hop] at ha
    exact ⟨p, hp, a', hop, by rw [← Option.some.inj ha]⟩
  | revoke | verify =>
    rw [hop] at ha
    cases ha

omit [DecidableEq I] in
theorem fresh_callsOf (hfresh : FreshCalls op) (hn : (history.map Prod.fst).Nodup) :
    Fresh (callsOf op history) := by
  rw [List.Nodup, List.pairwise_map] at hn
  have hpair : (issuesOf (callsOf op history)).Pairwise
      fun a b ↦ a.raw ≠ b.raw ∧ a.keyId ≠ b.keyId := by
    rw [issuesOf, callsOf, List.filterMap_map]
    apply hn.filterMap
    intro p q hpq a ha b hb
    have hno : ∀ a' b', op p.1 = .create a' → op q.1 = .create b' →
        ¬ (a'.raw = b'.raw ∨ a'.keyId = b'.keyId) :=
      fun a' b' h h' hsame ↦ hpq (hfresh _ _ a' b' h h' hsame)
    cases hp : op p.1 with
    | revoke | verify => simp [stamped, hp] at ha
    | create a' =>
      cases hq : op q.1 with
      | revoke | verify => simp [stamped, hq] at hb
      | create b' =>
        simp only [Function.comp_apply, stamped, hp, Option.some.injEq] at ha
        simp only [Function.comp_apply, stamped, hq, Option.some.injEq] at hb
        subst ha hb
        exact not_or.mp (hno a' b' hp hq)
  constructor
  · rw [List.Nodup, List.pairwise_map]
    exact hpair.imp fun h ↦ h.1
  · rw [List.Nodup, List.pairwise_map]
    exact hpair.imp fun h ↦ h.2

omit [DecidableEq I] in
theorem noCollision_callsOf {sha256 : String → HexText 64} {raw : String}
    (hinj : NoCollisions op sha256 raw) : NoCollision sha256 (callsOf op history) raw := by
  apply Set.InjOn.mono _ hinj
  rintro s (rfl | ⟨a, ha, rfl⟩)
  · exact .inl rfl
  · obtain ⟨p, -, a', hop, ha'⟩ := mem_issuesOf_callsOf ha
    exact .inr ⟨p.1, a', hop, by rw [ha']; rfl⟩

section Lifetime

omit [DecidableEq I]

variable {start : KeyTable} {front back : List (I × ℚ)} {v : I}

/-- A call that starts after a moment stands behind all that had taken effect by then. -/
private theorem behind_of_unstarted (hb : HistoryOf st op start front b)
    (hd : HistoryOf st op start (front ++ back) d) (hunstarted : b.prog v = unstarted st op v)
    {a : KeyAnswer} (hv : d.prog v = .done (.ok a)) :
    ∃ more x after, back = more ++ (v, x) :: after ∧
      (Db.PostgresKeyStore.step st.sha256
        (final (Db.PostgresKeyStore.step st.sha256) start (callsOf op (front ++ more)))
        (stamped x (op v))).1 = .ok a := by
  obtain ⟨before, x, after, hsplit, hans⟩ := hd.returned v a hv
  rcases List.append_eq_append_iff.mp hsplit with ⟨more, rfl, hback⟩ | ⟨rest, hfront, hrest⟩
  · exact ⟨more, x, after, hback, hans⟩
  · cases rest with
    | nil =>
      simp only [List.append_nil] at hfront
      subst hfront
      exact ⟨[], x, after, hrest.symm, by simpa using hans⟩
    | cons p rest =>
      -- the call would be among those that had taken effect
      obtain rfl := (List.cons.inj hrest).1
      refine absurd ?_ (hb.unstarted v hunstarted)
      rw [hfront, List.map_append]
      exact List.mem_append_right _ List.mem_cons_self

/-- A creation that has returned issued its key in the history. -/
private theorem issued_of_created (hb : HistoryOf st op start front b) {c : I} {issue : Issue}
    (hc : op c = .create issue) {a : KeyAnswer} (hret : b.prog c = .done (.ok a)) :
    ∃ before x after, front = before ++ (c, x) :: after ∧
      Db.PostgresKeyStore.Insertable { issue with now := x } := by
  obtain ⟨before, x, after, hsplit, hans⟩ := hb.returned c a hret
  refine ⟨before, x, after, hsplit, ?_⟩
  by_contra hins
  obtain ⟨e, he⟩ := Db.PostgresKeyStore.create_of_not_insertable st.sha256
    (final (Db.PostgresKeyStore.step st.sha256) start (callsOf op before)) hins
  rw [hc, stamped, Db.PostgresKeyStore.step, he] at hans
  cases hans

/-- Where a verification that starts after two moments stands, and what it finds there. -/
private theorem seen_of_found {start : KeyTable} {front middle back : List (I × ℚ)}
    {a : Process I AuthTables KeyAnswer} {c v : I} {issue : Issue} (hempty : start = Dict.empty)
    (hfresh : FreshCalls op) (hinj : NoCollisions op st.sha256 issue.raw)
    (hc : op c = .create issue) (hv : op v = .verify issue.raw)
    (ha : HistoryOf st op start front a) (hb : HistoryOf st op start (front ++ middle) b)
    (hd : HistoryOf st op start (front ++ middle ++ back) d) {created : KeyAnswer}
    (hcreated : a.prog c = .done (.ok created)) (hunstarted : b.prog v = unstarted st op v)
    {found : Option String} (hfound : d.prog v = .done (.ok (.verified found))) :
    ∃ before x behind more rest, front = before ++ (c, x) :: behind ∧ back = more ++ rest ∧
      Db.PostgresKeyStore.Insertable { issue with now := x } ∧
      let ops := callsOf op before ++ .create { issue with now := x } ::
        callsOf op (behind ++ middle ++ more)
      Fresh ops ∧ ∀ k, found = some k ↔ Live Db.PostgresKeyStore.Insertable ops issue.raw k := by
  subst hempty
  obtain ⟨more, y, after, rfl, hans⟩ := behind_of_unstarted hb hd hunstarted hfound
  obtain ⟨before, x, behind, rfl, hins⟩ := issued_of_created ha hc hcreated
  have hcalls : callsOf op (before ++ (c, x) :: behind ++ middle ++ more) =
      callsOf op before ++ .create { issue with now := x } ::
        callsOf op (behind ++ middle ++ more) := by
    simp [callsOf, hc, stamped]
  have hnodup : ((before ++ (c, x) :: behind ++ middle ++ more).map Prod.fst).Nodup := by
    have hall := hd.once
    rw [← List.append_assoc, List.map_append] at hall
    exact hall.of_append_left
  have hfresh' := fresh_callsOf hfresh hnodup
  refine ⟨before, x, behind, more, _, rfl, rfl, hins, ?_⟩
  rw [← hcalls]
  refine ⟨hfresh', fun k ↦ ?_⟩
  rw [hv] at hans
  rw [← KeyAnswer.verified.inj (Except.ok.inj hans)]
  exact Db.PostgresKeyStore.verify_final_iff hfresh' (noCollision_callsOf hinj)

end Lifetime

/-- What a verification finds. A key is refused once its revocation, begun after its creation had
returned, has returned; and a key that no revocation has begun for is found. -/
theorem key_honoured_until_revoked {events : StripeEvents} {a : Process I AuthTables KeyAnswer}
    {c v : I} {issue : Issue} (hfresh : FreshCalls op) (hinj : NoCollisions op st.sha256 issue.raw)
    (hc : op c = .create issue) (hv : op v = .verify issue.raw)
    (ha : KeyReaches maxPool others
      (start st maxPool ⟨Dict.empty, events⟩ fun i ↦ keyRequest (op i)) a)
    (hb : KeyReaches maxPool others a b) (hd : KeyReaches maxPool others b d)
    {created : KeyAnswer} (hcreated : a.prog c = .done (.ok created))
    (hunstarted : b.prog v = unstarted st op v) {found : Option String}
    (hfound : d.prog v = .done (.ok (.verified found))) :
    (found = none ∨ found = some issue.keyId) ∧
    (∀ r, op r = .revoke issue.keyId → a.prog r = unstarted st op r →
      b.prog r = .done (.ok .revoked) → found = none) ∧
    ((∀ r, op r = .revoke issue.keyId → d.prog r = unstarted st op r) →
      found = some issue.keyId) := by
  obtain ⟨front, hfront⟩ := (hist_start ⟨Dict.empty, events⟩).extend ha
  obtain ⟨middle, hmiddle⟩ := hfront.extend hb
  obtain ⟨back, hback⟩ := hmiddle.extend hd
  rw [List.nil_append] at hfront hmiddle hback
  obtain ⟨before, x, behind, more, rest, rfl, rfl, hins, hfresh', hiff⟩ :=
    seen_of_found rfl hfresh hinj hc hv hfront.historyOf hmiddle.historyOf hback.historyOf hcreated
      hunstarted hfound
  refine ⟨?_, ?_, ?_⟩
  · cases hk : found with
    | none => exact .inl rfl
    | some k =>
      obtain ⟨j, hj, hraw, rfl⟩ := (hiff k).mp hk
      have hissued : { issue with now := x } ∈ issuesOf (callsOf op before ++
          .create { issue with now := x } :: callsOf op (behind ++ middle ++ more)) := by
        rw [issuesOf_append]
        exact List.mem_append_right _ List.mem_cons_self
      rw [hfresh'.eq_of_raw_eq hj.mem hissued hraw]
      exact .inr rfl
  · intro r hr hstart hreturned
    -- the revocation took effect between the creation and the verification
    have hrevoked : .revoke issue.keyId ∈ callsOf op (behind ++ middle ++ more) := by
      obtain ⟨_, z, _, hsplit, -⟩ := hmiddle.historyOf.returned r _ hreturned
      have hmem : (r, z) ∈ before ++ (c, x) :: behind ++ middle := by
        rw [hsplit]
        exact List.mem_append_right _ List.mem_cons_self
      rcases List.mem_append.mp hmem with hearly | hlate
      · exact absurd (List.mem_map_of_mem hearly) (hfront.historyOf.unstarted r hstart)
      · refine List.mem_map.mpr ⟨(r, z), ?_, by rw [hr]; rfl⟩
        exact List.mem_append_left _ (List.mem_append_right _ hlate)
    exact Option.eq_none_iff_forall_ne_some.mpr fun k hk ↦
      not_live_of_revoked hfresh' hrevoked k ((hiff k).mp hk)
  · intro hnone
    have hlive : .revoke issue.keyId ∉ callsOf op (behind ++ middle ++ more) := by
      intro hmem
      obtain ⟨⟨r, z⟩, hp, hop⟩ := List.mem_map.mp hmem
      have hr : op r = .revoke issue.keyId := by
        cases hop' : op r with
        | create | verify => simp [stamped, hop'] at hop
        | revoke keyId => simpa [stamped, hop'] using hop
      refine hback.historyOf.unstarted r (hnone r hr) (List.mem_map.mpr ⟨(r, z), ?_, rfl⟩)
      simp only [List.mem_append, List.mem_cons] at hp ⊢
      tauto
    exact (hiff _).mpr ⟨_, ⟨_, _, rfl, hins, iff_of_false Bool.false_ne_true hlive⟩, rfl, rfl⟩

variable (st maxPool others) in
/-- A call that is let run alone over an idle pool completes. -/
theorem alone_completes (k : KeyOp) (x : ℚ) {c : Process I AuthTables KeyAnswer} {conn : Conn}
    {free : List Conn} {t : AuthTables} (hshared : c.shared = ⟨conn :: free, t, false⟩) {i : I}
    (hi : c.prog i = (keyRequest k).embed (StoreCall.prog st))
    {answer : (keyStatement st.sha256 k).Ans}
    (hanswer : (AuthTables.act others (keyStatement st.sha256 k) x t).1 = .ok answer) :
    ∃ d, KeyReaches maxPool others c d ∧
      d.shared = ⟨conn :: free, (AuthTables.act others (keyStatement st.sha256 k) x t).2, false⟩ ∧
      d.prog = Function.update c.prog i (.done (.ok (keyAnswer st.sha256 k answer))) := by
  have hlend : Borrow.ServeOrRefuse StoreExn.fault (Effect StoreExn.fault (AuthTables.act others))
      (fun _ t ↦ t) (connections maxPool) Borrow.acquire c.shared (.ok conn) ⟨free, t, false⟩ := by
    rw [hshared]
    exact Borrow.serve_acquire
  have huse : Effect StoreExn.fault (AuthTables.act others) conn (keyStatement st.sha256 k) t
      (.ok answer) (AuthTables.act others (keyStatement st.sha256 k) x t).2 := by
    rw [← hanswer]
    exact .served
  cases k with
  | create | revoke | verify =>
    have h₁ : KeyReaches maxPool others c _ := .single (.call i hi hlend)
    have h₂ := h₁.tail (.call i (Function.update_self ..) (.serve (.use huse)))
    have h₃ := h₂.tail (.call i (Function.update_self ..) Borrow.serve_release)
    refine ⟨_, h₃, rfl, ?_⟩
    simp only [Function.update_idem]
    rfl

end Concurrent

namespace Sample

/-- A key that is created, revoked and then verified. -/
inductive KeyCall
  | creating
  | revoking
  | verifying
  deriving DecidableEq

def issue : Issue := ⟨"free", none, HexText.zeros 48, HexText.zeros 16, 0⟩

def keyOp : KeyCall → KeyOp
  | .creating => .create issue
  | .revoking => .revoke issue.keyId
  | .verifying => .verify issue.raw

/-- The digest of the secret of `issue`. -/
def keyStores : Stores where
  sha256 _ := .ofString 64 "9774317f1645c83467f34b9827608fc1b62589ee246091e44f69dbed89a7c784"
    (by decide +kernel)
  limitsByTier := Dict.empty
  fernet := none
  ttlSeconds := 300

def refusing (s : Statement) : Except StoreExn s.Ans := .error .cancelled

def emptyTables : AuthTables := ⟨Dict.empty, Dict.empty⟩

abbrev Reaching : Process KeyCall AuthTables KeyAnswer → Process KeyCall AuthTables KeyAnswer →
    Prop := KeyReaches 1 refusing

def begun : Process KeyCall AuthTables KeyAnswer :=
  start keyStores 1 emptyTables fun i ↦ keyRequest (keyOp i)

/-- The creation, alone. -/
theorem created : ∃ a, Reaching begun a ∧
    a.shared = ⟨[0], (AuthTables.act refusing (keyStatement keyStores.sha256 (.create issue)) 0
      emptyTables).2, false⟩ ∧
    a.prog = Function.update begun.prog .creating
      (.done (.ok (.created issue.raw issue.keyId))) :=
  alone_completes keyStores 1 refusing (.create issue) 0 rfl (i := KeyCall.creating) rfl rfl

end Sample

open Sample

/-- A history of the creation. -/
theorem keyCalls_linearizable_sample : ∃ (a : Process KeyCall AuthTables KeyAnswer)
    (history : List (KeyCall × ℚ)), HistoryOf keyStores keyOp Dict.empty history a ∧
      KeyCall.creating ∈ history.map Prod.fst := by
  obtain ⟨a, ha, -, hcreated⟩ := created
  obtain ⟨history, h, -⟩ := keyCalls_linearizable ha
  obtain ⟨front, x, back, rfl, -⟩ := h.returned .creating _ (by rw [hcreated]; rfl)
  exact ⟨a, _, h, by simp⟩

/-- The verification that follows the revocation finds nothing. -/
theorem key_honoured_until_revoked_sample : ∃ d : Process KeyCall AuthTables KeyAnswer,
    KeyReaches 1 refusing (start keyStores 1 emptyTables fun i ↦ keyRequest (keyOp i)) d ∧
      d.prog .verifying = .done (.ok (.verified none)) := by
  have hfresh : FreshCalls keyOp := by
    rintro (_ | _ | _) (_ | _ | _) a b ha hb - <;> first | rfl | contradiction
  have hinj : NoCollisions keyOp keyStores.sha256 issue.raw := by
    apply (Set.injOn_singleton keyStores.sha256 issue.raw).mono
    rintro s (rfl | ⟨_ | _ | _, a, ha, rfl⟩)
    · rfl
    · cases ha
      rfl
    · cases ha
    · cases ha
  obtain ⟨a, ha, hshared, hprog⟩ := created
  obtain ⟨b, hb, hshared', hprog'⟩ := alone_completes keyStores 1 refusing
    (.revoke issue.keyId) 0 hshared (i := KeyCall.revoking) (by rw [hprog]; rfl) rfl
  obtain ⟨d, hd, -, hprog''⟩ := alone_completes keyStores 1 refusing (.verify issue.raw) 0
    hshared' (i := KeyCall.verifying) (by rw [hprog', hprog]; rfl) rfl
  obtain ⟨-, hrevoked, -⟩ := key_honoured_until_revoked hfresh hinj (c := .creating)
    (v := .verifying) rfl rfl ha hb hd (by rw [hprog]; rfl) (by rw [hprog', hprog]; rfl)
    (by rw [hprog'']; rfl)
  have hnone := hrevoked .revoking rfl (by rw [hprog]; rfl) (by rw [hprog']; rfl)
  refine ⟨d, (ha.trans hb).trans hd, ?_⟩
  rw [hprog'', ← hnone]
  rfl

end Pooled
end AsbCloudApi.Db
