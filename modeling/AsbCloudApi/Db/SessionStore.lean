import AsbCloudApi.Db.Usage
import AsbCloudApi.Session.Store

/-!
# PostgreSQL session store

Library `Db`. Models `src/asb_api/db/session_store.py` over the `sessions` table of
`src/asb_api/db/connection.py:65–76`. The table is a map from its primary key. A text
parameter that contains U+0000 is refused by every statement.
-/

namespace AsbCloudApi.Db

open Base Api Session

/-- A row of `sessions`. -/
structure SessionRow where
  keyId : String
  region : Option String
  fingerprint : Option String
  cookiesEnc : Option String
  createdAt : ℚ
  lastUsed : ℚ
  requestCount : Nat
  expiresAt : ℚ
  deletedAt : Option ℚ

/-- `PostgresSessionStore` with the tables it uses. -/
structure PostgresSessionStore where
  fernet : Option Fernet
  ttlSeconds : Int
  apiKeys : List String
  sessions : Dict String SessionRow

namespace PostgresSessionStore

/-- `_encrypt`; `src/asb_api/db/session_store.py:16–17`. -/
def encrypt (fernet : Option Fernet) (entropy : Nat) (data : String) : String :=
  match fernet with
  | none => data
  | some f => f.encrypt entropy data

/-- `_decrypt`; `src/asb_api/db/session_store.py:19–20`. -/
def decrypt (fernet : Option Fernet) (data : String) : Option String :=
  match fernet with
  | none => some data
  | some f => f.decrypt data

/-- The column checks of the `INSERT` into `sessions`. -/
def checkRow (st : PostgresSessionStore) (sessionId keyId region : String)
    (fingerprint : Option String) : Except DbError Unit := do
  checkVarchar "session_id" 64 sessionId
  checkVarchar "key_id" 32 keyId
  checkVarchar "region" 8 region
  if fingerprint.any hasNul then .error (.characterNotInRepertoire "fingerprint")
  if keyId ∈ st.apiKeys then .ok () else .error (.foreignKeyViolation "key_id")

/-- `create`, given the twelve hexadecimal digits of the new id;
`src/asb_api/db/session_store.py:22–46`. -/
def create (st : PostgresSessionStore) (env : StoreEnv) (hex keyId region : String)
    (fingerprint : Option String) : Except Exn SessionInfo × PostgresSessionStore :=
  let sessionId := "sess_" ++ hex
  let expiresAt := env.now + st.ttlSeconds
  let row : SessionRow :=
    ⟨keyId, some region, fingerprint, none, env.now, env.now, 0, expiresAt, none⟩
  match st.checkRow sessionId keyId region fingerprint with
  | .error e => (.error e.exn, st)
  | .ok () =>
    if (st.sessions.get? sessionId).isSome then
      (.error (DbError.uniqueViolation "session_id").exn, st)
    else
      (.ok ⟨sessionId, keyId, region, fingerprint, Dict.empty, env.now, env.now, 0, expiresAt⟩,
        { st with sessions := st.sessions.set sessionId row })

/-- The cookies of a row. What cannot be read counts as no cookies;
`src/asb_api/db/session_store.py:59–64`. -/
def rowCookies (fernet : Option Fernet) (row : SessionRow) : Dict String String :=
  match row.cookiesEnc with
  | none => Dict.empty
  | some data =>
    if data = "" then Dict.empty
    else ((decrypt fernet data).bind Json.loads).getD Dict.empty

/-- `get`; `src/asb_api/db/session_store.py:48–85`. The answer carries the former `last_used`. -/
def get (st : PostgresSessionStore) (env : StoreEnv) (sessionId : String) :
    Except Exn (Option SessionInfo) × PostgresSessionStore :=
  if hasNul sessionId then (.error (DbError.characterNotInRepertoire "session_id").exn, st)
  else
    match st.sessions.get? sessionId with
    | none => (.ok none, st)
    | some row =>
      if row.deletedAt.isSome || row.expiresAt ≤ env.now then (.ok none, st)
      else
        (.ok (some ⟨sessionId, row.keyId, orElse row.region "jp", row.fingerprint,
            rowCookies st.fernet row, row.createdAt, row.lastUsed, row.requestCount,
            row.expiresAt⟩),
          { st with sessions := st.sessions.set sessionId { row with lastUsed := env.now } })

/-- `UPDATE sessions SET … WHERE session_id = $1`. -/
def update (st : PostgresSessionStore) (sessionId : String) (f : SessionRow → SessionRow) :
    Except Exn Unit × PostgresSessionStore :=
  if hasNul sessionId then (.error (DbError.characterNotInRepertoire "session_id").exn, st)
  else
    match st.sessions.get? sessionId with
    | none => (.ok (), st)
    | some row => (.ok (), { st with sessions := st.sessions.set sessionId (f row) })

/-- `update_cookies`; `src/asb_api/db/session_store.py:87–97`. -/
def updateCookies (st : PostgresSessionStore) (env : StoreEnv) (sessionId : String)
    (cookies : Dict String String) : Except Exn Unit × PostgresSessionStore :=
  st.update sessionId fun row ↦
    { row with
      cookiesEnc := some (encrypt st.fernet env.entropy (Json.dumps true cookies))
      lastUsed := env.now }

/-- `increment_count`; `src/asb_api/db/session_store.py:99–108`. The sum is an `INTEGER`. -/
def incrementCount (st : PostgresSessionStore) (env : StoreEnv) (sessionId : String) :
    Except Exn Unit × PostgresSessionStore :=
  if (st.sessions.get? sessionId).any fun row ↦ decide (2 ^ 31 ≤ row.requestCount + 1) then
    (.error (DbError.numericValueOutOfRange "request_count").exn, st)
  else
    st.update sessionId fun row ↦
      { row with requestCount := row.requestCount + 1, lastUsed := env.now }

/-- `delete`; `src/asb_api/db/session_store.py:110–118`. -/
def delete (st : PostgresSessionStore) (env : StoreEnv) (sessionId : String) :
    Except Exn Unit × PostgresSessionStore :=
  st.update sessionId fun row ↦ { row with deletedAt := some env.now }

section Lookup

variable (st : PostgresSessionStore) (sessionId : String)

/-- Reading sets the time of use of a session that it finds. -/
theorem get?_get (env : StoreEnv) (x : String) : (st.get env sessionId).2.sessions.get? x =
    if sessionId = x ∧ hasNul sessionId = false then (st.sessions.get? x).map fun row ↦
      if row.deletedAt.isSome || row.expiresAt ≤ env.now then row
      else { row with lastUsed := env.now }
    else st.sessions.get? x := by
  unfold get
  cases hn : hasNul sessionId with
  | true => simp
  | false =>
    by_cases hx : sessionId = x
    · subst hx
      cases hr : st.sessions.get? sessionId with
      | none => simp [hr]
      | some row =>
        simp only [Bool.false_eq_true, if_false, and_self, if_true, Option.map_some]
        split
        · exact hr
        · exact Dict.get?_set_self _ _ _
    · cases hr : st.sessions.get? sessionId with
      | none => simp [hx]
      | some row =>
        simp only [Bool.false_eq_true, if_false, hx, false_and]
        split
        · rfl
        · exact Dict.get?_set_ne _ _ hx

/-- An update changes the row of its session, if there is one. -/
theorem get?_update (f : SessionRow → SessionRow) (x : String) :
    (st.update sessionId f).2.sessions.get? x =
      if sessionId = x ∧ hasNul sessionId = false then (st.sessions.get? x).map f
      else st.sessions.get? x := by
  unfold update
  cases hn : hasNul sessionId with
  | true => simp
  | false =>
    by_cases hx : sessionId = x
    · subst hx
      cases hr : st.sessions.get? sessionId with
      | none => simp [hr]
      | some row => simp
    · cases hr : st.sessions.get? sessionId with
      | none => simp [hx]
      | some row => simp [Dict.get?_set, hx]

theorem fernet_update (f : SessionRow → SessionRow) :
    (st.update sessionId f).2.fernet = st.fernet := by
  unfold update
  split
  · rfl
  · split <;> rfl

theorem fernet_get (env : StoreEnv) : (st.get env sessionId).2.fernet = st.fernet := by
  unfold get
  split
  · rfl
  · split
    · rfl
    · split <;> rfl

end Lookup

/-- The cookies stored for a session, if its row is there. -/
def storedCookies (st : PostgresSessionStore) (sessionId : String) :
    Option (Dict String String) :=
  (st.sessions.get? sessionId).map (rowCookies st.fernet)

/-- What was written by an update is what a row holds. -/
theorem rowCookies_encrypt (fernet : Option Fernet) (entropy : Nat) (row : SessionRow)
    (cookies : Dict String String) (h : row.cookiesEnc =
      some (encrypt fernet entropy (Json.dumps true cookies))) :
    rowCookies fernet row = cookies := by
  unfold rowCookies
  rw [h]
  cases fernet with
  | none =>
    have hne : ¬ Json.dumps true cookies = "" := Json.dumps_ne_empty true cookies
    simp only [encrypt, decrypt, if_neg hne, Option.bind_some, Json.loads_dumps, Option.getD_some]
  | some f =>
    simp only [encrypt, decrypt, if_neg (f.encrypt_ne_empty entropy _), f.decrypt_encrypt,
      Option.bind_some, Json.loads_dumps, Option.getD_some]

/-- A session that is found shows a row, of which the time of use is set. -/
theorem exists_of_get {st st' : PostgresSessionStore} {env : StoreEnv} {sessionId : String}
    {s : SessionInfo} (h : st.get env sessionId = (.ok (some s), st')) :
    ∃ row, st.sessions.get? sessionId = some row ∧ s.keyId = row.keyId ∧
      s.cookies = rowCookies st.fernet row ∧
      st' = { st with sessions := st.sessions.set sessionId { row with lastUsed := env.now } } := by
  unfold get at h
  split at h
  · cases h
  · cases hr : st.sessions.get? sessionId with
    | none =>
      rw [hr] at h
      cases h
    | some row =>
      rw [hr] at h
      dsimp only at h
      split at h
      · cases h
      · cases h
        exact ⟨row, rfl, rfl, rfl, rfl⟩

/-- A session that is found carries the stored cookies, and reading leaves them alone. -/
theorem get_some {st st' : PostgresSessionStore} {env : StoreEnv} {sessionId : String}
    {s : SessionInfo} (h : st.get env sessionId = (.ok (some s), st')) :
    st.storedCookies sessionId = some s.cookies ∧
      st'.storedCookies sessionId = some s.cookies := by
  obtain ⟨row, hr, -, hcookies, rfl⟩ := exists_of_get h
  constructor
  · rw [storedCookies, hr, Option.map_some, hcookies]
  · rw [storedCookies, Dict.get?_set_self, Option.map_some, hcookies]
    rfl

/-- An update of a stored session is what is stored then. -/
theorem storedCookies_updateCookies {st st' : PostgresSessionStore} {env : StoreEnv}
    {sessionId : String} {cookies : Dict String String}
    (hs : (st.storedCookies sessionId).isSome)
    (h : st.updateCookies env sessionId cookies = (.ok (), st')) :
    st'.storedCookies sessionId = some cookies := by
  unfold updateCookies update at h
  split at h
  · cases h
  · cases hr : st.sessions.get? sessionId with
    | none =>
      rw [storedCookies, hr] at hs
      cases hs
    | some row =>
      rw [hr] at h
      cases h
      rw [storedCookies, Dict.get?_set_self, Option.map_some,
        rowCookies_encrypt st.fernet env.entropy _ cookies rfl]

/-! ### Owners and cookies -/

/-- The owner and the cookies of a session. -/
def view (st : PostgresSessionStore) (sessionId : String) :
    Option (String × Option (Dict String String)) :=
  (st.sessions.get? sessionId).map fun row ↦ (row.keyId, some (rowCookies st.fernet row))

section View

variable (st : PostgresSessionStore) (env : StoreEnv) (sessionId : String)

private theorem view_set_row (row : SessionRow) (x : String) :
    ({ st with sessions := st.sessions.set sessionId row } : PostgresSessionStore).view x =
      if sessionId = x then some (row.keyId, some (rowCookies st.fernet row)) else st.view x := by
  unfold view
  rw [Dict.get?_set]
  split <;> rfl

/-- A session that is found has the owner and the cookies that are stored. -/
theorem view_of_get {s : SessionInfo} (h : (st.get env sessionId).1 = .ok (some s)) :
    st.view sessionId = some (s.keyId, some s.cookies) := by
  obtain ⟨row, hr, hkey, hcookies, -⟩ := exists_of_get (Prod.ext h rfl)
  rw [view, hr, Option.map_some, hkey, hcookies]

/-- Reading changes nothing but the time of use. -/
theorem view_get (x : String) : (st.get env sessionId).2.view x = st.view x := by
  unfold view
  rw [get?_get, fernet_get]
  split
  · rw [Option.map_map]
    congr 1
    funext row
    rw [Function.comp_apply]
    split <;> rfl
  · rfl

private theorem view_update (f : SessionRow → SessionRow) (x : String) :
    (st.update sessionId f).2.view x = st.view x ∨
      sessionId = x ∧ (st.update sessionId f).2.view x = (st.sessions.get? x).map fun row ↦
        ((f row).keyId, some (rowCookies st.fernet (f row))) := by
  unfold view
  rw [get?_update, fernet_update]
  split
  · next hx =>
    right
    rw [Option.map_map]
    exact ⟨hx.1, rfl⟩
  · exact Or.inl rfl

/-- An update changes the cookies of its session at most. -/
theorem view_updateCookies (cookies : Dict String String) (x : String) :
    (st.updateCookies env sessionId cookies).2.view x = st.view x ∨ sessionId = x ∧
      (st.updateCookies env sessionId cookies).2.view x =
        (st.view x).map fun p ↦ (p.1, some cookies) := by
  rcases view_update st sessionId (fun row ↦ { row with
    cookiesEnc := some (encrypt st.fernet env.entropy (Json.dumps true cookies))
    lastUsed := env.now }) x with hsame | ⟨hx, hview⟩
  · exact Or.inl hsame
  · refine Or.inr ⟨hx, hview.trans ?_⟩
    simp only [view, Option.map_map]
    congr 1
    funext row
    simp only [Function.comp_apply]
    rw [rowCookies_encrypt st.fernet env.entropy _ cookies rfl]

private theorem view_update_same {f : SessionRow → SessionRow}
    (hf : ∀ row, (f row).keyId = row.keyId ∧ (f row).cookiesEnc = row.cookiesEnc) (x : String) :
    (st.update sessionId f).2.view x = st.view x := by
  rcases view_update st sessionId f x with hsame | ⟨-, hview⟩
  · exact hsame
  · rw [hview]
    unfold view rowCookies
    simp only [(hf _).1, (hf _).2]

theorem view_incrementCount (x : String) :
    (st.incrementCount env sessionId).2.view x = st.view x := by
  unfold incrementCount
  split
  · rfl
  · apply view_update_same
    exact fun _ ↦ ⟨rfl, rfl⟩

/-- A deleted session keeps its row. -/
theorem view_delete (x : String) : (st.delete env sessionId).2.view x = st.view x := by
  unfold delete
  apply view_update_same
  exact fun _ ↦ ⟨rfl, rfl⟩

/-- A new session has its owner and no cookies. -/
theorem view_create (hex keyId region : String) (fingerprint : Option String) (x : String) :
    (st.create env hex keyId region fingerprint).2.view x = st.view x ∨ "sess_" ++ hex = x ∧
      (st.create env hex keyId region fingerprint).2.view x = some (keyId, some Dict.empty) := by
  unfold create
  dsimp only
  split
  · exact Or.inl rfl
  · split
    · exact Or.inl rfl
    · rw [view_set_row]
      split
      · next hx => exact Or.inr ⟨hx, rfl⟩
      · exact Or.inl rfl

end View

theorem storedCookies_eq_view (st : PostgresSessionStore) (sessionId : String) :
    st.storedCookies sessionId = (st.view sessionId).bind Prod.snd := by
  unfold storedCookies view
  cases st.sessions.get? sessionId <;> rfl

theorem storedCookies_incrementCount (st : PostgresSessionStore) (env : StoreEnv)
    (sessionId : String) :
    (st.incrementCount env sessionId).2.storedCookies sessionId = st.storedCookies sessionId := by
  rw [storedCookies_eq_view, view_incrementCount, storedCookies_eq_view]

end PostgresSessionStore
end AsbCloudApi.Db
