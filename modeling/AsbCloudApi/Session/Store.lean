import AsbCloudApi.Api.Errors
import AsbCloudApi.Base.Json
import AsbCloudApi.Session.Models

/-!
# In-memory session store

Library `Session`. Models `src/asb_api/session/store.py`. Each method holds the lock and no `await`
inside it, so a call is one step; the clock readings of a call are one instant. Cookies are
kept as a dictionary, or as a token if there is an encryption key.
-/

namespace AsbCloudApi.Session

open Base Api

/-- `cryptography.fernet.Fernet` for one key, on texts: tokens and the JSON they carry are ASCII.
Encryption draws on the clock and on randomness. -/
structure Fernet where
  encrypt : Nat → String → String
  decrypt : String → Option String
  decrypt_encrypt : ∀ entropy data, decrypt (encrypt entropy data) = some data
  encrypt_ne_empty : ∀ entropy data, encrypt entropy data ≠ ""

private def fernetVersion : Text.Chars := ['g', 'A', 'A', 'A', 'A', 'A']

/-- A toy cipher: the text backwards, behind the version of the format and the entropy. -/
def backwardsFernet : Fernet where
  encrypt entropy data :=
    String.ofList (fernetVersion ++ (Nat.toDigits 10 entropy ++ '.' :: data.toList.reverse))
  decrypt token :=
    if fernetVersion <+: token.toList then
      some (String.ofList (Text.after '.' token.toList).reverse)
    else none
  decrypt_encrypt entropy data := by
    have hdot : '.' ∉ fernetVersion ++ Nat.toDigits 10 entropy := by
      rw [List.mem_append, not_or]
      exact ⟨by decide, Text.not_mem_toDigits rfl entropy⟩
    rw [String.toList_ofList, if_pos (List.prefix_append _ _), ← List.append_assoc,
      Text.after_append_cons hdot, List.reverse_reverse, String.ofList_toList]
  encrypt_ne_empty entropy data h := by
    have hlist := congrArg String.toList h
    rw [String.toList_ofList] at hlist
    cases hlist

/-- What a call reads besides its arguments: the clock and the entropy of an encryption. -/
structure StoreEnv where
  now : ℚ
  entropy : Nat

/-- The cookies of a record, as they are kept. -/
inductive StoredCookies where
  | plain (cookies : Dict String String)
  | token (t : String)
  deriving DecidableEq

/-- One entry of `_sessions`; `src/asb_api/session/store.py:52–62`. -/
structure SessionRecord where
  sessionId : String
  keyId : String
  region : String
  fingerprint : Option String
  cookies : StoredCookies
  createdAt : ℚ
  lastUsed : ℚ
  requestCount : Nat
  expiresAt : ℚ

/-- `SessionStore`; `src/asb_api/session/store.py:12–18`. -/
structure SessionStore where
  fernet : Option Fernet
  ttlSeconds : Int
  sessions : Dict String SessionRecord

/-- `_store_cookies`; `src/asb_api/session/store.py:30–34`. -/
def storeCookies (fernet : Option Fernet) (entropy : Nat) (cookies : Dict String String) :
    StoredCookies :=
  match fernet with
  | none => .plain cookies
  | some f => .token (f.encrypt entropy (Json.dumps false cookies))

/-- The exception of a token that was not made with this key, or holds no JSON. -/
def invalidToken : Exn := .py ⟨.other, ""⟩

/-- `_load_cookies`; `src/asb_api/session/store.py:36–43`. -/
def loadCookies (fernet : Option Fernet) (stored : StoredCookies) :
    Except Exn (Dict String String) :=
  match fernet, stored with
  | none, .plain cookies => .ok cookies
  | none, .token _ => .ok Dict.empty
  | some _, .plain cookies => .ok cookies
  | some f, .token t =>
    match (f.decrypt t).bind Json.loads with
    | some cookies => .ok cookies
    | none => .error invalidToken

/-- Cookies are read back as they were stored. -/
theorem loadCookies_storeCookies (fernet : Option Fernet) (entropy : Nat)
    (cookies : Dict String String) :
    loadCookies fernet (storeCookies fernet entropy cookies) = .ok cookies := by
  cases fernet with
  | none => rfl
  | some f =>
    simp only [storeCookies, loadCookies, f.decrypt_encrypt, Option.bind_some, Json.loads_dumps]

namespace SessionStore

/-- `_session_info_from_record`; `src/asb_api/session/store.py:45–48`. -/
def sessionInfoFromRecord (st : SessionStore) (s : SessionRecord) : Except Exn SessionInfo := do
  let cookies ← loadCookies st.fernet s.cookies
  .ok ⟨s.sessionId, s.keyId, s.region, s.fingerprint, cookies, s.createdAt, s.lastUsed,
    s.requestCount, s.expiresAt⟩

/-- `create`, given the twelve hexadecimal digits of the new id;
`src/asb_api/session/store.py:50–66`. -/
def create (st : SessionStore) (env : StoreEnv) (hex keyId region : String)
    (fingerprint : Option String) : Except Exn SessionInfo × SessionStore :=
  let sessionId := "sess_" ++ hex
  let session : SessionRecord := ⟨sessionId, keyId, region, fingerprint,
    storeCookies st.fernet env.entropy Dict.empty, env.now, env.now, 0, env.now + st.ttlSeconds⟩
  let st' := { st with sessions := st.sessions.set sessionId session }
  (st'.sessionInfoFromRecord session, st')

/-- `get`; `src/asb_api/session/store.py:68–77`. An expired session is removed. -/
def get (st : SessionStore) (env : StoreEnv) (sessionId : String) :
    Except Exn (Option SessionInfo) × SessionStore :=
  match st.sessions.get? sessionId with
  | none => (.ok none, st)
  | some s =>
    if s.expiresAt < env.now then
      (.ok none, { st with sessions := st.sessions.erase sessionId })
    else
      let s := { s with lastUsed := env.now }
      ((st.sessionInfoFromRecord s).map some,
        { st with sessions := st.sessions.set sessionId s })

/-- Change a session, if there is one. -/
def modify (st : SessionStore) (sessionId : String) (f : SessionRecord → SessionRecord) :
    SessionStore :=
  match st.sessions.get? sessionId with
  | none => st
  | some s => { st with sessions := st.sessions.set sessionId (f s) }

/-- `update_cookies`; `src/asb_api/session/store.py:79–83`. -/
def updateCookies (st : SessionStore) (env : StoreEnv) (sessionId : String)
    (cookies : Dict String String) : SessionStore :=
  st.modify sessionId fun s ↦
    { s with cookies := storeCookies st.fernet env.entropy cookies, lastUsed := env.now }

/-- `increment_count`; `src/asb_api/session/store.py:85–89`. -/
def incrementCount (st : SessionStore) (env : StoreEnv) (sessionId : String) : SessionStore :=
  st.modify sessionId fun s ↦ { s with requestCount := s.requestCount + 1, lastUsed := env.now }

/-- `delete`; `src/asb_api/session/store.py:91–93`. -/
def delete (st : SessionStore) (sessionId : String) : SessionStore :=
  { st with sessions := st.sessions.erase sessionId }

section Lookup

variable (st : SessionStore) (env : StoreEnv) (sessionId : String)

/-- Reading sets the time of use of its session, or removes it. -/
theorem get?_get (x : String) : (st.get env sessionId).2.sessions.get? x =
    if sessionId = x then (st.sessions.get? x).bind fun s ↦
      if s.expiresAt < env.now then none else some { s with lastUsed := env.now }
    else st.sessions.get? x := by
  unfold get
  by_cases hx : sessionId = x
  · subst hx
    cases hs : st.sessions.get? sessionId with
    | none => simp [hs]
    | some s =>
      dsimp only
      split
      · simp [Dict.get?_erase, *]
      · simp [*]
  · cases hs : st.sessions.get? sessionId with
    | none => simp [hx]
    | some s =>
      dsimp only
      split
      · simp [Dict.get?_erase, hx]
      · simp [Dict.get?_set, hx]

theorem get?_modify (f : SessionRecord → SessionRecord) (x : String) :
    (st.modify sessionId f).sessions.get? x =
      if sessionId = x then (st.sessions.get? x).map f else st.sessions.get? x := by
  unfold modify
  by_cases hx : sessionId = x
  · subst hx
    cases hs : st.sessions.get? sessionId with
    | none => simp [hs]
    | some s => simp
  · cases hs : st.sessions.get? sessionId with
    | none => simp [hx]
    | some s => simp [Dict.get?_set, hx]

@[simp] theorem fernet_modify (f : SessionRecord → SessionRecord) :
    (st.modify sessionId f).fernet = st.fernet := by
  unfold modify
  split <;> rfl

@[simp] theorem fernet_get : (st.get env sessionId).2.fernet = st.fernet := by
  unfold get
  split
  · rfl
  · split <;> rfl

@[simp] theorem ttlSeconds_modify (f : SessionRecord → SessionRecord) :
    (st.modify sessionId f).ttlSeconds = st.ttlSeconds := by
  unfold modify
  split <;> rfl

@[simp] theorem ttlSeconds_get : (st.get env sessionId).2.ttlSeconds = st.ttlSeconds := by
  unfold get
  split
  · rfl
  · split <;> rfl

end Lookup

/-- The cookies stored for a session, if there is one and they can be read. -/
def storedCookies (st : SessionStore) (sessionId : String) : Option (Dict String String) :=
  (st.sessions.get? sessionId).bind fun s ↦ (loadCookies st.fernet s.cookies).toOption

/-- A session that is found shows a record, of which the time of use is set. -/
theorem exists_of_get {st st' : SessionStore} {env : StoreEnv} {sessionId : String}
    {s : SessionInfo} (h : st.get env sessionId = (.ok (some s), st')) :
    ∃ r, st.sessions.get? sessionId = some r ∧ s.keyId = r.keyId ∧
      loadCookies st.fernet r.cookies = .ok s.cookies ∧
      st' = { st with sessions := st.sessions.set sessionId { r with lastUsed := env.now } } := by
  unfold get at h
  cases hr : st.sessions.get? sessionId with
  | none =>
    rw [hr] at h
    cases h
  | some r =>
    rw [hr] at h
    dsimp only at h
    split at h
    · cases h
    · cases hl : loadCookies st.fernet r.cookies with
      | error e => simp [sessionInfoFromRecord, hl, bind, Except.bind, Except.map] at h
      | ok cookies =>
        simp only [sessionInfoFromRecord, hl, bind, Except.bind, Except.map, Prod.mk.injEq,
          Except.ok.injEq, Option.some.injEq] at h
        obtain ⟨rfl, rfl⟩ := h
        exact ⟨r, rfl, rfl, hl, rfl⟩

/-- A session that is found carries the stored cookies, and reading leaves them alone. -/
theorem get_some {st st' : SessionStore} {env : StoreEnv} {sessionId : String} {s : SessionInfo}
    (h : st.get env sessionId = (.ok (some s), st')) :
    st.storedCookies sessionId = some s.cookies ∧
      st'.storedCookies sessionId = some s.cookies := by
  obtain ⟨r, hr, -, hl, rfl⟩ := exists_of_get h
  constructor
  · rw [storedCookies, hr, Option.bind_some, hl]
    rfl
  · rw [storedCookies, Dict.get?_set_self, Option.bind_some, hl]
    rfl

/-! ### Owners and cookies -/

/-- The owner and the cookies of a session, the latter if they can be read. -/
def view (st : SessionStore) (sessionId : String) :
    Option (String × Option (Dict String String)) :=
  (st.sessions.get? sessionId).map fun s ↦ (s.keyId, (loadCookies st.fernet s.cookies).toOption)

section View

variable (st : SessionStore) (env : StoreEnv) (sessionId : String)

private theorem view_set (s : SessionRecord) (x : String) :
    ({ st with sessions := st.sessions.set sessionId s } : SessionStore).view x =
      if sessionId = x then some (s.keyId, (loadCookies st.fernet s.cookies).toOption)
      else st.view x := by
  unfold view
  rw [Dict.get?_set]
  split <;> rfl

/-- A session that is found has the owner and the cookies that are stored. -/
theorem view_of_get {s : SessionInfo} (h : (st.get env sessionId).1 = .ok (some s)) :
    st.view sessionId = some (s.keyId, some s.cookies) := by
  obtain ⟨r, hr, hkey, hl, -⟩ := exists_of_get (Prod.ext h rfl)
  rw [view, hr, Option.map_some, hl, hkey]
  rfl

/-- Reading leaves every session, or removes it. -/
theorem view_get (x : String) :
    (st.get env sessionId).2.view x = st.view x ∨ (st.get env sessionId).2.view x = none := by
  unfold view
  rw [get?_get, fernet_get]
  split
  · cases st.sessions.get? x with
    | none => exact Or.inl rfl
    | some s =>
      rw [Option.bind_some]
      split
      · exact Or.inr rfl
      · exact Or.inl rfl
  · exact Or.inl rfl

private theorem view_modify (f : SessionRecord → SessionRecord) (x : String) :
    (st.modify sessionId f).view x =
      if sessionId = x then (st.sessions.get? x).map fun s ↦
        ((f s).keyId, (loadCookies st.fernet (f s).cookies).toOption)
      else st.view x := by
  unfold view
  rw [get?_modify, fernet_modify]
  split
  · rw [Option.map_map]
    rfl
  · rfl

/-- An update changes the cookies of its session. -/
theorem view_updateCookies (cookies : Dict String String) (x : String) :
    (st.updateCookies env sessionId cookies).view x =
      if sessionId = x then (st.view x).map fun p ↦ (p.1, some cookies) else st.view x := by
  unfold updateCookies
  rw [view_modify]
  split
  · simp only [view, loadCookies_storeCookies, Option.map_map]
    rfl
  · rfl

theorem view_incrementCount (x : String) :
    (st.incrementCount env sessionId).view x = st.view x := by
  unfold incrementCount
  rw [view_modify]
  split <;> rfl

theorem view_delete (x : String) :
    (st.delete sessionId).view x = if sessionId = x then none else st.view x := by
  unfold delete view
  rw [Dict.get?_erase]
  split <;> rfl

/-- A new session has its owner and no cookies. -/
theorem view_create (hex keyId region : String) (fingerprint : Option String) (x : String) :
    (st.create env hex keyId region fingerprint).2.view x =
      if "sess_" ++ hex = x then some (keyId, some Dict.empty) else st.view x := by
  unfold create
  dsimp only
  rw [view_set, loadCookies_storeCookies]
  rfl

end View

theorem storedCookies_eq_view (st : SessionStore) (sessionId : String) :
    st.storedCookies sessionId = (st.view sessionId).bind Prod.snd := by
  unfold storedCookies view
  cases st.sessions.get? sessionId <;> rfl

/-- An update of a stored session is what is stored then. -/
theorem storedCookies_updateCookies {st : SessionStore} {sessionId : String}
    (h : (st.storedCookies sessionId).isSome) (env : StoreEnv) (cookies : Dict String String) :
    (st.updateCookies env sessionId cookies).storedCookies sessionId = some cookies := by
  rw [storedCookies_eq_view] at h ⊢
  rw [view_updateCookies, if_pos rfl]
  cases hv : st.view sessionId with
  | none =>
    rw [hv] at h
    cases h
  | some v => rfl

theorem storedCookies_incrementCount (st : SessionStore) (env : StoreEnv) (sessionId : String) :
    (st.incrementCount env sessionId).storedCookies sessionId = st.storedCookies sessionId := by
  rw [storedCookies_eq_view, view_incrementCount, storedCookies_eq_view]

end SessionStore
end AsbCloudApi.Session
