import AsbCloudApi.Db.SessionStore
import AsbCloudApi.Session.StoreRuns

/-!
# The two session stores side by side

Library `Db`. The same history of calls on `SessionStore` and on `PostgresSessionStore`. The row
of a session follows its life as the record in memory does, with deletion as a mark; a reading
of it differs at the instant of expiry, in the time of use, and in what the columns do to texts
and counts.
-/

namespace AsbCloudApi.Db

open Base Text Api Session

/-- The twelve digits of an id are hexadecimal. -/
def isIdHex (hex : String) : Bool := hex.length = 12 && hex.toList.all (isRadixDigit 16)

/-- A history that both stores are given: ids of hexadecimal digits, owners that are keys, and
regions of at most eight characters. -/
def Admissible (apiKeys : List String) (run : List TimedCall) : Prop :=
  ∀ c ∈ run, ∀ hex keyId region fingerprint, c.2 = .create hex keyId region fingerprint →
    isIdHex hex = true ∧ keyId ∈ apiKeys ∧ region.length ≤ 8

/-- The fields of a session that the API shows or uses. -/
structure ShownSession where
  keyId : String
  region : String
  fingerprint : Option String
  cookies : Dict String String
  requestCount : Nat
  lastUsed : ℚ
  expiresAt : ℚ
  deriving DecidableEq

/-- What is compared of an answer. -/
def shown (answer : Except Exn (Option SessionInfo)) : Except Exn (Option ShownSession) :=
  answer.map fun found ↦ found.map fun s ↦
    ⟨s.keyId, s.region, s.fingerprint, s.cookies, s.requestCount, s.lastUsed, s.expiresAt⟩

/-- The columns can hold the texts that a session was created with. -/
def storable (region : String) (fingerprint : Option String) : Bool :=
  !hasNul region && !fingerprint.any hasNul

namespace PostgresSessionStore

/-- Serve a call; the answer is the session that it shows, if any. -/
def serve (st : PostgresSessionStore) (c : TimedCall) :
    Except Exn (Option SessionInfo) × PostgresSessionStore :=
  match c.2 with
  | .create hex keyId region fingerprint =>
    ((st.create c.1 hex keyId region fingerprint).1.map some,
      (st.create c.1 hex keyId region fingerprint).2)
  | .get sid => st.get c.1 sid
  | .updateCookies sid cookies =>
    ((st.updateCookies c.1 sid cookies).1.map fun _ ↦ none, (st.updateCookies c.1 sid cookies).2)
  | .incrementCount sid =>
    ((st.incrementCount c.1 sid).1.map fun _ ↦ none, (st.incrementCount c.1 sid).2)
  | .delete sid => ((st.delete c.1 sid).1.map fun _ ↦ none, (st.delete c.1 sid).2)

/-! ### Creation -/

private theorem fitsVarchar_sessionId {hex : String} (h : isIdHex hex = true) :
    fitsVarchar 64 ("sess_" ++ hex) := by
  obtain ⟨hlength, hdigits⟩ := Bool.and_eq_true_iff.mp h
  have hlen : hex.length = 12 := by simpa using hlength
  apply fitsVarchar_append (by decide) (List.all_eq_true.mp hdigits) (by decide)
  rw [hlen]
  decide

/-- The row of a new session is taken exactly if its texts can be stored. -/
private theorem checkRow_ok_iff_storable {st : PostgresSessionStore} {hex keyId region : String}
    (fingerprint : Option String) (hkeys : ∀ k ∈ st.apiKeys, fitsVarchar 32 k)
    (hhex : isIdHex hex = true) (hkey : keyId ∈ st.apiKeys) (hregion : region.length ≤ 8) :
    st.checkRow ("sess_" ++ hex) keyId region fingerprint = .ok () ↔
      storable region fingerprint = true := by
  have hid := (checkVarchar_ok_iff "session_id" 64 _).mpr (fitsVarchar_sessionId hhex)
  have hk := (checkVarchar_ok_iff "key_id" 32 _).mpr (hkeys keyId hkey)
  unfold checkRow
  rw [hid, hk]
  simp only [bind, Except.bind, storable]
  cases hn : hasNul region with
  | true => simp [checkVarchar, hn]
  | false =>
    have hr : checkVarchar "region" 8 region = .ok () :=
      (checkVarchar_ok_iff "region" 8 region).mpr ⟨hn, hregion⟩
    rw [hr]
    cases hf : fingerprint.any hasNul with
    | true => simp
    | false => simp [hkey]

/-! ### Rows follow lives -/

/-- A row shows the life of its session. A count that an `INTEGER` cannot hold stays behind, and
so does the time of use once the session has expired. -/
structure RowShows (fernet : Option Fernet) (ttl : Int) (t : ℚ) (row : SessionRow) (l : Life) :
    Prop where
  keyId : row.keyId = l.keyId
  region : row.region = some l.region
  fingerprint : row.fingerprint = l.fingerprint
  cookies : rowCookies fernet row = l.cookies
  createdAt : row.createdAt = l.createdAt
  requestCount : row.requestCount = min l.requestCount (2 ^ 31 - 1)
  expiresAt : row.expiresAt = l.createdAt + ttl
  deletedAt : row.deletedAt = none
  lastUsed : l.requestCount < 2 ^ 31 → t < l.createdAt + ttl → row.lastUsed = l.lastUsed

/-- What the table may hold at an instant for a session: the row of its life if that could be
stored, and no row but a deleted one if it has no life. -/
inductive RowTracks (fernet : Option Fernet) (ttl : Int) (t : ℚ) :
    Option SessionRow → Option Life → Prop
  | ended {row : Option SessionRow} (h : ∀ r ∈ row, r.deletedAt.isSome = true) :
      RowTracks fernet ttl t row none
  | held {row : SessionRow} {l : Life} (h : RowShows fernet ttl t row l)
      (hs : storable l.region l.fingerprint = true) : RowTracks fernet ttl t (some row) (some l)
  | refused {l : Life} (hs : storable l.region l.fingerprint = false) :
      RowTracks fernet ttl t none (some l)

/-- After a history of calls the table tracks the life of every session. -/
structure Mirrors (fernet : Option Fernet) (ttl : Int) (apiKeys : List String)
    (st : PostgresSessionStore) (run : List TimedCall) (t : ℚ) : Prop where
  sameFernet : st.fernet = fernet
  sameTtl : st.ttlSeconds = ttl
  sameKeys : st.apiKeys = apiKeys
  tracks : ∀ sid, RowTracks fernet ttl t (st.sessions.get? sid) (life sid run)
  unborn : ∀ sid, (∀ c ∈ run, c.2.createdId ≠ some sid) → st.sessions.get? sid = none

section Step

variable {f : Option Fernet} {ttl : Int} {t : ℚ} {sid : String} {st : PostgresSessionStore}
  {row : Option SessionRow} {l : Option Life}

private theorem rowShows_mono {t' : ℚ} {row : SessionRow} {l : Life} (h : RowShows f ttl t row l)
    (ht : t ≤ t') : RowShows f ttl t' row l :=
  { h with lastUsed := fun hcount hlive ↦ h.lastUsed hcount (ht.trans_lt hlive) }

/-- Time may pass. -/
private theorem rowTracks_mono {t' : ℚ} (h : RowTracks f ttl t row l) (ht : t ≤ t') :
    RowTracks f ttl t' row l := by
  cases h with
  | ended h => exact .ended h
  | held h hs => exact .held (rowShows_mono h ht) hs
  | refused hs => exact .refused hs

/-- An update of a row follows the update of the life. -/
private theorem rowTracks_map {g : SessionRow → SessionRow} {k : Life → Life}
    (h : RowTracks f ttl t row l) (hg : ∀ r l, RowShows f ttl t r l → RowShows f ttl t (g r) (k l))
    (hdeleted : ∀ r, (g r).deletedAt = r.deletedAt)
    (hk : ∀ l, (k l).region = l.region ∧ (k l).fingerprint = l.fingerprint) :
    RowTracks f ttl t (row.map g) (l.map k) := by
  cases h with
  | ended h =>
    apply RowTracks.ended
    intro r hr
    obtain ⟨r', hr', rfl⟩ := Option.map_eq_some_iff.mp hr
    rw [hdeleted]
    exact h r' hr'
  | @held r l h hs =>
    refine .held (hg r l h) ?_
    rw [(hk l).1, (hk l).2]
    exact hs
  | @refused l hs =>
    apply RowTracks.refused
    rw [(hk l).1, (hk l).2]
    exact hs

/-- A count that an `INTEGER` cannot hold leaves the row as it is. -/
private theorem get?_incrementCount (env : StoreEnv) (x : String) :
    (st.incrementCount env sid).2.sessions.get? x =
      if sid = x ∧ hasNul sid = false then (st.sessions.get? x).map fun row ↦
        if 2 ^ 31 ≤ row.requestCount + 1 then row
        else { row with requestCount := row.requestCount + 1, lastUsed := env.now }
      else st.sessions.get? x := by
  unfold incrementCount
  split
  · next hfull =>
    split
    · next hx =>
      rw [← hx.1]
      cases hr : st.sessions.get? sid with
      | none => rfl
      | some row =>
        rw [hr] at hfull
        rw [Option.map_some, if_pos (by simpa using hfull)]
    · rfl
  · next hfits =>
    rw [get?_update]
    split
    · next hx =>
      rw [← hx.1]
      cases hr : st.sessions.get? sid with
      | none => rfl
      | some row =>
        rw [hr] at hfits
        rw [Option.map_some, Option.map_some, if_neg (by simpa using hfits)]
    · rfl

/-- A call leaves every session that it does not name. -/
private theorem get?_serve_ne {c : TimedCall} {x : String} (h : c.2.sessionId ≠ x) :
    (st.serve c).2.sessions.get? x = st.sessions.get? x := by
  obtain ⟨env, call⟩ := c
  cases call with
  | create hex keyId region fingerprint =>
    change (st.create env hex keyId region fingerprint).2.sessions.get? x = _
    unfold create
    dsimp only
    split
    · rfl
    · split
      · rfl
      · exact Dict.get?_set_ne _ _ h
  | get sid => exact (get?_get st sid env x).trans (if_neg fun he ↦ h he.1)
  | updateCookies sid cookies => exact (get?_update st sid _ x).trans (if_neg fun he ↦ h he.1)
  | incrementCount sid => exact (get?_incrementCount env x).trans (if_neg fun he ↦ h he.1)
  | delete sid => exact (get?_update st sid _ x).trans (if_neg fun he ↦ h he.1)

/-- Only a creation adds a row. -/
private theorem get?_serve_none {c : TimedCall} {x : String} (h : st.sessions.get? x = none)
    (hc : c.2.createdId ≠ some x) : (st.serve c).2.sessions.get? x = none := by
  by_cases hx : c.2.sessionId = x
  · obtain ⟨env, call⟩ := c
    cases call with
    | create hex keyId region fingerprint => exact absurd (congrArg some hx) hc
    | get sid =>
      refine (get?_get st sid env x).trans ?_
      rw [h, Option.map_none, ite_self]
    | updateCookies sid cookies =>
      refine (get?_update st sid _ x).trans ?_
      rw [h, Option.map_none, ite_self]
    | incrementCount sid =>
      refine (get?_incrementCount env x).trans ?_
      rw [h, Option.map_none, ite_self]
    | delete sid =>
      refine (get?_update st sid _ x).trans ?_
      rw [h, Option.map_none, ite_self]
  · rwa [get?_serve_ne hx]

/-- No call changes the configuration or the keys. -/
private theorem serve_config (c : TimedCall) : (st.serve c).2.fernet = st.fernet ∧
    (st.serve c).2.ttlSeconds = st.ttlSeconds ∧ (st.serve c).2.apiKeys = st.apiKeys := by
  have hupdate (sid : String) (g : SessionRow → SessionRow) :
      (st.update sid g).2.fernet = st.fernet ∧ (st.update sid g).2.ttlSeconds = st.ttlSeconds ∧
        (st.update sid g).2.apiKeys = st.apiKeys := by
    unfold update
    split
    · exact ⟨rfl, rfl, rfl⟩
    · split <;> exact ⟨rfl, rfl, rfl⟩
  obtain ⟨env, call⟩ := c
  cases call with
  | create hex keyId region fingerprint =>
    simp only [serve, create]
    split
    · exact ⟨rfl, rfl, rfl⟩
    · split <;> exact ⟨rfl, rfl, rfl⟩
  | get sid =>
    simp only [serve, get]
    split
    · exact ⟨rfl, rfl, rfl⟩
    · split
      · exact ⟨rfl, rfl, rfl⟩
      · split <;> exact ⟨rfl, rfl, rfl⟩
  | updateCookies sid cookies => exact hupdate sid _
  | incrementCount sid =>
    simp only [serve, incrementCount]
    split
    · exact ⟨rfl, rfl, rfl⟩
    · exact hupdate sid _
  | delete sid => exact hupdate sid _

/-- A new session has a row if its texts can be stored, and none else. -/
private theorem rowTracks_create {env : StoreEnv} {hex keyId region : String}
    {fingerprint : Option String} (hkeys : ∀ k ∈ st.apiKeys, fitsVarchar 32 k)
    (hnone : st.sessions.get? ("sess_" ++ hex) = none) (hhex : isIdHex hex = true)
    (hkey : keyId ∈ st.apiKeys) (hregion : region.length ≤ 8) :
    RowTracks st.fernet st.ttlSeconds env.now
      ((st.create env hex keyId region fingerprint).2.sessions.get? ("sess_" ++ hex))
      (some ⟨keyId, region, fingerprint, Dict.empty, env.now, env.now, 0⟩) := by
  have hrow := checkRow_ok_iff_storable fingerprint hkeys hhex hkey hregion
  unfold create
  dsimp only
  cases hcheck : st.checkRow ("sess_" ++ hex) keyId region fingerprint with
  | error e =>
    rw [hcheck] at hrow
    have hs : storable region fingerprint = false := by
      cases hs : storable region fingerprint with
      | false => rfl
      | true => cases hrow.mpr hs
    dsimp only
    rw [hnone]
    exact .refused hs
  | ok u =>
    dsimp only
    rw [hnone, if_neg (by simp)]
    dsimp only
    rw [Dict.get?_set_self]
    exact .held ⟨rfl, rfl, rfl, rfl, rfl, rfl, rfl, rfl, fun _ _ ↦ rfl⟩ (hrow.mp hcheck)

/-- Reading stamps a row that has not expired; of an expired one the stamp does not matter. -/
private theorem rowShows_read {row : SessionRow} {l : Life} (h : RowShows f ttl t row l) :
    RowShows f ttl t
      (if row.deletedAt.isSome || row.expiresAt ≤ t then row else { row with lastUsed := t })
      { l with lastUsed := t } := by
  split
  · next hended =>
    refine { h with lastUsed := fun _ hlive ↦ absurd hlive ?_ }
    rw [h.deletedAt, h.expiresAt] at hended
    exact not_lt.mpr (by simpa using hended)
  · exact { h with lastUsed := fun _ _ ↦ rfl }

/-- The count of a row stays at the largest `INTEGER`. -/
private theorem rowShows_counted {row : SessionRow} {l : Life} (h : RowShows f ttl t row l) :
    RowShows f ttl t
      (if 2 ^ 31 ≤ row.requestCount + 1 then row
        else { row with requestCount := row.requestCount + 1, lastUsed := t })
      { l with requestCount := l.requestCount + 1, lastUsed := t } := by
  have hcount := h.requestCount
  split
  · exact { h with
      requestCount := by
        dsimp only
        omega
      lastUsed := fun hfits _ ↦ by
        dsimp only at hfits
        omega }
  · exact { h with
      requestCount := by
        dsimp only
        omega
      lastUsed := fun _ _ ↦ rfl }

/-- A call on a session moves its row and its life alike. -/
private theorem rowTracks_serve {c : TimedCall} (hf : st.fernet = f) (httl : st.ttlSeconds = ttl)
    (hkeys : ∀ k ∈ st.apiKeys, fitsVarchar 32 k) (hc : c.2.sessionId = sid)
    (hnul : hasNul sid = false)
    (hnew : c.2.createdId = some sid → st.sessions.get? sid = none)
    (hadm : Admissible st.apiKeys [c])
    (h : RowTracks f ttl c.1.now (st.sessions.get? sid) l) :
    RowTracks f ttl c.1.now ((st.serve c).2.sessions.get? sid) (lifeStep sid l c) := by
  rw [lifeStep, if_pos hc]
  obtain ⟨env, call⟩ := c
  subst hf httl hc
  cases call with
  | create hex keyId region fingerprint =>
    obtain ⟨hhex, hkey, hregion⟩ := hadm _ List.mem_cons_self hex keyId region fingerprint rfl
    exact rowTracks_create hkeys (hnew rfl) hhex hkey hregion
  | get x =>
    rw [serve, get?_get, if_pos ⟨rfl, hnul⟩]
    apply rowTracks_map h
    · exact fun r l h ↦ rowShows_read h
    · intro r
      split <;> rfl
    · exact fun _ ↦ ⟨rfl, rfl⟩
  | updateCookies x cookies =>
    change RowTracks _ _ _ ((st.update x _).2.sessions.get? x) _
    rw [get?_update, if_pos ⟨rfl, hnul⟩]
    apply rowTracks_map h
    · intro r l h
      exact { h with
        cookies := rowCookies_encrypt st.fernet env.entropy _ cookies rfl
        lastUsed := fun _ _ ↦ rfl }
    · exact fun _ ↦ rfl
    · exact fun _ ↦ ⟨rfl, rfl⟩
  | incrementCount x =>
    rw [serve, get?_incrementCount, if_pos ⟨rfl, hnul⟩]
    apply rowTracks_map h
    · exact fun r l h ↦ rowShows_counted h
    · intro r
      split <;> rfl
    · exact fun _ ↦ ⟨rfl, rfl⟩
  | delete x =>
    change RowTracks _ _ _ ((st.update x _).2.sessions.get? x) none
    rw [get?_update, if_pos ⟨rfl, hnul⟩]
    apply RowTracks.ended
    intro r hr
    obtain ⟨r', -, rfl⟩ := Option.map_eq_some_iff.mp hr
    rfl

/-- A session with a life has an id that every statement takes. -/
private theorem hasNul_of_created {apiKeys : List String} {run : List TimedCall}
    (hadm : Admissible apiKeys run) {c : TimedCall} (hc : c ∈ run)
    (hcreated : c.2.createdId = some sid) : hasNul sid = false := by
  obtain ⟨env, call⟩ := c
  cases call with
  | create hex keyId region fingerprint =>
    cases hcreated
    exact (fitsVarchar_sessionId (hadm _ hc hex keyId region fingerprint rfl).1).1
  | _ => cases hcreated

/-- Every call of an admissible history keeps the table in step. -/
private theorem Mirrors.serve {apiKeys : List String} (hkeys : ∀ k ∈ apiKeys, fitsVarchar 32 k)
    {run : List TimedCall} (h : Mirrors f ttl apiKeys st run t) {c : TimedCall}
    (ht : t ≤ c.1.now) (hadm : Admissible apiKeys (run ++ [c]))
    (hfresh : CreatesFresh (run ++ [c])) :
    Mirrors f ttl apiKeys (st.serve c).2 (run ++ [c]) c.1.now := by
  have hunborn : ∀ sid, (∀ d ∈ run ++ [c], d.2.createdId ≠ some sid) →
      (st.serve c).2.sessions.get? sid = none := by
    intro sid hnot
    apply get?_serve_none
    · exact h.unborn sid fun d hd ↦ hnot d (List.mem_append_left _ hd)
    · exact hnot c (List.mem_append_right _ List.mem_cons_self)
  refine ⟨(serve_config c).1.trans h.sameFernet, (serve_config c).2.1.trans h.sameTtl,
    (serve_config c).2.2.trans h.sameKeys, ?_, hunborn⟩
  intro sid
  by_cases hborn : ∀ d ∈ run ++ [c], d.2.createdId ≠ some sid
  · rw [hunborn sid hborn, life_of_not_created hborn]
    exact .ended fun _ hr ↦ nomatch hr
  · push Not at hborn
    obtain ⟨d, hd, hcreated⟩ := hborn
    have hnul := hasNul_of_created hadm hd hcreated
    have hnow := rowTracks_mono (h.tracks sid) ht
    rw [life_concat]
    by_cases hc : c.2.sessionId = sid
    · apply rowTracks_serve h.sameFernet h.sameTtl (h.sameKeys.symm ▸ hkeys) hc hnul ?_ ?_ hnow
      · intro hnew
        apply h.unborn
        intro d hd he
        obtain ⟨a, b, rfl⟩ := List.append_of_mem hd
        rw [List.append_assoc, List.cons_append] at hfresh
        exact hfresh.once he c (List.mem_append_right _ List.mem_cons_self) hnew
      · rw [h.sameKeys]
        intro d hd
        exact hadm d (List.mem_append_right _ hd)
    · rwa [get?_serve_ne hc, lifeStep_ne hc]

end Step

/-- From the empty table every admissible history with fresh ids and a clock that does not go back
keeps the table in step. -/
theorem mirrors_final (fernet : Option Fernet) (ttl : Int) {apiKeys : List String}
    (hkeys : ∀ k ∈ apiKeys, fitsVarchar 32 k) {run : List TimedCall} {t : ℚ}
    (hclock : ClockUpTo t run) (hadm : Admissible apiKeys run)
    (hfresh : CreatesFresh run) :
    Mirrors fernet ttl apiKeys (final serve ⟨fernet, ttl, apiKeys, Dict.empty⟩ run) run t := by
  obtain ⟨hsorted, hle⟩ := hclock
  induction run using List.reverseRecOn generalizing t with
  | nil =>
    exact ⟨rfl, rfl, rfl, fun _ ↦ .ended (fun _ hr ↦ nomatch hr), fun _ _ ↦ rfl⟩
  | append_singleton run c ih =>
    obtain ⟨hrun, -, hlast⟩ := List.pairwise_append.mp hsorted
    have hfreshRun : CreatesFresh run := by
      rw [CreatesFresh, List.filterMap_append] at hfresh
      exact (List.nodup_append.mp hfresh).1
    have hbefore := ih (fun d hd ↦ hadm d (List.mem_append_left _ hd)) hfreshRun hrun
      fun d hd ↦ hlast d hd c List.mem_cons_self
    have hstep := hbefore.serve hkeys (le_refl c.1.now) hadm hfresh
    have ht := hle c (List.mem_append_right _ List.mem_cons_self)
    rw [final_append]
    exact { hstep with tracks := fun sid ↦ rowTracks_mono (hstep.tracks sid) ht }

/-! ### Readings side by side -/

/-- When a reading of a session is the same in both stores: a session that has not been deleted
and whose time has not passed is read before the instant of expiry and at the very instant of the
last call on it, its region is not empty, and its texts and its count fit their columns. -/
def ReadAlike (ttl : Int) (sid : String) (now : ℚ) (run : List TimedCall) : Prop :=
  hasNul sid = false ∧ ∀ l, life sid run = some l → now ≤ l.createdAt + ttl →
    now < l.createdAt + ttl ∧ l.lastUsed = now ∧ l.region ≠ "" ∧
      storable l.region l.fingerprint = true ∧ l.requestCount < 2 ^ 31

/-- What the table answers for a session after a history of calls. -/
def getAfter (fernet : Option Fernet) (ttl : Int) (apiKeys : List String) (run : List TimedCall)
    (env : StoreEnv) (sid : String) : Except Exn (Option SessionInfo) :=
  ((final serve ⟨fernet, ttl, apiKeys, Dict.empty⟩ run).get env sid).1

private theorem orElse_jp_eq_iff (region : String) :
    orElse (some region) "jp" = region ↔ region ≠ "" := by
  unfold orElse
  dsimp only
  split
  · next h =>
    rw [h]
    decide
  · next h => exact ⟨fun _ ↦ h, fun _ ↦ rfl⟩

/-- The row of a life that has not ended is shown as the life is, if nothing was cut off and the
stamp is that of this reading. -/
private theorem shown_row_eq_iff {f : Option Fernet} {ttl : Int} {now : ℚ} (sid : String)
    {r : SessionRow} {l : Life} (h : RowShows f ttl now r l) (hlast : now < l.createdAt + ttl) :
    shown (.ok (some (l.info ttl sid now))) = shown (.ok (some ⟨sid, r.keyId,
        orElse r.region "jp", r.fingerprint, rowCookies f r, r.createdAt, r.lastUsed,
        r.requestCount, l.createdAt + ttl⟩)) ↔
      l.lastUsed = now ∧ l.region ≠ "" ∧ l.requestCount < 2 ^ 31 := by
  have hfields : shown (.ok (some (l.info ttl sid now))) = shown (.ok (some ⟨sid, r.keyId,
        orElse r.region "jp", r.fingerprint, rowCookies f r, r.createdAt, r.lastUsed,
        r.requestCount, l.createdAt + ttl⟩)) ↔
      orElse (some l.region) "jp" = l.region ∧
        l.requestCount = min l.requestCount (2 ^ 31 - 1) ∧ now = r.lastUsed := by
    rw [h.keyId, h.region, h.fingerprint, h.cookies, h.requestCount]
    simp only [shown, Life.info, Except.map, Option.map_some, Except.ok.injEq,
      Option.some.injEq, ShownSession.mk.injEq, true_and, and_true, eq_comm (a := l.region)]
  rw [hfields, orElse_jp_eq_iff]
  constructor
  · rintro ⟨hregion, hcount, hused⟩
    have hfits : l.requestCount < 2 ^ 31 := by omega
    exact ⟨(h.lastUsed hfits hlast).symm.trans hused.symm, hregion, hfits⟩
  · rintro ⟨hused, hregion, hfits⟩
    exact ⟨hregion, by omega, hused.symm.trans (h.lastUsed hfits hlast).symm⟩

/-- A row is read as its life is, exactly under the conditions. -/
private theorem shown_get_eq_iff {f : Option Fernet} {ttl : Int} {sid : String}
    {st : PostgresSessionStore} {env : StoreEnv} {l : Option Life} (hf : st.fernet = f)
    (hnul : hasNul sid = false) (h : RowTracks f ttl env.now (st.sessions.get? sid) l) :
    shown (.ok (reading ttl sid env.now l)) = shown (st.get env sid).1 ↔
      ∀ l', l = some l' → env.now ≤ l'.createdAt + ttl → env.now < l'.createdAt + ttl ∧
        l'.lastUsed = env.now ∧ l'.region ≠ "" ∧ storable l'.region l'.fingerprint = true ∧
        l'.requestCount < 2 ^ 31 := by
  unfold get
  rw [if_neg (by simp [hnul])]
  generalize st.sessions.get? sid = row at h
  cases h with
  | ended h =>
    refine iff_of_true ?_ (fun _ hl ↦ nomatch hl)
    cases row with
    | none => rfl
    | some r => simp [h r rfl, reading]
  | @refused l hs =>
    constructor
    · intro hsame l' hl hlive
      cases hl
      rw [reading, if_pos hlive] at hsame
      cases hsame
    · intro hcond
      by_cases hlive : env.now ≤ l.createdAt + ttl
      · have hstored := (hcond l rfl hlive).2.2.2.1
        rw [hs] at hstored
        cases hstored
      · rw [reading, if_neg hlive]
  | @held r l h hs =>
    dsimp only
    rw [h.deletedAt, h.expiresAt]
    by_cases hlive : env.now ≤ l.createdAt + ttl
    · by_cases hlast : env.now < l.createdAt + ttl
      · rw [if_neg (by simpa using hlast), reading, if_pos hlive]
        rw [hf, shown_row_eq_iff sid h hlast]
        constructor
        · rintro ⟨hused, hregion, hfits⟩ l' hl -
          cases hl
          exact ⟨hlast, hused, hregion, hs, hfits⟩
        · intro hcond
          obtain ⟨-, hused, hregion, -, hfits⟩ := hcond l rfl hlive
          exact ⟨hused, hregion, hfits⟩
      · rw [if_pos (by simpa using hlast), reading, if_pos hlive]
        constructor
        · intro hsame
          cases hsame
        · intro hcond
          exact absurd (hcond l rfl hlive).1 hlast
    · rw [if_pos (by simpa using (not_le.mp hlive).le), reading, if_neg hlive]
      refine iff_of_true rfl ?_
      rintro l' ⟨⟩ hle
      exact absurd hle hlive

end PostgresSessionStore

/-- After every history that both stores are given, with fresh ids and a clock that does not go
back, a reading of a session shows the same in both stores exactly if it meets `ReadAlike`. -/
theorem storesAgree_iff_readAlike (fernet fernet' : Option Fernet) (ttl : Int)
    {apiKeys : List String} (hkeys : ∀ k ∈ apiKeys, fitsVarchar 32 k) {run : List TimedCall}
    (env : StoreEnv) (hclock : ClockUpTo env.now run) (hadm : Admissible apiKeys run)
    (hfresh : CreatesFresh run) (sid : String) :
    shown (SessionStore.getAfter fernet ttl run env sid) =
        shown (PostgresSessionStore.getAfter fernet' ttl apiKeys run env sid) ↔
      PostgresSessionStore.ReadAlike ttl sid env.now run := by
  have hpg := PostgresSessionStore.mirrors_final fernet' ttl hkeys hclock hadm hfresh
  rw [SessionStore.getAfter_eq_reading fernet ttl hclock]
  unfold PostgresSessionStore.getAfter PostgresSessionStore.ReadAlike
  cases hnul : hasNul sid with
  | true =>
    apply iff_of_false
    · intro hsame
      rw [PostgresSessionStore.get, if_pos hnul] at hsame
      cases hsame
    · rintro ⟨hno, -⟩
      cases hno
  | false =>
    rw [PostgresSessionStore.shown_get_eq_iff hpg.sameFernet hnul (hpg.tracks sid)]
    exact ⟨fun h ↦ ⟨rfl, h⟩, fun h ↦ h.2⟩

private def pairId : String := "sess_" ++ "000000000001"

private def pairRun : List TimedCall :=
  [(⟨0, 0⟩, .create "000000000001" "key_a" "jp" none),
    (⟨5, 1⟩, .updateCookies pairId (Dict.ofList [("sid", "1")]))]

private theorem pairRun_admissible : Admissible ["key_a"] pairRun := by
  intro c hc hex keyId region fingerprint he
  rcases List.mem_cons.mp hc with rfl | hc
  · cases he
    decide
  · rcases List.mem_singleton.mp hc with rfl
    cases he

private theorem pairRun_fresh : CreatesFresh pairRun := by
  show (pairRun.filterMap fun c ↦ c.2.createdId).Nodup
  decide +kernel

/-- Read at the instant of its last update, a session shows the same in both stores, which encrypt
its cookies. -/
theorem storesAgree_iff_readAlike_sample :
    shown (SessionStore.getAfter backwardsFernet 300 pairRun ⟨5, 2⟩ pairId) =
      shown (PostgresSessionStore.getAfter backwardsFernet 300 ["key_a"] pairRun ⟨5, 2⟩
        pairId) := by
  apply (storesAgree_iff_readAlike backwardsFernet backwardsFernet 300 (by decide) ⟨5, 2⟩
    ⟨by decide +kernel, by decide +kernel⟩ pairRun_admissible pairRun_fresh pairId).mpr
  constructor
  · decide
  · intro l hl _
    have hlife : life pairId pairRun = some ⟨"key_a", "jp", none, Dict.ofList [("sid", "1")], 0, 5,
        0⟩ := rfl
    obtain rfl := Option.some.inj (hlife.symm.trans hl)
    decide +kernel

/-- The stores are not interchangeable: a session created at 0 and read at 1 was last used at 1 in
one of them and at 0 in the other. -/
theorem not_storesAgree : ¬ ∀ (fernet fernet' : Option Fernet) (ttl : Int) (apiKeys : List String)
    (run : List TimedCall) (env : StoreEnv) (sid : String),
    (∀ k ∈ apiKeys, fitsVarchar 32 k) → ClockUpTo env.now run → Admissible apiKeys run →
    CreatesFresh run → shown (SessionStore.getAfter fernet ttl run env sid) =
      shown (PostgresSessionStore.getAfter fernet' ttl apiKeys run env sid) := by
  intro h
  have hadm : Admissible ["key_a"] (pairRun.take 1) :=
    fun c hc ↦ pairRun_admissible c (List.mem_of_mem_take hc)
  have hfresh : CreatesFresh (pairRun.take 1) := by
    show ((pairRun.take 1).filterMap fun c ↦ c.2.createdId).Nodup
    decide +kernel
  have hsame := h none none 300 ["key_a"] (pairRun.take 1) ⟨1, 1⟩ pairId (by decide)
    ⟨by decide +kernel, by decide +kernel⟩ hadm hfresh
  have hmemory : shown (SessionStore.getAfter none 300 (pairRun.take 1) ⟨1, 1⟩ pairId) =
      .ok (some ⟨"key_a", "jp", none, Dict.empty, 0, 1, 300⟩) := by decide +kernel
  have htable : shown (PostgresSessionStore.getAfter none 300 ["key_a"] (pairRun.take 1) ⟨1, 1⟩
      pairId) = .ok (some ⟨"key_a", "jp", none, Dict.empty, 0, 0, 300⟩) := by decide +kernel
  rw [hmemory, htable] at hsame
  revert hsame
  decide +kernel

end AsbCloudApi.Db
