import AsbCloudApi.Base.Run
import AsbCloudApi.Session.Store
import Mathlib.Algebra.Order.Ring.Rat

/-!
# Runs of the session store

Library `Session`. A session map with a time to live, said by the history of its calls: what a
session is follows from its creation and the calls on it since. `SessionStore` refines that map,
although it removes expired sessions on reading only and keeps cookies in two representations.
-/

namespace AsbCloudApi.Session

open Base Api

/-- A call of a session store. A creation is given the digits of its new id. -/
inductive SessionCall where
  | create (hex keyId region : String) (fingerprint : Option String)
  | get (sessionId : String)
  | updateCookies (sessionId : String) (cookies : Dict String String)
  | incrementCount (sessionId : String)
  | delete (sessionId : String)

/-- A call with its clock reading and entropy. -/
abbrev TimedCall := StoreEnv × SessionCall

/-- The session that a call names. -/
def SessionCall.sessionId : SessionCall → String
  | .create hex _ _ _ => "sess_" ++ hex
  | .get sid => sid
  | .updateCookies sid _ => sid
  | .incrementCount sid => sid
  | .delete sid => sid

/-- The session that a call creates. -/
def SessionCall.createdId : SessionCall → Option String
  | .create hex _ _ _ => some ("sess_" ++ hex)
  | _ => none

/-! ### Histories -/

/-- Readings of the clock that do not go back, up to `t`. -/
def ClockUpTo (t : ℚ) (run : List TimedCall) : Prop :=
  run.Pairwise (fun c d ↦ c.1.now ≤ d.1.now) ∧ ∀ c ∈ run, c.1.now ≤ t

/-- No session is created twice. -/
def CreatesFresh (run : List TimedCall) : Prop := (run.filterMap fun c ↦ c.2.createdId).Nodup

/-- A session that one call creates no later call creates. -/
theorem CreatesFresh.once {pre post : List TimedCall} {c : TimedCall} {sid : String}
    (h : CreatesFresh (pre ++ c :: post)) (hc : c.2.createdId = some sid) :
    ∀ d ∈ post, d.2.createdId ≠ some sid := by
  intro d hd he
  have hsplit : (c :: post).filterMap (fun c ↦ c.2.createdId) =
      sid :: post.filterMap fun c ↦ c.2.createdId := List.filterMap_cons_some hc
  rw [CreatesFresh, List.filterMap_append, hsplit] at h
  have hpost := (List.nodup_cons.mp (List.nodup_append.mp h).2.1).1
  exact hpost (List.mem_filterMap.mpr ⟨d, hd, he⟩)

/-! ### The abstract map -/

/-- What is known of a session that was created and not deleted. -/
structure Life where
  keyId : String
  region : String
  fingerprint : Option String
  cookies : Dict String String
  createdAt : ℚ
  lastUsed : ℚ
  requestCount : Nat

/-- The life of a session after one more call. -/
def lifeStep (sid : String) (l : Option Life) (c : TimedCall) : Option Life :=
  if c.2.sessionId = sid then
    match c.2 with
    | .create _ keyId region fingerprint =>
      some ⟨keyId, region, fingerprint, Dict.empty, c.1.now, c.1.now, 0⟩
    | .get _ => l.map fun l ↦ { l with lastUsed := c.1.now }
    | .updateCookies _ cookies => l.map fun l ↦ { l with cookies := cookies, lastUsed := c.1.now }
    | .incrementCount _ =>
      l.map fun l ↦ { l with requestCount := l.requestCount + 1, lastUsed := c.1.now }
    | .delete _ => none
  else l

/-- The life of a session after a history of calls. -/
def life (sid : String) (run : List TimedCall) : Option Life := run.foldl (lifeStep sid) none

/-- A session as a reading at an instant shows it, given when it was last used. -/
def Life.info (ttl : Int) (sid : String) (l : Life) (lastUsed : ℚ) : SessionInfo :=
  ⟨sid, l.keyId, l.region, l.fingerprint, l.cookies, l.createdAt, lastUsed, l.requestCount,
    l.createdAt + ttl⟩

/-- What the map answers at an instant. -/
def reading (ttl : Int) (sid : String) (now : ℚ) (l : Option Life) : Option SessionInfo :=
  match l with
  | none => none
  | some l => if now ≤ l.createdAt + ttl then some (l.info ttl sid now) else none

theorem life_concat (sid : String) (run : List TimedCall) (c : TimedCall) :
    life sid (run ++ [c]) = lifeStep sid (life sid run) c := by
  rw [life, List.foldl_append]
  rfl

theorem lifeStep_ne {sid : String} {c : TimedCall} (h : c.2.sessionId ≠ sid) (l : Option Life) :
    lifeStep sid l c = l := if_neg h

/-- Calls on other sessions can be left out. -/
theorem life_filter (sid : String) (run : List TimedCall) :
    life sid (run.filter fun c ↦ c.2.sessionId = sid) = life sid run := by
  induction run using List.reverseRecOn with
  | nil => rfl
  | append_singleton run c ih =>
    rw [List.filter_append, life_concat]
    by_cases hc : c.2.sessionId = sid
    · rw [List.filter_cons_of_pos (by simpa using hc), List.filter_nil, life_concat, ih]
    · rw [List.filter_cons_of_neg (by simpa using hc), List.filter_nil, List.append_nil, ih,
        lifeStep_ne hc]

/-! ### Reading a life off the history -/

/-- The cookies that a call stores. -/
def SessionCall.storedCookies : SessionCall → Option (Dict String String)
  | .updateCookies _ cookies => some cookies
  | _ => none

/-- Whether a call counts a request. -/
def SessionCall.counts : SessionCall → Bool
  | .incrementCount _ => true
  | _ => false

/-- Whether a call deletes its session. -/
def SessionCall.deletes : SessionCall → Bool
  | .delete _ => true
  | _ => false

/-- The calls that name a session. -/
def callsOn (sid : String) (calls : List TimedCall) : List TimedCall :=
  calls.filter fun c ↦ c.2.sessionId = sid

/-- The cookies of the last update among the calls, or none. -/
def lastCookies (calls : List TimedCall) : Dict String String :=
  ((calls.filterMap fun c ↦ c.2.storedCookies).getLast?).getD Dict.empty

/-- The number of requests that the calls count. -/
def increments (calls : List TimedCall) : Nat := calls.countP fun c ↦ c.2.counts

/-- The instant of the last of the calls, if there is one. -/
def lastCallAt (calls : List TimedCall) (start : ℚ) : ℚ :=
  (calls.getLast?.map fun c ↦ c.1.now).getD start

/-- The life that a creation and the calls on the session since make. -/
def lifeSince (env : StoreEnv) (keyId region : String) (fingerprint : Option String)
    (calls : List TimedCall) : Option Life :=
  if calls.any fun c ↦ c.2.deletes then none
  else some ⟨keyId, region, fingerprint, lastCookies calls, env.now, lastCallAt calls env.now,
    increments calls⟩

section History

variable {sid : String} {env : StoreEnv} {keyId region : String} {fingerprint : Option String}
  {calls : List TimedCall} {c : TimedCall}

private theorem lifeSince_concat (hc : c.2.sessionId = sid) (hnew : c.2.createdId ≠ some sid) :
    lifeSince env keyId region fingerprint (calls ++ [c]) =
      lifeStep sid (lifeSince env keyId region fingerprint calls) c := by
  rw [lifeStep, if_pos hc]
  unfold lifeSince lastCookies lastCallAt increments
  rw [List.any_append, List.filterMap_append, List.countP_append]
  generalize (calls.any fun c ↦ c.2.deletes) = deleted
  generalize (calls.filterMap fun c ↦ c.2.storedCookies) = stored
  generalize (calls.countP fun c ↦ c.2.counts) = counted
  obtain ⟨env', call⟩ := c
  cases call with
  | create hex keyId' region' fingerprint' => exact absurd (congrArg some hc) hnew
  | delete x => cases deleted <;> rfl
  | get x =>
    cases deleted <;> simp [SessionCall.deletes, SessionCall.storedCookies, SessionCall.counts]
  | updateCookies x cookies =>
    cases deleted <;> simp [SessionCall.deletes, SessionCall.storedCookies, SessionCall.counts]
  | incrementCount x =>
    cases deleted <;> simp [SessionCall.deletes, SessionCall.storedCookies, SessionCall.counts]

/-- The life of a session that is created once: its creation, and the calls on it since. -/
theorem life_of_created {pre post : List TimedCall} {hex : String} (hsid : "sess_" ++ hex = sid)
    (honce : ∀ c ∈ post, c.2.createdId ≠ some sid) :
    life sid (pre ++ (env, .create hex keyId region fingerprint) :: post) =
      lifeSince env keyId region fingerprint (callsOn sid post) := by
  induction post using List.reverseRecOn with
  | nil =>
    rw [life_concat]
    exact if_pos hsid
  | append_singleton post c ih =>
    have hc := honce c (List.mem_append_right _ List.mem_cons_self)
    rw [← List.cons_append, ← List.append_assoc, life_concat,
      ih fun d hd ↦ honce d (List.mem_append_left _ hd), callsOn, callsOn, List.filter_append]
    by_cases hon : c.2.sessionId = sid
    · rw [List.filter_cons_of_pos (by simpa using hon), List.filter_nil, lifeSince_concat hon hc]
    · rw [List.filter_cons_of_neg (by simpa using hon), List.filter_nil, List.append_nil,
        lifeStep_ne hon]

/-- A session that no call creates has no life. -/
theorem life_of_not_created {run : List TimedCall} (h : ∀ c ∈ run, c.2.createdId ≠ some sid) :
    life sid run = none := by
  induction run using List.reverseRecOn with
  | nil => rfl
  | append_singleton run c ih =>
    have hc := h c (List.mem_append_right _ List.mem_cons_self)
    rw [life_concat, ih fun d hd ↦ h d (List.mem_append_left _ hd)]
    obtain ⟨env, call⟩ := c
    cases call with
    | create hex keyId region fingerprint =>
      apply lifeStep_ne
      exact fun he ↦ hc (congrArg some he)
    | _ => exact ite_self _

end History

/-! ### The store refines the map -/

/-- A record shows the life of its session. -/
structure SessionRecord.Shows (fernet : Option Fernet) (ttl : Int) (sid : String)
    (r : SessionRecord) (l : Life) : Prop where
  sessionId : r.sessionId = sid
  keyId : r.keyId = l.keyId
  region : r.region = l.region
  fingerprint : r.fingerprint = l.fingerprint
  cookies : loadCookies fernet r.cookies = .ok l.cookies
  createdAt : r.createdAt = l.createdAt
  requestCount : r.requestCount = l.requestCount
  expiresAt : r.expiresAt = l.createdAt + ttl

/-- What the store may hold at an instant for a session: the record of its life, or nothing if it
has none or has expired. -/
inductive Tracks (fernet : Option Fernet) (ttl : Int) (t : ℚ) (sid : String) :
    Option SessionRecord → Option Life → Prop
  | absent : Tracks fernet ttl t sid none none
  | kept {r : SessionRecord} {l : Life} (h : r.Shows fernet ttl sid l) :
      Tracks fernet ttl t sid (some r) (some l)
  | dropped {l : Life} (h : l.createdAt + ttl < t) : Tracks fernet ttl t sid none (some l)

namespace SessionStore

/-- Serve a call; the answer is the session that it shows, if any. -/
def serve (st : SessionStore) (c : TimedCall) : Except Exn (Option SessionInfo) × SessionStore :=
  match c.2 with
  | .create hex keyId region fingerprint =>
    ((st.create c.1 hex keyId region fingerprint).1.map some,
      (st.create c.1 hex keyId region fingerprint).2)
  | .get sid => st.get c.1 sid
  | .updateCookies sid cookies => (.ok none, st.updateCookies c.1 sid cookies)
  | .incrementCount sid => (.ok none, st.incrementCount c.1 sid)
  | .delete sid => (.ok none, st.delete sid)

/-- After a history of calls the store tracks the life of every session. -/
structure Refines (fernet : Option Fernet) (ttl : Int) (st : SessionStore) (run : List TimedCall)
    (t : ℚ) : Prop where
  sameFernet : st.fernet = fernet
  sameTtl : st.ttlSeconds = ttl
  tracks : ∀ sid, Tracks fernet ttl t sid (st.sessions.get? sid) (life sid run)

section Step

variable {f : Option Fernet} {ttl : Int} {t : ℚ} {sid : String} {st : SessionStore}

/-- Time may pass. -/
private theorem tracks_mono {t' : ℚ} {r : Option SessionRecord} {l : Option Life}
    (h : Tracks f ttl t sid r l) (ht : t ≤ t') : Tracks f ttl t' sid r l := by
  cases h with
  | absent => exact .absent
  | kept h => exact .kept h
  | dropped h => exact .dropped (h.trans_le ht)

/-- A reading answers as the map does. -/
theorem get_eq_reading {env : StoreEnv} {l : Option Life} (hf : st.fernet = f)
    (h : Tracks f ttl env.now sid (st.sessions.get? sid) l) :
    (st.get env sid).1 = .ok (reading ttl sid env.now l) := by
  unfold get reading
  cases hr : st.sessions.get? sid with
  | none =>
    rw [hr] at h
    cases h with
    | absent => rfl
    | dropped hlate => simp [not_le.mpr hlate]
  | some r =>
    rw [hr] at h
    cases h with
    | @kept _ l h =>
      dsimp only
      rw [h.expiresAt]
      by_cases hlive : env.now ≤ l.createdAt + ttl
      · rw [if_neg (not_lt.mpr hlive), if_pos hlive]
        simp [sessionInfoFromRecord, hf, h.cookies, bind, Except.bind, Except.map, Life.info,
          h.sessionId, h.keyId, h.region, h.fingerprint, h.createdAt, h.requestCount]
      · rw [if_pos (not_le.mp hlive), if_neg hlive]

/-- A call leaves every session that it does not name. -/
theorem get?_serve_ne {c : TimedCall} {x : String} (h : c.2.sessionId ≠ x) :
    (st.serve c).2.sessions.get? x = st.sessions.get? x := by
  obtain ⟨env, call⟩ := c
  cases call with
  | create hex keyId region fingerprint => exact Dict.get?_set_ne _ _ h
  | get sid => exact (get?_get st env sid x).trans (if_neg h)
  | updateCookies sid cookies => exact (get?_modify st sid _ x).trans (if_neg h)
  | incrementCount sid => exact (get?_modify st sid _ x).trans (if_neg h)
  | delete sid => exact (Dict.get?_erase _ _ _).trans (if_neg h)

/-- An update of a record follows the update of the life. -/
private theorem tracks_modify {g : SessionRecord → SessionRecord} {k : Life → Life}
    {l : Option Life} (h : Tracks f ttl t sid (st.sessions.get? sid) l)
    (hg : ∀ r l, r.Shows f ttl sid l → (g r).Shows f ttl sid (k l))
    (hk : ∀ l, (k l).createdAt = l.createdAt) :
    Tracks f ttl t sid ((st.modify sid g).sessions.get? sid) (l.map k) := by
  rw [get?_modify, if_pos rfl]
  generalize st.sessions.get? sid = r at h
  cases h with
  | absent => exact .absent
  | kept h => exact .kept (hg _ _ h)
  | @dropped l h => exact .dropped ((hk l).symm ▸ h)

/-- A call on a session moves its record and its life alike. -/
private theorem tracks_serve {c : TimedCall} {l : Option Life} (hf : st.fernet = f)
    (httl : st.ttlSeconds = ttl) (hc : c.2.sessionId = sid)
    (h : Tracks f ttl c.1.now sid (st.sessions.get? sid) l) :
    Tracks f ttl c.1.now sid ((st.serve c).2.sessions.get? sid) (lifeStep sid l c) := by
  rw [lifeStep, if_pos hc]
  obtain ⟨env, call⟩ := c
  subst hf httl hc
  cases call with
  | create hex keyId region fingerprint =>
    change Tracks _ _ _ _ ((st.sessions.set _ _).get? _) _
    rw [SessionCall.sessionId, Dict.get?_set_self]
    exact .kept ⟨rfl, rfl, rfl, rfl, loadCookies_storeCookies _ _ _, rfl, rfl, rfl⟩
  | get x =>
    change Tracks _ _ _ _ ((st.get env x).2.sessions.get? x) _
    rw [get?_get, if_pos rfl]
    change Tracks _ _ _ _ (st.sessions.get? x) l at h
    generalize st.sessions.get? x = r at h
    cases h with
    | absent => exact .absent
    | dropped h => exact .dropped h
    | @kept r l h =>
      rw [Option.bind_some]
      split
      · next hlate => exact .dropped (h.expiresAt ▸ hlate)
      · exact .kept ⟨h.sessionId, h.keyId, h.region, h.fingerprint, h.cookies, h.createdAt,
          h.requestCount, h.expiresAt⟩
  | updateCookies x cookies =>
    apply tracks_modify h
    · exact fun r l h ↦ ⟨h.sessionId, h.keyId, h.region, h.fingerprint,
        loadCookies_storeCookies _ _ _, h.createdAt, h.requestCount, h.expiresAt⟩
    · exact fun _ ↦ rfl
  | incrementCount x =>
    apply tracks_modify h
    · exact fun r l h ↦ ⟨h.sessionId, h.keyId, h.region, h.fingerprint, h.cookies, h.createdAt,
        congrArg (· + 1) h.requestCount, h.expiresAt⟩
    · exact fun _ ↦ rfl
  | delete x =>
    change Tracks _ _ _ _ ((st.sessions.erase x).get? x) none
    rw [Dict.get?_erase, if_pos rfl]
    exact .absent

/-- No call changes the configuration. -/
private theorem serve_config (c : TimedCall) :
    (st.serve c).2.fernet = st.fernet ∧ (st.serve c).2.ttlSeconds = st.ttlSeconds := by
  obtain ⟨env, call⟩ := c
  cases call with
  | create hex keyId region fingerprint => exact ⟨rfl, rfl⟩
  | get sid => exact ⟨fernet_get st env sid, ttlSeconds_get st env sid⟩
  | updateCookies sid cookies => exact ⟨fernet_modify st sid _, ttlSeconds_modify st sid _⟩
  | incrementCount sid => exact ⟨fernet_modify st sid _, ttlSeconds_modify st sid _⟩
  | delete sid => exact ⟨rfl, rfl⟩

/-- Every call keeps the refinement. -/
theorem Refines.serve {run : List TimedCall} (h : Refines f ttl st run t) {c : TimedCall}
    (ht : t ≤ c.1.now) : Refines f ttl (st.serve c).2 (run ++ [c]) c.1.now where
  sameFernet := (serve_config c).1.trans h.sameFernet
  sameTtl := (serve_config c).2.trans h.sameTtl
  tracks sid := by
    have hnow := tracks_mono (h.tracks sid) ht
    rw [life_concat]
    by_cases hc : c.2.sessionId = sid
    · exact tracks_serve h.sameFernet h.sameTtl hc hnow
    · rwa [get?_serve_ne hc, lifeStep_ne hc]

end Step

/-- From the empty store every history of calls with a clock that does not go back is refined. -/
theorem refines_final (fernet : Option Fernet) (ttl : Int) {run : List TimedCall} {t : ℚ}
    (hclock : ClockUpTo t run) :
    Refines fernet ttl (final serve ⟨fernet, ttl, Dict.empty⟩ run) run t := by
  obtain ⟨hsorted, hle⟩ := hclock
  induction run using List.reverseRecOn generalizing t with
  | nil => exact ⟨rfl, rfl, fun _ ↦ .absent⟩
  | append_singleton run c ih =>
    obtain ⟨hrun, -, hlast⟩ := List.pairwise_append.mp hsorted
    have hbefore := ih hrun fun d hd ↦ hlast d hd c List.mem_cons_self
    have hstep := hbefore.serve (le_refl c.1.now)
    have ht := hle c (List.mem_append_right _ List.mem_cons_self)
    rw [final_append]
    exact ⟨hstep.sameFernet, hstep.sameTtl, fun sid ↦ tracks_mono (hstep.tracks sid) ht⟩

/-- What the store answers for a session after a history of calls. -/
def getAfter (fernet : Option Fernet) (ttl : Int) (run : List TimedCall) (env : StoreEnv)
    (sid : String) : Except Exn (Option SessionInfo) :=
  ((final serve ⟨fernet, ttl, Dict.empty⟩ run).get env sid).1

/-- After any history the store answers as the map does. -/
theorem getAfter_eq_reading (fernet : Option Fernet) (ttl : Int) {run : List TimedCall}
    {env : StoreEnv} (hclock : ClockUpTo env.now run) (sid : String) :
    getAfter fernet ttl run env sid = .ok (reading ttl sid env.now (life sid run)) := by
  have h := refines_final fernet ttl hclock
  exact get_eq_reading h.sameFernet (h.tracks sid)

/-- What the map answers for a session that is created once. -/
theorem reading_lifeSince (ttl : Int) (sid : String) (now : ℚ) (env : StoreEnv)
    (keyId region : String) (fingerprint : Option String) (calls : List TimedCall) :
    reading ttl sid now (lifeSince env keyId region fingerprint calls) =
      if (calls.any fun c ↦ c.2.deletes) = true ∨ env.now + ttl < now then none
      else some ⟨sid, keyId, region, fingerprint, lastCookies calls, env.now, now,
        increments calls, env.now + ttl⟩ := by
  unfold lifeSince
  by_cases hd : (calls.any fun c ↦ c.2.deletes) = true
  · rw [if_pos hd, if_pos (Or.inl hd)]
    rfl
  · rw [if_neg hd]
    dsimp only [reading]
    by_cases hlive : now ≤ env.now + ttl
    · rw [if_pos hlive, if_neg (not_or.mpr ⟨hd, not_lt.mpr hlive⟩)]
      rfl
    · rw [if_neg hlive, if_pos (Or.inr (not_le.mp hlive))]

/-- A session that was created and is not found once is not found again. -/
private theorem getAfter_eq_none (fernet : Option Fernet) (ttl : Int) {pre post : List TimedCall}
    {env₁ env : StoreEnv} {sid : String}
    (hclock : ClockUpTo env.now (pre ++ (env₁, .get sid) :: post))
    (hfresh : CreatesFresh (pre ++ (env₁, .get sid) :: post))
    (hcreated : ∃ c ∈ pre, c.2.createdId = some sid)
    (hnone : getAfter fernet ttl pre env₁ sid = .ok none) :
    getAfter fernet ttl (pre ++ (env₁, .get sid) :: post) env sid = .ok none := by
  have hread := getAfter_eq_reading fernet ttl hclock sid
  obtain ⟨c, hc, hcreated⟩ := hcreated
  obtain ⟨a, b, rfl⟩ := List.append_of_mem hc
  obtain ⟨env₀, call⟩ := c
  cases call with
  | create hex keyId region fingerprint =>
    have hsid : "sess_" ++ hex = sid := Option.some.inj hcreated
    have hle : env₁.now ≤ env.now := hclock.2 (env₁, .get sid) (by simp)
    have hpre : ClockUpTo env₁.now (a ++ (env₀, .create hex keyId region fingerprint) :: b) := by
      obtain ⟨hsorted, -, hlast⟩ := List.pairwise_append.mp hclock.1
      exact ⟨hsorted, fun d hd ↦ hlast d hd _ List.mem_cons_self⟩
    rw [List.append_assoc, List.cons_append] at hfresh hread ⊢
    have honce := hfresh.once hcreated
    have hb : ∀ d ∈ b, d.2.createdId ≠ some sid :=
      fun d hd ↦ honce d (List.mem_append_left _ hd)
    rw [getAfter_eq_reading fernet ttl hpre, life_of_created hsid hb, reading_lifeSince] at hnone
    rw [hread, life_of_created hsid honce, reading_lifeSince]
    -- what ended the session then still holds
    have hended : ((callsOn sid b).any fun c ↦ c.2.deletes) = true ∨
        env₀.now + ttl < env₁.now := by
      by_contra hlive
      rw [if_neg hlive] at hnone
      cases hnone
    rw [if_pos]
    rcases hended with hdeleted | hlate
    · left
      rw [callsOn, List.filter_append, List.any_append]
      exact Bool.or_eq_true_iff.mpr (Or.inl hdeleted)
    · exact Or.inr (hlate.trans_le hle)
  | _ => cases hcreated

/-- The store is a map of sessions with a time to live, after every history of calls with fresh
ids and a clock that does not go back. A session that was created is found exactly if no call has
deleted it and its time has not passed, with what it was created with, the cookies of the last
update and the number of counted requests; one that was not created is not found; one that was
not found once is never found again; and calls on other sessions make no difference. -/
theorem sessionStore_refines (fernet : Option Fernet) (ttl : Int) {run : List TimedCall}
    (env : StoreEnv) (hclock : ClockUpTo env.now run) (hfresh : CreatesFresh run) (sid : String) :
    (∀ pre env₀ hex keyId region fingerprint post,
      run = pre ++ (env₀, .create hex keyId region fingerprint) :: post → "sess_" ++ hex = sid →
      let own := callsOn sid post
      getAfter fernet ttl run env sid =
        .ok (if (own.any fun c ↦ c.2.deletes) = true ∨ env₀.now + ttl < env.now then none
          else some ⟨sid, keyId, region, fingerprint, lastCookies own, env₀.now, env.now,
            increments own, env₀.now + ttl⟩)) ∧
    ((∀ c ∈ run, c.2.createdId ≠ some sid) → getAfter fernet ttl run env sid = .ok none) ∧
    (∀ pre env₁ post, run = pre ++ (env₁, .get sid) :: post →
      (∃ c ∈ pre, c.2.createdId = some sid) → getAfter fernet ttl pre env₁ sid = .ok none →
      getAfter fernet ttl run env sid = .ok none) ∧
    getAfter fernet ttl run env sid = getAfter fernet ttl (callsOn sid run) env sid := by
  have hread := getAfter_eq_reading fernet ttl hclock sid
  refine ⟨?_, ?_, ?_, ?_⟩
  · rintro pre env₀ hex keyId region fingerprint post rfl hsid
    rw [hread, life_of_created hsid (hfresh.once (congrArg some hsid)), reading_lifeSince]
  · intro hnot
    rw [hread, life_of_not_created hnot]
    rfl
  · rintro pre env₁ post rfl hcreated hnone
    exact getAfter_eq_none fernet ttl hclock hfresh hcreated hnone
  · have hown : ClockUpTo env.now (callsOn sid run) :=
      ⟨hclock.1.filter _, fun c hc ↦ hclock.2 c (List.mem_of_mem_filter hc)⟩
    rw [hread, getAfter_eq_reading fernet ttl hown sid, callsOn, life_filter]

private def sampleRun : List TimedCall :=
  [(⟨0, 0⟩, .create "000000000001" "key_a" "jp" none),
    (⟨1, 1⟩, .create "000000000002" "key_b" "us" (some "fp")),
    (⟨2, 2⟩, .updateCookies "sess_000000000001" (Dict.ofList [("sid", "1")])),
    (⟨3, 3⟩, .incrementCount "sess_000000000001"), (⟨4, 4⟩, .delete "sess_000000000002"),
    (⟨5, 5⟩, .get "sess_000000000001")]

/-- Two sessions whose cookies are encrypted, one deleted; the other is read at the last instant of
its time. -/
theorem sessionStore_refines_sample :
    getAfter backwardsFernet 300 sampleRun ⟨300, 6⟩ "sess_000000000001" =
      .ok (some ⟨"sess_000000000001", "key_a", "jp", none, Dict.ofList [("sid", "1")], 0, 300, 1,
        300⟩) ∧
    getAfter backwardsFernet 300 sampleRun ⟨300, 6⟩ "sess_000000000002" =
      getAfter backwardsFernet 300 (callsOn "sess_000000000002" sampleRun) ⟨300, 6⟩
        "sess_000000000002" := by
  have hclock : ClockUpTo 300 sampleRun := ⟨by decide +kernel, by decide +kernel⟩
  have hfresh : CreatesFresh sampleRun := by
    show (sampleRun.filterMap fun c ↦ c.2.createdId).Nodup
    decide +kernel
  constructor
  · have h := (sessionStore_refines backwardsFernet 300 ⟨300, 6⟩ hclock hfresh
      "sess_000000000001").1 [] ⟨0, 0⟩ "000000000001" "key_a" "jp" none (sampleRun.drop 1) rfl
      (by decide)
    rw [h]
    decide +kernel
  · exact (sessionStore_refines backwardsFernet 300 ⟨300, 6⟩ hclock hfresh _).2.2.2

end SessionStore
end AsbCloudApi.Session
