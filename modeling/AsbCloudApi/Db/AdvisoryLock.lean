import AsbCloudApi.Db.Connection

/-!
# Advisory locks of the rate limiter

Library `Db`. The sessions of `src/asb_api/db/rate_limiter.py:60–107`. An advisory lock belongs to
the session of a connection and may be taken again there; a connection that goes back to
its pool is reset, which drops what locks it still has. That two checks of a key never count
at the same time rests on both: on the lock table, and on no two requests sharing a
connection. The verdict of a check is that of the atomic check at some moment of its run.
-/

namespace AsbCloudApi.Db.Pooled

open Base Api Billing

/-- The database server: its tables, and which session has which advisory lock. -/
structure Server (T : Type) where
  tables : T
  locks : List (Conn × Nat)

/-- The statements that touch locks or count rows under a lock. -/
def Statement.locking : Statement → Bool
  | .tryAdvisoryLock _ => true
  | .advisoryUnlock _ => true
  | .countUsage _ _ => true
  | .oldestUsage _ _ => true
  | _ => false

/-- A statement that any store method may send outside the lock. -/
def Plain : Borrow Conn Statement → Prop
  | .use _ s => Statement.locking s = false
  | _ => True

section Server

variable {T : Type} (rows : T → UsageDb)
  (others : (s : Statement) → T → Except StoreExn s.Ans → T → Prop)

/-- How the server answers a statement of a session. Any statement may raise, also after its effect:
an attempt at a lock when the lock is taken already, an unlock when it is dropped already. That
a session ends on the server while its connection is out is left out, as are transactions: a
`BEGIN`, `COMMIT` or `ROLLBACK` that raises is as any other statement. -/
inductive ServerExec : Conn → (s : Statement) → Server T → Except StoreExn s.Ans → Server T → Prop
  | granted {c : Conn} {lock : Nat} {t : T} {locks : List (Conn × Nat)} {a : Except StoreExn Bool}
      (h : ∀ c', (c', lock) ∈ locks → c' = c) (ha : a ≠ .ok false)
      (hf : Borrow.Honest StoreExn.fault a) :
      ServerExec c (.tryAdvisoryLock lock) ⟨t, locks⟩ a ⟨t, (c, lock) :: locks⟩
  | denied {c c' : Conn} {lock : Nat} {t : T} {locks : List (Conn × Nat)}
      (h : (c', lock) ∈ locks) (hne : c' ≠ c) :
      ServerExec c (.tryAdvisoryLock lock) ⟨t, locks⟩ (.ok false) ⟨t, locks⟩
  | unlocked {c : Conn} {lock : Nat} {t : T} {locks : List (Conn × Nat)}
      {a : Except StoreExn Unit} (hf : Borrow.Honest StoreExn.fault a) :
      ServerExec c (.advisoryUnlock lock) ⟨t, locks⟩ a ⟨t, locks.erase (c, lock)⟩
  | counted {c : Conn} {keyId : String} {cutoff : ℚ} {t : T} {locks : List (Conn × Nat)} :
      ServerExec c (.countUsage keyId cutoff) ⟨t, locks⟩ (.ok (countNewer (rows t) keyId cutoff))
        ⟨t, locks⟩
  | oldest {c : Conn} {keyId : String} {cutoff : ℚ} {t : T} {locks : List (Conn × Nat)} :
      ServerExec c (.oldestUsage keyId cutoff) ⟨t, locks⟩
        (.ok (oldestNewer (rows t) keyId cutoff)) ⟨t, locks⟩
  | other {c : Conn} {s : Statement} {t t' : T} {locks : List (Conn × Nat)}
      {a : Except StoreExn s.Ans} (hs : Statement.locking s = false) (h : others s t a t')
      (hf : Borrow.Honest StoreExn.fault a) : ServerExec c s ⟨t, locks⟩ a ⟨t', locks⟩
  | failed {c : Conn} {s : Statement} {b : Server T} {e : StoreExn} (he : e.fault) :
      ServerExec c s b (.error e) b

/-- What a connection is reset to when it goes back to the pool. -/
def resetSession (c : Conn) (b : Server T) : Server T :=
  { b with locks := b.locks.filter fun p ↦ p.1 ≠ c }

end Server

/-! ### The discipline of the lock -/

section Discipline

variable (sha256 : String → HexText 64)

/-- The lock that a coroutine has for sure: only then does it count rows, those of a key of this
lock. -/
def locking : Prog.Protocol StoreExn (Borrow.Ans Conn Statement.Ans) (Option Nat) where
  allowed o g :=
    match o with
    | .acquire => g = none
    | .use _ (.tryAdvisoryLock _) => g = none
    | .use _ (.advisoryUnlock lock) => g = some lock
    | .use _ (.countUsage keyId _) => g = some (PostgresRateLimiter.lockId sha256 keyId)
    | .use _ (.oldestUsage keyId _) => g = some (PostgresRateLimiter.lockId sha256 keyId)
    | _ => True
  possible _ _ _ := True
  next o g a :=
    match o, a with
    | .release _, _ => none
    | .use _ (.tryAdvisoryLock lock), .ok true => some lock
    | .use _ (.advisoryUnlock _), _ => none
    | _, _ => g

variable {sha256} {α : Type}

/-- What touches no lock needs none and leaves none. -/
theorem follows_of_plain {p : StoreProg α} (h : Prog.Only Plain p) :
    Prog.Follows (locking sha256) (fun _ g ↦ g = none) p none := by
  induction p with
  | done r => rfl
  | call o k ih =>
    obtain ⟨ho, hk⟩ := h
    cases o with
    | acquire => exact ⟨rfl, fun a _ ↦ ih a (hk a)⟩
    | release conn => exact ⟨trivial, fun a _ ↦ ih a (hk a)⟩
    | pause => exact ⟨trivial, fun a _ ↦ ih a (hk a)⟩
    | close => exact ⟨trivial, fun a _ ↦ ih a (hk a)⟩
    | use conn s =>
      cases s with
      | tryAdvisoryLock | advisoryUnlock | countUsage | oldestUsage => cases ho
      | _ => exact ⟨trivial, fun a _ ↦ ih a (hk a)⟩

theorem plain_send {conn : Conn} {s : Statement} (hs : Statement.locking s = false) :
    Prog.Only Plain (send conn s) := Prog.only_perform hs

theorem plain_connected {body : Conn → StoreProg α} (h : ∀ conn, Prog.Only Plain (body conn)) :
    Prog.Only Plain (connected body) :=
  ⟨trivial, fun a ↦ by
    cases a with
    | ok conn => exact (h conn).resume fun _ ↦ ⟨trivial, fun x ↦ by cases x <;> exact trivial⟩
    | error e => exact trivial⟩

theorem plain_ignoring {p : StoreProg α} (h : Prog.Only Plain p) :
    Prog.Only Plain (ignoring p) := by
  apply h.resume
  intro r
  rcases r with (e | e | _) | a <;> exact trivial

theorem plain_getDailyUsage (keyId date : String) :
    Prog.Only Plain (PostgresUsageTracker.getDailyUsage keyId date) := by
  apply plain_connected
  intro conn
  apply (plain_send rfl).bind
  intro row
  cases row with
  | some row => exact trivial
  | none => exact plain_send rfl

theorem plain_checkOverage (keyId tier : String) (now : ℚ) :
    Prog.Only Plain (PostgresUsageTracker.checkOverage keyId tier now) := by
  apply Prog.Only.ite (Prog.only_done _)
  apply (plain_getDailyUsage keyId _).bind
  intro usage
  exact Prog.Only.ite (Prog.only_done _) (Prog.only_done _)

theorem plain_checkTracked (tracked : Bool) (keyId tier : String) (now : ℚ) :
    Prog.Only Plain (PostgresRateLimiter.checkTracked tracked keyId tier now) := by
  refine Prog.Only.ite ?_ (Prog.only_done _)
  apply (plain_ignoring (plain_checkOverage keyId tier now)).bind
  intro answer
  split
  · exact Prog.only_done _
  · exact Prog.only_done _

/-- A call that is not a rate limit check. -/
def StoreCall.unlimited : StoreCall → Bool
  | .checkMany _ _ _ _ _ => false
  | _ => true

/-- Only rate limit checks touch locks. -/
theorem StoreCall.plain (st : Stores) {c : StoreCall} (hc : c.unlimited = true) :
    Prog.Only Plain (c.prog st) := by
  cases c with
  | createKey | createSession =>
    exact (plain_connected fun _ ↦ plain_send rfl).bind fun _ ↦ trivial
  | tryRecordStripeEvent | getTier =>
    exact plain_connected fun _ ↦ (plain_send rfl).bind fun _ ↦ trivial
  | addLicense => exact plain_connected fun _ ↦ Prog.Only.ite (plain_send rfl) (plain_send rfl)
  | getUsage keyId now => exact (plain_getDailyUsage keyId _).bind fun _ ↦ trivial
  | getDailyUsage keyId date => exact plain_getDailyUsage keyId date
  | checkOverage keyId tier now => exact plain_checkOverage keyId tier now
  | getSession now sessionId =>
    apply plain_connected
    intro conn
    apply (plain_send rfl).bind
    intro row
    cases row with
    | none => exact trivial
    | some row => exact (plain_ignoring (plain_send rfl)).bind fun _ ↦ trivial
  | checkMany => cases hc
  | disconnect => exact Prog.only_perform (o := Borrow.close) trivial
  | _ => exact plain_connected fun _ ↦ plain_send rfl

theorem follows_judge {conn : Conn} (keyId : String) (maxRequests : Int) (windowSeconds : ℚ)
    (requested : Int) (now : ℚ) (n : Nat) {lock : Nat}
    (hlock : lock = PostgresRateLimiter.lockId sha256 keyId) :
    Prog.Follows (locking sha256) (fun _ g ↦ g = some lock)
      (PostgresRateLimiter.judge conn keyId maxRequests windowSeconds requested now n)
      (some lock) := by
  unfold PostgresRateLimiter.judge
  dsimp only
  split
  · exact ⟨congrArg some hlock, fun a _ ↦ by cases a <;> rfl⟩
  · split
    · exact ⟨congrArg some hlock, fun a _ ↦ by cases a <;> rfl⟩
    · rfl

theorem follows_tryLockTwice (conn : Conn) (lock : Nat) :
    Prog.Follows (locking sha256) (fun r g ↦ g = if r.toOption = some true then some lock else none)
      (PostgresRateLimiter.tryLockTwice conn lock) none := by
  refine ⟨rfl, fun a _ ↦ ?_⟩
  cases a with
  | error e => rfl
  | ok acquired =>
    cases acquired with
    | true => rfl
    | false =>
      refine ⟨trivial, fun a _ ↦ ?_⟩
      cases a with
      | error e => rfl
      | ok _ =>
        refine ⟨rfl, fun a _ ↦ ?_⟩
        rcases a with e | _ | _ <;> rfl

theorem follows_transaction {conn : Conn} {Q : Except StoreExn α → Option Nat → Prop}
    {body : StoreProg α} (h : Prog.Follows (locking sha256) Q body none) :
    Prog.Follows (locking sha256) (fun _ _ ↦ True)
      (PostgresRateLimiter.transaction conn body) none := by
  refine ⟨trivial, fun a _ ↦ ?_⟩
  cases a with
  | error e => exact trivial
  | ok _ =>
    apply h.resume
    intro r g _
    cases r with
    | ok a => exact ⟨trivial, fun x _ ↦ by cases x <;> exact trivial⟩
    | error e => exact ⟨trivial, fun x _ ↦ by cases x <;> exact trivial⟩

theorem follows_checkWindow (conn : Conn) {lock : Nat} (keyId : String) (maxRequests : Int)
    (windowSeconds : ℚ) (requested : Int) (now : ℚ)
    (hlock : lock = PostgresRateLimiter.lockId sha256 keyId) :
    Prog.Follows (locking sha256) (fun _ _ ↦ True)
      (PostgresRateLimiter.checkWindow conn lock keyId maxRequests windowSeconds requested now)
      none := by
  apply follows_transaction (Q := fun _ _ ↦ True)
  apply (follows_tryLockTwice conn lock).bind
  · intro acquired g hg
    cases acquired with
    | false => exact trivial
    | true =>
      obtain rfl : g = some lock := hg
      have hcounted : Prog.Follows (locking sha256) (fun _ g ↦ g = some lock)
          (send conn (.countUsage keyId (now - windowSeconds)) >>= fun n ↦
            PostgresRateLimiter.judge conn keyId maxRequests windowSeconds requested now n)
          (some lock) := by
        refine ⟨congrArg some hlock, fun a _ ↦ ?_⟩
        cases a with
        | ok n => exact follows_judge keyId maxRequests windowSeconds requested now n hlock
        | error e => rfl
      apply hcounted.tryFinally
      rintro r g rfl
      exact ⟨rfl, fun a _ ↦ by cases a <;> exact trivial⟩
  · exact fun _ _ _ ↦ trivial

theorem follows_checkMany (st : Stores) (tracked : Bool) (keyId tier : String) (count : Int)
    (now : ℚ) : Prog.Follows (locking st.sha256) (fun _ g ↦ g = none)
      (PostgresRateLimiter.checkMany st.sha256 st.limitsByTier tracked keyId tier count now)
      none := by
  unfold PostgresRateLimiter.checkMany
  apply (follows_of_plain (plain_checkTracked tracked keyId tier now)).bind
  · rintro _ g rfl
    rcases getLimits st.limitsByTier tier with ⟨maxRequests, windowSeconds⟩
    dsimp only
    split
    · rfl
    · refine ⟨rfl, fun a _ ↦ ?_⟩
      cases a with
      | error e => rfl
      | ok conn =>
        apply (follows_checkWindow conn keyId _ _ _ now rfl).tryFinally
        -- whatever the check leaves behind, its connection goes back
        intro r g _
        exact ⟨trivial, fun a _ ↦ by cases a <;> rfl⟩
  · exact fun _ _ hg ↦ hg

/-- Every request counts rows under their lock only. -/
theorem follows_embed (st : Stores) (p : Request α) :
    Prog.Follows (locking st.sha256) (fun _ g ↦ g = none) (p.embed (StoreCall.prog st)) none := by
  induction p with
  | done r => rfl
  | call c k ih =>
    have hc : Prog.Follows (locking st.sha256) (fun _ g ↦ g = none) (c.prog st) none := by
      cases hu : c.unlimited with
      | true => exact follows_of_plain (c.plain st hu)
      | false =>
        cases c with
        | checkMany tracked keyId tier count now =>
          exact follows_checkMany st tracked keyId tier count now
        | _ => cases hu
    apply hc.resume
    rintro r g rfl
    exact ih r

end Discipline

/-! ### Who has which lock -/

section Locks

variable {I T : Type} [Fintype I] {p p' : Borrow.Pool Conn (Server T)} {all : List Conn}
  {stage : I → Option Conn × Option Nat}

/-- The pool is balanced; a lock has one session, a session that has one is out, and what a
coroutine has for sure its session has. -/
structure LockInv (all : List Conn) (p : Borrow.Pool Conn (Server T))
    (stage : I → Option Conn × Option Nat) : Prop where
  lent : Borrow.Lent all p (Prod.fst ∘ stage)
  unique : ∀ c c' lock, (c, lock) ∈ p.inner.locks → (c', lock) ∈ p.inner.locks → c = c'
  borrowed : ∀ c lock, (c, lock) ∈ p.inner.locks → ∃ i, (stage i).1 = some c
  held : ∀ i lock, (stage i).2 = some lock →
    ∃ c, (stage i).1 = some c ∧ (c, lock) ∈ p.inner.locks

/-- Before the first request no lock is taken. -/
theorem lockInv_start (hn : all.Nodup) (tables : T) :
    LockInv all ⟨all, ⟨tables, []⟩, false⟩ (fun _ : I ↦ (none, none)) where
  lent := Borrow.lent_start hn _
  unique _ _ _ h := nomatch h
  borrowed _ _ h := nomatch h
  held _ _ h := nomatch h

variable [DecidableEq I] {sha256 : String → HexText 64} {rows : T → UsageDb}
  {others : (s : Statement) → T → Except StoreExn s.Ans → T → Prop} {mayClose : Prop}

omit [DecidableEq I] in
/-- A step that changes neither a lock nor a stage. -/
private theorem LockInv.same (h : LockInv all p stage) (hl : Borrow.Lent all p' (Prod.fst ∘ stage))
    (hlocks : p'.inner.locks = p.inner.locks) : LockInv all p' stage where
  lent := hl
  unique := by
    rw [hlocks]
    exact h.unique
  borrowed := by
    rw [hlocks]
    exact h.borrowed
  held := by
    rw [hlocks]
    exact h.held

/-- A step of coroutine `i` that leaves the locks of other sessions alone. -/
private theorem LockInv.move (h : LockInv all p stage) {i : I} {g : Option Conn × Option Nat}
    (hl : Borrow.Lent all p' (Prod.fst ∘ Function.update stage i g))
    (hunique : ∀ c c' lock, (c, lock) ∈ p'.inner.locks → (c', lock) ∈ p'.inner.locks → c = c')
    (hborrowed : ∀ c lock, (c, lock) ∈ p'.inner.locks →
      g.1 = some c ∨ (c, lock) ∈ p.inner.locks ∧ (stage i).1 ≠ some c)
    (hheld : ∀ lock, g.2 = some lock → ∃ c, g.1 = some c ∧ (c, lock) ∈ p'.inner.locks)
    (hkeep : ∀ c lock, (c, lock) ∈ p.inner.locks → (stage i).1 ≠ some c →
      (c, lock) ∈ p'.inner.locks) :
    LockInv all p' (Function.update stage i g) := by
  refine ⟨hl, hunique, ?_, ?_⟩
  · intro c lock hc
    rcases hborrowed c lock hc with hi | ⟨hc, hi⟩
    · exact ⟨i, by rw [Function.update_self, hi]⟩
    · obtain ⟨j, hj⟩ := h.borrowed c lock hc
      refine ⟨j, ?_⟩
      rw [Function.update_of_ne, hj]
      rintro rfl
      exact hi hj
  · intro j lock hj
    by_cases hji : j = i
    · rw [hji, Function.update_self] at hj ⊢
      exact hheld lock hj
    · rw [Function.update_of_ne hji] at hj ⊢
      obtain ⟨c, hc, hlock⟩ := h.held j lock hj
      exact ⟨c, hc, hkeep c lock hlock fun hi ↦ hji (h.lent.exclusive j i c hc hi)⟩

/-- Coroutine `i` gets a connection. -/
private theorem LockInv.lend (h : LockInv all p stage) {i : I} {c : Conn} (hi : (stage i).1 = none)
    (hl : Borrow.Lent all p' (Prod.fst ∘ Function.update stage i (some c, none)))
    (hlocks : p'.inner.locks = p.inner.locks) :
    LockInv all p' (Function.update stage i (some c, none)) := by
  have hother : ∀ c, (stage i).1 ≠ some c := by
    intro c
    rw [hi]
    exact nofun
  apply h.move hl
  · rw [hlocks]
    exact h.unique
  · intro c' lock hc
    exact .inr ⟨hlocks ▸ hc, hother c'⟩
  · exact nofun
  · intro c' lock hc _
    exact hlocks ▸ hc

/-- The connection of coroutine `i` goes back; the locks of its session go with it. -/
private theorem LockInv.back (h : LockInv all p stage) {i : I} {c : Conn}
    (hi : (stage i).1 = some c)
    (hl : Borrow.Lent all p' (Prod.fst ∘ Function.update stage i (none, none)))
    (hlocks : p'.inner.locks = p.inner.locks.filter fun q ↦ q.1 ≠ c) :
    LockInv all p' (Function.update stage i (none, none)) := by
  have hmem : ∀ c' lock, (c', lock) ∈ p'.inner.locks ↔
      (c', lock) ∈ p.inner.locks ∧ (stage i).1 ≠ some c' := by
    intro c' lock
    rw [hlocks, List.mem_filter, decide_eq_true_eq, hi, ne_eq, ne_eq, Option.some.injEq, eq_comm]
  apply h.move hl
  · intro c₁ c₂ lock h₁ h₂
    exact h.unique c₁ c₂ lock ((hmem _ _).mp h₁).1 ((hmem _ _).mp h₂).1
  · exact fun c' lock hc ↦ .inr ((hmem c' lock).mp hc)
  · exact nofun
  · exact fun c' lock hc hne ↦ (hmem c' lock).mpr ⟨hc, hne⟩

/-- The session of coroutine `i` takes a lock that no other session has; `i` may not know. -/
private theorem LockInv.grant (h : LockInv all p stage) {i : I} {c : Conn} {lock : Nat}
    {mine : Option Nat} (hi : (stage i).1 = some c) (hmine : ∀ l, mine = some l → l = lock)
    (hfree : ∀ c', (c', lock) ∈ p.inner.locks → c' = c)
    (hl : Borrow.Lent all p' (Prod.fst ∘ Function.update stage i (some c, mine)))
    (hlocks : p'.inner.locks = (c, lock) :: p.inner.locks) :
    LockInv all p' (Function.update stage i (some c, mine)) := by
  have hmem : ∀ q, q ∈ p'.inner.locks ↔ q = (c, lock) ∨ q ∈ p.inner.locks := by
    intro q
    rw [hlocks, List.mem_cons]
  apply h.move hl
  · intro c₁ c₂ lock' h₁ h₂
    rcases (hmem _).mp h₁ with h₁ | h₁
    · cases h₁
      rcases (hmem _).mp h₂ with h₂ | h₂
      · cases h₂
        rfl
      · exact (hfree c₂ h₂).symm
    · rcases (hmem _).mp h₂ with h₂ | h₂
      · cases h₂
        exact hfree c₁ h₁
      · exact h.unique c₁ c₂ lock' h₁ h₂
  · intro c' lock' hc
    rcases (hmem _).mp hc with hc | hc
    · cases hc
      exact .inl rfl
    · by_cases hcc : c' = c
      · exact .inl (congrArg some hcc.symm)
      · exact .inr ⟨hc, fun hi' ↦ hcc (Option.some.inj (hi'.symm.trans hi))⟩
  · intro lock' hlock
    obtain rfl := hmine lock' hlock
    exact ⟨c, rfl, (hmem _).mpr (.inl rfl)⟩
  · exact fun c' lock' hc _ ↦ (hmem _).mpr (.inr hc)

/-- The session of coroutine `i` drops its lock. -/
private theorem LockInv.unlock (h : LockInv all p stage) {i : I} {c : Conn} {lock : Nat}
    (hi : (stage i).1 = some c)
    (hl : Borrow.Lent all p' (Prod.fst ∘ Function.update stage i (some c, none)))
    (hlocks : p'.inner.locks = p.inner.locks.erase (c, lock)) :
    LockInv all p' (Function.update stage i (some c, none)) := by
  have hsub : ∀ q ∈ p'.inner.locks, q ∈ p.inner.locks := by
    intro q hq
    rw [hlocks] at hq
    exact List.mem_of_mem_erase hq
  apply h.move hl
  · intro c₁ c₂ lock' h₁ h₂
    exact h.unique c₁ c₂ lock' (hsub _ h₁) (hsub _ h₂)
  · intro c' lock' hc
    by_cases hcc : c' = c
    · exact .inl (congrArg some hcc.symm)
    · exact .inr ⟨hsub _ hc, fun hi' ↦ hcc (Option.some.inj (hi'.symm.trans hi))⟩
  · exact nofun
  · intro c' lock' hc hne
    have hpair : (c', lock') ≠ (c, lock) := by
      rintro heq
      cases heq
      exact hne hi
    rw [hlocks]
    exact (List.mem_erase_of_ne hpair).mpr hc

/-- Coroutine `i` no longer counts on its lock. -/
private theorem LockInv.forget (h : LockInv all p stage) {i : I} {c : Conn}
    (hi : (stage i).1 = some c)
    (hl : Borrow.Lent all p' (Prod.fst ∘ Function.update stage i (some c, none)))
    (hlocks : p'.inner.locks = p.inner.locks) :
    LockInv all p' (Function.update stage i (some c, none)) := by
  apply h.move hl
  · rw [hlocks]
    exact h.unique
  · intro c' lock hc
    by_cases hcc : c' = c
    · exact .inl (congrArg some hcc.symm)
    · exact .inr ⟨hlocks ▸ hc, fun hi' ↦ hcc (Option.some.inj (hi'.symm.trans hi))⟩
  · exact nofun
  · intro c' lock hc _
    exact hlocks ▸ hc

/-- What both disciplines allow keeps the locks in order. -/
theorem LockInv.step (h : LockInv all p stage) {i : I} {o : Borrow Conn Statement}
    {a : Except StoreExn (Borrow.Ans Conn Statement.Ans o)}
    (ha : ((Borrow.borrowing mayClose).both (locking sha256)).allowed o (stage i))
    (hs : Borrow.ServeOrRefuse StoreExn.fault (ServerExec rows others) resetSession all o p a p') :
    LockInv all p' (Function.update stage i
      (((Borrow.borrowing mayClose).both (locking sha256)).next o (stage i) a)) := by
  generalize hg : ((Borrow.borrowing mayClose).both (locking sha256)).next o (stage i) a = g
  have hl : Borrow.Lent all p' (Prod.fst ∘ Function.update stage i g) := by
    rw [Function.comp_update, ← hg]
    exact h.lent.step ha.1 hs
  have hstay : stage i = g → p'.inner.locks = p.inner.locks →
      LockInv all p' (Function.update stage i g) := by
    rintro rfl hlocks
    rw [Function.update_eq_self] at hl ⊢
    exact h.same hl hlocks
  obtain ⟨ha₁, ha₂⟩ := ha
  cases hs with
  | refuse => exact hstay hg rfl
  | serve hs =>
    cases hs with
    | @lend front back c =>
      obtain rfl : g = (some c, none) := hg.symm.trans (Prod.ext rfl ha₂)
      exact h.lend ha₁ hl rfl
    | back =>
      subst hg
      exact h.back ha₁ hl rfl
    | @lost c =>
      have hnone := h.lent.ended rfl i
      rw [show (Prod.fst ∘ stage) i = some c from ha₁] at hnone
      cases hnone
    | gone | pause | close => exact hstay hg rfl
    | @use c s free b b' closed a hu =>
      replace ha₁ : (stage i).1 = some c := ha₁
      cases hu with
      | @granted lock t locks a hfree hne =>
        replace ha₂ : (stage i).2 = none := ha₂
        rcases a with e | _ | _
        · obtain rfl : g = (some c, none) := hg.symm.trans (Prod.ext ha₁ ha₂)
          exact h.grant ha₁ nofun hfree hl rfl
        · exact False.elim (hne rfl)
        · obtain rfl : g = (some c, some lock) := hg.symm.trans (Prod.ext ha₁ rfl)
          exact h.grant ha₁ (fun l hl' ↦ (Option.some.inj hl').symm) hfree hl rfl
      | unlocked =>
        obtain rfl : g = (some c, none) := hg.symm.trans (Prod.ext ha₁ rfl)
        exact h.unlock ha₁ hl rfl
      | denied | counted | oldest => exact hstay hg rfl
      | other hs hother hf =>
        cases s with
        | tryAdvisoryLock | advisoryUnlock | countUsage | oldestUsage => cases hs
        | _ => exact hstay hg rfl
      | failed =>
        cases s with
        | advisoryUnlock lock =>
          obtain rfl : g = (some c, none) := hg.symm.trans (Prod.ext ha₁ rfl)
          exact h.forget ha₁ hl rfl
        | _ => exact hstay hg rfl

end Locks

/-! ### No two checks of a key count at the same time -/

section Safety

variable {I T α : Type}

/-- About to look at rows of a key. -/
def Counting (keyId : String) : StoreProg α → Prop
  | .call (.use _ (.countUsage k _)) _ => k = keyId
  | .call (.use _ (.oldestUsage k _)) _ => k = keyId
  | _ => False

/-- What holds of the locks at any time: requests that look at rows of one key, or of two keys
with one lock, take turns; no session at home has a lock; and no lock outlasts the requests. -/
structure LocksSafe (sha256 : String → HexText 64) (d : Process I (Server T) α) : Prop where
  exclusive : ∀ i j k k', Counting k (d.prog i) → Counting k' (d.prog j) →
    PostgresRateLimiter.lockId sha256 k = PostgresRateLimiter.lockId sha256 k' → i = j
  unlocked : ∀ c lock, (c, lock) ∈ d.shared.inner.locks → c ∉ d.shared.free
  released : (∀ i, (d.prog i).ended = true) → d.shared.inner.locks = []

/-- Who is about to count rows of a key has its lock. -/
private theorem held_of_counting {sha256 : String → HexText 64} {mayClose : Prop} {keyId : String}
    {p : StoreProg α} {g : Option Conn × Option Nat}
    {Q : Except StoreExn α → Option Conn × Option Nat → Prop} (hc : Counting keyId p)
    (hf : Prog.Follows ((Borrow.borrowing mayClose).both (locking sha256)) Q p g) :
    g.2 = some (PostgresRateLimiter.lockId sha256 keyId) := by
  unfold Counting at hc
  split at hc
  · exact hc ▸ hf.1.2
  · exact hc ▸ hf.1.2
  · cases hc

variable [Fintype I] [DecidableEq I] {st : Stores} {maxPool : Nat} {rows : T → UsageDb}
  {others : (s : Statement) → T → Except StoreExn s.Ans → T → Prop} {tables : T}
  {requests : I → Request α} {d : Process I (Server T) α}

/-- Locks are safe in every interleaving of requests, also where statements, acquisitions and
releases raise, and where an attempt at a lock or an unlock raises after its effect. -/
theorem locksSafe_of_reaches (hr : Reaches maxPool (ServerExec rows others) resetSession
    (start st maxPool ⟨tables, []⟩ requests) d) : LocksSafe st.sha256 d := by
  obtain ⟨stage, hr⟩ :=
    Prog.restage ((Borrow.borrowing True).both (locking st.sha256)) hr fun _ ↦ (none, none)
  obtain ⟨hinv, hf⟩ := Prog.interleaving_sound
    (P := (Borrow.borrowing True).both (locking st.sha256)) (J := LockInv (connections maxPool))
    (fun _ _ _ _ _ _ h ha hs ↦ ⟨⟨trivial, trivial⟩, h.step ha hs⟩) hr
    (lockInv_start List.nodup_range tables)
    fun i ↦ (balanced_embed (only_any (requests i))).both (follows_embed st (requests i))
  dsimp only at hinv hf
  refine ⟨?_, ?_, ?_⟩
  · intro i j k k' hi hj hsame
    obtain ⟨c, hc, hlock⟩ := hinv.held i _ (held_of_counting hi (hf i))
    obtain ⟨c', hc', hlock'⟩ := hinv.held j _ (held_of_counting hj (hf j))
    rw [hsame] at hlock
    obtain rfl := hinv.unique c c' _ hlock hlock'
    exact hinv.lent.exclusive i j c hc hc'
  · intro c lock hlock
    obtain ⟨i, hi⟩ := hinv.borrowed c lock hlock
    exact hinv.lent.away i c hi
  · intro hall
    apply List.eq_nil_iff_forall_not_mem.mpr
    rintro ⟨c, lock⟩ hlock
    obtain ⟨i, hi⟩ := hinv.borrowed c lock hlock
    have hfi := hf i
    cases hp : d.prog i with
    | call o k =>
      have hend := hall i
      rw [hp] at hend
      cases hend
    | done r =>
      rw [hp] at hfi
      rw [show (stage i).1 = none from hfi.1] at hi
      cases hi

end Safety

namespace Sample

/-- The digest of `key_a`, and a small limit. -/
def stores : Stores where
  sha256 _ := .ofString 64 "346efdd3ff75621b494cdf992882892b4ccd374669669b9ad3a42e0a275920b0"
    (by decide +kernel)
  limitsByTier := Dict.ofList [("free", ⟨some 2, some 10⟩)]
  fernet := none
  ttlSeconds := 300

/-- Two requests: each checks one unit of the same key. -/
def requests (_ : Fin 2) : Request CheckResult :=
  .perform (StoreCall.checkMany false "key_a" "free" 1 0)

def noRows : UsageDb := ⟨["key_a"], []⟩

def anyEffect (s : Statement) (_ : UsageDb) (_ : Except StoreExn s.Ans) (_ : UsageDb) : Prop := True

/-- The requests over a pool of two connections. -/
abbrev Runs : Process (Fin 2) (Server UsageDb) CheckResult →
    Process (Fin 2) (Server UsageDb) CheckResult → Prop :=
  Reaches 2 (ServerExec id anyEffect) resetSession

theorem use {c : Conn} {s : Statement} {free : List Conn} {b b' : Server UsageDb}
    {a : Except StoreExn s.Ans} (h : ServerExec id anyEffect c s b a b') :
    Borrow.ServeOrRefuse StoreExn.fault (ServerExec id anyEffect) resetSession (connections 2)
      (Borrow.use c s) ⟨free, b, false⟩ a ⟨free, b', false⟩ := .serve (.use h)

/-- A statement that begins or ends a transaction. -/
theorem transact {c : Conn} {s : Statement} {locks : List (Conn × Nat)} (a : s.Ans)
    (hs : Statement.locking s = false) :
    ServerExec id anyEffect c s ⟨noRows, locks⟩ (.ok a) ⟨noRows, locks⟩ :=
  .other hs trivial nofun

end Sample

open Sample in
/-- Both checks begin their transactions; the first takes the lock, and the second is denied. -/
theorem locksSafe_of_reaches_sample : ∃ d : Process (Fin 2) (Server UsageDb) CheckResult,
    d.shared.inner.locks = [(0, 2111045493)] ∧
      Counting "key_a" (d.prog 0) ∧ ¬ Counting "key_a" (d.prog 1) ∧ LocksSafe stores.sha256 d := by
  have hstart : Runs (start stores 2 ⟨noRows, []⟩ requests)
      (start stores 2 ⟨noRows, []⟩ requests) := .refl
  have hlent := hstart.tail (.call 0 rfl Borrow.serve_acquire)
  have hbegun := hlent.tail (.call 0 rfl (use (transact () rfl)))
  have hlocked := hbegun.tail (.call 0 rfl (use (.granted nofun (a := .ok true) nofun nofun)))
  have hlent' := hlocked.tail (.call 1 rfl Borrow.serve_acquire)
  have hbegun' := hlent'.tail (.call 1 rfl (use (transact () rfl)))
  have hdenied := hbegun'.tail (.call 1 rfl (use (.denied List.mem_cons_self (by decide))))
  refine ⟨_, ?_, ?_, ?_, locksSafe_of_reaches hdenied⟩
  · decide +kernel
  · rfl
  · exact id

end AsbCloudApi.Db.Pooled
