import AsbCloudApi.Db.AdvisoryLock

/-!
# Verdicts of concurrent checks

Library `Db`. A check counts once and, before it refuses, asks for the oldest row; inserts of other
requests may come in between. Its verdict is that of the atomic check on the rows at the
moment of the count, save that a refusal takes its reset time from the rows at a later moment.
-/

namespace AsbCloudApi.Db.Pooled

open Base Api Billing

/-- What a store method has sent and been answered. -/
abbrev Trace := List (Prog.Event StoreExn (Borrow.Ans Conn Statement.Ans))

/-- When a refusal says the window is free again, given the oldest row in it. -/
def resetFrom (windowSeconds now : ℚ) : Option ℚ → Int
  | some createdAt => pyInt (createdAt + windowSeconds)
  | none => pyInt (now + windowSeconds)

/-- The atomic check, once the lock is there: it admits what the rows leave room for. -/
theorem checkWindow_locked (db : UsageDb) (keyId : String) {maxRequests : Int}
    (hmax : maxRequests ≠ -1) (windowSeconds : ℚ) {requested : Int} (hreq : 1 ≤ requested)
    (now : ℚ) :
    Db.PostgresRateLimiter.checkWindow db ⟨none, true, true⟩ keyId maxRequests windowSeconds
        requested now =
      let n : Int := countNewer db keyId (now - windowSeconds)
      if n + requested ≤ maxRequests then
        .ok ⟨true, max 0 (maxRequests - n - requested), pyInt (now + windowSeconds)⟩
      else
        .error (.rateLimitExceeded ⟨maxRequests, max 0 (maxRequests - n),
          resetFrom windowSeconds now (oldestNewer db keyId (now - windowSeconds))⟩) := by
  have hlocked : ¬ ((!true && !true) = true) := by decide
  unfold Db.PostgresRateLimiter.checkWindow
  rw [if_neg hmax]
  dsimp only
  rw [if_neg hlocked]
  generalize hn : (countNewer db keyId (now - windowSeconds) : Int) = n
  split
  · have hzero : max 0 (maxRequests - n) = 0 := max_eq_left (by omega)
    have hno : ¬ n + requested ≤ maxRequests := by omega
    rw [if_neg hno, hzero]
    cases oldestNewer db keyId (now - windowSeconds) with
    | some createdAt => rfl
    | none => rfl
  · split
    · have hno : ¬ n + requested ≤ maxRequests := by omega
      rw [if_neg hno]
      cases oldestNewer db keyId (now - windowSeconds) with
      | some createdAt => rfl
      | none => rfl
    · have hyes : n + requested ≤ maxRequests := by omega
      rw [if_pos hyes]

section Explained

variable (keyId : String) (maxRequests : Int) (windowSeconds : ℚ) (requested : Int) (now : ℚ)

/-- The count of a key was answered. -/
def Counted (n : Nat) (trace : Trace) : Prop :=
  ∃ conn, (⟨Borrow.use conn (.countUsage keyId (now - windowSeconds)), .ok n⟩ :
    Prog.Event StoreExn (Borrow.Ans Conn Statement.Ans)) ∈ trace

/-- The oldest row of a key was answered. -/
def Oldest (o : Option ℚ) (trace : Trace) : Prop :=
  ∃ conn, (⟨Borrow.use conn (.oldestUsage keyId (now - windowSeconds)), .ok o⟩ :
    Prog.Event StoreExn (Borrow.Ans Conn Statement.Ans)) ∈ trace

/-- The lock was refused. -/
def Denied (lock : Nat) (trace : Trace) : Prop :=
  ∃ conn, (⟨Borrow.use conn (.tryAdvisoryLock lock), .ok false⟩ :
    Prog.Event StoreExn (Borrow.Ans Conn Statement.Ans)) ∈ trace

/-- Something raised a refusal of its own, which nothing does. -/
def Dishonest (trace : Trace) : Prop :=
  ∃ ev ∈ trace, ∃ e, ev.2 = .error (.limit e)

/-- What the outcome of a window check rests on, among what it was answered. -/
def Explained (lock : Nat) (r : Except StoreExn CheckResult) (trace : Trace) : Prop :=
  Dishonest trace ∨
    match r with
    | .ok res => ∃ n, Counted keyId windowSeconds now n trace ∧ n + requested ≤ maxRequests ∧
        res = ⟨true, max 0 (maxRequests - n - requested), pyInt (now + windowSeconds)⟩
    | .error (.limit (.rateLimitExceeded e)) =>
      Denied lock trace ∧ e = ⟨maxRequests, 0, pyInt (now + windowSeconds)⟩ ∨
        ∃ n o, Counted keyId windowSeconds now n trace ∧ Oldest keyId windowSeconds now o trace ∧
          maxRequests < n + requested ∧
          e = ⟨maxRequests, max 0 (maxRequests - n), resetFrom windowSeconds now o⟩
    | .error _ => True

variable {keyId maxRequests windowSeconds requested now} {lock : Nat}

/-- An answer given later changes nothing. -/
theorem Explained.snoc {r : Except StoreExn CheckResult} {trace : Trace}
    (h : Explained keyId maxRequests windowSeconds requested now lock r trace)
    (ev : Prog.Event StoreExn (Borrow.Ans Conn Statement.Ans)) :
    Explained keyId maxRequests windowSeconds requested now lock r (trace ++ [ev]) := by
  have hmem : ∀ x ∈ trace, x ∈ trace ++ [ev] := fun x hx ↦ List.mem_append_left _ hx
  have hcounted : ∀ n, Counted keyId windowSeconds now n trace →
      Counted keyId windowSeconds now n (trace ++ [ev]) := fun n ⟨c, hc⟩ ↦ ⟨c, hmem _ hc⟩
  rcases h with ⟨x, hx, e, he⟩ | h
  · exact .inl ⟨x, hmem x hx, e, he⟩
  · right
    rcases r with ((e | e) | e | _) | res
    · rcases h with ⟨⟨c, hc⟩, he⟩ | ⟨n, o, hn, ⟨c, hc⟩, hfull, he⟩
      · exact .inl ⟨⟨c, hmem _ hc⟩, he⟩
      · exact .inr ⟨n, o, hcounted n hn, ⟨c, hmem _ hc⟩, hfull, he⟩
    · trivial
    · trivial
    · trivial
    · obtain ⟨n, hn, hroom, hres⟩ := h
      exact ⟨n, hcounted n hn, hroom, hres⟩

/-- What an operation raises explains itself. -/
theorem explained_error {o : Borrow Conn Statement} {trace : Trace} (e : StoreExn)
    (h : (⟨o, .error e⟩ : Prog.Event StoreExn (Borrow.Ans Conn Statement.Ans)) ∈ trace) :
    Explained keyId maxRequests windowSeconds requested now lock (.error e) trace := by
  rcases e with e | e | _
  · exact .inl ⟨_, h, e, rfl⟩
  · exact .inr trivial
  · exact .inr trivial

/-- Whatever has been answered so far, the outcome of the coroutine is explained at its end. -/
abbrev Explains (keyId : String) (maxRequests : Int) (windowSeconds : ℚ) (requested : Int)
    (now : ℚ) (lock : Nat) (p : StoreProg CheckResult) (trace : Trace) : Prop :=
  Prog.Follows Prog.Protocol.traced
    (fun r trace ↦ Explained keyId maxRequests windowSeconds requested now lock r trace) p trace

/-- A coroutine that sends a statement first: its exception explains itself. -/
private theorem explains_call {o : Borrow Conn Statement}
    {k : Except StoreExn (Borrow.Ans Conn Statement.Ans o) → StoreProg CheckResult} {trace : Trace}
    (hok : ∀ a, Explains keyId maxRequests windowSeconds requested now lock (k (.ok a))
      (trace ++ [⟨o, .ok a⟩])) (herr : ∀ e, k (.error e) = .raise e) :
    Explains keyId maxRequests windowSeconds requested now lock (.call o k) trace := by
  refine ⟨trivial, fun a _ ↦ ?_⟩
  cases a with
  | ok a => exact hok a
  | error e =>
    rw [herr e]
    exact explained_error (o := o) e (List.mem_append_right _ List.mem_cons_self)

/-- Of the verdict on a count. -/
theorem explains_judge (hreq : 1 ≤ requested) {conn : Conn} {n : Nat} {trace : Trace}
    (hn : Counted keyId windowSeconds now n trace) :
    Explains keyId maxRequests windowSeconds requested now lock
      (PostgresRateLimiter.judge conn keyId maxRequests windowSeconds requested now n) trace := by
  have hrefuse : ∀ (remaining : Int), maxRequests < n + requested →
      remaining = max 0 (maxRequests - n) → ∀ o, Explained keyId maxRequests windowSeconds
        requested now lock (.error (.limit (.rateLimitExceeded ⟨maxRequests, remaining,
          resetFrom windowSeconds now o⟩)))
        (trace ++ [⟨Borrow.use conn (.oldestUsage keyId (now - windowSeconds)), .ok o⟩]) := by
    rintro _ hfull rfl o
    obtain ⟨c, hc⟩ := hn
    exact .inr (.inr ⟨n, o, ⟨c, List.mem_append_left _ hc⟩,
      ⟨conn, List.mem_append_right _ List.mem_cons_self⟩, hfull, rfl⟩)
  unfold PostgresRateLimiter.judge
  dsimp only
  split
  · next hfull =>
    refine explains_call (fun o ↦ ?_) fun _ ↦ rfl
    have h := hrefuse 0 (by omega) (max_eq_left (by omega)).symm o
    cases o <;> exact h
  · split
    · next hroom =>
      refine explains_call (fun o ↦ ?_) fun _ ↦ rfl
      have h := hrefuse _ (by omega) rfl o
      cases o <;> exact h
    · exact .inr ⟨n, hn, by omega, rfl⟩

/-- Of a transaction around an explained body. -/
theorem explains_transaction {conn : Conn} {body : StoreProg CheckResult}
    (h : ∀ trace, Explains keyId maxRequests windowSeconds requested now lock body trace)
    (trace : Trace) : Explains keyId maxRequests windowSeconds requested now lock
      (PostgresRateLimiter.transaction conn body) trace := by
  refine explains_call (fun _ ↦ ?_) fun _ ↦ rfl
  apply (h _).resume
  intro r trace hr
  cases r with
  | ok a => exact explains_call (fun _ ↦ hr.snoc _) fun _ ↦ rfl
  | error e => exact explains_call (fun _ ↦ hr.snoc _) fun _ ↦ rfl

/-- Of a window check over a connection. -/
theorem explains_checkWindow (hreq : 1 ≤ requested) (conn : Conn) (trace : Trace) :
    Explains keyId maxRequests windowSeconds requested now lock
      (PostgresRateLimiter.checkWindow conn lock keyId maxRequests windowSeconds requested now)
      trace := by
  apply explains_transaction
  intro trace
  have hcount : ∀ trace, Explains keyId maxRequests windowSeconds requested now lock
      (Prog.tryFinally (send conn (.countUsage keyId (now - windowSeconds)) >>= fun n ↦
        PostgresRateLimiter.judge conn keyId maxRequests windowSeconds requested now n)
        (send conn (.advisoryUnlock lock))) trace := by
    intro trace
    apply Prog.Follows.resume (Q := fun r trace ↦
      Explained keyId maxRequests windowSeconds requested now lock r trace)
    · refine explains_call (fun n ↦ ?_) fun _ ↦ rfl
      exact explains_judge hreq ⟨conn, List.mem_append_right _ List.mem_cons_self⟩
    · exact fun r trace hr ↦ explains_call (fun _ ↦ hr.snoc _) fun _ ↦ rfl
  have hdenied : ∀ trace, Denied lock trace → Explains keyId maxRequests windowSeconds requested
      now lock (.raise (.limit (.rateLimitExceeded
        ⟨maxRequests, 0, pyInt (now + windowSeconds)⟩))) trace :=
    fun _ h ↦ .inr (.inl ⟨h, rfl⟩)
  refine explains_call (fun acquired ↦ ?_) fun _ ↦ rfl
  cases acquired with
  | true => exact hcount _
  | false =>
    refine explains_call (fun _ ↦ ?_) fun _ ↦ rfl
    refine explains_call (fun acquired ↦ ?_) fun _ ↦ rfl
    cases acquired with
    | true => exact hcount _
    | false => exact hdenied _ ⟨conn, List.mem_append_right _ List.mem_cons_self⟩

end Explained

/-- The overage check never refuses for the rate limit. -/
theorem follows_checkTracked (tracked : Bool) (keyId tier : String) (now : ℚ) (trace : Trace) :
    Prog.Follows Prog.Protocol.traced
      (fun r _ ↦ ∀ e, r ≠ .error (.limit (.rateLimitExceeded e)))
      (PostgresRateLimiter.checkTracked tracked keyId tier now) trace := by
  unfold PostgresRateLimiter.checkTracked
  split
  · have hignored : Prog.Follows Prog.Protocol.traced
        (fun r _ ↦ ∀ e, r ≠ .error (.limit (.rateLimitExceeded e)))
        (ignoring (PostgresUsageTracker.checkOverage keyId tier now)) trace := by
      apply (Prog.follows_traced _ trace).resume
      intro r trace _
      rcases r with (e | e | _) | a <;> exact nofun
    apply hignored.bind
    · intro answer trace _
      split
      · exact nofun
      · exact nofun
    · intro e trace he e' h
      exact he e' (congrArg Except.error (Except.error.inj h))
  · exact nofun

/-- What the outcome of a check rests on; a tier without a limit is admitted as it is. -/
def CheckExplained (st : Stores) (keyId tier : String) (count : Int) (now : ℚ)
    (r : Except StoreExn CheckResult) (trace : Trace) : Prop :=
  let limits := getLimits st.limitsByTier tier
  if limits.1 = -1 then
    (∀ res, r = .ok res → res = ⟨true, -1, 0⟩) ∧
      ∀ e, r ≠ .error (.limit (.rateLimitExceeded e))
  else Explained keyId limits.1 limits.2 (max 1 count) now
    (PostgresRateLimiter.lockId st.sha256 keyId) r trace

/-- Of a whole check. -/
theorem follows_checkMany_explained (st : Stores) (tracked : Bool) (keyId tier : String)
    (count : Int) (now : ℚ) (trace : Trace) : Prog.Follows Prog.Protocol.traced
      (CheckExplained st keyId tier count now)
      (PostgresRateLimiter.checkMany st.sha256 st.limitsByTier tracked keyId tier count now)
      trace := by
  unfold PostgresRateLimiter.checkMany
  apply (follows_checkTracked tracked keyId tier now trace).bind
  · intro _ trace _
    unfold CheckExplained
    rcases getLimits st.limitsByTier tier with ⟨maxRequests, windowSeconds⟩
    dsimp only
    by_cases hmax : maxRequests = -1
    · simp only [if_pos hmax]
      exact ⟨fun res h ↦ (Except.ok.inj h).symm, nofun⟩
    · simp only [if_neg hmax]
      refine explains_call (fun conn ↦ ?_) fun _ ↦ rfl
      apply (explains_checkWindow (le_max_left 1 count) conn _).resume
      exact fun r trace hr ↦ explains_call (fun _ ↦ hr.snoc _) fun _ ↦ rfl
  · intro e trace he
    have hno : ∀ e', (Except.error e : Except StoreExn CheckResult) ≠
        .error (.limit (.rateLimitExceeded e')) :=
      fun e' h ↦ he e' (congrArg Except.error (Except.error.inj h))
    unfold CheckExplained
    dsimp only
    split
    · exact ⟨nofun, hno⟩
    · right
      rcases e with (e | e) | e | _
      · exact False.elim (hno e rfl)
      · trivial
      · trivial
      · trivial

/-! ### What the server answered -/

section Served

variable {T : Type} {rows : T → UsageDb}
  {others : (s : Statement) → T → Except StoreExn s.Ans → T → Prop} {all : List Conn}
  {p p' : Borrow.Pool Conn (Server T)} {conn : Conn}

/-- Neither the server nor the pool refuses for the rate limit. -/
theorem honest_of_served {o : Borrow Conn Statement}
    {a : Except StoreExn (Borrow.Ans Conn Statement.Ans o)} (h : Borrow.ServeOrRefuse StoreExn.fault
      (ServerExec rows others) resetSession all o p a p') : Borrow.Honest StoreExn.fault a := by
  have herror : ∀ {β : Type} {e : StoreExn}, e.fault →
      Borrow.Honest StoreExn.fault (.error e : Except StoreExn β) := by
    rintro β e he e' heq
    cases heq
    exact he
  cases h with
  | refuse he => exact herror he
  | serve h =>
    cases h with
    | lend => exact nofun
    | gone he | lost he => exact herror he
    | back ha | pause ha => exact ha
    | close _ ha => exact ha
    | use hu =>
      cases hu with
      | granted _ _ hf => exact hf
      | unlocked hf => exact hf
      | denied | counted | oldest => exact nofun
      | other _ _ hf => exact hf
      | failed he => exact herror he

/-- A count is that of the rows at that moment. -/
theorem count_of_served {keyId : String} {cutoff : ℚ} {n : Nat}
    (h : Borrow.ServeOrRefuse StoreExn.fault (ServerExec rows others) resetSession all
      (.use conn (.countUsage keyId cutoff)) p (.ok n) p') :
    n = countNewer (rows p.inner.tables) keyId cutoff := by
  cases h with
  | serve h =>
    cases h with
    | use hu =>
      cases hu with
      | counted => rfl
      | other hs => cases hs

/-- As is the oldest row. -/
theorem oldest_of_served {keyId : String} {cutoff : ℚ} {o : Option ℚ}
    (h : Borrow.ServeOrRefuse StoreExn.fault (ServerExec rows others) resetSession all
      (.use conn (.oldestUsage keyId cutoff)) p (.ok o) p') :
    o = oldestNewer (rows p.inner.tables) keyId cutoff := by
  cases h with
  | serve h =>
    cases h with
    | use hu =>
      cases hu with
      | oldest => rfl
      | other hs => cases hs

/-- A lock is refused to a session because another session has it. -/
theorem taken_of_served {lock : Nat}
    (h : Borrow.ServeOrRefuse StoreExn.fault (ServerExec rows others) resetSession all
      (.use conn (.tryAdvisoryLock lock)) p (.ok false) p') :
    ∃ c, c ≠ conn ∧ (c, lock) ∈ p.inner.locks := by
  cases h with
  | serve h =>
    cases h with
    | use hu =>
      cases hu with
      | granted _ hne => exact False.elim (hne rfl)
      | denied hc hne => exact ⟨_, hne, hc⟩
      | other hs => cases hs

end Served

section Verdict

variable {I T : Type} [DecidableEq I] {st : Stores} {maxPool : Nat} {rows : T → UsageDb}
  {others : (s : Statement) → T → Except StoreExn s.Ans → T → Prop} {tables : T}
  {requests : I → Request CheckResult} {d : Process I (Server T) CheckResult}

variable (maxPool rows others) in
/-- A moment of a run. -/
def Moment (c d b : Process I (Server T) CheckResult) : Prop :=
  Reaches maxPool (ServerExec rows others) resetSession c b ∧
    Reaches maxPool (ServerExec rows others) resetSession b d

/-- The outcome of a check is explained by answers that were right at some moments of the run. -/
theorem explained_of_ended {i : I} {tracked : Bool} {keyId tier : String} {count : Int} {now : ℚ}
    {r : Except StoreExn CheckResult}
    (hi : requests i = .perform (StoreCall.checkMany tracked keyId tier count now))
    (hr : Reaches maxPool (ServerExec rows others) resetSession
      (start st maxPool ⟨tables, []⟩ requests) d) (hd : d.prog i = .done r) :
    let moment := Moment maxPool rows others (start st maxPool ⟨tables, []⟩ requests) d
    let windowSeconds := (getLimits st.limitsByTier tier).2
    ∃ trace, CheckExplained st keyId tier count now r trace ∧ ¬ Dishonest trace ∧
      (∀ n, Counted keyId windowSeconds now n trace → ∃ b, moment b ∧
        n = countNewer (rows b.shared.inner.tables) keyId (now - windowSeconds)) ∧
      (∀ o, Oldest keyId windowSeconds now o trace → ∃ b, moment b ∧
        o = oldestNewer (rows b.shared.inner.tables) keyId (now - windowSeconds)) ∧
      ∀ lock, Denied lock trace → ∃ b c, moment b ∧ (c, lock) ∈ b.shared.inner.locks := by
  have hprog : (start (I := I) st maxPool (⟨tables, []⟩ : Server T) requests).prog i =
      PostgresRateLimiter.checkMany st.sha256 st.limitsByTier tracked keyId tier count now := by
    change (requests i).embed _ = _
    rw [hi]
    exact Prog.embed_perform _ _
  obtain ⟨trace, hexpl, hserved⟩ := Prog.ended_trace hr
    (hprog ▸ follows_checkMany_explained st tracked keyId tier count now []) hd
  refine ⟨trace, hexpl, ?_, ?_, ?_, ?_⟩
  · rintro ⟨ev, hev, e, he⟩
    obtain ⟨b, p', -, hs, -⟩ := hserved ev hev
    exact honest_of_served hs _ he
  · rintro n ⟨conn, hc⟩
    obtain ⟨b, p', hcb, hs, hbd⟩ := hserved _ hc
    exact ⟨b, ⟨hcb, hbd⟩, count_of_served hs⟩
  · rintro o ⟨conn, hc⟩
    obtain ⟨b, p', hcb, hs, hbd⟩ := hserved _ hc
    exact ⟨b, ⟨hcb, hbd⟩, oldest_of_served hs⟩
  · rintro lock ⟨conn, hc⟩
    obtain ⟨b, p', hcb, hs, hbd⟩ := hserved _ hc
    obtain ⟨c, -, hlock⟩ := taken_of_served hs
    exact ⟨b, c, ⟨hcb, hbd⟩, hlock⟩

/-- Whatever other requests do in between, an admitted check was admitted by the rows of one moment
of the run; a refused one found its lock taken, or was refused by the rows of one moment, with
the reset time of another. -/
theorem checkMany_verdict {i : I} {tracked : Bool} {keyId tier : String} {count : Int} {now : ℚ}
    (hi : requests i = .perform (StoreCall.checkMany tracked keyId tier count now))
    (hr : Reaches maxPool (ServerExec rows others) resetSession
      (start st maxPool ⟨tables, []⟩ requests) d) :
    let moment := Moment maxPool rows others (start st maxPool ⟨tables, []⟩ requests) d
    let atomic (b : Process I (Server T) CheckResult) (locked : Bool) :=
      Db.PostgresRateLimiter.checkMany st.limitsByTier (rows b.shared.inner.tables)
        ⟨none, locked, locked⟩ keyId tier count now
    let reset (b : Process I (Server T) CheckResult) :=
      let windowSeconds := (getLimits st.limitsByTier tier).2
      resetFrom windowSeconds now
        (oldestNewer (rows b.shared.inner.tables) keyId (now - windowSeconds))
    (∀ res, d.prog i = .done (.ok res) → ∃ b, moment b ∧ atomic b true = .ok res) ∧
    ∀ e, d.prog i = .done (.error (.limit (.rateLimitExceeded e))) →
      (∃ b c, moment b ∧ (c, PostgresRateLimiter.lockId st.sha256 keyId) ∈ b.shared.inner.locks ∧
        atomic b false = .error (.rateLimitExceeded e)) ∨
      ∃ b b', moment b ∧ moment b' ∧
        atomic b true = .error (.rateLimitExceeded { e with resetAt := reset b }) ∧
        e.resetAt = reset b' := by
  intro moment atomic reset
  have hatomic : ∀ b locked, atomic b locked = Db.PostgresRateLimiter.checkWindow
      (rows b.shared.inner.tables) ⟨none, locked, locked⟩ keyId (getLimits st.limitsByTier tier).1
      (getLimits st.limitsByTier tier).2 (max 1 count) now := fun _ _ ↦ rfl
  constructor
  · intro res hd
    obtain ⟨trace, hexpl, hhonest, hcount, -, -⟩ := explained_of_ended hi hr hd
    unfold CheckExplained at hexpl
    dsimp only at hexpl hcount
    by_cases hmax : (getLimits st.limitsByTier tier).1 = -1
    · rw [if_pos hmax] at hexpl
      obtain rfl := hexpl.1 res rfl
      refine ⟨_, ⟨.refl, hr⟩, ?_⟩
      rw [hatomic, Db.PostgresRateLimiter.checkWindow, if_pos hmax]
    · rw [if_neg hmax] at hexpl
      obtain ⟨n, hn, hroom, rfl⟩ := hexpl.resolve_left hhonest
      obtain ⟨b, hb, rfl⟩ := hcount n hn
      refine ⟨b, hb, ?_⟩
      rw [hatomic, checkWindow_locked _ _ hmax _ (le_max_left 1 count)]
      exact if_pos hroom
  · intro e hd
    obtain ⟨trace, hexpl, hhonest, hcount, holdest, htaken⟩ := explained_of_ended hi hr hd
    unfold CheckExplained at hexpl
    dsimp only at hexpl hcount holdest
    by_cases hmax : (getLimits st.limitsByTier tier).1 = -1
    · rw [if_pos hmax] at hexpl
      exact False.elim (hexpl.2 e rfl)
    · rw [if_neg hmax] at hexpl
      rcases hexpl.resolve_left hhonest with ⟨hdenied, rfl⟩ | ⟨n, o, hn, ho, hfull, rfl⟩
      · obtain ⟨b, c, hb, hc⟩ := htaken _ hdenied
        refine .inl ⟨b, c, hb, hc, ?_⟩
        rw [hatomic, Db.PostgresRateLimiter.checkWindow, if_neg hmax]
        rfl
      · obtain ⟨b, hb, rfl⟩ := hcount n hn
        obtain ⟨b', hb', rfl⟩ := holdest o ho
        refine .inr ⟨b, b', hb, hb', ?_, rfl⟩
        rw [hatomic, checkWindow_locked _ _ hmax _ (le_max_left 1 count)]
        exact if_neg (not_le.mpr hfull)

end Verdict

/-! ### A sample run -/

section SampleRun

open Sample

/-- The second check finds the lock taken twice and is refused; the first one then counts, and is
admitted with room for one unit more. -/
private theorem sample_ends : ∃ (d : Process (Fin 2) (Server UsageDb) CheckResult)
    (res : CheckResult) (e : RateLimitExceeded), Runs (start stores 2 ⟨noRows, []⟩ requests) d ∧
    d.prog 0 = .done (.ok res) ∧ d.prog 1 = .done (.error (.limit (.rateLimitExceeded e))) ∧
    res.remaining = 1 := by
  have hstart : Runs (start stores 2 ⟨noRows, []⟩ requests)
      (start stores 2 ⟨noRows, []⟩ requests) := .refl
  have hlent := hstart.tail (.call 0 rfl Borrow.serve_acquire)
  have hbegun := hlent.tail (.call 0 rfl (use (transact () rfl)))
  have hlocked := hbegun.tail (.call 0 rfl (use (.granted nofun (a := .ok true) nofun nofun)))
  have hlent' := hlocked.tail (.call 1 rfl Borrow.serve_acquire)
  have hbegun' := hlent'.tail (.call 1 rfl (use (transact () rfl)))
  have hdenied := hbegun'.tail (.call 1 rfl (use (.denied List.mem_cons_self (by decide))))
  have hpaused := hdenied.tail (.call 1 rfl (.serve (.pause (a := .ok ()) nofun)))
  have hrefused := hpaused.tail (.call 1 rfl (use (.denied List.mem_cons_self (by decide))))
  have hundone := hrefused.tail (.call 1 rfl (use (transact () rfl)))
  have hback' := hundone.tail (.call 1 rfl Borrow.serve_release)
  have hcounted := hback'.tail (.call 0 rfl (use .counted))
  have hunlocked := hcounted.tail (.call 0 rfl (use (.unlocked (a := .ok ()) nofun)))
  have hcommitted := hunlocked.tail (.call 0 rfl (use (transact () rfl)))
  have hback := hcommitted.tail (.call 0 rfl Borrow.serve_release)
  exact ⟨_, _, _, hback, rfl, rfl, rfl⟩

/-- Each verdict is that of the atomic check at some moment, but for the reset time of a refusal. -/
theorem checkMany_verdict_sample : ∃ (d : Process (Fin 2) (Server UsageDb) CheckResult)
    (res : CheckResult) (e : RateLimitExceeded), d.prog 0 = .done (.ok res) ∧
      d.prog 1 = .done (.error (.limit (.rateLimitExceeded e))) ∧ res.remaining = 1 ∧
      (∃ b, Moment 2 id anyEffect (start stores 2 ⟨noRows, []⟩ requests) d b ∧
        Db.PostgresRateLimiter.checkMany stores.limitsByTier b.shared.inner.tables
          ⟨none, true, true⟩ "key_a" "free" 1 0 = .ok res) ∧
      ∃ b locked resetAt, Moment 2 id anyEffect (start stores 2 ⟨noRows, []⟩ requests) d b ∧
        Db.PostgresRateLimiter.checkMany stores.limitsByTier b.shared.inner.tables
          ⟨none, locked, locked⟩ "key_a" "free" 1 0 =
            .error (.rateLimitExceeded { e with resetAt := resetAt }) := by
  obtain ⟨d, res, e, hr, hd, hd', hone⟩ := sample_ends
  have hi (i) : requests i = .perform (StoreCall.checkMany false "key_a" "free" 1 0) := rfl
  refine ⟨d, res, e, hd, hd', hone, (checkMany_verdict (hi 0) hr).1 res hd, ?_⟩
  rcases (checkMany_verdict (hi 1) hr).2 e hd' with ⟨b, -, hb, -, hdenied⟩ | ⟨b, -, hb, -, hfull, -⟩
  · exact ⟨b, false, e.resetAt, hb, hdenied⟩
  · exact ⟨b, true, _, hb, hfull⟩

end SampleRun

end AsbCloudApi.Db.Pooled
