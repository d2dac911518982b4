import AsbCloudApi.Db.KeyCalls

/-!
# Concurrent usage records

Library `Db`. Any number of calls of `record` and `increment` of `src/asb_api/db/usage.py:8–38` over
one connection pool, interleaved with failures at any point. A call is one `INSERT`, so none that
has returned is missing from the table, and none is in it twice.
-/

namespace AsbCloudApi.Db.Pooled

open Base

/-- What a statement does to the usage records, at an instant of the server. Statements on other
tables answer `others` and leave them alone. -/
def usageAct (others : (s : Statement) → Except StoreExn s.Ans) :
    (s : Statement) → ℚ → UsageDb → Except StoreExn s.Ans × UsageDb
  | .insertUsage args, now, db =>
    match Db.PostgresUsageTracker.record db (args.row now) with
    | .ok db' => (.ok (), db')
    | .error e => (.error (.exn e.exn), db)
  | s, _, db => (others s, db)

/-- A call that records a scrape, with its data or without. -/
inductive UsageCall where
  | record (args : UsageArgs)
  | increment (keyId : String)

namespace UsageCall

/-- What it inserts. -/
def args : UsageCall → UsageArgs
  | .record args => args
  | .increment keyId => .ofIncrement keyId

/-- The request that makes it. -/
def request : UsageCall → Request Unit
  | .record args => .perform (StoreCall.record args)
  | .increment keyId => .perform (StoreCall.increment keyId)

private theorem performs_request (st : Stores) (call : UsageCall) :
    Once.Performs (A := Statement.Ans) (.insertUsage call.args) id
      (call.request.embed (StoreCall.prog st)) := by
  cases call with
  | record args | increment keyId =>
    unfold request
    rw [Prog.embed_perform]
    exact Once.performs_lend _

/-- A call that has been answered has started: with a connection, it would send its insert. -/
private theorem not_follows_answered {st : Stores} {call : UsageCall} {s : Statement}
    {a : Except StoreExn s.Ans} {Q : Except StoreExn Unit → Once StoreExn Statement.Ans → Prop} :
    ¬ Prog.Follows Once.discipline Q (call.request.embed (StoreCall.prog st)) (.answered s a) := by
  intro h
  cases call with
  | record | increment => cases (h.2 (.ok (0 : Conn)) trivial).1

end UsageCall

/-- Whether the columns take a row. -/
def taken (apiKeys : List String) (row : UsageRecord) : Bool :=
  (Db.PostgresUsageTracker.checkRow ⟨apiKeys, []⟩ row).isOk

/-- The insert appends a row that the columns take, and otherwise fails without an effect. -/
private theorem usageAct_insert (others : (s : Statement) → Except StoreExn s.Ans)
    (args : UsageArgs) (x : ℚ) (db : UsageDb) :
    (taken db.apiKeys (args.row x) = true ∧ usageAct others (.insertUsage args) x db =
      (.ok (), { db with usageRecords := db.usageRecords ++ [args.row x] })) ∨
    (taken db.apiKeys (args.row x) = false ∧
      ∃ error, usageAct others (.insertUsage args) x db = (.error error, db)) := by
  have hcheck : Db.PostgresUsageTracker.checkRow ⟨db.apiKeys, []⟩ (args.row x) =
      Db.PostgresUsageTracker.checkRow db (args.row x) := rfl
  unfold taken
  simp only [usageAct, Db.PostgresUsageTracker.record, hcheck]
  cases Db.PostgresUsageTracker.checkRow db (args.row x) with
  | ok _ => exact Or.inl ⟨rfl, rfl⟩
  | error e => exact Or.inr ⟨rfl, _, rfl⟩

section Concurrent

variable {I : Type} {st : Stores} {maxPool : Nat}
  {others : (s : Statement) → Except StoreExn s.Ans} (call : I → UsageCall)

/-- The table after a history: a row for each insert that the columns take. -/
private theorem replay_usageAct (db : UsageDb) (history : List (I × ℚ)) :
    replay (usageAct others) (fun i ↦ .insertUsage (call i).args) db history =
      ⟨db.apiKeys, db.usageRecords ++
        (history.filter fun p ↦ taken db.apiKeys ((call p.1).args.row p.2)).map
          fun p ↦ (call p.1).args.row p.2⟩ := by
  induction history using List.reverseRecOn with
  | nil => simp [replay]
  | append_singleton history p ih =>
    rw [replay_concat, ih, List.filter_append, List.map_append, ← List.append_assoc]
    generalize db.usageRecords ++ _ = rows
    rcases usageAct_insert others (call p.1).args p.2 ⟨db.apiKeys, rows⟩ with
      ⟨htaken, hact⟩ | ⟨htaken, error, hact⟩
    · change taken db.apiKeys ((call p.1).args.row p.2) = true at htaken
      simp [hact, htaken]
    · change taken db.apiKeys ((call p.1).args.row p.2) = false at htaken
      simp [hact, htaken]

variable (st) in
/-- Call `i` before its first step. -/
def unrecorded (i : I) : StoreProg Unit := (call i).request.embed (StoreCall.prog st)

variable (st) in
/-- What the calls leave: in some order a row for each of certain calls, behind the rows that were
there. All calls that have returned are among them, and only calls that have started. -/
structure UsageKept (db : UsageDb) (d : Process I UsageDb Unit) (order : List (I × ℚ)) : Prop where
  once : (order.map Prod.fst).Nodup
  started : ∀ p ∈ order, d.prog p.1 ≠ unrecorded st call p.1
  returned : ∀ i, d.prog i = .done (.ok ()) → i ∈ order.map Prod.fst
  table : d.shared.inner =
    ⟨db.apiKeys, db.usageRecords ++ order.map fun p ↦ (call p.1).args.row p.2⟩

variable {call} {db : UsageDb} {d : Process I UsageDb Unit}

/-- In any interleaving of calls over a pool of any size, where acquisitions, statements and
releases raise at any time and a statement may raise after its effect, no record is lost or
doubled. -/
theorem usageKept_of_reaches [DecidableEq I]
    (hr : Reaches maxPool (Effect StoreExn.fault (usageAct others)) (fun _ db ↦ db)
      (start st maxPool db fun i ↦ (call i).request) d) :
    ∃ order, UsageKept st call db d order := by
  obtain ⟨stage, hr⟩ := Prog.restage Once.discipline hr fun i ↦ .todo (.insertUsage (call i).args)
  obtain ⟨⟨history, hl⟩, hf⟩ := linear_sound hr (linear_start _ _ db)
    fun i ↦ (call i).performs_request st
  rw [List.nil_append] at hl
  refine ⟨history.filter fun p ↦ taken db.apiKeys ((call p.1).args.row p.2), ?_, ?_, ?_, ?_⟩
  · exact hl.nodup.sublist (List.filter_sublist.map Prod.fst)
  · intro p hp hunrecorded
    have hmem := (List.mem_filter.mp hp).1
    rcases hl.stages p.1 with htodo | ⟨a, ha⟩
    · exact hl.todo p.1 htodo (List.mem_map_of_mem hmem)
    · have hfp := hf p.1
      rw [hunrecorded, ha] at hfp
      exact False.elim (UsageCall.not_follows_answered hfp)
  · intro i hi
    have hfi := hf i
    rw [hi] at hfi
    obtain ⟨a, ha, -⟩ := hfi () rfl
    obtain ⟨front, x, back, hsplit, hanswer⟩ := hl.answered i a ha
    rw [replay_usageAct] at hanswer
    generalize db.usageRecords ++ _ = rows at hanswer
    change (usageAct others (.insertUsage (call i).args) x ⟨db.apiKeys, rows⟩).1 = .ok a at hanswer
    rcases usageAct_insert others (call i).args x ⟨db.apiKeys, rows⟩ with
      ⟨htaken, -⟩ | ⟨-, error, hact⟩
    · refine List.mem_map.mpr ⟨(i, x), List.mem_filter.mpr ⟨?_, htaken⟩, rfl⟩
      rw [hsplit]
      exact List.mem_append_right _ List.mem_cons_self
    · rw [hact] at hanswer
      cases hanswer
  · rw [hl.state, replay_usageAct]

end Concurrent

/-- Where the columns take a row, the server may append it. -/
private theorem insert_served {args : UsageArgs} {x : ℚ} {db : UsageDb}
    (htaken : taken db.apiKeys (args.row x) = true) :
    Effect StoreExn.fault (usageAct Sample.refusing) (0 : Conn) (.insertUsage args) db (.ok ())
      { db with usageRecords := db.usageRecords ++ [args.row x] } := by
  have hserved : Effect StoreExn.fault (usageAct Sample.refusing) (0 : Conn) (.insertUsage args)
    db _ _ := .served (x := x)
  rcases usageAct_insert Sample.refusing args x db with ⟨-, hact⟩ | ⟨hrefused, -⟩
  · rwa [hact] at hserved
  · rw [htaken] at hrefused
    cases hrefused

private def sampleCall : Bool → UsageCall
  | true => .record ⟨"key_a", "req_a", none, "success", 12, false, none⟩
  | false => .increment "key_a"

/-- A record and an increment have returned, and the rows of both are in the table. -/
theorem usageKept_of_reaches_sample : ∃ (d : Process Bool UsageDb Unit)
    (order : List (Bool × ℚ)), UsageKept Sample.keyStores sampleCall ⟨["key_a"], []⟩ d order ∧
      true ∈ order.map Prod.fst ∧ false ∈ order.map Prod.fst := by
  have hstart : Reaches 1 (Effect StoreExn.fault (usageAct Sample.refusing)) (fun _ db ↦ db)
      (start Sample.keyStores 1 ⟨["key_a"], []⟩ fun i ↦ (sampleCall i).request)
      (start Sample.keyStores 1 ⟨["key_a"], []⟩ fun i ↦ (sampleCall i).request) := .refl
  have hlent := hstart.tail (.call true rfl Borrow.serve_acquire)
  have hsent := hlent.tail (.call true rfl
    (.serve (.use (insert_served (x := 0) (by decide +kernel)))))
  have hback := hsent.tail (.call true rfl Borrow.serve_release)
  have hlent' := hback.tail (.call false rfl Borrow.serve_acquire)
  have hsent' := hlent'.tail (.call false rfl
    (.serve (.use (insert_served (x := 1) (by decide +kernel)))))
  have hback' := hsent'.tail (.call false rfl Borrow.serve_release)
  obtain ⟨order, h⟩ := usageKept_of_reaches hback'
  exact ⟨_, order, h, h.returned true rfl, h.returned false rfl⟩

end AsbCloudApi.Db.Pooled
