import AsbCloudApi.Api.UsageReport

/-!
# Daily counts

Library `Api`. Runs of the calls of `UsageTracker`, `src/asb_api/api/usage.py:20–39`. A read or a
write of a key starts the day of that key, if a new one has come. What is shown is what a log of
the calls shows that counts the increments of the key on the day.
-/

namespace AsbCloudApi.Api

open Base UsageTracker

/-- A call of the tracker, with the clock that it reads. -/
inductive TrackerCall where
  | increment (keyId : String) (now : ℚ)
  | get (keyId : String) (now : ℚ)
  | getUsageInfo (keyId tier : String) (limitsCfg : Dict String TierCfg) (now : ℚ)

namespace TrackerCall

/-- The clock reading of a call. -/
def now : TrackerCall → ℚ
  | .increment _ now => now
  | .get _ now => now
  | .getUsageInfo _ _ _ now => now

/-- The call counts for the key on the day. -/
def counts (k : String) (day : Int) : TrackerCall → Bool
  | .increment keyId now => keyId = k ∧ today now = day
  | _ => false

end TrackerCall

/-- One call, with the count that it returns. -/
def UsageTracker.step (t : UsageTracker) : TrackerCall → Option Int × UsageTracker
  | .increment keyId now => (none, t.increment keyId (today now))
  | .get keyId now =>
    let (count, t) := t.get keyId (today now)
    (some count, t)
  | .getUsageInfo keyId tier limitsCfg now =>
    let (info, t) := t.getUsageInfo keyId tier limitsCfg now
    (some info.requestsUsed, t)

/-- The increments of a key on a day. -/
def incrementsOn (log : List TrackerCall) (k : String) (day : Int) : Nat :=
  log.countP (TrackerCall.counts k day)

/-- A log of all calls, which answers by counting. -/
def logStep (log : List TrackerCall) : TrackerCall → Option Int × List TrackerCall
  | .increment keyId now => (none, log ++ [.increment keyId now])
  | .get keyId now => (some (incrementsOn log keyId (today now)), log ++ [.get keyId now])
  | .getUsageInfo keyId tier limitsCfg now =>
    (some (incrementsOn log keyId (today now)), log ++ [.getUsageInfo keyId tier limitsCfg now])

theorem logStep_snd (log : List TrackerCall) (c : TrackerCall) :
    (logStep log c).2 = log ++ [c] := by
  cases c <;> rfl

/-! ### The tracker of a run -/

/-- The call as a move beside a limiter. Either read does to the tracker what a report does. -/
def TrackerCall.move : TrackerCall → UsageMove
  | .increment keyId now => .increment keyId now
  | .get keyId now => .getUsageInfo keyId "free" now
  | .getUsageInfo keyId tier _ now => .getUsageInfo keyId tier now

theorem now_move (c : TrackerCall) : c.move.now = c.now := by
  cases c <;> rfl

/-- Limits and answers apart, calls and moves do the same. -/
theorem tracker_move (s : Metered) (c : TrackerCall) :
    (s.step c.move).2.tracker = (s.tracker.step c).2 := by
  cases c <;> rfl

theorem tracker_moves (s : Metered) (log : List TrackerCall) :
    (final Metered.step s (log.map TrackerCall.move)).tracker =
      final UsageTracker.step s.tracker log := by
  induction log generalizing s with
  | nil => rfl
  | cons c log ih => rw [List.map_cons, final_cons, ih, tracker_move, final_cons]

/-- Either way the increments of the key on the day are counted. -/
theorem countP_incrementsOf_moves (log : List TrackerCall) (k : String) (day : Int) :
    (incrementsOf (log.map TrackerCall.move) k).countP (fun t ↦ today t = day) =
      incrementsOn log k day := by
  induction log using List.reverseRecOn with
  | nil => rfl
  | append_singleton log c ih =>
    rw [List.map_append, List.map_singleton, incrementsOf_concat, List.countP_append, ih,
      incrementsOn, incrementsOn, List.countP_append, List.countP_singleton]
    congr 1
    cases c with
    | increment keyId now =>
      simp only [TrackerCall.move, incrementsOf_increment, TrackerCall.counts]
      by_cases hk : keyId = k
      · simp [hk, List.countP_singleton]
      · simp [hk]
    | _ => rfl

/-- The count of a day is that of the log, as long as the dates have not passed it. -/
theorem get_log {log : List TrackerCall}
    (hdates : log.Pairwise fun c d ↦ today c.now ≤ today d.now) (k : String) {day : Int}
    (hday : ∀ c ∈ log, today c.now ≤ day) :
    ((final UsageTracker.step .new log).get k day).1 = incrementsOn log k day := by
  have hmoves : (log.map TrackerCall.move).Pairwise fun m n ↦ today m.now ≤ today n.now := by
    rw [List.pairwise_map]
    simpa only [now_move] using hdates
  have hpast : ∀ m ∈ log.map TrackerCall.move, today m.now ≤ day := by
    intro m hm
    obtain ⟨c, hc, rfl⟩ := List.mem_map.mp hm
    rw [now_move]
    exact hday c hc
  have hcount := get_final Dict.empty k hmoves hpast
  rw [tracker_moves, countP_incrementsOf_moves] at hcount
  exact hcount

/-! ### The answers of a run -/

/-- The tracker has had the calls of the log, and those to come are no earlier. -/
structure Logged (rest : List TrackerCall) (t : UsageTracker) (log : List TrackerCall) : Prop where
  tracker : t = final UsageTracker.step .new log
  dates : (log ++ rest).Pairwise fun c d ↦ today c.now ≤ today d.now

/-- The next call of a key is answered alike. -/
theorem Logged.get {rest log : List TrackerCall} {t : UsageTracker} {c : TrackerCall}
    (h : Logged (c :: rest) t log) (k : String) :
    (t.get k (today c.now)).1 = incrementsOn log k (today c.now) := by
  obtain ⟨hlog, -, hcross⟩ := List.pairwise_append.mp h.dates
  rw [h.tracker]
  exact get_log hlog k fun d hd ↦ hcross d hd c List.mem_cons_self

theorem Logged.step {rest log : List TrackerCall} {t : UsageTracker} {c : TrackerCall}
    (h : Logged (c :: rest) t log) : Logged rest (t.step c).2 (logStep log c).2 := by
  rw [logStep_snd]
  refine ⟨?_, ?_⟩
  · rw [final_append, h.tracker, final_cons, final_nil]
  · rw [List.append_assoc, List.singleton_append]
    exact h.dates

/-- Where the dates do not go back, the tracker answers every call of a run as the log of the run
does. -/
theorem outputs_tracker {run : List TrackerCall}
    (hdates : run.Pairwise fun c d ↦ today c.now ≤ today d.now) :
    outputs UsageTracker.step .new run = outputs logStep [] run := by
  apply outputs_eq_of_related UsageTracker.step logStep (R := Logged)
  · intro c rest t log h
    refine ⟨?_, h.step⟩
    cases c with
    | increment keyId now => rfl
    | get keyId now => exact congrArg some (h.get keyId)
    | getUsageInfo keyId tier limitsCfg now => exact congrArg some (h.get keyId)
  · exact ⟨rfl, hdates⟩

private def overMidnight : List TrackerCall :=
  [.increment "key_a" 0, .increment "key_b" 10, .get "key_a" 20, .increment "key_a" 86399,
    .getUsageInfo "key_a" "free" Dict.empty 86399, .get "key_b" 86400, .increment "key_a" 259200,
    .get "key_a" 259200]

/-- Two keys over midnight, and a day without calls. -/
theorem outputs_tracker_sample : outputs UsageTracker.step .new overMidnight =
    [none, none, some 1, none, some 2, some 0, none, some 1] := by
  rw [outputs_tracker (by decide +kernel)]
  decide +kernel

end AsbCloudApi.Api
