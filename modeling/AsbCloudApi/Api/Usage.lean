import AsbCloudApi.Base.Dict

/-!
# In-memory usage tracker

Library `Api`. Models the counters of `src/asb_api/api/usage.py`. The critical sections hold no
`await`, so a call is one step. A date is the number of its day since 1970; the code keeps
its text. A counter belongs to the last day on which it was touched.
-/

namespace AsbCloudApi.Api

open Base

/-- `UsageTracker`; `src/asb_api/api/usage.py:6–8`. -/
structure UsageTracker where
  counts : Dict String Int
  daily : Dict String Int

namespace UsageTracker

/-- `__init__`. -/
def new : UsageTracker := ⟨Dict.empty, Dict.empty⟩

/-- `_normalize_day_locked`; `src/asb_api/api/usage.py:14–18`. -/
def normalizeDay (t : UsageTracker) (keyId : String) (today : Int) : UsageTracker :=
  if t.daily.get? keyId ≠ some today then
    { counts := t.counts.set keyId 0, daily := t.daily.set keyId today }
  else t

/-- `increment`; `src/asb_api/api/usage.py:20–23`. -/
def increment (t : UsageTracker) (keyId : String) (today : Int) : UsageTracker :=
  let t := t.normalizeDay keyId today
  { t with counts := t.counts.set keyId ((t.counts.get? keyId).getD 0 + 1) }

/-- `get`; `src/asb_api/api/usage.py:25–28`. -/
def get (t : UsageTracker) (keyId : String) (today : Int) : Int × UsageTracker :=
  let t := t.normalizeDay keyId today
  ((t.counts.get? keyId).getD 0, t)

variable (t : UsageTracker) (keyId : String) (today : Int)

theorem get_fst :
    (t.get keyId today).1 =
      if t.daily.get? keyId = some today then (t.counts.get? keyId).getD 0 else 0 := by
  unfold get normalizeDay
  by_cases h : t.daily.get? keyId = some today
  · simp [h]
  · simp [h, Dict.get?_set_self]

theorem daily_normalizeDay (other : String) :
    (t.normalizeDay keyId today).daily.get? other =
      if keyId = other then some today else t.daily.get? other := by
  unfold normalizeDay
  split
  · exact Dict.get?_set _ _ _ _
  · next h =>
    split
    · next hk =>
      subst hk
      exact not_not.mp h
    · rfl

/-- The day of a key starts from nothing, and leaves the other keys alone. -/
theorem counts_normalizeDay (other : String) :
    ((t.normalizeDay keyId today).counts.get? other).getD 0 =
      if keyId = other then (t.get keyId today).1 else (t.counts.get? other).getD 0 := by
  by_cases hk : keyId = other
  · subst hk
    rw [if_pos rfl]
    rfl
  · rw [if_neg hk]
    unfold normalizeDay
    split
    · rw [Dict.get?_set, if_neg hk]
    · rfl

/-- An increment counts once for its key on its day, and for no other key. -/
theorem get_increment (other : String) :
    ((t.increment keyId today).get other today).1 =
      (t.get other today).1 + if keyId = other then 1 else 0 := by
  rw [get_fst, get_fst]
  simp only [increment, daily_normalizeDay]
  by_cases hk : keyId = other
  · subst hk
    have hcount := counts_normalizeDay t keyId today keyId
    rw [if_pos rfl, get_fst] at hcount
    rw [if_pos rfl, if_pos rfl, if_pos rfl, Dict.get?_set_self, Option.getD_some, hcount]
  · have hcount := counts_normalizeDay t keyId today other
    rw [if_neg hk] at hcount
    rw [if_neg hk, if_neg hk, Dict.get?_set, if_neg hk, hcount, Int.add_zero]

/-- A normalized key counts for that day only; the other keys are left alone. -/
theorem get_normalizeDay (other : String) (day : Int) :
    ((t.normalizeDay keyId today).get other day).1 =
      if keyId = other ∧ today ≠ day then 0 else (t.get other day).1 := by
  rw [get_fst, daily_normalizeDay, counts_normalizeDay]
  by_cases hk : keyId = other
  · subst hk
    by_cases hd : today = day
    · subst hd
      simp
    · simp [hd]
  · simp [hk, get_fst]

/-- An increment counts on its day, and leaves nothing for its key on any other. -/
theorem get_increment_day (other : String) (day : Int) :
    ((t.increment keyId today).get other day).1 =
      if keyId = other then if today = day then (t.get other day).1 + 1 else 0
      else (t.get other day).1 := by
  by_cases hk : keyId = other
  · subst hk
    by_cases hd : today = day
    · subst hd
      rw [get_increment, if_pos rfl, if_pos rfl, if_pos rfl]
    · rw [get_fst, if_pos rfl, if_neg hd]
      simp only [increment, daily_normalizeDay]
      simp [hd]
  · rw [if_neg hk, get_fst, get_fst]
    simp only [increment, daily_normalizeDay]
    rw [if_neg hk, Dict.get?_set_ne _ _ hk, counts_normalizeDay, if_neg hk]

end UsageTracker
end AsbCloudApi.Api
