import AsbCloudApi.Base.Text
import Mathlib.Algebra.Order.Ring.Int
import Mathlib.Tactic.Ring

/-!
# The calendar

Library `Base`. Days are numbered from 1 January 1970, in the proleptic Gregorian calendar. The
year of a day is found by whole cycles of years, and its month by the lengths of the months,
as `datetime` does it; a month is then an interval of days that holds each of its days.
-/

namespace AsbCloudApi.Base

/-- A leap year. -/
def isLeap (year : Int) : Bool := year % 4 = 0 ∧ (year % 100 ≠ 0 ∨ year % 400 = 0)

/-- Days from 1 January 0001 to the first day of a year. -/
def daysBeforeYear (year : Int) : Int :=
  365 * (year - 1) + (year - 1) / 4 - (year - 1) / 100 + (year - 1) / 400

/-- The lengths of the months of a year. -/
def monthLengths (leap : Bool) : List Int :=
  [31, if leap then 29 else 28, 31, 30, 31, 30, 31, 31, 30, 31, 30, 31]

/-- The year of a day, and the days of the year before it. A cycle of 400 years or of 4 years has
a day more than its parts, which belongs to the last of them. -/
def yearAndRest (day : Int) : Int × Int :=
  let n := day + 719162
  let n400 := n / 146097
  let n := n % 146097
  let n100 := min 3 (n / 36524)
  let n := n - 36524 * n100
  let n4 := n / 1461
  let n := n % 1461
  let n1 := min 3 (n / 365)
  (400 * n400 + 100 * n100 + 4 * n4 + n1 + 1, n - 365 * n1)

/-- The month that holds a day of a year, counted from zero, and the days of the month before. -/
def monthAndRest : List Int → Int → Nat × Int
  | [], n => (0, n)
  | length :: lengths, n =>
    if n < length then (0, n)
    else
      let (month, rest) := monthAndRest lengths (n - length)
      (month + 1, rest)

/-- A month of a year. -/
@[ext]
structure Month where
  year : Int
  /-- The months before it in its year. -/
  number : Nat
  deriving DecidableEq

namespace Month

/-- The first day. -/
def first (m : Month) : Int :=
  daysBeforeYear m.year + ((monthLengths (isLeap m.year)).take m.number).sum - 719162

def length (m : Month) : Int := (monthLengths (isLeap m.year))[m.number]?.getD 0

/-- The day lies in the month. -/
def contains (m : Month) (day : Int) : Prop := m.first ≤ day ∧ day < m.first + m.length

instance (m : Month) (day : Int) : Decidable (m.contains day) := inferInstanceAs (Decidable (_ ∧ _))

/-- The month of a day. -/
def of (day : Int) : Month :=
  let (year, rest) := yearAndRest day
  ⟨year, (monthAndRest (monthLengths (isLeap year)) rest).1⟩

end Month

/-- A number below 100 by two digits. -/
def twoDigits (n : Nat) : String := String.ofList [Nat.digitChar (n / 10), Nat.digitChar (n % 10)]

/-- `strftime("%Y-%m-%d")` on a day. -/
def isoDate (day : Int) : String :=
  let month := Month.of day
  toString month.year ++ "-" ++ twoDigits (month.number + 1) ++ "-" ++
    twoDigits ((day - month.first).toNat + 1)

theorem sum_monthLengths (leap : Bool) : (monthLengths leap).sum = if leap then 366 else 365 := by
  cases leap <;> rfl

section Cycles

variable {a b c d : Int} (hb : 0 ≤ b ∧ b < 4) (hc : 0 ≤ c ∧ c < 25) (hd : 0 ≤ d ∧ d < 4)
include hb hc hd

/-- The days before a year, by the cycles of 400, 100, 4 and 1 years that it stands after. -/
theorem daysBeforeYear_cycles : daysBeforeYear (400 * a + 100 * b + 4 * c + d + 1) =
    146097 * a + 36524 * b + 1461 * c + 365 * d := by
  have h4 : (400 * a + 100 * b + 4 * c + d) / 4 = 100 * a + 25 * b + c := by omega
  have h100 : (400 * a + 100 * b + 4 * c + d) / 100 = 4 * a + b := by omega
  have h400 : (400 * a + 100 * b + 4 * c + d) / 400 = a := by omega
  rw [daysBeforeYear, Int.add_sub_cancel, h4, h100, h400]
  ring

/-- A leap year is the last of a cycle of 4 years, but of the last such cycle of 100 years only
if that is the last one of 400. -/
theorem isLeap_cycles : isLeap (400 * a + 100 * b + 4 * c + d + 1) = true ↔
    d = 3 ∧ (c = 24 → b = 3) := by
  have h4 : (400 * a + 100 * b + 4 * c + d + 1) % 4 = 0 ↔ d = 3 := by omega
  have h100 : (400 * a + 100 * b + 4 * c + d + 1) % 100 = 0 ↔ c = 24 ∧ d = 3 := by omega
  have h400 : (400 * a + 100 * b + 4 * c + d + 1) % 400 = 0 ↔ b = 3 ∧ c = 24 ∧ d = 3 := by omega
  simp only [isLeap, decide_eq_true_eq, ne_eq, h4, h100, h400]
  tauto

end Cycles

/-- The rest is a day of the year. -/
theorem yearAndRest_spec (day : Int) :
    daysBeforeYear (yearAndRest day).1 + (yearAndRest day).2 = day + 719162 ∧
      0 ≤ (yearAndRest day).2 ∧
      (yearAndRest day).2 < (monthLengths (isLeap (yearAndRest day).1)).sum := by
  obtain ⟨a, ha⟩ : ∃ a, a = (day + 719162) / 146097 := ⟨_, rfl⟩
  obtain ⟨b, hb⟩ : ∃ b, b = min 3 ((day + 719162) % 146097 / 36524) := ⟨_, rfl⟩
  obtain ⟨c, hc⟩ : ∃ c, c = ((day + 719162) % 146097 - 36524 * b) / 1461 := ⟨_, rfl⟩
  obtain ⟨d, hd⟩ : ∃ d, d = min 3 (((day + 719162) % 146097 - 36524 * b) % 1461 / 365) := ⟨_, rfl⟩
  have hyear : yearAndRest day = (400 * a + 100 * b + 4 * c + d + 1,
      ((day + 719162) % 146097 - 36524 * b) % 1461 - 365 * d) := by
    rw [hd, hc, hb, ha]
    rfl
  have hb4 : 0 ≤ b ∧ b < 4 := by omega
  have hc25 : 0 ≤ c ∧ c < 25 := by omega
  have hd4 : 0 ≤ d ∧ d < 4 := by omega
  rw [hyear]
  dsimp only
  rw [daysBeforeYear_cycles hb4 hc25 hd4, sum_monthLengths]
  refine ⟨by omega, by omega, ?_⟩
  split
  · omega
  · next hleap =>
    rw [isLeap_cycles hb4 hc25 hd4] at hleap
    omega

/-- The rest is a day of the month. -/
theorem monthAndRest_spec {lengths : List Int} {n : Int} (hlow : 0 ≤ n) (hhigh : n < lengths.sum) :
    ∃ length, lengths[(monthAndRest lengths n).1]? = some length ∧
      (lengths.take (monthAndRest lengths n).1).sum + (monthAndRest lengths n).2 = n ∧
      0 ≤ (monthAndRest lengths n).2 ∧ (monthAndRest lengths n).2 < length := by
  induction lengths generalizing n with
  | nil => exact absurd hhigh (not_lt.mpr hlow)
  | cons length lengths ih =>
    unfold monthAndRest
    split
    · next hlt => exact ⟨length, rfl, by simp, hlow, hlt⟩
    · next hge =>
      rw [List.sum_cons] at hhigh
      obtain ⟨l, hl, hsum, hrest⟩ := ih (n := n - length) (by omega) (by omega)
      refine ⟨l, hl, ?_, hrest⟩
      dsimp only
      rw [List.take_succ_cons, List.sum_cons]
      omega

/-- The month of a day holds it. -/
theorem Month.contains_of (day : Int) : (Month.of day).contains day := by
  obtain ⟨hday, hlow, hhigh⟩ := yearAndRest_spec day
  obtain ⟨length, hlength, hsum, hrest⟩ := monthAndRest_spec hlow hhigh
  have hlen : (Month.of day).length = length := congrArg (Option.getD · 0) hlength
  have hfirst : (Month.of day).first = daysBeforeYear (yearAndRest day).1 +
      (((monthLengths (isLeap (yearAndRest day).1)).take (monthAndRest
        (monthLengths (isLeap (yearAndRest day).1)) (yearAndRest day).2).1).sum) - 719162 := rfl
  rw [contains, hlen]
  omega

theorem Month.number_of_lt (day : Int) : (Month.of day).number < 12 := by
  obtain ⟨-, hlow, hhigh⟩ := yearAndRest_spec day
  obtain ⟨length, hlength, -⟩ := monthAndRest_spec hlow hhigh
  exact (List.getElem?_eq_some_iff.mp hlength).1

theorem Month.length_le (m : Month) : m.length ≤ 31 := by
  have hall (leap : Bool) : ∀ n ∈ monthLengths leap, n ≤ 31 := by
    cases leap <;> decide
  cases h : (monthLengths (isLeap m.year))[m.number]? with
  | none => simp [length, h]
  | some n =>
    rw [length, h]
    exact hall _ n (List.mem_of_getElem? h)

theorem length_twoDigits (n : Nat) : (twoDigits n).length = 2 := String.length_ofList ..

private theorem twoDigits_inj {m n : Nat} (hm : m < 100) (hn : n < 100)
    (h : twoDigits m = twoDigits n) : m = n := by
  have hread : ∀ n < 100, Nat.ofDigitChars 10 (twoDigits n).toList 0 = n := by decide +kernel
  rw [← hread m hm, h, hread n hn]

private theorem append_inj_of_length {s t u v : String} (h : s ++ t = u ++ v)
    (hlength : t.length = v.length) : s = u ∧ t = v := by
  have hlist := congrArg String.toList h
  rw [String.toList_append, String.toList_append] at hlist
  obtain ⟨hs, ht⟩ := List.append_inj' hlist hlength
  exact ⟨String.toList_inj.mp hs, String.toList_inj.mp ht⟩

private theorem natRepr_inj {m n : Nat} (h : m.repr = n.repr) : m = n := by
  have hdigits := congrArg (fun s ↦ Nat.ofDigitChars 10 s.toList 0) h
  simpa only [Nat.toList_repr, Nat.ofDigitChars_ten_toDigits] using hdigits

private theorem natRepr_ne_minus (m n : Nat) : m.repr ≠ "-" ++ n.repr := by
  intro h
  have hlist := congrArg String.toList h
  rw [Nat.toList_repr, String.toList_append] at hlist
  exact Text.not_mem_toDigits (c := '-') rfl m (hlist ▸ List.mem_cons_self)

private theorem intRepr_inj {m n : Int} (h : m.repr = n.repr) : m = n := by
  rw [Int.repr_eq_if, Int.repr_eq_if] at h
  split at h
  · next hm =>
    split at h
    · next hn =>
      have hsame := natRepr_inj h
      omega
    · exact absurd h (natRepr_ne_minus _ _)
  · next hm =>
    split at h
    · exact absurd h.symm (natRepr_ne_minus _ _)
    · next hn =>
      have hsame := natRepr_inj (String.append_right_inj _ |>.mp h)
      omega

/-- No two days have one text. -/
theorem isoDate_injective : Function.Injective isoDate := by
  intro day day' h
  obtain ⟨hlow, hhigh⟩ := Month.contains_of day
  obtain ⟨hlow', hhigh'⟩ := Month.contains_of day'
  have hle := (Month.of day).length_le
  have hle' := (Month.of day').length_le
  obtain ⟨h, hrest⟩ := append_inj_of_length h (by simp only [length_twoDigits])
  obtain ⟨h, -⟩ := append_inj_of_length h rfl
  obtain ⟨h, hnumber⟩ := append_inj_of_length h (by simp only [length_twoDigits])
  obtain ⟨hyear, -⟩ := append_inj_of_length h rfl
  have hn := Month.number_of_lt day
  have hn' := Month.number_of_lt day'
  have hmonth : Month.of day = Month.of day' := by
    refine Month.ext (intRepr_inj hyear) ?_
    have hsame := twoDigits_inj (by omega) (by omega) hnumber
    omega
  have hsame := twoDigits_inj (by omega) (by omega) hrest
  rw [hmonth] at hsame hlow
  omega

/-- February 2000 has 29 days. -/
example : [11015, 11016, 11017].map isoDate = ["2000-02-28", "2000-02-29", "2000-03-01"] := by
  decide +kernel

end AsbCloudApi.Base
