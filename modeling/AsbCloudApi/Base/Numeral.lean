import AsbCloudApi.Base.Text
import Mathlib.Data.Int.Order.Basic
import Mathlib.Data.Nat.Digits.Defs

/-!
# Decimal numerals

Library `Base`. Python's `str()` of an integer and `int()` of a text, both with the limit on the
number of digits. What `int()` makes of characters that are not ASCII is a parameter.
-/

namespace AsbCloudApi.Base.Text

/-- `sys.get_int_max_str_digits()`, as it is by default. -/
def intMaxStrDigits : Nat := 4300

/-- The digits of a number, without its sign. -/
def digits (n : Int) : Chars := Nat.toDigits 10 n.natAbs

/-- `str(n)`; nothing stands for `ValueError`. -/
def strOfInt (n : Int) : Option Chars :=
  if intMaxStrDigits < (digits n).length then none
  else some (if n < 0 then '-' :: digits n else digits n)

/-- The white space that `int()` strips. -/
def isIntSpace (c : Char) : Bool :=
  c = ' ' || c = '\t' || c = '\n' || c = '\x0b' || c = '\x0c' || c = '\r'

/-- Whether a numeral is negative, and what follows its sign. -/
def splitSign : Chars → Bool × Chars
  | '-' :: s => (true, s)
  | '+' :: s => (false, s)
  | s => (false, s)

/-- `int(s)`; nothing stands for `ValueError`. `toAscii` gives the space or the digit that a
character stands for which is not ASCII. -/
def intOfText (toAscii : Char → Char) (s : Chars) : Option Int :=
  let s := strip isIntSpace (s.map fun c ↦ if isAscii c then c else toAscii c)
  let groups := (splitSign s).2.splitOn '_'
  if groups.all isDigits ∧ groups.flatten.length ≤ intMaxStrDigits then
    let value : Int := Nat.ofDigitChars 10 groups.flatten 0
    some (if (splitSign s).1 then -value else value)
  else none

theorem isDigit_of_mem_digits {n : Int} {c : Char} (h : c ∈ digits n) : c.isDigit = true :=
  Nat.isDigit_of_mem_toDigits (by omega) (by omega) h

theorem digits_ne_nil (n : Int) : digits n ≠ [] := Nat.toDigits_ne_nil

theorem isDigits_digits (n : Int) : isDigits (digits n) = true := by
  unfold isDigits
  rw [Bool.and_eq_true, Bool.not_eq_true', List.isEmpty_eq_false_iff, List.all_eq_true]
  exact ⟨digits_ne_nil n, fun _ ↦ isDigit_of_mem_digits⟩

theorem ofDigitChars_digits (n : Int) : Nat.ofDigitChars 10 (digits n) 0 = n.natAbs :=
  Nat.ofDigitChars_toDigits (by omega) (by omega)

/-- A number has a text exactly if it is within the limit. -/
theorem strOfInt_isSome {n : Int} :
    (strOfInt n).isSome ↔ (digits n).length ≤ intMaxStrDigits := by
  unfold strOfInt
  split
  · next h => simp [h]
  · next h => simpa using h

private theorem splitSign_of_isDigits {s : Chars} (h : isDigits s = true) :
    splitSign s = (false, s) := by
  unfold splitSign
  split
  · next s => cases h
  · next s => cases h
  · rfl

private theorem isAscii_of_isDigit {c : Char} (h : c.isDigit = true) : isAscii c = true := by
  unfold Char.isDigit at h
  rw [Bool.and_eq_true, decide_eq_true_eq, decide_eq_true_eq, UInt32.le_iff_toNat_le] at h
  change _ ∧ c.toNat ≤ 57 at h
  exact decide_eq_true (by omega)

private theorem isIntSpace_of_isDigit {c : Char} (h : c.isDigit = true) : isIntSpace c = false := by
  rw [Bool.eq_false_iff]
  intro hspace
  simp only [isIntSpace, Bool.or_eq_true, decide_eq_true_eq] at hspace
  rcases hspace with ((((rfl | rfl) | rfl) | rfl) | rfl) | rfl <;> cases h

/-- The characters of a numeral. -/
theorem of_mem_strOfInt {n : Int} {s : Chars} (h : strOfInt n = some s) {c : Char} (hc : c ∈ s) :
    c = '-' ∨ c.isDigit = true := by
  unfold strOfInt at h
  split at h
  · cases h
  · obtain rfl := Option.some.inj h
    split at hc
    · rcases List.mem_cons.mp hc with hsign | hdigit
      · exact Or.inl hsign
      · exact Or.inr (isDigit_of_mem_digits hdigit)
    · exact Or.inr (isDigit_of_mem_digits hc)

theorem underscore_not_mem_strOfInt {n : Int} {s : Chars} (h : strOfInt n = some s) : '_' ∉ s := by
  intro hc
  rcases of_mem_strOfInt h hc with hsign | hdigit
  · cases hsign
  · cases hdigit

/-- A sign, if there is one. -/
def signText (neg : Bool) : Chars := if neg then ['-'] else []

/-- `str(n)` is a sign and the digits. -/
theorem strOfInt_eq_some_iff {n : Int} {s : Chars} : strOfInt n = some s ↔
    (digits n).length ≤ intMaxStrDigits ∧ s = signText (decide (n < 0)) ++ digits n := by
  unfold strOfInt signText
  split
  · next h => simp [h]
  · next h =>
    rw [Option.some.injEq, eq_comm]
    by_cases hneg : n < 0
    · simp [hneg, Nat.not_lt.mp h]
    · simp [hneg, Nat.not_lt.mp h]

/-- `int()` of ASCII digits with or without a sign. -/
theorem intOfText_signed (toAscii : Char → Char) {ds : Chars} (hds : isDigits ds = true)
    (neg : Bool) : intOfText toAscii (signText neg ++ ds) =
      if ds.length ≤ intMaxStrDigits then
        some (if neg then -(Nat.ofDigitChars 10 ds 0 : Int) else Nat.ofDigitChars 10 ds 0)
      else none := by
  have hdigit : ∀ c ∈ ds, c.isDigit = true := by
    rw [isDigits, Bool.and_eq_true, List.all_eq_true] at hds
    exact hds.2
  have hchars : ∀ c ∈ signText neg ++ ds, isAscii c = true ∧ isIntSpace c = false := by
    intro c hc
    rcases List.mem_append.mp hc with hc | hc
    · unfold signText at hc
      split at hc
      · rw [List.mem_singleton.mp hc]
        exact ⟨rfl, rfl⟩
      · cases hc
    · exact ⟨isAscii_of_isDigit (hdigit c hc), isIntSpace_of_isDigit (hdigit c hc)⟩
  have hmap : (signText neg ++ ds).map (fun c ↦ if isAscii c then c else toAscii c) =
      signText neg ++ ds := by
    rw [List.map_congr_left fun c hc ↦ if_pos (hchars c hc).1]
    exact List.map_id _
  have hsign : splitSign (signText neg ++ ds) = (neg, ds) := by
    cases neg with
    | true => rfl
    | false => exact splitSign_of_isDigits hds
  have hunder : '_' ∉ ds := fun hc ↦ by cases hdigit _ hc
  unfold intOfText
  dsimp only
  rw [hmap, strip_eq_self fun c hc ↦ (hchars c hc).2, hsign, List.splitOn_eq_singleton hunder,
    List.flatten_singleton]
  simp [hds]

/-- `int()` gives back the number of a text that `str()` gave. -/
theorem intOfText_strOfInt (toAscii : Char → Char) {n : Int} {s : Chars}
    (h : strOfInt n = some s) : intOfText toAscii s = some n := by
  obtain ⟨hle, rfl⟩ := strOfInt_eq_some_iff.mp h
  rw [intOfText_signed toAscii (isDigits_digits n), if_pos hle, ofDigitChars_digits]
  congr 1
  by_cases hneg : n < 0
  · rw [decide_eq_true hneg, if_pos rfl]
    omega
  · rw [decide_eq_false hneg, if_neg Bool.false_ne_true]
    omega

/-! ### The canonical numeral -/

/-- A numeral as `str()` writes it: zero, or digits without a leading zero that may follow a
minus sign. -/
def Canonical (s : Chars) : Prop :=
  s = ['0'] ∨ ∃ neg ds, s = signText neg ++ ds ∧ isDigits ds = true ∧ ds.head? ≠ some '0'

theorem digitChar_of_isDigit {c : Char} (h : c.isDigit = true) :
    c.toNat - 48 < 10 ∧ Nat.digitChar (c.toNat - 48) = c := by
  unfold Char.isDigit at h
  rw [Bool.and_eq_true, decide_eq_true_eq, decide_eq_true_eq] at h
  have hlow : 48 ≤ c.toNat := UInt32.le_iff_toNat_le.mp h.1
  have hhigh : c.toNat ≤ 57 := UInt32.le_iff_toNat_le.mp h.2
  refine ⟨by omega, Char.toNat_inj.mp ?_⟩
  rw [Nat.toNat_digitChar_of_lt_ten (by omega)]
  omega

/-- Digits after a number without a leading zero are the digits of a number. -/
theorem toDigits_append {acc : Nat} (hacc : 0 < acc) {ds : Chars}
    (hds : ∀ c ∈ ds, c.isDigit = true) :
    Nat.toDigits 10 acc ++ ds = Nat.toDigits 10 (Nat.ofDigitChars 10 ds acc) := by
  induction ds generalizing acc with
  | nil => simp
  | cons c ds ih =>
    obtain ⟨hlt, hchar⟩ := digitChar_of_isDigit (hds c List.mem_cons_self)
    have hone : Nat.toDigits 10 acc ++ [c] = Nat.toDigits 10 (10 * acc + (c.toNat - 48)) := by
      rw [← Nat.toDigits_append_toDigits (by omega) hacc hlt, Nat.toDigits_of_lt_base hlt, hchar]
    rw [Nat.ofDigitChars_cons, List.append_cons, hone]
    exact ih (by omega) fun d hd ↦ hds d (List.mem_cons_of_mem c hd)

/-- Digits without a leading zero are those of the number that they denote. -/
theorem toDigits_ofDigitChars {ds : Chars} (hds : isDigits ds = true)
    (hhead : ds.head? ≠ some '0') : Nat.toDigits 10 (Nat.ofDigitChars 10 ds 0) = ds := by
  cases ds with
  | nil => cases hds
  | cons c ds =>
    rw [isDigits, Bool.and_eq_true, List.all_eq_true] at hds
    obtain ⟨hlt, hchar⟩ := digitChar_of_isDigit (hds.2 c List.mem_cons_self)
    have hpos : 0 < c.toNat - 48 := by
      apply Nat.pos_of_ne_zero
      intro hzero
      rw [hzero] at hchar
      exact hhead (by rw [← hchar]; rfl)
    have happend := toDigits_append hpos fun d hd ↦ hds.2 d (List.mem_cons_of_mem c hd)
    rw [Nat.toDigits_of_lt_base hlt, hchar] at happend
    rw [Nat.ofDigitChars_cons, Nat.mul_zero, Nat.zero_add]
    exact happend.symm

/-- A number other than zero has no leading zero. -/
theorem head_toDigits {n : Nat} (hn : 0 < n) : (Nat.toDigits 10 n).head? ≠ some '0' := by
  induction n using Nat.base_induction 10 (by omega) with
  | single m hm =>
    rw [Nat.toDigits_of_lt_base hm, List.head?_cons, Ne, Option.some.injEq, Nat.digitChar_eq_zero]
    omega
  | digit m k hk hm ih =>
    rw [← Nat.toDigits_append_toDigits (by omega) hm hk,
      List.head?_append_of_ne_nil _ Nat.toDigits_ne_nil]
    exact ih hm

theorem canonical_of_strOfInt {n : Int} {s : Chars} (h : strOfInt n = some s) : Canonical s := by
  obtain ⟨-, rfl⟩ := strOfInt_eq_some_iff.mp h
  by_cases hn : n = 0
  · subst hn
    exact Or.inl rfl
  · exact Or.inr ⟨_, _, rfl, isDigits_digits n, head_toDigits (Int.natAbs_pos.mpr hn)⟩

/-- What `int()` reads is what `str()` writes exactly if it is canonical. -/
theorem strOfInt_eq_iff_canonical {toAscii : Char → Char} {n : Int} {s : Chars}
    (h : intOfText toAscii s = some n) : strOfInt n = some s ↔ Canonical s := by
  refine ⟨canonical_of_strOfInt, ?_⟩
  rintro (rfl | ⟨neg, ds, rfl, hds, hhead⟩)
  · have hzero : intOfText toAscii (signText false ++ ['0']) = _ :=
      intOfText_signed toAscii rfl false
    rw [if_pos (by decide)] at hzero
    cases h.symm.trans hzero
    rfl
  · rw [intOfText_signed toAscii hds] at h
    split at h
    · next hle =>
      have hdigits := toDigits_ofDigitChars hds hhead
      have hpos : 0 < Nat.ofDigitChars 10 ds 0 := by
        apply Nat.pos_of_ne_zero
        intro hzero
        rw [hzero] at hdigits
        exact hhead (by rw [← hdigits]; rfl)
      obtain ⟨habs, hneg⟩ : n.natAbs = Nat.ofDigitChars 10 ds 0 ∧ decide (n < 0) = neg := by
        obtain rfl := Option.some.inj h
        cases neg with
        | true => simp [hpos]
        | false => simp
      rw [strOfInt_eq_some_iff, digits, habs, hdigits, hneg]
      exact ⟨hle, rfl⟩
    · cases h

end AsbCloudApi.Base.Text
