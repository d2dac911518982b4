import Mathlib.Data.List.Induction

/-!
# Taking a list in turn

Library `Base`. Elements taken from a list one after the other, and from its start again after its
end.
-/

namespace AsbCloudApi.Base

variable {α : Type}

/-- The first `k` elements taken in turn. -/
def cycle (xs : List α) (k : Nat) : List α :=
  (List.replicate (k / xs.length) xs).flatten ++ xs.take (k % xs.length)

@[simp] theorem cycle_zero (xs : List α) : cycle xs 0 = [] := by
  simp [cycle]

/-- Full rounds, and the part of one more. -/
theorem cycle_mul_add {xs : List α} (q : Nat) {r : Nat} (hr : r < xs.length) :
    cycle xs (xs.length * q + r) = (List.replicate q xs).flatten ++ xs.take r := by
  have hpos : 0 < xs.length := by omega
  rw [cycle, Nat.mul_add_div hpos, Nat.div_eq_of_lt hr, Nat.add_zero, Nat.mul_add_mod,
    Nat.mod_eq_of_lt hr]

/-- The next element is the one at the position modulo the length. -/
theorem cycle_succ {xs : List α} {k : Nat} {x : α} (h : xs[k % xs.length]? = some x) :
    cycle xs (k + 1) = cycle xs k ++ [x] := by
  obtain ⟨hr, -⟩ := List.getElem?_eq_some_iff.mp h
  have hk := Nat.div_add_mod k xs.length
  generalize k / xs.length = q at hk
  generalize k % xs.length = r at hk hr h
  subst hk
  rw [cycle_mul_add q hr, List.append_assoc]
  by_cases hlast : r + 1 = xs.length
  · -- the round is complete
    have hround : xs.take r ++ [x] = xs := by
      have htake := List.take_add_one (l := xs) (i := r)
      rw [h, List.take_of_length_le (by omega)] at htake
      exact htake.symm
    rw [hround, Nat.add_assoc, hlast, ← Nat.mul_succ, ← Nat.add_zero (xs.length * (q + 1)),
      cycle_mul_add _ (by omega), List.replicate_succ']
    simp
  · rw [Nat.add_assoc, cycle_mul_add q (by omega), List.take_add_one, h]
    rfl

/-- In `k` turns an element is taken once for each of its places in each full round, and for its
places in the part of the last. -/
theorem count_cycle [DecidableEq α] (xs : List α) (k : Nat) (x : α) : (cycle xs k).count x =
    k / xs.length * xs.count x + (xs.take (k % xs.length)).count x := by
  rw [cycle, List.count_append, List.count_flatten, List.map_replicate, List.sum_replicate_nat]

end AsbCloudApi.Base
