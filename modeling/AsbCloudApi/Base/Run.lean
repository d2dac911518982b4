import Mathlib.Data.List.Induction
import Mathlib.Data.Nat.Init
import Mathlib.Logic.Relation

/-!
# Runs of step functions and of step relations

Library `Base`. A step function answers each input and moves the state; its runs are
folds over input lists. A step relation chooses freely among moves; its runs are the
reflexive transitive closure. Both come with the induction that lifts a fact about
one step to a fact about a whole run. A history of events grows at its end.
-/

namespace AsbCloudApi.Base

universe u v w w'

section Function

variable {S : Type u} {I : Type v} {O : Type w}

/-- State after feeding every input of the list. -/
def final (step : S → I → O × S) (s : S) (is : List I) : S :=
  is.foldl (fun s i ↦ (step s i).2) s

/-- Answers to every input of the list, in order. -/
def outputs (step : S → I → O × S) : S → List I → List O
  | _, [] => []
  | s, i :: is => (step s i).1 :: outputs step (step s i).2 is

variable (step : S → I → O × S)

@[simp] theorem final_nil (s : S) : final step s [] = s := rfl

@[simp] theorem final_cons (s : S) (i : I) (is : List I) :
    final step s (i :: is) = final step (step s i).2 is := rfl

theorem final_append (s : S) (is js : List I) :
    final step s (is ++ js) = final step (final step s is) js := List.foldl_append

@[simp] theorem outputs_nil (s : S) : outputs step s [] = [] := rfl

@[simp] theorem outputs_cons (s : S) (i : I) (is : List I) :
    outputs step s (i :: is) = (step s i).1 :: outputs step (step s i).2 is := rfl

theorem outputs_append (s : S) (is js : List I) :
    outputs step s (is ++ js) = outputs step s is ++ outputs step (final step s is) js := by
  induction is generalizing s with
  | nil => rfl
  | cons i is ih =>
    rw [List.cons_append, outputs_cons, ih, outputs_cons, final_cons, List.cons_append]

/-- What every step preserves holds after a whole run. -/
theorem final_induction {P : S → Prop} (hs : ∀ s i, P s → P (step s i).2) {s : S} (h : P s)
    (is : List I) : P (final step s is) := by
  induction is generalizing s with
  | nil => exact h
  | cons i is ih => exact ih (hs s i h)

/-- State before the `n`-th input, counting from zero. -/
def before (s : S) (is : List I) (n : Nat) : S := final step s (is.take n)

variable {step} in
theorem before_succ {s : S} {is : List I} {n : Nat} {i : I} (h : is[n]? = some i) :
    before step s is (n + 1) = (step (before step s is n) i).2 := by
  rw [before, List.take_add_one, h, final_append]
  rfl

variable {step} in
theorem before_of_length_le {s : S} {is : List I} {n : Nat} (h : is.length ≤ n) :
    before step s is n = final step s is := by
  rw [before, List.take_of_length_le h]

/-- What no step undoes stays. -/
theorem before_mono {P : S → Prop} (hs : ∀ s i, P s → P (step s i).2) {s : S} {is : List I}
    {m n : Nat} (hmn : m ≤ n) (h : P (before step s is m)) : P (before step s is n) := by
  induction n, hmn using Nat.le_induction with
  | base => exact h
  | succ n hmn ih =>
    cases hi : is[n]? with
    | none =>
      have hle := List.getElem?_eq_none_iff.mp hi
      rwa [before_of_length_le (by omega), ← before_of_length_le hle]
    | some i =>
      rw [before_succ hi]
      exact hs _ i ih

/-- What does not hold at first and holds later comes about by one of the steps between. -/
theorem exists_step_of_before {P : S → Prop} {s : S} {is : List I} {n : Nat} (h₀ : ¬ P s)
    (h : P (before step s is n)) : ∃ m < n, ∃ i, is[m]? = some i ∧
      ¬ P (before step s is m) ∧ P (step (before step s is m) i).2 := by
  induction n with
  | zero => exact absurd h h₀
  | succ n ih =>
    by_cases hn : P (before step s is n)
    · obtain ⟨m, hm, i, hi, hstep⟩ := ih hn
      exact ⟨m, by omega, i, hi, hstep⟩
    · cases hi : is[n]? with
      | none =>
        have hle := List.getElem?_eq_none_iff.mp hi
        rw [before_of_length_le (by omega), ← before_of_length_le hle] at h
        exact absurd h hn
      | some i =>
        rw [before_succ hi] at h
        exact ⟨n, by omega, i, hi, hn, h⟩

/-- Two machines whose related states answer alike and stay related answer a whole run alike. The
relation may depend on the inputs still to come, as a clock bound does. -/
theorem outputs_eq_of_related {T : Type w'} (step' : T → I → O × T) {R : List I → S → T → Prop}
    (hs : ∀ i is s t, R (i :: is) s t →
      (step s i).1 = (step' t i).1 ∧ R is (step s i).2 (step' t i).2)
    {is : List I} {s : S} {t : T} (h : R is s t) : outputs step s is = outputs step' t is := by
  induction is generalizing s t with
  | nil => rfl
  | cons i is ih =>
    obtain ⟨he, hr⟩ := hs i is s t h
    rw [outputs_cons, outputs_cons, he, ih hr]

/-- Every input meets a condition on the state it arrives in. -/
def Along (ok : S → I → Prop) : S → List I → Prop
  | _, [] => True
  | s, i :: is => ok s i ∧ Along ok (step s i).2 is

variable {step} {ok : S → I → Prop}

theorem along_append {s : S} {is js : List I} :
    Along step ok s (is ++ js) ↔ Along step ok s is ∧ Along step ok (final step s is) js := by
  induction is generalizing s with
  | nil => simp [Along]
  | cons i is ih => simp [Along, ih, and_assoc]

/-- What every step preserves while the condition is met holds after the run. The property may
speak of the inputs so far. -/
theorem Along.final_induction {P : List I → S → Prop}
    (hs : ∀ is s i, P is s → ok s i → P (is ++ [i]) (step s i).2) {s : S} (h : P [] s)
    {is : List I} (ha : Along step ok s is) : P is (final step s is) := by
  induction is using List.reverseRecOn with
  | nil => exact h
  | append_singleton is i ih =>
    obtain ⟨hbefore, hi, -⟩ := along_append.mp ha
    rw [final_append]
    exact hs is _ i (ih hbefore) hi

end Function

section History

variable {E : Type u} {ok : List E → E → Prop}

/-- Every event of a history meets a condition on the events before it. -/
def Justified (ok : List E → E → Prop) (es : List E) : Prop :=
  ∀ before e after, es = before ++ e :: after → ok before e

theorem justified_nil : Justified ok [] := by
  intro before e after h
  simp at h

theorem Justified.concat {es : List E} {e : E} (h : Justified ok es) (he : ok es e) :
    Justified ok (es ++ [e]) := by
  intro before e' after hsplit
  induction after using List.reverseRecOn with
  | nil =>
    obtain ⟨rfl, hlast⟩ := List.append_inj' hsplit rfl
    obtain rfl := List.singleton_inj.mp hlast
    exact he
  | append_singleton after x _ =>
    rw [← List.cons_append, ← List.append_assoc] at hsplit
    exact h before e' after (List.append_inj' hsplit rfl).1

theorem Justified.of_concat {es : List E} {e : E} (h : Justified ok (es ++ [e])) :
    Justified ok es ∧ ok es e := by
  refine ⟨?_, h es e [] rfl⟩
  intro before e' after hsplit
  apply h before e' (after ++ [e])
  rw [hsplit, List.append_assoc, List.cons_append]

end History

section Relation

variable {S : Type u}

/-- What holds initially and is kept by every move holds in every reachable state. -/
theorem reachable_induction {step : S → S → Prop} {P : S → Prop} {s t : S}
    (hs : ∀ a b, P a → step a b → P b) (h : P s) (hr : Relation.ReflTransGen step s t) : P t := by
  induction hr with
  | refl => exact h
  | tail _ hab ih => exact hs _ _ ih hab

end Relation
end AsbCloudApi.Base
