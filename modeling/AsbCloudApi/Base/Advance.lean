import AsbCloudApi.Base.Prog
import Mathlib.Data.List.TakeWhile

/-!
# Steps in a fixed order

Library `Base`. A coroutine may go through steps that are listed before it starts, and raise at the
first of them that fails. The steps before that one are what it does to the state.
-/

namespace AsbCloudApi.Base.Prog

variable {E Op : Type} {Ans : Op → Type} {α β S M : Type}

/-- What follows a step that fails is not taken. -/
theorem takeWhile_append_of_not_all {passes : M → Bool} {ms ns : List M}
    (h : ¬ ∀ m ∈ ms, passes m = true) : (ms ++ ns).takeWhile passes = ms.takeWhile passes := by
  rw [List.takeWhile_append, if_neg]
  intro hlength
  have hself := (List.takeWhile_prefix passes).eq_of_length hlength
  exact h (List.takeWhile_eq_self_iff.mp hself)

section Advances

/-- From any state the coroutine takes the steps of a list up to the first that fails, and it
returns exactly if none does. -/
def Advances (h : (o : Op) → S → Except E (Ans o) × S) (passes : M → Bool) (mark : S → M → S)
    (p : Prog E Ans α) (ms : List M) : Prop :=
  ∀ s, (run h p s).2 = (ms.takeWhile passes).foldl mark s ∧
    ((run h p s).1.isOk = true ↔ ∀ m ∈ ms, passes m = true)

variable {h : (o : Op) → S → Except E (Ans o) × S} {passes : M → Bool} {mark : S → M → S}

theorem advances_pure (a : α) : Advances h passes mark (pure a : Prog E Ans α) [] := by
  intro s
  exact ⟨rfl, fun _ _ hm ↦ absurd hm List.not_mem_nil, fun _ ↦ rfl⟩

/-- A coroutine that takes one step. -/
theorem advances_one {p : Prog E Ans α} {m : M} (hpasses : ∀ s, (run h p s).1.isOk = passes m)
    (hs : ∀ s, (run h p s).2 = if passes m then mark s m else s) :
    Advances h passes mark p [m] := by
  intro s
  rw [hpasses, hs, List.forall_mem_singleton]
  cases hm : passes m with
  | true =>
    rw [List.takeWhile_cons_of_pos hm]
    exact ⟨rfl, Iff.rfl⟩
  | false =>
    rw [List.takeWhile_cons_of_neg (by simp [hm])]
    exact ⟨rfl, Iff.rfl⟩

theorem Advances.bind {p : Prog E Ans α} {f : α → Prog E Ans β} {ms ns : List M}
    (hp : Advances h passes mark p ms) (hf : ∀ a, Advances h passes mark (f a) ns) :
    Advances h passes mark (p >>= f) (ms ++ ns) := by
  intro s
  obtain ⟨hstate, hreturns⟩ := hp s
  rw [run_bind]
  generalize run h p s = out at hstate hreturns
  obtain ⟨r, s'⟩ := out
  change s' = _ at hstate
  subst hstate
  rw [List.forall_mem_append]
  cases r with
  | error e =>
    -- one of the first steps has failed, and the others are not taken
    have hfailed : ¬ ∀ m ∈ ms, passes m = true := fun hall ↦ absurd (hreturns.mpr hall) nofun
    refine ⟨by rw [takeWhile_append_of_not_all hfailed], fun hok ↦ ?_,
      fun hall ↦ absurd hall.1 hfailed⟩
    cases hok
  | ok a =>
    have hall : ∀ m ∈ ms, passes m = true := hreturns.mp rfl
    rw [List.takeWhile_eq_self_iff.mpr hall]
    obtain ⟨hstate', hreturns'⟩ := hf a (ms.foldl mark s)
    refine ⟨?_, hreturns'.trans (and_iff_right hall).symm⟩
    rw [List.takeWhile_append_of_pos hall, List.foldl_append]
    exact hstate'

theorem Advances.forEach {X : Type} {f : X → Prog E Ans Unit} {g : X → List M} (xs : List X)
    (hf : ∀ x ∈ xs, Advances h passes mark (f x) (g x)) :
    Advances h passes mark (forEach xs f) (xs.flatMap g) := by
  induction xs with
  | nil => exact advances_pure _
  | cons x xs ih =>
    rw [List.flatMap_cons]
    apply (hf x List.mem_cons_self).bind
    intro _
    exact ih fun y hy ↦ hf y (List.mem_cons_of_mem x hy)

end Advances

/-- If a step is taken and a later one is not, though it would pass, a step in between fails
first. -/
theorem exists_find?_of_takeWhile {passes : M → Bool} {front between back : List M} {m m' : M}
    (hm : m ∈ (front ++ (between ++ m' :: back)).takeWhile passes) (hfront : m ∉ front)
    (hm' : m' ∉ (front ++ (between ++ m' :: back)).takeWhile passes) (hpasses : passes m' = true) :
    ∃ x ∈ between, (front ++ (between ++ m' :: back)).find? (!passes ·) = some x := by
  have hall : ∀ x ∈ front, passes x = true := by
    by_contra hnot
    rw [takeWhile_append_of_not_all hnot] at hm
    exact hfront ((List.takeWhile_prefix passes).subset hm)
  rw [List.takeWhile_append_of_pos hall, List.mem_append, not_or] at hm'
  have hnone : front.find? (!passes ·) = none := by simpa using hall
  rw [List.find?_append, hnone, Option.none_or, List.find?_append]
  cases hfind : between.find? (!passes ·) with
  | some x => exact ⟨x, List.mem_of_find?_eq_some hfind, rfl⟩
  | none =>
    have hbetween : ∀ x ∈ between, passes x = true := by simpa using hfind
    rw [List.takeWhile_append_of_pos hbetween, List.takeWhile_cons_of_pos hpasses] at hm'
    exact absurd (List.mem_append_right between List.mem_cons_self) hm'.2

/-! ### Operations that are answered the same in every state -/

section Asked

/-- The state is made by what was asked for, in order. -/
theorem run_snd_eq_foldl {h : (o : Op) → S → Except E (Ans o) × S}
    (answer : (o : Op) → Except E (Ans o)) (ha : ∀ o s, (h o s).1 = answer o) (p : Prog E Ans α)
    (s : S) : (run h p s).2 = (asked answer p).foldl (fun s o ↦ (h o s).2) s := by
  induction p generalizing s with
  | done r => rfl
  | call o k ih =>
    change (run h (k (h o s).1) (h o s).2).2 = _
    rw [ha, ih]
    rfl

/-- An operation of a sequence is asked for exactly if a place of it is reached: none of those
before raises. -/
theorem mem_asked_performAll_iff {answer : Op → Except E Unit} {os : List Op} {o : Op} :
    o ∈ asked answer (performAll os) ↔
      ∃ before after, os = before ++ o :: after ∧ ∀ o' ∈ before, (answer o').isOk = true := by
  induction os with
  | nil =>
    constructor
    · intro ho
      cases ho
    · rintro ⟨before, after, hsplit, -⟩
      exact absurd hsplit.symm (List.append_ne_nil_of_right_ne_nil _ (List.cons_ne_nil o after))
  | cons x os ih =>
    rw [asked_performAll_cons, List.mem_cons]
    constructor
    · rintro (rfl | ho)
      · exact ⟨[], os, rfl, fun _ hmem ↦ absurd hmem List.not_mem_nil⟩
      · split at ho
        · next hok =>
          obtain ⟨before, after, rfl, hall⟩ := ih.mp ho
          exact ⟨x :: before, after, rfl, List.forall_mem_cons.mpr ⟨hok, hall⟩⟩
        · cases ho
    · rintro ⟨before, after, hsplit, hall⟩
      cases before with
      | nil => exact Or.inl (List.cons.inj hsplit).1.symm
      | cons y before =>
        obtain ⟨rfl, hrest⟩ := List.cons.inj hsplit
        obtain ⟨hok, hall⟩ := List.forall_mem_cons.mp hall
        rw [if_pos hok]
        exact Or.inr (ih.mpr ⟨before, after, hrest, hall⟩)

/-- A sequence in other operations, one for each. -/
theorem embed_performAll {Op' : Type} (f : Op → Op') (os : List Op) :
    (performAll os : Prog E (fun _ : Op ↦ Unit) Unit).embed
      (fun o ↦ (perform (f o) : Prog E (fun _ : Op' ↦ Unit) Unit)) = performAll (os.map f) := by
  induction os with
  | nil => rfl
  | cons o os ih =>
    change (perform o >>= fun _ ↦ performAll os).embed _ =
      (perform (f o) >>= fun _ ↦ performAll (os.map f))
    rw [embed_bind, embed_perform, ih]

end Asked

end AsbCloudApi.Base.Prog
