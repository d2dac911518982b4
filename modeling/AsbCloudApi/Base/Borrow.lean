import AsbCloudApi.Base.Prog

/-!
# Borrowed resources

Library `Base`. A pool lends resources of a type `R` to coroutines, which use them by
operations of a type `U` and give them back. `borrowing` is the discipline of a coroutine that
has at most one resource at a time and gives it back before it ends. In every interleaving of
coroutines of this discipline no resource has two holders, none is lost, and one resource
is enough for all of them to finish.
-/

namespace AsbCloudApi.Base

/-- What a coroutine asks for: a resource of the pool, to give one back, an operation with one,
a pause, or the end of the pool once everything has been given back. -/
inductive Borrow (R U : Type) where
  | acquire
  | release (r : R)
  | use (r : R) (u : U)
  | pause
  | close

namespace Borrow

variable {E R U S I α β : Type} {A : U → Type}

/-- The answer to each operation. -/
abbrev Ans (R : Type) {U : Type} (A : U → Type) : Borrow R U → Type
  | .acquire => R
  | .release _ => Unit
  | .use _ u => A u
  | .pause => Unit
  | .close => Unit

/-- `r = acquire()`, then `try: body(r) finally: release(r)`. -/
def lend (body : R → Prog E (Ans R A) α) : Prog E (Ans R A) α := do
  let r : R ← .perform acquire
  (body r).tryFinally (.perform (release r))

/-- The operations that a coroutine with resource `r` may use until it gives it back. -/
def Within (r : R) : Borrow R U → Prop
  | .use r' _ => r' = r
  | .pause => True
  | _ => False

/-- The discipline of a borrower, who holds the resource of the stage; `mayClose` tells whether it
may end the pool. -/
def borrowing (mayClose : Prop) : Prog.Protocol E (Ans R A) (Option R) where
  allowed o g :=
    match o with
    | .acquire => g = none
    | .release r => g = some r
    | .use r _ => g = some r
    | .pause => True
    | .close => mayClose ∧ g = none
  possible _ _ _ := True
  next o g a :=
    match o, a with
    | .acquire, .ok r => some r
    | .release _, _ => none
    | _, _ => g

section Discipline

variable {mayClose : Prop}

/-- Between acquiring and giving back, a resource stays with its holder. -/
theorem stays_within {r : R} {p : Prog E (Ans R A) α} (hp : Prog.Only (Within r) p) :
    Prog.Follows (borrowing mayClose) (fun _ g ↦ g = some r) p (some r) := by
  induction p with
  | done x => rfl
  | call o k ih =>
    obtain ⟨ho, hk⟩ := hp
    cases o with
    | use r' u =>
      cases ho
      exact ⟨rfl, fun a _ ↦ ih a (hk a)⟩
    | pause => exact ⟨trivial, fun a _ ↦ ih a (hk a)⟩
    | acquire => exact False.elim ho
    | release r' => exact False.elim ho
    | close => exact False.elim ho

/-- One resource is borrowed and given back, however the body ends. -/
theorem follows_lend {body : R → Prog E (Ans R A) α} (h : ∀ r, Prog.Only (Within r) (body r)) :
    Prog.Follows (borrowing mayClose) (fun _ g ↦ g = none) (lend body) none := by
  refine ⟨rfl, fun a _ ↦ ?_⟩
  cases a with
  | error e => rfl
  | ok r =>
    apply (stays_within (h r)).tryFinally
    rintro x g rfl
    refine ⟨rfl, fun a _ ↦ ?_⟩
    cases a with
    | ok _ => rfl
    | error _ => rfl

end Discipline

/-! ### The pool -/

/-- The resources at home, the state that the operations act on, and whether the pool has ended. -/
structure Pool (R S : Type) where
  free : List R
  inner : S
  closed : Bool

section Serving

variable (fault : E → Prop) (exec : R → (u : U) → S → Except E (A u) → S → Prop)
  (reset : R → S → S) (all : List R)

/-- An answer that raises nothing but a fault. -/
def Honest (a : Except E α) : Prop := ∀ e, a = .error e → fault e

/-- How the pool serves an operation. A resource that is given back is reset, whatever the
answer; a pool that has ended neither lends nor takes back. -/
inductive Serve : (o : Borrow R U) → Pool R S → Except E (Ans R A o) → Pool R S → Prop
  | lend {front back : List R} {r : R} {s : S} :
      Serve .acquire ⟨front ++ r :: back, s, false⟩ (.ok r) ⟨front ++ back, s, false⟩
  | gone {free : List R} {s : S} {e : E} (he : fault e) :
      Serve .acquire ⟨free, s, true⟩ (.error e) ⟨free, s, true⟩
  | back {r : R} {free : List R} {s : S} {a : Except E Unit} (ha : Honest fault a) :
      Serve (.release r) ⟨free, s, false⟩ a ⟨r :: free, reset r s, false⟩
  | lost {r : R} {free : List R} {s : S} {e : E} (he : fault e) :
      Serve (.release r) ⟨free, s, true⟩ (.error e) ⟨free, s, true⟩
  | use {r : R} {u : U} {free : List R} {s s' : S} {b : Bool} {a : Except E (A u)}
      (h : exec r u s a s') : Serve (.use r u) ⟨free, s, b⟩ a ⟨free, s', b⟩
  | pause {p : Pool R S} {a : Except E Unit} (ha : Honest fault a) : Serve .pause p a p
  | close {free : List R} {s : S} {b : Bool} {a : Except E Unit} (h : free.length = all.length)
      (ha : Honest fault a) : Serve .close ⟨free, s, b⟩ a ⟨free, s, true⟩

/-- The pool may also refuse to lend: no resource could be made, or the wait was cancelled. -/
inductive ServeOrRefuse : (o : Borrow R U) → Pool R S → Except E (Ans R A o) → Pool R S → Prop
  | serve {o : Borrow R U} {p p' : Pool R S} {a : Except E (Ans R A o)}
      (h : Serve fault exec reset all o p a p') : ServeOrRefuse o p a p'
  | refuse {p : Pool R S} {e : E} (he : fault e) : ServeOrRefuse .acquire p (.error e) p

variable {fault exec reset all}

/-- The first resource at home may be lent. -/
theorem serve_acquire {r : R} {free : List R} {s : S} :
    ServeOrRefuse fault exec reset all .acquire ⟨r :: free, s, false⟩ (.ok r) ⟨free, s, false⟩ := by
  have hlend : Serve fault exec reset all .acquire ⟨[] ++ r :: free, s, false⟩ (.ok r)
      ⟨[] ++ free, s, false⟩ := .lend
  exact .serve hlend

/-- A resource may be given back without an exception. -/
theorem serve_release {r : R} {free : List R} {s : S} :
    ServeOrRefuse fault exec reset all (.release r) ⟨free, s, false⟩ (.ok ())
      ⟨r :: free, reset r s, false⟩ := by
  have hok : Honest fault (.ok () : Except E Unit) := by
    intro e he
    cases he
  exact .serve (.back hok)

end Serving

/-! ### What holds in every interleaving -/

section Lent

variable [Fintype I]

/-- Every resource is at home or with one holder; a pool that has ended has no holders. -/
structure Lent (all : List R) (p : Pool R S) (stage : I → Option R) : Prop where
  nodup : p.free.Nodup
  home : ∀ r, r ∈ all ↔ r ∈ p.free ∨ ∃ i, stage i = some r
  away : ∀ i r, stage i = some r → r ∉ p.free
  exclusive : ∀ i j r, stage i = some r → stage j = some r → i = j
  count : p.free.length + Prog.tally Option.isSome stage = all.length
  ended : p.closed = true → ∀ i, stage i = none

variable {all : List R}

/-- A fresh pool has everything at home. -/
theorem lent_start (hn : all.Nodup) (s : S) :
    Lent all ⟨all, s, false⟩ (fun _ : I ↦ (none : Option R)) where
  nodup := hn
  home r := ⟨.inl, fun h ↦ h.resolve_right fun ⟨_, hi⟩ ↦ nomatch hi⟩
  away _ _ h := nomatch h
  exclusive _ _ _ h := nomatch h
  count := by rw [Prog.tally_eq_zero fun _ ↦ rfl, Nat.add_zero]
  ended h := nomatch h

variable {p p' : Pool R S} {stage : I → Option R}

/-- Once nothing is borrowed, everything is at home. -/
theorem Lent.perm_of_none (h : Lent all p stage) (hall : all.Nodup) (hnone : ∀ i, stage i = none) :
    p.free.Perm all := by
  rw [List.perm_ext_iff_of_nodup h.nodup hall]
  intro r
  rw [h.home r]
  refine ⟨.inl, fun hr ↦ hr.resolve_right ?_⟩
  rintro ⟨i, hi⟩
  rw [hnone i] at hi
  cases hi

variable [DecidableEq I]

/-- A pool that lends one of its resources. -/
private theorem Lent.lend (h : Lent all p stage) {i : I} {front back : List R} {r : R}
    (hi : stage i = none) (hfree : p.free = front ++ r :: back) (s : S) (b : Bool)
    (hb : b = p.closed) (hopen : p.closed = false) :
    Lent all ⟨front ++ back, s, b⟩ (Function.update stage i (some r)) := by
  have hperm : p.free.Perm (r :: (front ++ back)) := by
    rw [hfree]
    exact List.perm_middle
  have hnodup := hperm.nodup_iff.mp h.nodup
  rw [List.nodup_cons] at hnodup
  have hother : ∀ j, j ≠ i → stage j ≠ some r := by
    intro j _ hj
    exact h.away j r hj (hperm.mem_iff.mpr List.mem_cons_self)
  refine ⟨hnodup.2, ?_, ?_, ?_, ?_, ?_⟩
  · intro r'
    rw [h.home r', hperm.mem_iff, List.mem_cons]
    constructor
    · rintro ((rfl | hr) | ⟨j, hj⟩)
      · exact .inr ⟨i, Function.update_self i _ _⟩
      · exact .inl hr
      · refine .inr ⟨j, ?_⟩
        rw [Function.update_of_ne, hj]
        rintro rfl
        rw [hi] at hj
        cases hj
    · rintro (hr | ⟨j, hj⟩)
      · exact .inl (.inr hr)
      · by_cases hji : j = i
        · subst hji
          rw [Function.update_self] at hj
          exact .inl (.inl (Option.some.inj hj).symm)
        · rw [Function.update_of_ne hji] at hj
          exact .inr ⟨j, hj⟩
  · intro j r' hj hr
    by_cases hji : j = i
    · subst hji
      rw [Function.update_self] at hj
      exact hnodup.1 (Option.some.inj hj ▸ hr)
    · rw [Function.update_of_ne hji] at hj
      exact h.away j r' hj (hperm.mem_iff.mpr (List.mem_cons_of_mem r hr))
  · intro j k r' hj hk
    by_cases hji : j = i
    · by_cases hki : k = i
      · rw [hji, hki]
      · rw [hji, Function.update_self] at hj
        rw [Function.update_of_ne hki, ← hj] at hk
        exact False.elim (hother k hki hk)
    · rw [Function.update_of_ne hji] at hj
      by_cases hki : k = i
      · rw [hki, Function.update_self] at hk
        rw [← hk] at hj
        exact False.elim (hother j hji hj)
      · rw [Function.update_of_ne hki] at hk
        exact h.exclusive j k r' hj hk
  · have htally := Prog.tally_update Option.isSome stage i (some r)
    have hcount := h.count
    rw [hperm.length_eq, List.length_cons] at hcount
    rw [hi] at htally
    simp only [Option.isSome_none, Option.isSome_some, Bool.toNat_false, Bool.toNat_true] at htally
    dsimp only
    omega
  · intro hc
    rw [hb, hopen] at hc
    cases hc

/-- A pool that takes one of its resources back. -/
private theorem Lent.back (h : Lent all p stage) {i : I} {r : R} (hi : stage i = some r)
    (s : S) : Lent all ⟨r :: p.free, s, false⟩ (Function.update stage i none) := by
  refine ⟨List.nodup_cons.mpr ⟨h.away i r hi, h.nodup⟩, ?_, ?_, ?_, ?_, nofun⟩
  · intro r'
    rw [h.home r', List.mem_cons]
    constructor
    · rintro (hr | ⟨j, hj⟩)
      · exact .inl (.inr hr)
      · by_cases hji : j = i
        · subst hji
          rw [hi] at hj
          exact .inl (.inl (Option.some.inj hj).symm)
        · exact .inr ⟨j, by rw [Function.update_of_ne hji, hj]⟩
    · rintro ((rfl | hr) | ⟨j, hj⟩)
      · exact .inr ⟨i, hi⟩
      · exact .inl hr
      · refine .inr ⟨j, ?_⟩
        by_cases hji : j = i
        · rw [hji, Function.update_self] at hj
          cases hj
        · rwa [Function.update_of_ne hji] at hj
  · intro j r' hj hr
    by_cases hji : j = i
    · rw [hji, Function.update_self] at hj
      cases hj
    · rw [Function.update_of_ne hji] at hj
      rcases List.mem_cons.mp hr with rfl | hr
      · exact hji (h.exclusive j i r' hj hi)
      · exact h.away j r' hj hr
  · intro j k r' hj hk
    by_cases hji : j = i
    · rw [hji, Function.update_self] at hj
      cases hj
    · by_cases hki : k = i
      · rw [hki, Function.update_self] at hk
        cases hk
      · rw [Function.update_of_ne hji] at hj
        rw [Function.update_of_ne hki] at hk
        exact h.exclusive j k r' hj hk
  · have htally := Prog.tally_update Option.isSome stage i none
    have hcount := h.count
    rw [hi] at htally
    simp only [Option.isSome_none, Option.isSome_some, Bool.toNat_false, Bool.toNat_true] at htally
    rw [List.length_cons]
    omega

variable {fault : E → Prop} {exec : R → (u : U) → S → Except E (A u) → S → Prop}
  {reset : R → S → S} {mayClose : Prop}

/-- What the discipline allows keeps the balance. -/
theorem Lent.step (h : Lent all p stage) {i : I} {o : Borrow R U} {a : Except E (Ans R A o)}
    (ha : (borrowing (E := E) (A := A) mayClose).allowed o (stage i))
    (hs : ServeOrRefuse fault exec reset all o p a p') :
    Lent all p' (Function.update stage i ((borrowing (A := A) mayClose).next o (stage i) a)) := by
  cases hs with
  | refuse => simpa [borrowing] using h
  | serve hs =>
    cases hs with
    | @lend front back r s => exact h.lend ha rfl s false rfl rfl
    | gone => simpa [borrowing] using h
    | @back r free s => exact h.back ha (reset r s)
    | lost =>
      -- a resource that is out keeps the pool from ending
      have hnone := h.ended rfl i
      rw [show stage i = some _ from ha] at hnone
      cases hnone
    | use =>
      rw [borrowing, Function.update_eq_self]
      exact ⟨h.nodup, h.home, h.away, h.exclusive, h.count, h.ended⟩
    | pause => simpa [borrowing] using h
    | @close free s b x hlen =>
      rw [borrowing, Function.update_eq_self]
      refine ⟨h.nodup, h.home, h.away, h.exclusive, h.count, fun _ j ↦ ?_⟩
      have hcount := h.count
      cases hj : stage j with
      | none => rfl
      | some r =>
        have hpos : 0 < Prog.tally Option.isSome stage := Prog.tally_pos (i := j) (by rw [hj]; rfl)
        dsimp only at hcount
        omega

/-- A coroutine that may go on: it has a resource, or the pool has one left or has ended. -/
def Ready (p : Pool R S) (g : Option R) : Prop := g.isSome ∨ p.free ≠ [] ∨ p.closed = true

/-- Without ending the pool, a coroutine that may go on is served, and may go on again. -/
theorem ready_served (hexec : ∀ r u s, ∃ a s', exec r u s a s') {o : Borrow R U} {g : Option R}
    (hfault : ∃ e, fault e) (ha : (borrowing (E := E) (A := A) False).allowed o g)
    (hr : Ready p g) : ∃ a p', Serve fault exec reset all o p a p' ∧
      Ready p' ((borrowing (A := A) False).next o g a) := by
  obtain ⟨free, s, b⟩ := p
  obtain ⟨e, he⟩ := hfault
  cases o with
  | acquire =>
    obtain rfl : g = none := ha
    cases b with
    | true => exact ⟨.error e, _, .gone he, .inr (.inr rfl)⟩
    | false =>
      obtain ⟨r, rest, rfl⟩ : ∃ r rest, free = r :: rest := by
        apply List.exists_cons_of_ne_nil
        simpa [Ready] using hr
      have hlend : Serve fault exec reset all .acquire ⟨[] ++ r :: rest, s, false⟩ (.ok r)
          ⟨[] ++ rest, s, false⟩ := .lend
      exact ⟨.ok r, _, hlend, .inl rfl⟩
  | release r =>
    cases b with
    | true => exact ⟨.error e, _, .lost he, .inr (.inr rfl)⟩
    | false => exact ⟨.ok (), _, .back nofun, .inr (.inl (List.cons_ne_nil _ _))⟩
  | use r u =>
    obtain ⟨a, s', hu⟩ := hexec r u s
    exact ⟨a, _, .use hu, hr⟩
  | pause => exact ⟨.ok (), _, .pause nofun, hr⟩
  | close => exact False.elim ha.1

/-- In every interleaving of borrowers the pool stays balanced, each of them keeping to the
discipline. -/
theorem lent_sound {c d : Prog.Config E (Ans R A) α I (Pool R S) (Option R)}
    (hr : Relation.ReflTransGen
      (Prog.Step (fun _ ↦ ServeOrRefuse fault exec reset all) (borrowing mayClose)) c d)
    (hl : Lent all c.shared c.stage)
    (hf : ∀ i, Prog.Follows (borrowing mayClose) (fun _ g ↦ g = none) (c.prog i) (c.stage i)) :
    Lent all d.shared d.stage ∧
      ∀ i, Prog.Follows (borrowing mayClose) (fun _ g ↦ g = none) (d.prog i) (d.stage i) :=
  Prog.interleaving_sound (J := fun p stage ↦ Lent all p stage)
    (fun _ _ _ _ _ _ h ha hs ↦ ⟨trivial, h.step ha hs⟩) hr hl hf

/-- One resource is enough: borrowers that do not end the pool can all be served to their ends. -/
theorem lent_completes (hfault : ∃ e, fault e) (hexec : ∀ r u s, ∃ a s', exec r u s a s')
    (hall : all ≠ [])
    (c : Prog.Config E (Ans R A) α I (Pool R S) (Option R)) (hl : Lent all c.shared c.stage)
    (hf : ∀ i, Prog.Follows (borrowing False) (fun _ g ↦ g = none) (c.prog i) (c.stage i)) :
    ∃ d, Relation.ReflTransGen
        (Prog.Step (fun _ ↦ Serve fault exec reset all) (borrowing False)) c d ∧
      ∀ i, (d.prog i).ended = true := by
  refine Prog.interleaving_completes (fun p stage ↦ Lent all p stage) Ready
    (fun _ _ _ _ _ _ h ha hs ↦ ⟨trivial, h.step ha (.serve hs)⟩) ?_ ?_ c hl hf
  · intro _ o g p ha hg
    obtain ⟨a, p', hs, hg'⟩ := ready_served hexec hfault ha hg
    exact ⟨a, p', hs, trivial, hg'⟩
  · rintro c hl hf ⟨j, hj⟩
    by_cases hfree : c.shared.free = []
    · -- everything is out, so some coroutine holds a resource, and it has not ended
      have hcount := hl.count
      rw [hfree, List.length_nil, Nat.zero_add] at hcount
      obtain ⟨i, hi⟩ : ∃ i, (c.stage i).isSome = true := by
        by_contra hnone
        rw [Prog.tally_eq_zero fun i ↦ Bool.eq_false_iff.mpr fun h ↦ hnone ⟨i, h⟩] at hcount
        exact hall (List.eq_nil_of_length_eq_zero hcount.symm)
      refine ⟨i, ?_, .inl hi⟩
      have hfi := hf i
      cases hp : c.prog i with
      | call o k => rfl
      | done x =>
        rw [hp] at hfi
        rw [show c.stage i = none from hfi] at hi
        cases hi
    · exact ⟨j, hj, .inr (.inl hfree)⟩

end Lent
end Borrow
end AsbCloudApi.Base
