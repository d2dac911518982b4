import Mathlib.Algebra.BigOperators.Fin
import Mathlib.Algebra.Order.BigOperators.Group.Finset
import Mathlib.Data.List.Perm.Subperm
import Mathlib.Logic.Function.Basic
import Mathlib.Logic.Relation

/-!
# Coroutines

Library `Base`. A coroutine is a tree: it ends with a value or an exception, or asks its
environment to perform an operation and continues with the answer, which may be an
exception too. Exceptions pass through `bind`; `attempt` and `tryFinally` intercept them.

Two readings are given. `run` drives one coroutine with a handler that acts on a state.
`Step` interleaves any family of coroutines over one shared state, one operation at a time.
A `Protocol` says which operations a coroutine may ask for in which stage; a coroutine that
`Follows` it keeps to it in every interleaving.
-/

namespace AsbCloudApi.Base

/-- A coroutine with exceptions `E` and operations `Op`, the answer to `o` being of type `Ans o`. -/
inductive Prog (E : Type) {Op : Type} (Ans : Op → Type) (α : Type) where
  | done (r : Except E α)
  | call (o : Op) (k : Except E (Ans o) → Prog E Ans α)

namespace Prog

variable {E Op : Type} {Ans : Op → Type} {α β γ : Type}

/-- Continue with the outcome of a coroutine, be it a value or an exception. -/
def resume : Prog E Ans α → (Except E α → Prog E Ans β) → Prog E Ans β
  | .done r, f => f r
  | .call o k, f => .call o fun r ↦ (k r).resume f

/-- Raise an exception. -/
def raise (e : E) : Prog E Ans α := .done (.error e)

/-- Continue after normal completion; an exception ends the whole. -/
def bind (p : Prog E Ans α) (f : α → Prog E Ans β) : Prog E Ans β :=
  p.resume fun r ↦
    match r with
    | .ok a => f a
    | .error e => raise e

instance : Monad (Prog E Ans) where
  pure a := .done (.ok a)
  bind := bind

/-- Ask for one operation. -/
def perform (o : Op) : Prog E Ans (Ans o) := .call o .done

/-- The outcome of a coroutine as a value: what every `except` clause starts from. -/
def attempt (p : Prog E Ans α) : Prog E Ans (Except E α) := p.resume fun r ↦ .done (.ok r)

/-- `try: p finally: q`. The outcome is that of `p`, unless `q` raises. -/
def tryFinally (p : Prog E Ans α) (q : Prog E Ans Unit) : Prog E Ans α :=
  p.resume fun r ↦ q.bind fun _ ↦ .done r

/-- Replace every operation by a coroutine over other operations. -/
def embed {Op' : Type} {Ans' : Op' → Type} (f : (o : Op) → Prog E Ans' (Ans o)) :
    Prog E Ans α → Prog E Ans' α
  | .done r => .done r
  | .call o k => (f o).resume fun r ↦ embed f (k r)

/-- Let coroutines of another kind, with exceptions and operations of their own, play this one: each
operation becomes a coroutine that returns its answer, and the outcome is returned too. -/
def host {E' Op' : Type} {Ans' : Op' → Type} (f : (o : Op) → Prog E' Ans' (Except E (Ans o))) :
    Prog E Ans α → Prog E' Ans' (Except E α)
  | .done r => .done (.ok r)
  | .call o k => (f o).bind fun r ↦ host f (k r)

theorem resume_done (p : Prog E Ans α) : p.resume .done = p := by
  induction p with
  | done r => rfl
  | call o k ih => exact congrArg (call o) (funext ih)

theorem resume_assoc (p : Prog E Ans α) (f : Except E α → Prog E Ans β)
    (g : Except E β → Prog E Ans γ) : (p.resume f).resume g = p.resume fun r ↦ (f r).resume g := by
  induction p with
  | done r => rfl
  | call o k ih => exact congrArg (call o) (funext ih)

/-- Operations are replaced part by part. -/
theorem embed_bind {Op' : Type} {Ans' : Op' → Type} (f : (o : Op) → Prog E Ans' (Ans o))
    (p : Prog E Ans α) (g : α → Prog E Ans β) :
    (p >>= g).embed f = p.embed f >>= fun a ↦ (g a).embed f := by
  induction p with
  | done r =>
    cases r with
    | ok a => rfl
    | error e => rfl
  | call o k ih => exact (congrArg _ (funext ih)).trans (resume_assoc (f o) _ _).symm

/-- One operation is replaced by its coroutine. -/
theorem embed_perform {Op' : Type} {Ans' : Op' → Type} (f : (o : Op) → Prog E Ans' (Ans o))
    (o : Op) : (perform o : Prog E Ans (Ans o)).embed f = f o := resume_done (f o)

/-! ### Which operations a coroutine asks for -/

/-- The coroutine asks for operations of one kind only, whatever they answer. -/
def Only (A : Op → Prop) : Prog E Ans α → Prop
  | .done _ => True
  | .call o k => A o ∧ ∀ r, Only A (k r)

section Only

variable {A B : Op → Prop}

theorem only_done (r : Except E α) : Only A (.done r : Prog E Ans α) := trivial

theorem only_perform {o : Op} (h : A o) : Only A (perform o : Prog E Ans (Ans o)) :=
  ⟨h, fun _ ↦ trivial⟩

theorem Only.mono (hab : ∀ o, A o → B o) {p : Prog E Ans α} (h : Only A p) : Only B p := by
  induction p with
  | done r => exact trivial
  | call o k ih => exact ⟨hab o h.1, fun r ↦ ih r (h.2 r)⟩

theorem Only.resume {p : Prog E Ans α} {f : Except E α → Prog E Ans β} (hp : Only A p)
    (hf : ∀ r, Only A (f r)) : Only A (p.resume f) := by
  induction p with
  | done r => exact hf r
  | call o k ih => exact ⟨hp.1, fun r ↦ ih r (hp.2 r)⟩

theorem Only.bind {p : Prog E Ans α} {f : α → Prog E Ans β} (hp : Only A p)
    (hf : ∀ a, Only A (f a)) : Only A (p >>= f) := by
  apply hp.resume
  intro r
  cases r with
  | ok a => exact hf a
  | error e => exact only_done _

theorem Only.ite {c : Prop} [Decidable c] {p q : Prog E Ans α} (hp : Only A p)
    (hq : Only A q) : Only A (if c then p else q) := by
  split
  · exact hp
  · exact hq

theorem only_embed {Op' : Type} {Ans' : Op' → Type} {A : Op' → Prop}
    {f : (o : Op) → Prog E Ans' (Ans o)} (hf : ∀ o, Only A (f o)) (p : Prog E Ans α) :
    Only A (p.embed f) := by
  induction p with
  | done r => exact trivial
  | call o k ih => exact (hf o).resume ih

theorem only_host {E' Op' : Type} {Ans' : Op' → Type} {A' : Op' → Prop}
    {f : (o : Op) → Prog E' Ans' (Except E (Ans o))} (hf : ∀ o, Only A' (f o)) (p : Prog E Ans α) :
    Only A' (p.host f) := by
  induction p with
  | done r => exact trivial
  | call o k ih => exact (hf o).bind ih

end Only

/-! ### One coroutine with a handler -/

section Run

variable {S : Type}

/-- Drive a coroutine with a handler. -/
def run (h : (o : Op) → S → Except E (Ans o) × S) : Prog E Ans α → S → Except E α × S
  | .done r, s => (r, s)
  | .call o k, s => run h (k (h o s).1) (h o s).2

variable (h : (o : Op) → S → Except E (Ans o) × S)

@[simp] theorem run_done (r : Except E α) (s : S) : run h (.done r : Prog E Ans α) s = (r, s) := rfl

@[simp] theorem run_pure (a : α) (s : S) : run h (pure a : Prog E Ans α) s = (.ok a, s) := rfl

@[simp] theorem run_raise (e : E) (s : S) : run h (raise e : Prog E Ans α) s = (.error e, s) := rfl

@[simp] theorem run_perform (o : Op) (s : S) : run h (perform o) s = h o s := rfl

theorem run_resume (p : Prog E Ans α) (f : Except E α → Prog E Ans β) (s : S) :
    run h (p.resume f) s = run h (f (run h p s).1) (run h p s).2 := by
  induction p generalizing s with
  | done r => rfl
  | call o k ih => exact ih _ _

/-- A sequence hands on the outcome and the state of its first part. -/
theorem run_bind (p : Prog E Ans α) (f : α → Prog E Ans β) (s : S) :
    run h (p >>= f) s =
      match run h p s with
      | (.ok a, s') => run h (f a) s'
      | (.error e, s') => (.error e, s') := by
  change run h (p.bind f) s = _
  rw [bind, run_resume]
  rcases run h p s with ⟨_ | _, _⟩ <;> rfl

/-- A sequence returns exactly if both parts do. -/
theorem run_bind_ok {p : Prog E Ans α} {f : α → Prog E Ans β} {s : S} {b : β}
    (hb : (run h (p >>= f) s).1 = .ok b) :
    ∃ a, (run h p s).1 = .ok a ∧ (run h (f a) (run h p s).2).1 = .ok b := by
  rw [run_bind] at hb
  generalize run h p s = out at hb ⊢
  obtain ⟨r, s'⟩ := out
  cases r with
  | ok a => exact ⟨a, rfl, hb⟩
  | error e => cases hb

/-- An attempt never raises. -/
@[simp] theorem run_attempt (p : Prog E Ans α) (s : S) :
    run h p.attempt s = (.ok (run h p s).1, (run h p s).2) := run_resume h p _ s

variable {h} in
/-- What no operation of the kind undoes holds at the end. -/
theorem Only.run_keeps {A : Op → Prop} {P : S → Prop} {p : Prog E Ans α} (hp : Only A p)
    (hs : ∀ o s, A o → P s → P (h o s).2) {s : S} (h₀ : P s) : P (run h p s).2 := by
  induction p generalizing s with
  | done r => exact h₀
  | call o k ih => exact ih _ (hp.2 _) (hs o s hp.1 h₀)

variable {h} in
/-- A state that no operation of the kind changes stays as it is. -/
theorem Only.run_state {A : Op → Prop} {p : Prog E Ans α} (hp : Only A p)
    (hs : ∀ o s, A o → (h o s).2 = s) (s : S) : (run h p s).2 = s :=
  hp.run_keeps (P := (· = s)) (fun o t ha ht ↦ (hs o t ha).trans ht) rfl

/-- The final part decides the state, and the outcome if it raises. -/
theorem run_tryFinally (p : Prog E Ans α) (q : Prog E Ans Unit) (s : S) :
    run h (p.tryFinally q) s =
      match run h q (run h p s).2 with
      | (.ok _, s') => ((run h p s).1, s')
      | (.error e, s') => (.error e, s') := by
  rw [tryFinally, run_resume]
  change run h (q >>= fun _ ↦ .done (run h p s).1) _ = _
  rw [run_bind]
  rcases run h q (run h p s).2 with ⟨_ | _, _⟩ <;> rfl

end Run

/-! ### One operation after the other -/

section Sequence

theorem bind_assoc (p : Prog E Ans α) (f : α → Prog E Ans β) (g : β → Prog E Ans γ) :
    p >>= f >>= g = p >>= fun a ↦ f a >>= g := by
  induction p with
  | done r =>
    cases r with
    | ok a => rfl
    | error e => rfl
  | call o k ih => exact congrArg (call o) (funext ih)

/-- `for x in xs: f(x)`. -/
def forEach {X : Type} (xs : List X) (f : X → Prog E Ans Unit) : Prog E Ans Unit :=
  match xs with
  | [] => pure ()
  | x :: xs => do
    let _ ← f x
    forEach xs f

section ForEach

variable {X Y : Type} (f : X → Prog E Ans Unit)

theorem forEach_append (xs ys : List X) :
    forEach (xs ++ ys) f = forEach xs f >>= fun _ ↦ forEach ys f := by
  induction xs with
  | nil => rfl
  | cons x xs ih =>
    rw [List.cons_append, forEach, ih, forEach, bind_assoc]

/-- A loop in a loop is one loop. -/
theorem forEach_forEach (g : Y → List X) (ys : List Y) :
    forEach ys (fun y ↦ forEach (g y) f) = forEach (ys.flatMap g) f := by
  induction ys with
  | nil => rfl
  | cons y ys ih => rw [forEach, ih, List.flatMap_cons, forEach_append]

end ForEach

/-- The operations that a coroutine asks for, if they are answered so. -/
def asked (answer : (o : Op) → Except E (Ans o)) : Prog E Ans α → List Op
  | .done _ => []
  | .call o k => o :: asked answer (k (answer o))

/-- Operations without a result, one after the other. -/
def performAll (os : List Op) : Prog E (fun _ : Op ↦ Unit) Unit := forEach os perform

/-- An operation that raises is the last one. -/
theorem asked_performAll_cons (answer : Op → Except E Unit) (o : Op) (os : List Op) :
    asked answer (performAll (o :: os)) =
      o :: if (answer o).isOk then asked answer (performAll os) else [] := by
  change o :: asked answer (bind (.done (answer o)) fun _ ↦ performAll os) = _
  cases answer o with
  | ok _ => rfl
  | error e => rfl

theorem performAll_singleton (o : Op) :
    (performAll [o] : Prog E (fun _ : Op ↦ Unit) Unit) = perform o := by
  refine congrArg (call o) (funext fun r ↦ ?_)
  cases r with
  | ok _ => rfl
  | error e => rfl

theorem asked_performAll_isPrefix (answer : Op → Except E Unit) (os : List Op) :
    asked answer (performAll os) <+: os := by
  induction os with
  | nil => exact List.prefix_rfl
  | cons o os ih =>
    rw [asked_performAll_cons]
    split
    · exact (List.prefix_cons_inj o).mpr ih
    · exact ⟨os, rfl⟩

/-- All are asked for exactly if none raises but the last. -/
theorem asked_performAll_eq_iff (answer : Op → Except E Unit) {os : List Op} :
    asked answer (performAll os) = os ↔ ∀ o ∈ os.dropLast, (answer o).isOk = true := by
  induction os with
  | nil => exact iff_of_true rfl fun o ho ↦ absurd ho List.not_mem_nil
  | cons o os ih =>
    rw [asked_performAll_cons, List.cons_inj_right]
    cases os with
    | nil =>
      refine iff_of_true ?_ fun o ho ↦ absurd ho List.not_mem_nil
      split
      · rfl
      · rfl
    | cons o' os =>
      rw [List.dropLast_cons_cons]
      cases hok : (answer o).isOk with
      | true =>
        rw [if_pos rfl, ih, List.forall_mem_cons]
        exact (and_iff_right hok).symm
      | false =>
        rw [if_neg Bool.false_ne_true]
        refine iff_of_false (List.cons_ne_nil o' os).symm fun hall ↦ ?_
        rw [hall o List.mem_cons_self] at hok
        cases hok

/-- Of different operations, each is asked for exactly if none raises but the last. -/
theorem asked_performAll_iff (answer : Op → Except E Unit) {os : List Op} (h : os.Nodup) :
    (∀ o ∈ os, o ∈ asked answer (performAll os)) ↔ ∀ o ∈ os.dropLast, (answer o).isOk = true := by
  rw [← asked_performAll_eq_iff]
  constructor
  · intro hall
    exact (asked_performAll_isPrefix answer os).eq_of_length_le (h.subperm hall).length_le
  · intro hsame o ho
    rwa [hsame]

end Sequence

/-! ### Traces -/

/-- An operation with its answer. -/
abbrev Event (E : Type) {Op : Type} (Ans : Op → Type) : Type := Σ o : Op, Except E (Ans o)

/-- Asking for the operations of a trace and given its answers, the coroutine ends with `r`. -/
inductive Runs : Prog E Ans α → List (Event E Ans) → Except E α → Prop
  | done (r : Except E α) : Runs (.done r) [] r
  | call {o : Op} {k : Except E (Ans o) → Prog E Ans α} {a : Except E (Ans o)}
      {trace : List (Event E Ans)} {r : Except E α} (h : Runs (k a) trace r) :
      Runs (.call o k) (⟨o, a⟩ :: trace) r

/-! ### Protocols -/

/-- Stages `G` of a coroutine: which operations it may ask for in a stage, which answers that
stage has to expect, and the stage each answer leads to. -/
structure Protocol (E : Type) {Op : Type} (Ans : Op → Type) (G : Type) where
  allowed : Op → G → Prop
  possible : (o : Op) → G → Except E (Ans o) → Prop
  next : (o : Op) → G → Except E (Ans o) → G

/-- The protocol that allows everything in its only stage. -/
def Protocol.free : Protocol E Ans Unit where
  allowed _ _ := True
  possible _ _ _ := True
  next _ _ _ := ()

section Follows

variable {G : Type} (P : Protocol E Ans G)

/-- From stage `g` the coroutine asks only for what the protocol allows, whatever possible
answers it gets, and ends in a stage that suits its outcome. -/
def Follows (Q : Except E α → G → Prop) : Prog E Ans α → G → Prop
  | .done r, g => Q r g
  | .call o k, g => P.allowed o g ∧ ∀ r, P.possible o g r → Follows Q (k r) (P.next o g r)

variable {P}

/-- A weaker requirement at the end. -/
theorem Follows.mono {Q R : Except E α → G → Prop} (hqr : ∀ r g, Q r g → R r g)
    {p : Prog E Ans α} {g : G} (h : Follows P Q p g) : Follows P R p g := by
  induction p generalizing g with
  | done r => exact hqr r g h
  | call o k ih => exact ⟨h.1, fun r hr ↦ ih r (h.2 r hr)⟩

theorem Follows.resume {Q : Except E α → G → Prop} {R : Except E β → G → Prop}
    {p : Prog E Ans α} {f : Except E α → Prog E Ans β} {g : G} (h : Follows P Q p g)
    (hf : ∀ r g, Q r g → Follows P R (f r) g) : Follows P R (p.resume f) g := by
  induction p generalizing g with
  | done r => exact hf r g h
  | call o k ih => exact ⟨h.1, fun r hr ↦ ih r (h.2 r hr)⟩

/-- Sequencing: the rest starts where a normal end leads; an exception must suit the whole. -/
theorem Follows.bind {Q : Except E α → G → Prop} {R : Except E β → G → Prop}
    {p : Prog E Ans α} {f : α → Prog E Ans β} {g : G} (h : Follows P Q p g)
    (hok : ∀ a g, Q (.ok a) g → Follows P R (f a) g)
    (herr : ∀ e g, Q (.error e) g → R (.error e) g) : Follows P R (p >>= f) g := by
  apply h.resume
  intro r g hq
  cases r with
  | ok a => exact hok a g hq
  | error e => exact herr e g hq

/-- The final part runs in the stage the body ends in, however the body ends. -/
theorem Follows.tryFinally {Q : Except E α → G → Prop} {R : Except E α → G → Prop}
    {p : Prog E Ans α} {q : Prog E Ans Unit} {g : G} (h : Follows P Q p g)
    (hq : ∀ r g, Q r g → Follows P
      (fun u g ↦ match u with
        | .ok _ => R r g
        | .error e => R (.error e) g) q g) : Follows P R (p.tryFinally q) g := by
  apply h.resume
  intro r g hr
  apply (hq r g hr).resume
  intro u g hu
  cases u with
  | ok u => exact hu
  | error e => exact hu

/-- Operations that each stand for a coroutine of another protocol with the same stages. -/
theorem Follows.embed {Op' : Type} {Ans' : Op' → Type} {P' : Protocol E Ans' G}
    {f : (o : Op) → Prog E Ans' (Ans o)} (hf : ∀ o g, P.allowed o g →
      Follows P' (fun r g' ↦ P.possible o g r ∧ g' = P.next o g r) (f o) g)
    {Q : Except E α → G → Prop} {p : Prog E Ans α} {g : G} (h : Follows P Q p g) :
    Follows P' Q (p.embed f) g := by
  induction p generalizing g with
  | done r => exact h
  | call o k ih =>
    apply (hf o g h.1).resume
    rintro r g' ⟨hposs, rfl⟩
    exact ih r (h.2 r hposs)

/-- Let the stages of guest and host be related, and let the host play each operation that the guest
is allowed so that they stay related. Then the host plays the guest to its end. -/
theorem Follows.host {E' Op' H : Type} {Ans' : Op' → Type} {P' : Protocol E' Ans' H}
    {R : G → H → Prop} {f : (o : Op) → Prog E' Ans' (Except E (Ans o))}
    (hf : ∀ o g h, R g h → P.allowed o g → Follows P'
      (fun r h' ↦ ∃ a, r = .ok a ∧ P.possible o g a ∧ R (P.next o g a) h') (f o) h)
    {Q : Except E α → G → Prop} {p : Prog E Ans α} {g : G} {h : H} (hp : Follows P Q p g)
    (hr : R g h) : Follows P' (fun r h' ↦ ∃ a g', r = .ok a ∧ Q a g' ∧ R g' h') (p.host f) h := by
  induction p generalizing g h with
  | done r => exact ⟨r, g, rfl, hp, hr⟩
  | call o k ih =>
    apply (hf o g h hr hp.1).bind
    · rintro r h' ⟨a, ha, hposs, hnext⟩
      obtain rfl := Except.ok.inj ha
      exact ih r (hp.2 r hposs) hnext
    · rintro e h' ⟨a, ha, -⟩
      cases ha

variable (P) in
/-- The coroutine leaves the stage as it is, whatever it is. -/
def Stays (p : Prog E Ans α) : Prop := ∀ g, Follows P (fun _ g' ↦ g' = g) p g

/-- Operations that are always allowed and never lead on. -/
theorem Only.stays {A : Op → Prop} {p : Prog E Ans α} (hp : Only A p)
    (ha : ∀ o g, A o → P.allowed o g) (hn : ∀ o g r, A o → P.next o g r = g) : Stays P p := by
  intro g
  induction p with
  | done r => rfl
  | call o k ih =>
    refine ⟨ha o g hp.1, fun r _ ↦ ?_⟩
    rw [hn o g r hp.1]
    exact ih r (hp.2 r)

end Follows

/-! ### Two protocols at once -/

section Both

variable {G H : Type}

/-- What both protocols allow, with the stage of each. -/
def Protocol.both (P : Protocol E Ans G) (P' : Protocol E Ans H) :
    Protocol E Ans (G × H) where
  allowed o g := P.allowed o g.1 ∧ P'.allowed o g.2
  possible o g r := P.possible o g.1 r ∧ P'.possible o g.2 r
  next o g r := (P.next o g.1 r, P'.next o g.2 r)

/-- A coroutine that follows each of two protocols follows both. -/
theorem Follows.both {P : Protocol E Ans G} {P' : Protocol E Ans H}
    {Q : Except E α → G → Prop} {Q' : Except E α → H → Prop} {p : Prog E Ans α} {g : G} {h : H}
    (hp : Follows P Q p g) (hp' : Follows P' Q' p h) :
    Follows (P.both P') (fun r gh ↦ Q r gh.1 ∧ Q' r gh.2) p (g, h) := by
  induction p generalizing g h with
  | done r => exact ⟨hp, hp'⟩
  | call o k ih =>
    exact ⟨⟨hp.1, hp'.1⟩, fun r hr ↦ ih r (hp.2 r hr.1) (hp'.2 r hr.2)⟩

end Both

/-! ### What a coroutine has done so far, as its stage -/

/-- The protocol that allows everything and keeps what was asked and answered. -/
def Protocol.traced : Protocol E Ans (List (Event E Ans)) where
  allowed _ _ := True
  possible _ _ _ := True
  next o trace r := trace ++ [⟨o, r⟩]

theorem follows_traced (p : Prog E Ans α) (trace : List (Event E Ans)) :
    Follows Protocol.traced (fun _ _ ↦ True) p trace := by
  induction p generalizing trace with
  | done r => exact trivial
  | call o k ih => exact ⟨trivial, fun r _ ↦ ih r _⟩

/-- What holds of every end of a coroutine holds of each of its traces. -/
theorem Runs.ends {Q : Except E α → List (Event E Ans) → Prop} {p : Prog E Ans α}
    {front trace : List (Event E Ans)} {r : Except E α} (hr : Runs p trace r)
    (h : Follows Protocol.traced Q p front) : Q r (front ++ trace) := by
  induction hr generalizing front with
  | done r =>
    rw [List.append_nil]
    exact h
  | @call o k a trace r _ ih =>
    rw [← List.singleton_append, ← List.append_assoc]
    exact ih (h.2 a trivial)

/-! ### Many coroutines over one state -/

section Interleaving

variable {I S G : Type}

/-- Number of coroutines in a stage of a given kind. -/
def tally [Fintype I] (P : G → Bool) (stage : I → G) : Nat := ∑ i, (P (stage i)).toNat

/-- A coroutine of a kind is counted. -/
theorem tally_pos [Fintype I] {P : G → Bool} {stage : I → G} {i : I} (h : P (stage i) = true) :
    0 < tally P stage := by
  have hle := Finset.single_le_sum (f := fun j ↦ (P (stage j)).toNat) (fun j _ ↦ Nat.zero_le _)
    (Finset.mem_univ i)
  rw [h] at hle
  exact hle

/-- Where no coroutine is of a kind, none is counted. -/
theorem tally_eq_zero [Fintype I] {P : G → Bool} {stage : I → G} (h : ∀ i, P (stage i) = false) :
    tally P stage = 0 := by
  simp [tally, h]

variable [DecidableEq I]

/-- Where one coroutine changes its stage, a sum over the stages changes by its share. -/
theorem sum_update [Fintype I] (m : G → Nat) (stage : I → G) (i : I) (g : G) :
    ∑ j, m (Function.update stage i g j) + m (stage i) = ∑ j, m (stage j) + m g := by
  have hu : (fun j ↦ m (Function.update stage i g j)) =
      Function.update (fun j ↦ m (stage j)) i (m g) := by
    funext j
    by_cases hj : j = i
    · subst hj
      simp
    · simp [Function.update_of_ne hj]
  rw [hu, Finset.sum_update_of_mem (Finset.mem_univ i),
    ← Finset.add_sum_erase Finset.univ (fun j ↦ m (stage j)) (Finset.mem_univ i),
    Finset.sdiff_singleton_eq_erase]
  omega

/-- A coroutine that changes its stage leaves one kind and enters another. -/
theorem tally_update [Fintype I] (P : G → Bool) (stage : I → G) (i : I) (g : G) :
    tally P (Function.update stage i g) + (P (stage i)).toNat = tally P stage + (P g).toNat :=
  sum_update (fun g ↦ (P g).toNat) stage i g

/-- A family of coroutines, the stage of each, and the state they share. -/
structure Config (E : Type) {Op : Type} (Ans : Op → Type) (α I S G : Type) where
  shared : S
  stage : I → G
  prog : I → Prog E Ans α

/-- One coroutine has one operation answered by the shared state. -/
inductive Step (exec : I → (o : Op) → S → Except E (Ans o) → S → Prop) (P : Protocol E Ans G) :
    Config E Ans α I S G → Config E Ans α I S G → Prop where
  | call {c : Config E Ans α I S G} (i : I) {o : Op} {k : Except E (Ans o) → Prog E Ans α}
      {r : Except E (Ans o)} {s' : S} (hp : c.prog i = .call o k) (he : exec i o c.shared r s') :
      Step exec P c ⟨s', Function.update c.stage i (P.next o (c.stage i) r),
        Function.update c.prog i (k r)⟩

/-- Let every operation that is allowed by the protocol keep an invariant of the shared state
and the stages, and be answered as the protocol expects. Then the invariant holds and every
coroutine follows the protocol after any interleaving. -/
theorem interleaving_sound {exec : I → (o : Op) → S → Except E (Ans o) → S → Prop}
    {P : Protocol E Ans G} {Q : I → Except E α → G → Prop} {J : S → (I → G) → Prop}
    (hstep : ∀ s stage i o r s', J s stage → P.allowed o (stage i) → exec i o s r s' →
      P.possible o (stage i) r ∧ J s' (Function.update stage i (P.next o (stage i) r)))
    {c d : Config E Ans α I S G} (hr : Relation.ReflTransGen (Step exec P) c d)
    (hinv : J c.shared c.stage) (hf : ∀ i, Follows P (Q i) (c.prog i) (c.stage i)) :
    J d.shared d.stage ∧ ∀ i, Follows P (Q i) (d.prog i) (d.stage i) := by
  induction hr with
  | refl => exact ⟨hinv, hf⟩
  | @tail b _ _ hbd ih =>
    obtain ⟨hb, hfb⟩ := ih
    cases hbd with
    | @call i o k r s' hp he =>
      have hfi := hfb i
      rw [hp] at hfi
      obtain ⟨hposs, hnext⟩ := hstep b.shared b.stage i o r s' hb hfi.1 he
      refine ⟨hnext, ?_⟩
      intro j
      by_cases hj : j = i
      · subst hj
        simpa using hfi.2 r hposs
      · simpa [Function.update_of_ne hj] using hfb j

/-- What no operation undoes holds of the shared state after any interleaving. -/
theorem interleaving_state {exec : I → (o : Op) → S → Except E (Ans o) → S → Prop}
    {P : Protocol E Ans G} {J : S → Prop}
    (hstep : ∀ s i o r s', J s → exec i o s r s' → J s')
    {c d : Config E Ans α I S G} (hr : Relation.ReflTransGen (Step exec P) c d)
    (h : J c.shared) : J d.shared := by
  induction hr with
  | refl => exact h
  | tail _ hbd ih =>
    cases hbd with
    | call i hp he => exact hstep _ i _ _ _ ih he

/-- The stages are bookkeeping: another protocol sees the same runs. -/
theorem restage {H : Type} {exec : I → (o : Op) → S → Except E (Ans o) → S → Prop}
    {P : Protocol E Ans G} (P' : Protocol E Ans H) {c d : Config E Ans α I S G}
    (hr : Relation.ReflTransGen (Step exec P) c d) (stage : I → H) :
    ∃ stage', Relation.ReflTransGen (Step exec P') ⟨c.shared, stage, c.prog⟩
      ⟨d.shared, stage', d.prog⟩ := by
  induction hr with
  | refl => exact ⟨stage, .refl⟩
  | tail _ hbd ih =>
    obtain ⟨stage', hb⟩ := ih
    cases hbd with
    | call i hp he => exact ⟨_, hb.tail (.call (c := ⟨_, stage', _⟩) i hp he)⟩

/-- Whatever a coroutine has been answered, it was answered at some moment of the run. -/
theorem traced_served {exec : I → (o : Op) → S → Except E (Ans o) → S → Prop}
    {c d : Config E Ans α I S (List (Event E Ans))}
    (hr : Relation.ReflTransGen (Step exec Protocol.traced) c d) {i : I} {ev : Event E Ans}
    (h : ev ∈ d.stage i) : ev ∈ c.stage i ∨ ∃ b s',
      Relation.ReflTransGen (Step exec Protocol.traced) c b ∧ exec i ev.1 b.shared ev.2 s' ∧
      Relation.ReflTransGen (Step exec Protocol.traced) b d := by
  induction hr with
  | refl => exact .inl h
  | @tail b d hcb hbd ih =>
    have hlater : ev ∈ b.stage i → ev ∈ c.stage i ∨ ∃ b' s',
        Relation.ReflTransGen (Step exec Protocol.traced) c b' ∧ exec i ev.1 b'.shared ev.2 s' ∧
        Relation.ReflTransGen (Step exec Protocol.traced) b' d := by
      intro hb
      rcases ih hb with hc | ⟨b', s', h₁, he, h₂⟩
      · exact .inl hc
      · exact .inr ⟨b', s', h₁, he, h₂.tail hbd⟩
    cases hbd with
    | @call j o k r s' hp he =>
      dsimp only at h
      by_cases hij : i = j
      · subst hij
        rw [Function.update_self] at h
        rcases List.mem_append.mp h with h | h
        · exact hlater h
        · rw [List.mem_singleton] at h
          subst h
          exact .inr ⟨b, s', hcb, he, .single (.call i hp he)⟩
      · exact hlater (by rwa [Function.update_of_ne hij] at h)

/-- What holds of the outcome and the trace of a coroutine, whatever it is answered, holds at its
end in any interleaving, each answer being that of the shared state at some moment of the run. -/
theorem ended_trace {exec : I → (o : Op) → S → Except E (Ans o) → S → Prop}
    {Q : Except E α → List (Event E Ans) → Prop} {c d : Config E Ans α I S Unit}
    (hr : Relation.ReflTransGen (Step exec Protocol.free) c d) {i : I} {r : Except E α}
    (hf : Follows Protocol.traced Q (c.prog i) []) (hd : d.prog i = .done r) :
    ∃ trace, Q r trace ∧ ∀ ev ∈ trace, ∃ b s',
      Relation.ReflTransGen (Step exec Protocol.free) c b ∧ exec i ev.1 b.shared ev.2 s' ∧
      Relation.ReflTransGen (Step exec Protocol.free) b d := by
  obtain ⟨stage, hr⟩ := restage Protocol.traced hr fun _ ↦ []
  obtain ⟨-, hend⟩ := interleaving_sound (J := fun _ _ ↦ True)
    (Q := fun j r trace ↦ j = i → Q r trace) (fun _ _ _ _ _ _ _ _ _ ↦ ⟨trivial, trivial⟩) hr
    trivial fun j ↦ by
      by_cases hj : j = i
      · subst hj
        exact hf.mono fun _ _ h _ ↦ h
      · exact (follows_traced _ _).mono fun _ _ _ h ↦ False.elim (hj h)
  have hi := hend i
  rw [hd] at hi
  refine ⟨stage i, hi rfl, fun ev hev ↦ ?_⟩
  rcases traced_served hr hev with h | ⟨b, s', hcb, he, hbd⟩
  · cases h
  · obtain ⟨stageb, hcb⟩ := restage Protocol.free hcb c.stage
    obtain ⟨staged, hbd⟩ := restage Protocol.free hbd stageb
    rw [Subsingleton.elim staged d.stage] at hbd
    exact ⟨_, s', hcb, he, hbd⟩

/-- Whether a coroutine has ended. -/
def ended : Prog E Ans α → Bool
  | .done _ => true
  | .call _ _ => false

/-- Number of coroutines that have not ended. -/
def unended [Fintype I] (prog : I → Prog E Ans α) : Nat := tally (fun p ↦ !p.ended) prog

section Completion

variable {exec : I → (o : Op) → S → Except E (Ans o) → S → Prop} {P : Protocol E Ans G}
  {Q : I → Except E α → G → Prop} {J : S → (I → G) → Prop}
  (hstep : ∀ s stage i o r s', J s stage → P.allowed o (stage i) → exec i o s r s' →
    P.possible o (stage i) r ∧ J s' (Function.update stage i (P.next o (stage i) r)))
include hstep

/-- A coroutine that can be served, and can still be served then, may run alone to its end. -/
theorem Follows.reach_done {i : I} (Ready : S → (I → G) → Prop)
    (hcan : ∀ s stage o, J s stage → P.allowed o (stage i) → Ready s stage →
      ∃ r s', exec i o s r s' ∧ Ready s' (Function.update stage i (P.next o (stage i) r)))
    (c : Config E Ans α I S G) (hinv : J c.shared c.stage)
    (hf : Follows P (Q i) (c.prog i) (c.stage i)) (hr : Ready c.shared c.stage) :
    ∃ d, Relation.ReflTransGen (Step exec P) c d ∧ (d.prog i).ended = true ∧
      ∀ j ≠ i, d.prog j = c.prog j := by
  generalize hp : c.prog i = p at hf
  induction p generalizing c with
  | done r => exact ⟨c, .refl, by rw [hp]; rfl, fun _ _ ↦ rfl⟩
  | call o k ih =>
    obtain ⟨r, s', he, hnext⟩ := hcan c.shared c.stage o hinv hf.1 hr
    obtain ⟨hposs, hinv'⟩ := hstep c.shared c.stage i o r s' hinv hf.1 he
    obtain ⟨d, hd, hend, hprog⟩ := ih r ⟨s', Function.update c.stage i (P.next o (c.stage i) r),
      Function.update c.prog i (k r)⟩ hinv' hnext (by simp) (by simpa using hf.2 r hposs)
    refine ⟨d, .head (.call i hp he) hd, hend, ?_⟩
    intro j hj
    rw [hprog j hj]
    exact Function.update_of_ne hj _ _

/-- Let the operations keep an invariant as in `interleaving_sound`, and let the invariant leave
some coroutine that can be served to its end as long as one has not ended. Then all may end. -/
theorem interleaving_completes_of_ready [Fintype I] (Ready : S → (I → G) → I → Prop)
    (hcan : ∀ s stage i o, J s stage → P.allowed o (stage i) → Ready s stage i →
      ∃ r s', exec i o s r s' ∧ Ready s' (Function.update stage i (P.next o (stage i) r)) i)
    (hready : ∀ c : Config E Ans α I S G, J c.shared c.stage →
      (∀ i, Follows P (Q i) (c.prog i) (c.stage i)) → (∃ i, (c.prog i).ended = false) →
      ∃ i, (c.prog i).ended = false ∧ Ready c.shared c.stage i)
    (c : Config E Ans α I S G) (hinv : J c.shared c.stage)
    (hf : ∀ i, Follows P (Q i) (c.prog i) (c.stage i)) :
    ∃ d, Relation.ReflTransGen (Step exec P) c d ∧ ∀ i, (d.prog i).ended = true := by
  generalize hn : unended c.prog = n
  induction n using Nat.strong_induction_on generalizing c with
  | _ n ih =>
    by_cases hall : ∀ i, (c.prog i).ended = true
    · exact ⟨c, .refl, hall⟩
    · obtain ⟨j, hj⟩ := not_forall.mp hall
      obtain ⟨i, hi, hr⟩ := hready c hinv hf ⟨j, by simpa using hj⟩
      obtain ⟨d, hd, hend, hprog⟩ := Follows.reach_done hstep (fun s stage ↦ Ready s stage i)
        (fun s stage o ↦ hcan s stage i o) c hinv (hf i) hr
      obtain ⟨hinv', hf'⟩ := interleaving_sound hstep hd hinv hf
      -- the others are as they were, so one coroutine less is left
      have hupdate : d.prog = Function.update c.prog i (d.prog i) := by
        funext j
        by_cases hji : j = i
        · subst hji
          simp
        · rw [hprog j hji, Function.update_of_ne hji]
      have hless : unended d.prog < n := by
        have ht := tally_update (fun p : Prog E Ans α ↦ !p.ended) c.prog i (d.prog i)
        rw [← hupdate] at ht
        simp only [hi, hend, Bool.not_false, Bool.not_true, Bool.toNat_true,
          Bool.toNat_false] at ht
        unfold unended at hn ⊢
        omega
      obtain ⟨e, he, hfin⟩ := ih _ hless d hinv' hf' rfl
      exact ⟨e, hd.trans he, hfin⟩

end Completion

/-- The same, where the stage of a coroutine says whether it can be served. -/
theorem interleaving_completes [Fintype I]
    {exec : I → (o : Op) → S → Except E (Ans o) → S → Prop} {P : Protocol E Ans G}
    {Q : I → Except E α → G → Prop} (J : S → (I → G) → Prop) (Ready : S → G → Prop)
    (hstep : ∀ s stage i o r s', J s stage → P.allowed o (stage i) → exec i o s r s' →
      P.possible o (stage i) r ∧ J s' (Function.update stage i (P.next o (stage i) r)))
    (hcan : ∀ i o g s, P.allowed o g → Ready s g → ∃ r s', exec i o s r s' ∧ P.possible o g r ∧
      Ready s' (P.next o g r))
    (hready : ∀ c : Config E Ans α I S G, J c.shared c.stage →
      (∀ i, Follows P (Q i) (c.prog i) (c.stage i)) → (∃ i, (c.prog i).ended = false) →
      ∃ i, (c.prog i).ended = false ∧ Ready c.shared (c.stage i))
    (c : Config E Ans α I S G) (hinv : J c.shared c.stage)
    (hf : ∀ i, Follows P (Q i) (c.prog i) (c.stage i)) :
    ∃ d, Relation.ReflTransGen (Step exec P) c d ∧ ∀ i, (d.prog i).ended = true := by
  apply interleaving_completes_of_ready hstep (fun s stage i ↦ Ready s (stage i)) ?_ hready c hinv
    hf
  intro s stage i o _ ha hr
  obtain ⟨r, s', he, -, hnext⟩ := hcan i o (stage i) s ha hr
  exact ⟨r, s', he, by rwa [Function.update_self]⟩

/-- A coroutine may run alone to its end, each operation answered as a handler does. -/
theorem reach_run {exec : I → (o : Op) → S → Except E (Ans o) → S → Prop} {P : Protocol E Ans G}
    {i : I} {h : (o : Op) → S → Except E (Ans o) × S}
    (he : ∀ o s, exec i o s (h o s).1 (h o s).2) (c : Config E Ans α I S G) :
    ∃ d, Relation.ReflTransGen (Step exec P) c d ∧ d.shared = (run h (c.prog i) c.shared).2 ∧
      d.prog i = .done (run h (c.prog i) c.shared).1 ∧ ∀ j ≠ i, d.prog j = c.prog j := by
  generalize hp : c.prog i = p
  induction p generalizing c with
  | done r => exact ⟨c, .refl, rfl, hp, fun _ _ ↦ rfl⟩
  | call o k ih =>
    obtain ⟨d, hd, hs, hend, hprog⟩ := ih (h o c.shared).1
      ⟨(h o c.shared).2, Function.update c.stage i (P.next o (c.stage i) (h o c.shared).1),
        Function.update c.prog i (k (h o c.shared).1)⟩ (by simp)
    refine ⟨d, .head (.call i hp (he o c.shared)) hd, hs, hend, ?_⟩
    intro j hj
    rw [hprog j hj]
    exact Function.update_of_ne hj _ _

/-- Coroutines may run one after the other. -/
theorem reach_runs {exec : I → (o : Op) → S → Except E (Ans o) → S → Prop} {P : Protocol E Ans G}
    {h : I → (o : Op) → S → Except E (Ans o) × S}
    (he : ∀ i o s, exec i o s (h i o s).1 (h i o s).2) {is : List I} (hn : is.Nodup)
    (c : Config E Ans α I S G) : ∃ d, Relation.ReflTransGen (Step exec P) c d ∧
      d.shared = is.foldl (fun s i ↦ (run (h i) (c.prog i) s).2) c.shared := by
  induction is generalizing c with
  | nil => exact ⟨c, .refl, rfl⟩
  | cons i is ih =>
    rw [List.nodup_cons] at hn
    obtain ⟨b, hb, hs, -, hprog⟩ := reach_run (P := P) (he i) c
    obtain ⟨d, hd, hds⟩ := ih hn.2 b
    refine ⟨d, hb.trans hd, ?_⟩
    rw [hds, hs]
    apply List.foldl_ext
    intro s j hj
    rw [hprog j fun hji ↦ hn.1 (hji ▸ hj)]

end Interleaving

end Prog
end AsbCloudApi.Base
