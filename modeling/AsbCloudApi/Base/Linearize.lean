import AsbCloudApi.Base.Borrow

/-!
# Linearization

Library `Base`. Coroutines that borrow a resource for one operation each, on a state that
changes atomically with the operation. An operation may raise with or without its effect. Every
interleaving has a history, an order of the operations that took effect: the state is that
of the sequential run, each coroutine that ends normally ends with the answer at its place,
and the history only grows, so that it respects the order in time.
-/

namespace AsbCloudApi.Base

open Borrow

variable {E R U X S I α : Type} {A : U → Type}

/-- A coroutine before and after its one operation. -/
inductive Once (E : Type) {U : Type} (A : U → Type) where
  | todo (u : U)
  | answered (u : U) (a : Except E (A u))

namespace Once

/-- The discipline of a coroutine that performs the operation of its stage, once. -/
def discipline : Prog.Protocol E (Ans R A) (Once E A) where
  allowed o g :=
    match o with
    | .use _ u => g = .todo u
    | _ => True
  possible _ _ _ := True
  next o g a :=
    match o, a with
    | .use _ u, a => .answered u a
    | _, _ => g

/-- From its one operation, the coroutine makes its outcome. -/
def Performs (u : U) (f : A u → α) (p : Prog E (Ans R A) α) : Prop :=
  Prog.Follows discipline
    (fun r g ↦ ∀ b, r = .ok b → ∃ a, g = .answered u (.ok a) ∧ b = f a) p (.todo u)

/-- Borrowing a resource for the operation, and nothing else. -/
theorem performs_lend (u : U) :
    Performs u id (lend fun r : R ↦ (.perform (use r u) : Prog E (Ans R A) (A u))) := by
  refine ⟨trivial, fun r _ ↦ ?_⟩
  cases r with
  | error e => exact nofun
  | ok r =>
    refine ⟨rfl, fun a _ ↦ ⟨trivial, fun x _ ↦ ?_⟩⟩
    cases x with
    | error e => exact nofun
    | ok _ =>
      rintro b rfl
      exact ⟨b, rfl, rfl⟩

/-- The same, with what is made of the answer before the resource is given back. -/
theorem performs_lend_map (u : U) (f : A u → α) : Performs u f
    (lend fun r : R ↦ ((.perform (use r u) >>= fun a ↦ pure (f a)) : Prog E (Ans R A) α)) := by
  refine ⟨trivial, fun r _ ↦ ?_⟩
  cases r with
  | error e => exact nofun
  | ok r =>
    refine ⟨rfl, fun a _ ↦ ?_⟩
    cases a with
    | error e =>
      refine ⟨trivial, fun x _ ↦ ?_⟩
      cases x with
      | error e' => exact nofun
      | ok _ => exact nofun
    | ok a =>
      refine ⟨trivial, fun x _ ↦ ?_⟩
      cases x with
      | error e => exact nofun
      | ok _ =>
        intro b hb
        exact ⟨a, rfl, (Except.ok.inj hb).symm⟩

/-- What is made of the answer afterwards, without asking for anything. -/
theorem Performs.bind {β : Type} {u : U} {f : A u → α} {p : Prog E (Ans R A) α}
    (h : Performs u f p) (g : α → β) : Performs u (g ∘ f) (p >>= fun a ↦ pure (g a)) := by
  apply Prog.Follows.bind h
  · intro a stage hr c hc
    obtain ⟨b, hb, rfl⟩ := hr a rfl
    exact ⟨b, hb, (Except.ok.inj hc).symm⟩
  · exact fun _ _ _ ↦ nofun

end Once

/-- How an operation acts on the state: `x` is what the environment contributes, such as the time.
It may raise after its effect, or instead of it. -/
inductive Effect (fault : E → Prop) (act : (u : U) → X → S → Except E (A u) × S) :
    R → (u : U) → S → Except E (A u) → S → Prop
  | served {r : R} {u : U} {x : X} {s : S} : Effect fault act r u s (act u x s).1 (act u x s).2
  | late {r : R} {u : U} {x : X} {s : S} {e : E} (he : fault e) :
      Effect fault act r u s (.error e) (act u x s).2
  | failed {r : R} {u : U} {s : S} {e : E} (he : fault e) : Effect fault act r u s (.error e) s

section Histories

variable (act : (u : U) → X → S → Except E (A u) × S) (u : I → U)

/-- The sequential run of a history. -/
def replay (s : S) (history : List (I × X)) : S :=
  history.foldl (fun s p ↦ (act (u p.1) p.2 s).2) s

@[simp] theorem replay_concat (s : S) (history : List (I × X)) (p : I × X) :
    replay act u s (history ++ [p]) = (act (u p.1) p.2 (replay act u s history)).2 :=
  List.foldl_concat ..

/-- At its place in the history, the operation of `i` was answered `a`. -/
def AnsweredAt (s : S) (history : List (I × X)) (i : I) (a : A (u i)) : Prop :=
  ∃ front x back, history = front ++ (i, x) :: back ∧
    (act (u i) x (replay act u s front)).1 = .ok a

variable {act u} in
theorem AnsweredAt.append {s : S} {history : List (I × X)} {i : I} {a : A (u i)}
    (h : AnsweredAt act u s history i a) (more : List (I × X)) :
    AnsweredAt act u s (history ++ more) i a := by
  obtain ⟨front, x, back, rfl, ha⟩ := h
  exact ⟨front, x, back ++ more, by simp, ha⟩

/-- A history explains a state and the stages of the coroutines. -/
structure Linear (start : S) (history : List (I × X)) (s : S) (stage : I → Once E A) : Prop where
  nodup : (history.map Prod.fst).Nodup
  state : s = replay act u start history
  stages : ∀ i, stage i = .todo (u i) ∨ ∃ a, stage i = .answered (u i) a
  todo : ∀ i, stage i = .todo (u i) → i ∉ history.map Prod.fst
  answered : ∀ i a, stage i = .answered (u i) (.ok a) → AnsweredAt act u start history i a

/-- Before the first step nothing has happened. -/
theorem linear_start (s : S) : Linear act u s [] s fun i ↦ (.todo (u i) : Once E A) where
  nodup := List.nodup_nil
  state := rfl
  stages _ := .inl rfl
  todo _ _ := List.not_mem_nil
  answered _ _ h := nomatch h

variable {act u} [DecidableEq I] {start : S} {history : List (I × X)} {s : S}
  {stage : I → Once E A}

/-- Coroutine `i` is answered by an exception, without an effect. -/
private theorem Linear.fail (h : Linear act u start history s stage) {i : I} (e : E) :
    Linear act u start history s (Function.update stage i (.answered (u i) (.error e))) := by
  refine ⟨h.nodup, h.state, ?_, ?_, ?_⟩
  · intro j
    by_cases hj : j = i
    · subst hj
      exact .inr ⟨.error e, Function.update_self ..⟩
    · rw [Function.update_of_ne hj]
      exact h.stages j
  · intro j hj
    by_cases hji : j = i
    · subst hji
      rw [Function.update_self] at hj
      cases hj
    · rw [Function.update_of_ne hji] at hj
      exact h.todo j hj
  · intro j a hj
    by_cases hji : j = i
    · subst hji
      rw [Function.update_self] at hj
      cases hj
    · rw [Function.update_of_ne hji] at hj
      exact h.answered j a hj

/-- The operation of coroutine `i` takes effect; it is answered as it should be, or raises. -/
private theorem Linear.take (h : Linear act u start history s stage) {i : I} {x : X}
    (hi : stage i = .todo (u i)) {a : Except E (A (u i))}
    (ha : ∀ b, a = .ok b → (act (u i) x s).1 = .ok b) :
    Linear act u start (history ++ [(i, x)]) (act (u i) x s).2
      (Function.update stage i (.answered (u i) a)) := by
  refine ⟨?_, ?_, ?_, ?_, ?_⟩
  · rw [List.map_append, List.nodup_append]
    refine ⟨h.nodup, List.nodup_singleton i, ?_⟩
    rintro j hj k hk rfl
    rw [List.map_singleton, List.mem_singleton] at hk
    subst hk
    exact h.todo _ hi hj
  · rw [replay_concat, ← h.state]
  · intro j
    by_cases hj : j = i
    · subst hj
      exact .inr ⟨a, Function.update_self ..⟩
    · rw [Function.update_of_ne hj]
      exact h.stages j
  · intro j hj
    by_cases hji : j = i
    · subst hji
      rw [Function.update_self] at hj
      cases hj
    · rw [Function.update_of_ne hji] at hj
      rw [List.map_append, List.mem_append, List.map_singleton, List.mem_singleton]
      rintro (hmem | hji')
      · exact h.todo j hj hmem
      · exact hji hji'
  · intro j b hj
    by_cases hji : j = i
    · subst hji
      rw [Function.update_self] at hj
      obtain rfl : a = .ok b := by
        injection hj
      refine ⟨history, x, [], rfl, ?_⟩
      rw [← h.state]
      exact ha b rfl
    · rw [Function.update_of_ne hji] at hj
      exact (h.answered j b hj).append _

variable {fault : E → Prop} {all : List R} {p p' : Pool R S}

/-- What the discipline allows continues the history. -/
theorem Linear.step (h : Linear act u start history p.inner stage) {i : I} {o : Borrow R U}
    {a : Except E (Ans R A o)} (ha : (Once.discipline (E := E)).allowed o (stage i))
    (hs : ServeOrRefuse fault (Effect fault act) (fun _ s ↦ s) all o p a p') :
    ∃ more, Linear act u start (history ++ more) p'.inner
      (Function.update stage i (Once.discipline.next o (stage i) a)) := by
  have hstay : p'.inner = p.inner → ∃ more, Linear act u start (history ++ more) p'.inner
      (Function.update stage i (stage i)) := by
    intro hinner
    refine ⟨[], ?_⟩
    rw [hinner, List.append_nil, Function.update_eq_self]
    exact h
  cases hs with
  | refuse => exact hstay rfl
  | serve hs =>
    cases hs with
    | lend | gone | back | lost | pause | close => exact hstay rfl
    | @use r v s s' free b a hu =>
      obtain rfl : v = u i := by
        rcases h.stages i with hi | ⟨a', hi⟩
        · injection (show stage i = .todo v from ha).symm.trans hi
        · cases (show stage i = .todo v from ha).symm.trans hi
      have hnext : Once.discipline.next (.use r (u i)) (stage i) a = .answered (u i) a := rfl
      rw [hnext]
      cases hu with
      | served => exact ⟨[_], h.take ha fun _ hb ↦ hb⟩
      | late he => exact ⟨[_], h.take ha nofun⟩
      | failed he =>
        refine ⟨[], ?_⟩
        rw [List.append_nil]
        exact h.fail _

/-- In every interleaving of such coroutines, what has happened by one moment is the start of what
has happened by a later one. -/
theorem linear_sound {Q : I → Except E α → Once E A → Prop}
    {c d : Prog.Config E (Ans R A) α I (Pool R S) (Once E A)}
    (hr : Relation.ReflTransGen (Prog.Step
      (fun _ ↦ ServeOrRefuse fault (Effect fault act) (fun _ s ↦ s) all) Once.discipline) c d)
    (hl : Linear act u start history c.shared.inner c.stage)
    (hf : ∀ i, Prog.Follows Once.discipline (Q i) (c.prog i) (c.stage i)) :
    (∃ more, Linear act u start (history ++ more) d.shared.inner d.stage) ∧
      ∀ i, Prog.Follows Once.discipline (Q i) (d.prog i) (d.stage i) := by
  refine Prog.interleaving_sound (P := Once.discipline) (J := fun p stage ↦
    ∃ more, Linear act u start (history ++ more) p.inner stage) ?_ hr ⟨[], by simpa using hl⟩ hf
  rintro p stage i o a p' ⟨more, h⟩ ha hs
  obtain ⟨more', h'⟩ := h.step ha hs
  exact ⟨trivial, more ++ more', by rwa [← List.append_assoc]⟩

end Histories
end AsbCloudApi.Base
