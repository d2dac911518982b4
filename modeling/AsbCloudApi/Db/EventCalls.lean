import AsbCloudApi.Db.KeyCalls

/-!
# Concurrent recording of Stripe events

Library `Db`. Any number of calls of `try_record_stripe_event` over one connection pool, interleaved
with failures at any point. The insert with `ON CONFLICT DO NOTHING` decides which of the calls for
an event is told that it is new; the event is lost only if that call raises.
-/

namespace AsbCloudApi.Db.Pooled

open Base

/-- What is recorded of a Stripe event. -/
structure StripeEvent where
  id : String
  type : String

namespace StripeEvent

/-- The request that records an event. -/
def request (e : StripeEvent) : Request Bool :=
  .perform (StoreCall.tryRecordStripeEvent e.id e.type)

/-- Its statement. -/
def statement (e : StripeEvent) : Statement := .insertStripeEvent e.id e.type

end StripeEvent

/-- A call sends its statement once, and tells whether a row came back. -/
private theorem performs_request (st : Stores) (e : StripeEvent) :
    Once.Performs e.statement Option.isSome (e.request.embed (StoreCall.prog st)) := by
  unfold StripeEvent.request
  rw [Prog.embed_perform]
  exact Once.performs_lend_map (A := Statement.Ans) e.statement Option.isSome

/-! ### The statement -/

section Statement

variable (others : (s : Statement) → Except StoreExn s.Ans) (e : StripeEvent) (x : ℚ)
  (t : AuthTables)

/-- The statement is refused, or finds the event, or inserts it. -/
private theorem act_cases :
    (∃ error, AuthTables.act others e.statement x t = (.error error, t)) ∨
    ((t.events.get? e.id).isSome = true ∧
      AuthTables.act others e.statement x t = (.ok none, t)) ∨
    (t.events.get? e.id = none ∧ AuthTables.act others e.statement x t =
      (.ok (some e.id), { t with events := t.events.set e.id e.type })) := by
  unfold StripeEvent.statement
  simp only [AuthTables.act, Db.PostgresKeyStore.tryRecordStripeEvent]
  cases Db.PostgresKeyStore.checkParams [some e.id, some e.type] with
  | error error => exact Or.inl ⟨_, rfl⟩
  | ok _ =>
    cases hget : t.events.get? e.id with
    | none => exact Or.inr (Or.inr ⟨rfl, rfl⟩)
    | some type => exact Or.inr (Or.inl ⟨rfl, rfl⟩)

/-- A row comes back exactly if the event was not recorded; then it is. -/
private theorem act_answer {row : Option String}
    (h : (AuthTables.act others e.statement x t).1 = .ok row) :
    (row.isSome = true ↔ t.events.get? e.id = none) ∧
      ((AuthTables.act others e.statement x t).2.events.get? e.id).isSome = true := by
  rcases act_cases others e x t with ⟨error, hact⟩ | ⟨hknown, hact⟩ | ⟨hnew, hact⟩
  · rw [hact] at h
    cases h
  · rw [hact] at h ⊢
    obtain rfl := Except.ok.inj h
    refine ⟨?_, hknown⟩
    cases hget : t.events.get? e.id with
    | none => simp [hget] at hknown
    | some type => simp
  · rw [hact] at h ⊢
    obtain rfl := Except.ok.inj h
    simp [hnew]

/-- What is recorded stays. -/
private theorem act_keeps {id type : String} (h : t.events.get? id = some type) :
    (AuthTables.act others e.statement x t).2.events.get? id = some type := by
  rcases act_cases others e x t with ⟨error, hact⟩ | ⟨-, hact⟩ | ⟨hnew, hact⟩
  · rw [hact]
    exact h
  · rw [hact]
    exact h
  · rw [hact]
    change (t.events.set e.id e.type).get? id = some type
    rw [Dict.get?_set_ne, h]
    rintro rfl
    rw [hnew] at h
    cases h

/-- Nothing but the event comes in. -/
private theorem act_adds {id type : String}
    (h : (AuthTables.act others e.statement x t).2.events.get? id = some type) :
    t.events.get? id = some type ∨ e = ⟨id, type⟩ := by
  rcases act_cases others e x t with ⟨error, hact⟩ | ⟨-, hact⟩ | ⟨-, hact⟩
  · rw [hact] at h
    exact Or.inl h
  · rw [hact] at h
    exact Or.inl h
  · rw [hact] at h
    change (t.events.set e.id e.type).get? id = some type at h
    by_cases hid : e.id = id
    · subst hid
      rw [Dict.get?_set_self] at h
      obtain rfl := Option.some.inj h
      exact Or.inr rfl
    · rw [Dict.get?_set_ne _ _ hid] at h
      exact Or.inl h

end Statement

/-! ### Histories -/

section Concurrent

variable {I : Type} {st : Stores} {maxPool : Nat}
  {others : (s : Statement) → Except StoreExn s.Ans} (event : I → StripeEvent)

variable (others) in
/-- The events that are recorded after a history. -/
private def eventsAfter (t : AuthTables) (history : List (I × ℚ)) : StripeEvents :=
  (replay (AuthTables.act others) (fun i ↦ (event i).statement) t history).events

private theorem eventsAfter_append {t : AuthTables} {front : List (I × ℚ)} {id type : String}
    (h : (eventsAfter others event t front).get? id = some type) (back : List (I × ℚ)) :
    (eventsAfter others event t (front ++ back)).get? id = some type := by
  induction back using List.reverseRecOn with
  | nil => rwa [List.append_nil]
  | append_singleton back p ih =>
    unfold eventsAfter
    rw [← List.append_assoc, replay_concat]
    exact act_keeps others _ _ _ ih

private theorem eventsAfter_cases {t : AuthTables} {history : List (I × ℚ)} {id type : String}
    (h : (eventsAfter others event t history).get? id = some type) :
    t.events.get? id = some type ∨ ∃ p ∈ history, event p.1 = ⟨id, type⟩ := by
  induction history using List.reverseRecOn with
  | nil => exact Or.inl h
  | append_singleton history p ih =>
    unfold eventsAfter at h
    rw [replay_concat] at h
    rcases act_adds others _ _ _ h with hearlier | hevent
    · rcases ih hearlier with hstart | ⟨q, hq, hevent⟩
      · exact Or.inl hstart
      · exact Or.inr ⟨q, List.mem_append_left _ hq, hevent⟩
    · exact Or.inr ⟨p, List.mem_append_right _ List.mem_cons_self, hevent⟩

variable (st) in
/-- Call `i` before its first step. -/
def uncalled (i : I) : StoreProg Bool := (event i).request.embed (StoreCall.prog st)

variable (st) in
/-- What the calls for events leave: of those for one id at most one is told that the event is new,
and only if it was; once a call has returned its event is recorded; nothing is recorded but events
of calls that have started. If no call for a new id has raised or is under way, then one of those
that have returned was told that it is new. -/
structure RecordedOnce (t : AuthTables) (d : Process I AuthTables Bool) : Prop where
  unique : ∀ i j, d.prog i = .done (.ok true) → d.prog j = .done (.ok true) →
    (event i).id = (event j).id → i = j
  new : ∀ i, d.prog i = .done (.ok true) → t.events.get? (event i).id = none
  known : ∀ i b, d.prog i = .done (.ok b) → (d.shared.inner.events.get? (event i).id).isSome
  called : ∀ id type, d.shared.inner.events.get? id = some type →
    t.events.get? id = some type ∨ ∃ i, d.prog i ≠ uncalled st event i ∧ event i = ⟨id, type⟩
  told : ∀ i b, d.prog i = .done (.ok b) → t.events.get? (event i).id = none →
    (∀ j, (event j).id = (event i).id →
      d.prog j = uncalled st event j ∨ ∃ b', d.prog j = .done (.ok b')) →
    ∃ j, (event j).id = (event i).id ∧ d.prog j = .done (.ok true)

variable (others) in
/-- A history that explains the tables and what the calls have returned. -/
private def EventHist (t : AuthTables) (history : List (I × ℚ)) (d : Process I AuthTables Bool) :
    Prop :=
  ∃ stage, Linear (AuthTables.act others) (fun i ↦ (event i).statement) t history
      d.shared.inner stage ∧
    ∀ i, Prog.Follows Once.discipline (fun r g ↦ ∀ b, r = .ok b → ∃ a : Option String,
      g = .answered (event i).statement (.ok a) ∧ b = a.isSome) (d.prog i) (stage i)

variable {event} {t : AuthTables} {history : List (I × ℚ)} {d : Process I AuthTables Bool}

/-- The recorded events are those of the history. -/
private theorem EventHist.events_eq (h : EventHist others event t history d) :
    d.shared.inner.events = eventsAfter others event t history := by
  obtain ⟨stage, hl, -⟩ := h
  exact congrArg AuthTables.events hl.state

/-- A call has started if its statement took effect. -/
private theorem EventHist.ne_uncalled (h : EventHist others event t history d) {p : I × ℚ}
    (hp : p ∈ history) : d.prog p.1 ≠ uncalled st event p.1 := by
  obtain ⟨stage, hl, hf⟩ := h
  intro huncalled
  rcases hl.stages p.1 with htodo | ⟨a, ha⟩
  · exact hl.todo p.1 htodo (List.mem_map_of_mem hp)
  · have hfp := hf p.1
    rw [huncalled, ha] at hfp
    cases (hfp.2 (.ok (0 : Conn)) trivial).1

/-- Where a call that has returned stands in the history. -/
private theorem EventHist.placed (h : EventHist others event t history d) {i : I} {b : Bool}
    (hi : d.prog i = .done (.ok b)) : ∃ front x back, history = front ++ (i, x) :: back ∧
      (b = true ↔ (eventsAfter others event t front).get? (event i).id = none) ∧
      ((eventsAfter others event t (front ++ [(i, x)])).get? (event i).id).isSome = true := by
  obtain ⟨stage, hl, hf⟩ := h
  have hfi := hf i
  rw [hi] at hfi
  obtain ⟨row, hrow, rfl⟩ := hfi b rfl
  obtain ⟨front, x, back, hsplit, hanswer⟩ := hl.answered i row hrow
  obtain ⟨hnew, hknown⟩ := act_answer others _ _ _ hanswer
  refine ⟨front, x, back, hsplit, hnew, ?_⟩
  unfold eventsAfter
  rw [replay_concat]
  exact hknown

/-- A call that is told that its event is new does not stand after another call for its id. -/
private theorem not_before {front middle : List (I × ℚ)} {p : I × ℚ} {id : String}
    (hknown : ((eventsAfter others event t (front ++ [p])).get? id).isSome = true)
    (hnew : (eventsAfter others event t (front ++ p :: middle)).get? id = none) : False := by
  obtain ⟨type, htype⟩ := Option.isSome_iff_exists.mp hknown
  have hlater := eventsAfter_append event htype middle
  rw [List.append_assoc, List.singleton_append, hnew] at hlater
  cases hlater

/-- A call has one place in a history. -/
private theorem front_unique {front front' back back' : List (I × ℚ)} {i : I} {x x' : ℚ}
    (hn : ((front ++ (i, x) :: back).map Prod.fst).Nodup)
    (hsame : front ++ (i, x) :: back = front' ++ (i, x') :: back') : front = front' := by
  have hkeys := congrArg (List.map Prod.fst) hsame
  rw [List.map_append, List.map_cons] at hn
  have hmem := (List.nodup_cons.mp (List.nodup_middle.mp hn)).1
  rw [List.mem_append, not_or] at hmem
  rw [List.map_append, List.map_append, List.map_cons, List.map_cons] at hkeys
  obtain ⟨hfront, -, -⟩ := (List.append_cons_inj_of_notMem hmem.1 hmem.2).mp hkeys
  apply List.append_inj_left hsame
  simpa using congrArg List.length hfront

/-- Of two places in a history, a call that is told that its event is new has the first one. -/
private theorem eq_of_split {i j : I} {x y : ℚ} {front middle back back' : List (I × ℚ)}
    (hknown : ((eventsAfter others event t (front ++ [(i, x)])).get? (event i).id).isSome = true)
    (hnew : (eventsAfter others event t (front ++ middle)).get? (event i).id = none)
    (hsplit : (i, x) :: back = middle ++ (j, y) :: back') : i = j := by
  cases middle with
  | nil => exact congrArg Prod.fst (List.cons.inj hsplit).1
  | cons p middle =>
    obtain rfl := (List.cons.inj hsplit).1
    exact False.elim (not_before hknown hnew)

/-- No two calls for one id are told that it is new. -/
private theorem EventHist.unique (h : EventHist others event t history d) {i j : I}
    (hi : d.prog i = .done (.ok true)) (hj : d.prog j = .done (.ok true))
    (hid : (event i).id = (event j).id) : i = j := by
  obtain ⟨front, x, back, hsplit, hnew, hknown⟩ := h.placed hi
  obtain ⟨front', y, back', hsplit', hnew', hknown'⟩ := h.placed hj
  rcases List.append_eq_append_iff.mp (hsplit.symm.trans hsplit') with
    ⟨middle, rfl, hback⟩ | ⟨middle, rfl, hback⟩
  · exact eq_of_split hknown (hid ▸ hnew'.mp rfl) hback
  · exact (eq_of_split hknown' (hid ▸ hnew.mp rfl) hback).symm

/-- A call is told so only of an event that was not there. -/
private theorem EventHist.new (h : EventHist others event t history d) {i : I}
    (hi : d.prog i = .done (.ok true)) : t.events.get? (event i).id = none := by
  obtain ⟨front, x, back, -, hnew, -⟩ := h.placed hi
  cases hget : t.events.get? (event i).id with
  | none => rfl
  | some type =>
    have hstart : (eventsAfter others event t []).get? (event i).id = some type := hget
    have hlater := eventsAfter_append event hstart front
    rw [List.nil_append, hnew.mp rfl] at hlater
    cases hlater

/-- The event of a call that has returned is recorded. -/
private theorem EventHist.known (h : EventHist others event t history d) {i : I} {b : Bool}
    (hi : d.prog i = .done (.ok b)) :
    ((eventsAfter others event t history).get? (event i).id).isSome = true := by
  obtain ⟨front, x, back, rfl, -, hknown⟩ := h.placed hi
  obtain ⟨type, htype⟩ := Option.isSome_iff_exists.mp hknown
  have hlater := eventsAfter_append event htype back
  rw [List.append_assoc, List.singleton_append] at hlater
  rw [hlater]
  rfl

/-- As long as no call for an id raises and none is told that it is new, the id stays out. -/
private theorem EventHist.stays_out (h : EventHist others event t history d) {id : String}
    (hstart : t.events.get? id = none)
    (hreturned : ∀ j, (event j).id = id →
      d.prog j = uncalled st event j ∨ ∃ b, d.prog j = .done (.ok b))
    (hnone : ∀ j, (event j).id = id → d.prog j ≠ .done (.ok true)) (front back : List (I × ℚ))
    (hsplit : history = front ++ back) : (eventsAfter others event t front).get? id = none := by
  induction front using List.reverseRecOn generalizing back with
  | nil => exact hstart
  | append_singleton front p ih =>
    rw [List.append_assoc, List.singleton_append] at hsplit
    have hearlier := ih _ hsplit
    cases hget : (eventsAfter others event t (front ++ [p])).get? id with
    | none => rfl
    | some type =>
      unfold eventsAfter at hget
      rw [replay_concat] at hget
      rcases act_adds others _ _ _ hget with hcontra | hevent
      · exact absurd (hcontra.symm.trans hearlier) (Option.some_ne_none type)
      · have hid : (event p.1).id = id := by rw [hevent]
        have hmem : p ∈ history := by
          rw [hsplit]
          exact List.mem_append_right _ List.mem_cons_self
        rcases hreturned p.1 hid with huncalled | ⟨b, hb⟩
        · exact absurd huncalled (h.ne_uncalled hmem)
        · obtain ⟨front', y, back', hsplit', hnew, -⟩ := h.placed hb
          obtain ⟨stage, hl, -⟩ := h
          obtain rfl := front_unique (hsplit ▸ hl.nodup) (hsplit.symm.trans hsplit')
          rw [hnew.mpr (hid ▸ hearlier)] at hb
          exact absurd hb (hnone p.1 hid)

/-- In any interleaving of calls over a pool of any size, where acquisitions, statements and
releases raise at any time and a statement may raise after its effect, every event is recorded once,
and lost only if a call for it raises. -/
theorem recordedOnce_of_reaches [DecidableEq I]
    (hr : Reaches maxPool (Effect StoreExn.fault (AuthTables.act others)) (fun _ t ↦ t)
      (start st maxPool t fun i ↦ (event i).request) d) : RecordedOnce st event t d := by
  obtain ⟨stage, hr⟩ := Prog.restage Once.discipline hr fun i ↦ .todo (event i).statement
  obtain ⟨⟨history, hl⟩, hf⟩ := linear_sound hr (linear_start _ _ t)
    fun i ↦ performs_request st (event i)
  have h : EventHist others event t ([] ++ history) d := ⟨stage, hl, hf⟩
  refine ⟨fun i j ↦ h.unique, fun i ↦ h.new, ?_, ?_, ?_⟩
  · intro i b hi
    rw [h.events_eq]
    exact h.known hi
  · intro id type hget
    rw [h.events_eq] at hget
    rcases eventsAfter_cases event hget with hstart | ⟨p, hp, hevent⟩
    · exact Or.inl hstart
    · exact Or.inr ⟨p.1, h.ne_uncalled hp, hevent⟩
  · intro i b hi hstart hreturned
    by_contra hnone
    have hout := h.stays_out hstart hreturned (fun j hid hj ↦ hnone ⟨j, hid, hj⟩) _ []
      (List.append_nil _).symm
    have hknown := h.known hi
    rw [hout] at hknown
    cases hknown

end Concurrent

private def sampleEvent : StripeEvent := ⟨"evt_1", "invoice.paid"⟩

/-- The tables once the event is recorded. -/
private def recordedTables : AuthTables := ⟨Dict.empty, Dict.empty.set "evt_1" "invoice.paid"⟩

private theorem event_served {t t' : AuthTables} {row : Option String}
    (h : AuthTables.act Sample.refusing sampleEvent.statement 0 t = (.ok row, t')) :
    Effect StoreExn.fault (AuthTables.act Sample.refusing) (0 : Conn) sampleEvent.statement t
      (.ok row) t' := by
  have hserved : Effect StoreExn.fault (AuthTables.act Sample.refusing) (0 : Conn)
    sampleEvent.statement t _ _ := .served (x := 0)
  rwa [h] at hserved

/-- Two deliveries of an event: the first one is told that it is new, the second one that it is
not. -/
theorem recordedOnce_of_reaches_sample : ∃ d : Process Bool AuthTables Bool,
    RecordedOnce Sample.keyStores (fun _ ↦ sampleEvent) Sample.emptyTables d ∧
      d.prog true = .done (.ok true) ∧ d.prog false = .done (.ok false) := by
  have hparams : Db.PostgresKeyStore.checkParams [some "evt_1", some "invoice.paid"] = .ok () := by
    decide +kernel
  have hnew : AuthTables.act Sample.refusing sampleEvent.statement 0 Sample.emptyTables =
      (.ok (some "evt_1"), recordedTables) := by
    simp only [sampleEvent, StripeEvent.statement, AuthTables.act,
      Db.PostgresKeyStore.tryRecordStripeEvent, hparams]
    rfl
  have hknown : AuthTables.act Sample.refusing sampleEvent.statement 0 recordedTables =
      (.ok none, recordedTables) := by
    simp only [sampleEvent, StripeEvent.statement, AuthTables.act,
      Db.PostgresKeyStore.tryRecordStripeEvent, hparams]
    rfl
  have hstart : Reaches 1 (Effect StoreExn.fault (AuthTables.act Sample.refusing)) (fun _ t ↦ t)
      (start Sample.keyStores 1 Sample.emptyTables fun _ : Bool ↦ sampleEvent.request)
      (start Sample.keyStores 1 Sample.emptyTables fun _ : Bool ↦ sampleEvent.request) := .refl
  have hlent := hstart.tail (.call true rfl Borrow.serve_acquire)
  have hsent := hlent.tail (.call true rfl (.serve (.use (event_served hnew))))
  have hback := hsent.tail (.call true rfl Borrow.serve_release)
  have hlent' := hback.tail (.call false rfl Borrow.serve_acquire)
  have hsent' := hlent'.tail (.call false rfl (.serve (.use (event_served hknown))))
  have hback' := hsent'.tail (.call false rfl Borrow.serve_release)
  exact ⟨_, recordedOnce_of_reaches hback', rfl, rfl⟩

end AsbCloudApi.Db.Pooled
