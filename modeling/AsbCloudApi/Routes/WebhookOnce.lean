import AsbCloudApi.Base.Run
import AsbCloudApi.Routes.Webhooks

/-!
# Concurrent webhook deliveries

Library `Routes`. Any number of deliveries share the tables and the set and are interleaved
operation by operation. With either way of recording, only the delivery that is told that its
event is new calls the key store, and it calls it once.
-/

namespace AsbCloudApi.Routes

open Base Api Db Session

/-- The id under which the event of a request is recorded. -/
def WebhookRequest.eventId (request : WebhookRequest) : Option String :=
  match request.constructed with
  | .ok event => if truthy event.id then event.id else none
  | .error _ => none

/-- What happens in a delivery: it is told that an id is new, or it calls the key store, which
leaves the table as given. -/
inductive DeliveryEvent where
  | recorded (id : String)
  | called (m : Mutation) (keys : ApiKeys)

/-- The shared state, and what has happened in which delivery. -/
structure WebhookLog (I : Type) where
  shared : WebhookState
  log : List (I × DeliveryEvent)

variable {I : Type}

/-- An operation leaves the state as given, and an event is noted. -/
def WebhookLog.note (s : WebhookLog I) (shared : WebhookState) (i : I) (e : DeliveryEvent) :
    WebhookLog I := ⟨shared, s.log ++ [(i, e)]⟩

/-- A call of the key store. -/
def WebhookLog.call (s : WebhookLog I) (i : I) (m : Mutation) (keys : ApiKeys) : WebhookLog I :=
  s.note { s.shared with apiKeys := keys } i (.called m keys)

/-- A step of a delivery. A statement may fail with its effect or without. -/
inductive WebhookExec (i : I) :
    (o : WebhookOp) → WebhookLog I → Except Exn o.Ans → WebhookLog I → Prop
  | recorded {s : WebhookLog I} {id type : String}
      (h : ((WebhookOp.tryRecordStripeEvent id type).exec s.shared).1 = .ok true) :
      WebhookExec i (.tryRecordStripeEvent id type) s (.ok true)
        (s.note ((WebhookOp.tryRecordStripeEvent id type).exec s.shared).2 i (.recorded id))
  | notRecorded {s : WebhookLog I} {id type : String} {r : Except Exn Bool}
      (h : ((WebhookOp.tryRecordStripeEvent id type).exec s.shared).1 = r) (hr : r ≠ .ok true) :
      WebhookExec i (.tryRecordStripeEvent id type) s r s
  | recordFailed {s : WebhookLog I} {id type : String} (e : Exn) :
      WebhookExec i (.tryRecordStripeEvent id type) s (.error e) s
  | recordLost {s : WebhookLog I} {id type : String} (e : Exn) :
      WebhookExec i (.tryRecordStripeEvent id type) s (.error e)
        { s with shared := ((WebhookOp.tryRecordStripeEvent id type).exec s.shared).2 }
  | remembered {s : WebhookLog I} {id : String}
      (h : ((WebhookOp.rememberEvent id).exec s.shared).1 = .ok true) :
      WebhookExec i (.rememberEvent id) s (.ok true)
        (s.note ((WebhookOp.rememberEvent id).exec s.shared).2 i (.recorded id))
  | known {s : WebhookLog I} {id : String}
      (h : ((WebhookOp.rememberEvent id).exec s.shared).1 = .ok false) :
      WebhookExec i (.rememberEvent id) s (.ok false) s
  | called {s : WebhookLog I} {m : Mutation} {keys : ApiKeys}
      (h : m.exec s.shared.apiKeys = .ok keys) :
      WebhookExec i (.mutate m) s (.ok ()) (s.call i m keys)
  | callFailed {s : WebhookLog I} {m : Mutation} (e : Exn) :
      WebhookExec i (.mutate m) s (.error e) (s.call i m s.shared.apiKeys)
  | callLost {s : WebhookLog I} {m : Mutation} {keys : ApiKeys} (e : Exn)
      (h : m.exec s.shared.apiKeys = .ok keys) :
      WebhookExec i (.mutate m) s (.error e) (s.call i m keys)

/-- How far a delivery has come: its event is not recorded yet, it may call the key store, or it
is at its end. -/
inductive DeliveryStage where
  | fresh (id : String)
  | cleared (id : Option String)
  | ended
  deriving DecidableEq

/-- A delivery records its event in the way of its store, and calls the store if it is new. -/
def webhookProtocol (app : WebhookApp) : Prog.Protocol Exn WebhookOp.Ans DeliveryStage where
  allowed o g :=
    match o, g with
    | .tryRecordStripeEvent id _, .fresh id' => id = id' ∧ app.keyStore = some .recording
    | .rememberEvent id, .fresh id' => id = id' ∧ app.keyStore ≠ some .recording
    | .mutate _, .cleared _ => True
    | _, _ => False
  possible _ _ _ := True
  next o g r :=
    match o, g, r with
    | .tryRecordStripeEvent _ _, .fresh id, .ok true => .cleared (some id)
    | .rememberEvent _, .fresh id, .ok true => .cleared (some id)
    | _, _, _ => .ended

/-- Where a delivery starts; an event without an id is not recorded. -/
def WebhookRequest.startStage (request : WebhookRequest) : DeliveryStage :=
  match request.eventId with
  | some id => .fresh id
  | none => .cleared none

/-! ### A delivery follows the protocol -/

private theorem follows_processEvent (app : WebhookApp) (event : StripeEvent) (hex : String)
    (id : Option String) : Prog.Follows (webhookProtocol app) (fun _ _ ↦ True)
      (processEvent app event hex) (.cleared id) := by
  unfold processEvent
  split
  · exact trivial
  · split
    · exact trivial
    · exact trivial
    · refine ⟨trivial, fun r _ ↦ ?_⟩
      cases r with
      | error e => exact trivial
      | ok u => exact trivial

private theorem follows_recordEventOnce {app : WebhookApp} {event : StripeEvent}
    {k : Except Exn Bool → WebhookProg WebhookReply}
    (hnone : Prog.Follows (webhookProtocol app) (fun _ _ ↦ True) (k (.ok true)) (.cleared none))
    (hfirst : ∀ id, Prog.Follows (webhookProtocol app) (fun _ _ ↦ True)
      (k (.ok true)) (.cleared (some id)))
    (hother : ∀ r g, r ≠ .ok true → Prog.Follows (webhookProtocol app) (fun _ _ ↦ True) (k r) g) :
    Prog.Follows (webhookProtocol app) (fun _ _ ↦ True) ((recordEventOnce app event).resume k)
      (match if truthy event.id then event.id else none with
        | some id => .fresh id
        | none => .cleared none) := by
  unfold recordEventOnce
  cases ht : truthy event.id with
  | false => exact hnone
  | true =>
    cases hid : event.id with
    | none =>
      rw [hid] at ht
      cases ht
    | some id =>
      have hnext (r : Except Exn Bool) (g : DeliveryStage)
          (hg : r = .ok true → g = .cleared (some id)) :
          Prog.Follows (webhookProtocol app) (fun _ _ ↦ True) (k r) g := by
        by_cases hr : r = .ok true
        · rw [hr, hg hr]
          exact hfirst id
        · exact hother r g hr
      rw [Bool.not_true, if_neg Bool.false_ne_true, if_pos rfl]
      split
      · next hk =>
        refine ⟨⟨rfl, hk⟩, fun r _ ↦ hnext r _ ?_⟩
        rintro rfl
        rfl
      · next hk =>
        refine ⟨⟨rfl, hk⟩, fun r _ ↦ hnext r _ ?_⟩
        rintro rfl
        rfl

theorem follows_stripeWebhook (app : WebhookApp) (request : WebhookRequest) :
    Prog.Follows (webhookProtocol app) (fun _ _ ↦ True) (stripeWebhook app request)
      request.startStage := by
  unfold stripeWebhook
  split
  · exact trivial
  · cases hc : request.constructed with
    | error e => cases e <;> exact trivial
    | ok event =>
      unfold WebhookRequest.startStage WebhookRequest.eventId
      rw [hc]
      apply follows_recordEventOnce
      · exact follows_processEvent app event _ none
      · exact fun id ↦ follows_processEvent app event _ (some id)
      · intro r g hr
        rcases r with e | _ | _
        · exact trivial
        · exact trivial
        · exact absurd rfl hr

/-! ### What holds after any interleaving -/

/-- The deliveries that have called the key store, in order. -/
def callers (log : List (I × DeliveryEvent)) : List I :=
  log.filterMap fun p ↦
    match p.2 with
    | .recorded _ => none
    | .called _ _ => some p.1

/-- The table as the last call has left it. -/
def tableAfter (keys : ApiKeys) (log : List (I × DeliveryEvent)) : ApiKeys :=
  log.foldl (fun keys p ↦
    match p.2 with
    | .recorded _ => keys
    | .called _ keys => keys) keys

theorem tableAfter_concat (keys : ApiKeys) (log : List (I × DeliveryEvent))
    (p : I × DeliveryEvent) :
    tableAfter keys (log ++ [p]) =
      match p.2 with
      | .recorded _ => tableAfter keys log
      | .called _ keys => keys := List.foldl_concat _ _ _ _

theorem callers_recorded (log : List (I × DeliveryEvent)) (i : I) (id : String) :
    callers (log ++ [(i, .recorded id)]) = callers log := by
  simp [callers]

theorem callers_called (log : List (I × DeliveryEvent)) (i : I) (m : Mutation) (keys : ApiKeys) :
    callers (log ++ [(i, .called m keys)]) = callers log ++ [i] := by
  simp [callers]

private theorem recorded_mem_called {log : List (I × DeliveryEvent)} {i j : I} {m : Mutation}
    {keys : ApiKeys} {id : String} :
    (j, .recorded id) ∈ log ++ [(i, .called m keys)] ↔ (j, .recorded id) ∈ log := by
  simp

section Once

variable (app : WebhookApp) (requests : I → WebhookRequest) (s₀ : WebhookState)

/-- Each event takes effect at most once: its deliveries call the key store at most once in all,
only the one delivery calls it that was told that the event is new, and the table changes by these
calls only. -/
structure TakesEffectOnce (s : WebhookLog I) : Prop where
  once : ∀ id, ((callers s.log).filter fun i ↦ (requests i).eventId = some id).length ≤ 1
  recorder : ∀ i ∈ callers s.log, ∀ id, (requests i).eventId = some id → (i, .recorded id) ∈ s.log
  first : ∀ i j id, (i, .recorded id) ∈ s.log → (j, .recorded id) ∈ s.log → i = j
  unrecorded : ∀ i id, (i, .recorded id) ∈ s.log → ¬ s₀.Recorded app id
  table : s.shared.apiKeys = tableAfter s₀.apiKeys s.log

/-- The state agrees with the stages of the deliveries. -/
structure Deduplicated (s : WebhookLog I) (stage : I → DeliveryStage) : Prop where
  fresh : ∀ i id, stage i = .fresh id → (requests i).eventId = some id
  cleared : ∀ i o, stage i = .cleared o → (requests i).eventId = o ∧
    ∀ id, o = some id → (i, .recorded id) ∈ s.log
  ended : ∀ i ∈ callers s.log, stage i = .ended
  nodup : (callers s.log).Nodup
  recorded : ∀ i id, (i, .recorded id) ∈ s.log → s.shared.Recorded app id
  kept : ∀ id, s₀.Recorded app id → s.shared.Recorded app id
  recorder : ∀ i ∈ callers s.log, ∀ id, (requests i).eventId = some id → (i, .recorded id) ∈ s.log
  first : ∀ i j id, (i, .recorded id) ∈ s.log → (j, .recorded id) ∈ s.log → i = j
  unrecorded : ∀ i id, (i, .recorded id) ∈ s.log → ¬ s₀.Recorded app id
  table : s.shared.apiKeys = tableAfter s₀.apiKeys s.log

variable {app requests s₀} {s : WebhookLog I} {stage : I → DeliveryStage}

/-- Two deliveries of one event do not both call the key store. -/
theorem Deduplicated.takesEffectOnce (h : Deduplicated app requests s₀ s stage) :
    TakesEffectOnce app requests s₀ s where
  once id := by
    have hnodup := h.nodup.filter fun i ↦ (requests i).eventId = some id
    have hsame : ∀ i ∈ (callers s.log).filter fun i ↦ (requests i).eventId = some id,
        ∀ j ∈ (callers s.log).filter fun i ↦ (requests i).eventId = some id, i = j := by
      intro i hi j hj
      rw [List.mem_filter, decide_eq_true_eq] at hi hj
      exact h.first i j id (h.recorder i hi.1 id hi.2) (h.recorder j hj.1 id hj.2)
    generalize (callers s.log).filter _ = is at hnodup hsame
    match is with
    | [] => exact Nat.zero_le 1
    | [i] => exact le_refl 1
    | i :: j :: is =>
      rw [List.nodup_cons] at hnodup
      have hij := hsame i List.mem_cons_self j (List.mem_cons_of_mem i List.mem_cons_self)
      exact absurd (hij ▸ List.mem_cons_self) hnodup.1
  recorder := h.recorder
  first := h.first
  unrecorded := h.unrecorded
  table := h.table

variable [DecidableEq I] {i : I}

/-- Where only one delivery has come to another stage, what is in a third stage was there before. -/
private theorem stage_of_update {j : I} {g g' : DeliveryStage}
    (h : Function.update stage i g j = g') (hne : g ≠ g') : stage j = g' := by
  by_cases hj : j = i
  · subst hj
    rw [Function.update_self] at h
    exact absurd h hne
  · rwa [Function.update_of_ne hj] at h

private theorem ended_update {j : I} (h : stage j = .ended) :
    Function.update stage i .ended j = .ended := by
  by_cases hj : j = i
  · rw [hj, Function.update_self]
  · rwa [Function.update_of_ne hj]

/-- A delivery that ends leaves everything in order, if nothing that was recorded is lost. -/
theorem Deduplicated.leave (h : Deduplicated app requests s₀ s stage) {shared : WebhookState}
    (hkeys : shared.apiKeys = s.shared.apiKeys)
    (hrec : ∀ id, s.shared.Recorded app id → shared.Recorded app id) :
    Deduplicated app requests s₀ { s with shared := shared }
      (Function.update stage i .ended) where
  fresh j id hj := h.fresh j id (stage_of_update hj nofun)
  cleared j o hj := h.cleared j o (stage_of_update hj nofun)
  ended j hj := ended_update (h.ended j hj)
  nodup := h.nodup
  recorded j id hj := hrec id (h.recorded j id hj)
  kept id hid := hrec id (h.kept id hid)
  recorder := h.recorder
  first := h.first
  unrecorded := h.unrecorded
  table := hkeys.trans h.table

/-- A delivery is told that its event is new. -/
theorem Deduplicated.record (h : Deduplicated app requests s₀ s stage) {shared : WebhookState}
    {id : String} (hi : stage i = .fresh id) (hkeys : shared.apiKeys = s.shared.apiKeys)
    (hnew : ¬ s.shared.Recorded app id)
    (hrec : ∀ j, shared.Recorded app j ↔ j = id ∨ s.shared.Recorded app j) :
    Deduplicated app requests s₀ (s.note shared i (.recorded id))
      (Function.update stage i (.cleared (some id))) := by
  have hmem (j : I) (id' : String) : (j, .recorded id') ∈ s.log ++ [(i, .recorded id)] ↔
      (j, .recorded id') ∈ s.log ∨ j = i ∧ id' = id := by
    simp
  have hcallers : callers (s.note shared i (.recorded id)).log = callers s.log :=
    callers_recorded s.log i id
  constructor
  · intro j id' hj
    exact h.fresh j id' (stage_of_update hj nofun)
  · intro j o hj
    by_cases hji : j = i
    · subst hji
      rw [Function.update_self] at hj
      obtain rfl := DeliveryStage.cleared.inj hj
      refine ⟨h.fresh j id hi, ?_⟩
      rintro id' ⟨⟩
      exact (hmem j id).mpr (Or.inr ⟨rfl, rfl⟩)
    · rw [Function.update_of_ne hji] at hj
      obtain ⟨hid, hold⟩ := h.cleared j o hj
      exact ⟨hid, fun id' ho ↦ (hmem j id').mpr (Or.inl (hold id' ho))⟩
  · intro j hj
    rw [hcallers] at hj
    have hended := h.ended j hj
    rwa [Function.update_of_ne]
    rintro rfl
    rw [hi] at hended
    cases hended
  · rw [hcallers]
    exact h.nodup
  · intro j id' hj
    apply (hrec id').mpr
    rcases (hmem j id').mp hj with hold | ⟨-, rfl⟩
    · exact Or.inr (h.recorded j id' hold)
    · exact Or.inl rfl
  · exact fun id' hid ↦ (hrec id').mpr (Or.inr (h.kept id' hid))
  · intro j hj id' hid
    rw [hcallers] at hj
    exact (hmem j id').mpr (Or.inl (h.recorder j hj id' hid))
  · intro j k id' hj hk
    -- an id that is new is in no earlier entry
    rcases (hmem j id').mp hj with hoj | ⟨rfl, rfl⟩
    · rcases (hmem k id').mp hk with hok | ⟨-, rfl⟩
      · exact h.first j k id' hoj hok
      · exact absurd (h.recorded j id' hoj) hnew
    · rcases (hmem k id').mp hk with hok | ⟨rfl, -⟩
      · exact absurd (h.recorded k id' hok) hnew
      · rfl
  · intro j id' hj
    rcases (hmem j id').mp hj with hold | ⟨-, rfl⟩
    · exact h.unrecorded j id' hold
    · exact fun hid ↦ hnew (h.kept id' hid)
  · change shared.apiKeys = tableAfter s₀.apiKeys (s.log ++ [(i, .recorded id)])
    rw [tableAfter_concat]
    exact hkeys.trans h.table

/-- A delivery that may call the key store calls it. -/
theorem Deduplicated.call (h : Deduplicated app requests s₀ s stage) {o : Option String}
    (hi : stage i = .cleared o) (m : Mutation) (keys : ApiKeys) :
    Deduplicated app requests s₀ (s.call i m keys) (Function.update stage i .ended) := by
  have hmem (j : I) (id : String) :
      (j, .recorded id) ∈ (s.call i m keys).log ↔ (j, .recorded id) ∈ s.log :=
    recorded_mem_called
  have hcallers : callers (s.call i m keys).log = callers s.log ++ [i] :=
    callers_called s.log i m keys
  have hnot : i ∉ callers s.log := by
    intro hc
    have hended := h.ended i hc
    rw [hi] at hended
    cases hended
  constructor
  · exact fun j id hj ↦ h.fresh j id (stage_of_update hj nofun)
  · intro j o' hj
    obtain ⟨hid, hold⟩ := h.cleared j o' (stage_of_update hj nofun)
    exact ⟨hid, fun id ho ↦ (hmem j id).mpr (hold id ho)⟩
  · intro j hj
    rw [hcallers, List.mem_append, List.mem_singleton] at hj
    rcases hj with hj | rfl
    · exact ended_update (h.ended j hj)
    · exact Function.update_self j _ stage
  · rw [hcallers, List.nodup_append_comm, List.singleton_append, List.nodup_cons]
    exact ⟨hnot, h.nodup⟩
  · exact fun j id hj ↦ h.recorded j id ((hmem j id).mp hj)
  · exact h.kept
  · intro j hj id hid
    rw [hcallers, List.mem_append, List.mem_singleton] at hj
    rw [hmem]
    rcases hj with hj | rfl
    · exact h.recorder j hj id hid
    · exact (h.cleared j o hi).2 id ((h.cleared j o hi).1.symm.trans hid)
  · exact fun j k id hj hk ↦ h.first j k id ((hmem j id).mp hj) ((hmem k id).mp hk)
  · exact fun j id hj ↦ h.unrecorded j id ((hmem j id).mp hj)
  · exact (tableAfter_concat s₀.apiKeys s.log (i, .called m keys)).symm

private theorem allowed_tryRecord {id type : String} {g : DeliveryStage}
    (ha : (webhookProtocol app).allowed (.tryRecordStripeEvent id type) g) :
    g = .fresh id ∧ app.keyStore = some .recording := by
  cases g with
  | fresh id' =>
    obtain ⟨rfl, hk⟩ := ha
    exact ⟨rfl, hk⟩
  | cleared o => cases ha
  | ended => cases ha

private theorem allowed_remember {id : String} {g : DeliveryStage}
    (ha : (webhookProtocol app).allowed (.rememberEvent id) g) :
    g = .fresh id ∧ app.keyStore ≠ some .recording := by
  cases g with
  | fresh id' =>
    obtain ⟨rfl, hk⟩ := ha
    exact ⟨rfl, hk⟩
  | cleared o => cases ha
  | ended => cases ha

private theorem allowed_mutate {m : Mutation} {g : DeliveryStage}
    (ha : (webhookProtocol app).allowed (.mutate m) g) : ∃ o, g = .cleared o := by
  cases g with
  | fresh id' => cases ha
  | cleared o => exact ⟨o, rfl⟩
  | ended => cases ha

/-- Every step of a delivery keeps the state in order. -/
theorem Deduplicated.step {o : WebhookOp} {r : Except Exn o.Ans} {s' : WebhookLog I}
    (h : Deduplicated app requests s₀ s stage) (ha : (webhookProtocol app).allowed o (stage i))
    (he : WebhookExec i o s r s') : Deduplicated app requests s₀ s'
      (Function.update stage i ((webhookProtocol app).next o (stage i) r)) := by
  cases o with
  | tryRecordStripeEvent id type =>
    obtain ⟨hi, hk⟩ := allowed_tryRecord ha
    have hcase := recordCase_tryRecord hk id type s.shared
    rw [hi]
    cases he with
    | recorded hr =>
      rw [hr] at hcase
      obtain ⟨hnew, hrec⟩ := hcase.of_true
      exact h.record hi hcase.keeps.1 hnew hrec
    | notRecorded hr hne =>
      rcases r with e | _ | _
      · exact h.leave rfl fun _ hid ↦ hid
      · exact h.leave rfl fun _ hid ↦ hid
      · exact absurd rfl hne
    | recordFailed e => exact h.leave rfl fun _ hid ↦ hid
    | recordLost e => exact h.leave hcase.keeps.1 hcase.keeps.2
  | rememberEvent id =>
    obtain ⟨hi, hk⟩ := allowed_remember ha
    have hcase := recordCase_remember hk id s.shared
    rw [hi]
    cases he with
    | remembered hr =>
      rw [hr] at hcase
      obtain ⟨hnew, hrec⟩ := hcase.of_true
      exact h.record hi hcase.keeps.1 hnew hrec
    | known hr => exact h.leave rfl fun _ hid ↦ hid
  | mutate m =>
    obtain ⟨o, hi⟩ := allowed_mutate ha
    rw [hi]
    cases he with
    | called hm => exact h.call hi m _
    | callFailed e => exact h.call hi m _
    | callLost e hm => exact h.call hi m _

end Once

/-! ### Deliveries interleaved -/

variable [DecidableEq I]

/-- A log of deliveries, and what each has still to do. -/
abbrev Deliveries (I : Type) :=
  Prog.Config Exn WebhookOp.Ans WebhookReply I (WebhookLog I) DeliveryStage

/-- Deliveries that have not started. -/
def startDeliveries (app : WebhookApp) (requests : I → WebhookRequest) (s₀ : WebhookState) :
    Deliveries I where
  shared := ⟨s₀, []⟩
  stage i := (requests i).startStage
  prog i := stripeWebhook app (requests i)

/-- Any interleaving of the deliveries. -/
def DeliveriesReach (app : WebhookApp) : Deliveries I → Deliveries I → Prop :=
  Relation.ReflTransGen (Prog.Step WebhookExec (webhookProtocol app))

omit [DecidableEq I] in
private theorem deduplicated_start (app : WebhookApp) (requests : I → WebhookRequest)
    (s₀ : WebhookState) : Deduplicated app requests s₀ (startDeliveries app requests s₀).shared
      (startDeliveries app requests s₀).stage where
  fresh i id hi := by
    change (requests i).startStage = .fresh id at hi
    unfold WebhookRequest.startStage at hi
    split at hi
    · next hid =>
      cases hi
      exact hid
    · cases hi
  cleared i o hi := by
    change (requests i).startStage = .cleared o at hi
    unfold WebhookRequest.startStage at hi
    split at hi
    · cases hi
    · next hid =>
      cases hi
      exact ⟨hid, nofun⟩
  ended i hi := nomatch hi
  nodup := List.nodup_nil
  recorded i id hi := nomatch hi
  kept id hid := hid
  recorder i hi := nomatch hi
  first i j id hi := nomatch hi
  unrecorded i id hi := nomatch hi
  table := rfl

/-- After any interleaving of any deliveries, each event has taken effect at most once. -/
theorem takesEffectOnce_of_reach {app : WebhookApp} {requests : I → WebhookRequest}
    {s₀ : WebhookState} {c : Deliveries I}
    (hc : DeliveriesReach app (startDeliveries app requests s₀) c) :
    TakesEffectOnce app requests s₀ c.shared := by
  have hsound := Prog.interleaving_sound (J := Deduplicated app requests s₀)
    (Q := fun _ _ _ ↦ True) (fun s stage i o r s' hJ ha he ↦ ⟨trivial, hJ.step ha he⟩) hc
    (deduplicated_start app requests s₀) (fun i ↦ follows_stripeWebhook app (requests i))
  exact hsound.1.takesEffectOnce

/-- What a delivery meets if no connection fails. -/
private def logHandler (i : I) : (o : WebhookOp) → WebhookLog I → Except Exn o.Ans × WebhookLog I
  | .tryRecordStripeEvent id type, s =>
    match ((WebhookOp.tryRecordStripeEvent id type).exec s.shared).1 with
    | .ok true => (.ok true,
        s.note ((WebhookOp.tryRecordStripeEvent id type).exec s.shared).2 i (.recorded id))
    | .ok false => (.ok false, s)
    | .error e => (.error e, s)
  | .rememberEvent id, s =>
    if id ∈ s.shared.processedEvents then (.ok false, s)
    else (.ok true, s.note ((WebhookOp.rememberEvent id).exec s.shared).2 i (.recorded id))
  | .mutate m, s =>
    match m.exec s.shared.apiKeys with
    | .ok keys => (.ok (), s.call i m keys)
    | .error e => (.error e.exn, s.call i m s.shared.apiKeys)

omit [DecidableEq I] in
private theorem logHandler_exec (i : I) (o : WebhookOp) (s : WebhookLog I) :
    WebhookExec i o s (logHandler i o s).1 (logHandler i o s).2 := by
  cases o with
  | tryRecordStripeEvent id type =>
    dsimp only [logHandler]
    split
    · next h => exact .recorded h
    · next h => exact .notRecorded h (by simp)
    · next e h => exact .notRecorded h (by simp)
  | rememberEvent id =>
    dsimp only [logHandler]
    split
    · next h => exact .known (by simp [WebhookOp.exec, h])
    · next h => exact .remembered (by simp [WebhookOp.exec, h])
  | mutate m =>
    dsimp only [logHandler]
    split
    · next keys h => exact .called h
    · next e h => exact .callFailed e.exn

private def paidRequest : WebhookRequest :=
  ⟨.ok ⟨some "evt_1", "invoice.paid", ⟨none, Dict.ofList [("customer", some "cus_1")]⟩⟩, ""⟩

/-- Two deliveries of one event: the first one calls the key store. -/
theorem takesEffectOnce_of_reach_sample : ∃ c : Deliveries (Fin 2),
    DeliveriesReach ⟨"whsec_test", some .recording⟩
      (startDeliveries ⟨"whsec_test", some .recording⟩ (fun _ ↦ paidRequest)
        ⟨Dict.empty, Dict.empty, ∅⟩) c ∧ callers c.shared.log = [0] ∧
      TakesEffectOnce ⟨"whsec_test", some .recording⟩ (fun _ ↦ paidRequest)
        ⟨Dict.empty, Dict.empty, ∅⟩ c.shared := by
  obtain ⟨c, hc, hs⟩ := Prog.reach_runs (P := webhookProtocol ⟨"whsec_test", some .recording⟩)
    (h := logHandler) logHandler_exec (by decide : ([0, 1] : List (Fin 2)).Nodup)
    (startDeliveries ⟨"whsec_test", some .recording⟩ (fun _ : Fin 2 ↦ paidRequest)
      ⟨Dict.empty, Dict.empty, ∅⟩)
  refine ⟨c, hc, ?_, takesEffectOnce_of_reach hc⟩
  rw [hs]
  rfl

end AsbCloudApi.Routes
