import Mathlib.Algebra.Order.Group.Defs
import Mathlib.Algebra.Order.Sub.Basic
import Mathlib.Order.Interval.Set.Defs
import Mathlib.Data.List.Basic

/-!
# Sliding windows over an append-only log

Library `Base`. A log of instants in an ordered group, and a queue that keeps only
what a window of fixed length may still need. Eviction from the front of a sorted queue
is a filter, so the queue's length is the number of log entries in the closed window.
A bound on every window is kept by appending whatever fits the window that ends now.
-/

namespace AsbCloudApi.Base.Window

universe u

variable {T : Type u} [LinearOrder T]

/-- Pop entries from the front while they precede the cutoff. -/
def evict (cutoff : T) (w : List T) : List T := w.dropWhile (fun a ↦ decide (a < cutoff))

/-- Evicting at a later cutoff forgets an earlier eviction. -/
theorem evict_evict {c d : T} (h : c ≤ d) (w : List T) : evict d (evict c w) = evict d w := by
  induction w with
  | nil => rfl
  | cons a w ih =>
    by_cases ha : a < c
    · have hd : a < d := lt_of_lt_of_le ha h
      have hc : evict c (a :: w) = evict c w := by simp [evict, ha]
      rw [hc, ih]
      simp [evict, hd]
    · have hc : evict c (a :: w) = a :: w := by simp [evict, ha]
      rw [hc]

/-- On a sorted queue, front eviction keeps exactly the entries from the cutoff on. -/
theorem evict_eq_filter (c : T) (w : List T) (h : w.Pairwise (· ≤ ·)) :
    evict c w = w.filter (fun a ↦ decide (c ≤ a)) := by
  induction w with
  | nil => rfl
  | cons a w ih =>
    obtain ⟨ha, hw⟩ := List.pairwise_cons.mp h
    by_cases hc : a < c
    · have he : evict c (a :: w) = evict c w := by simp [evict, hc]
      rw [he, ih hw, List.filter_cons_of_neg (by simpa using hc)]
    · have he : evict c (a :: w) = a :: w := by simp [evict, hc]
      rw [he]
      symm
      apply List.filter_eq_self.mpr
      intro b hb
      rcases List.mem_cons.mp hb with rfl | hb
      · simpa using not_lt.mp hc
      · simpa using le_trans (not_lt.mp hc) (ha b hb)

/-- A later cutoff and a shorter queue leave no more. -/
theorem length_evict_le {c d : T} (hcd : c ≤ d) {w w' : List T} (hw : w' <:+ w)
    (h : w.Pairwise (· ≤ ·)) : (evict d w').length ≤ (evict c w).length := by
  rw [evict_eq_filter d w' (h.sublist hw.sublist), evict_eq_filter c w h]
  have hsub := (hw.sublist.filter fun a ↦ decide (d ≤ a)).length_le
  apply hsub.trans
  rw [← List.countP_eq_length_filter, ← List.countP_eq_length_filter]
  apply List.countP_mono_left
  intro a _ ha
  exact decide_eq_true (hcd.trans (of_decide_eq_true ha))

/-- On a sorted list the entries from `c` on are those at `c`, then the later ones. -/
theorem filter_le_eq_replicate_append (c : T) (w : List T) (h : w.Pairwise (· ≤ ·)) :
    w.filter (fun a ↦ decide (c ≤ a)) =
      List.replicate (w.count c) c ++ w.filter (fun a ↦ decide (c < a)) := by
  induction w with
  | nil => rfl
  | cons a w ih =>
    obtain ⟨ha, hw⟩ := List.pairwise_cons.mp h
    rcases lt_trichotomy a c with hac | rfl | hac
    · rw [List.filter_cons_of_neg (by simpa using hac),
        List.filter_cons_of_neg (by simpa using hac.le), List.count_cons_of_ne hac.ne, ih hw]
    · rw [List.filter_cons_of_pos (by simp), List.filter_cons_of_neg (by simp),
        List.count_cons_self, List.replicate_succ, List.cons_append, ih hw]
    · -- The list starts after `c`, so it holds no `c` and both filters keep it whole.
      have hall : ∀ b ∈ a :: w, c < b := by
        intro b hb
        rcases List.mem_cons.mp hb with rfl | hb
        · exact hac
        · exact lt_of_lt_of_le hac (ha b hb)
      have hmem : c ∉ a :: w := fun hc ↦ lt_irrefl c (hall c hc)
      rw [List.filter_eq_self.mpr (fun b hb ↦ by simpa using (hall b hb).le),
        List.filter_eq_self.mpr (fun b hb ↦ by simpa using hall b hb),
        List.count_eq_zero_of_not_mem hmem, List.replicate_zero, List.nil_append]

/-- Which instants a window ending at `t` contains: none after `t`, and a window that ends
earlier starts earlier. -/
structure Shape (T : Type u) [LinearOrder T] where
  mem : T → T → Prop
  decMem : ∀ t a, Decidable (mem t a)
  le : ∀ {t a}, mem t a → a ≤ t
  back : ∀ {r t a}, mem r a → t ≤ r → a ≤ t → mem t a

namespace Shape

instance (S : Shape T) (t a : T) : Decidable (S.mem t a) := S.decMem t a

/-- Entries of `log` in the window ending at `t`. -/
def count (S : Shape T) (t : T) (log : List T) : Nat := log.countP (fun a ↦ decide (S.mem t a))

/-- No window holds more than `M` entries. -/
def Bounded (S : Shape T) (M : Nat) (log : List T) : Prop := ∀ t, S.count t log ≤ M

theorem bounded_nil (S : Shape T) (M : Nat) : S.Bounded M [] := fun _ ↦ Nat.zero_le _

theorem count_append (S : Shape T) (t : T) (log more : List T) :
    S.count t (log ++ more) = S.count t log + S.count t more := List.countP_append

private theorem count_replicate_le (S : Shape T) (t b : T) (n : Nat) :
    S.count t (List.replicate n b) ≤ n :=
  le_trans List.countP_le_length (by rw [List.length_replicate])

/-- Appending units that fit the current window keeps every window within the bound. -/
theorem Bounded.append {S : Shape T} {M : Nat} {t : T} {log : List T} (h : S.Bounded M log)
    (hle : ∀ a ∈ log, a ≤ t) {n : Nat} (hfit : S.count t log + n ≤ M) :
    S.Bounded M (log ++ List.replicate n t) := by
  intro r
  rw [count_append]
  by_cases hr : t ≤ r
  · -- A later window starts later, so what it sees of the log lies in the window at `t`.
    have hsub : S.count r log ≤ S.count t log := by
      apply List.countP_mono_left
      intro a ha hp
      rw [decide_eq_true_eq] at hp ⊢
      exact S.back hp hr (hle a ha)
    have hn := count_replicate_le S r t n
    omega
  · have hz : S.count r (List.replicate n t) = 0 := by
      apply List.countP_eq_zero.mpr
      intro a ha hp
      rw [List.eq_of_mem_replicate ha, decide_eq_true_eq] at hp
      exact hr (S.le hp)
    have := h r
    omega

end Shape

variable [AddCommGroup T]

/-- The queue `w` holds all of `log` that a window of length `W` ending at `t` or later
can reach: it is the end of the log, and the log is sorted and not after `t`. -/
structure Tracks (W t : T) (w log : List T) : Prop where
  sorted : log.Pairwise (· ≤ ·)
  le : ∀ a ∈ log, a ≤ t
  suffix : w <:+ log
  complete : ∀ c, t - W ≤ c →
    w.filter (fun a ↦ decide (c ≤ a)) = log.filter (fun a ↦ decide (c ≤ a))

theorem tracks_nil (W t : T) : Tracks W t [] [] :=
  ⟨List.Pairwise.nil, by simp, List.suffix_rfl, fun _ _ ↦ rfl⟩

theorem Tracks.queue_sorted {W t : T} {w log : List T} (h : Tracks W t w log) :
    w.Pairwise (· ≤ ·) := h.sorted.sublist h.suffix.sublist

/-- What an eviction leaves of the queue is the log from the cutoff on. -/
theorem Tracks.evict_eq {W t : T} {w log : List T} (h : Tracks W t w log) :
    Window.evict (t - W) w = log.filter (fun a ↦ decide (t - W ≤ a)) := by
  rw [evict_eq_filter _ _ h.queue_sorted, h.complete _ le_rfl]

/-- Units stamped with the current instant go to the end of queue and log. -/
theorem Tracks.append {W t : T} {w log : List T} (h : Tracks W t w log) (n : Nat) :
    Tracks W t (w ++ List.replicate n t) (log ++ List.replicate n t) := by
  refine ⟨?_, ?_, ?_, ?_⟩
  · rw [List.pairwise_append]
    refine ⟨h.sorted, List.pairwise_replicate.mpr (Or.inr le_rfl), ?_⟩
    intro a ha b hb
    rw [List.eq_of_mem_replicate hb]
    exact h.le a ha
  · intro a ha
    rcases List.mem_append.mp ha with ha | ha
    · exact h.le a ha
    · exact (List.eq_of_mem_replicate ha).le
  · obtain ⟨front, hf⟩ := h.suffix
    exact ⟨front, by rw [← hf, List.append_assoc]⟩
  · intro c hc
    rw [List.filter_append, List.filter_append, h.complete c hc]

variable [IsOrderedAddMonoid T]

/-- The closed window from `t - W` to `t`. -/
def closed (W : T) : Shape T where
  mem t a := t - W ≤ a ∧ a ≤ t
  decMem _ _ := inferInstance
  le h := h.2
  back h ht ha := ⟨le_trans (sub_le_sub_right ht W) h.1, ha⟩

/-- The window from `t - W`, not included, to `t`. -/
def halfOpen (W : T) : Shape T where
  mem t a := t - W < a ∧ a ≤ t
  decMem _ _ := inferInstance
  le h := h.2
  back h ht ha := ⟨lt_of_le_of_lt (sub_le_sub_right ht W) h.1, ha⟩

theorem mem_closed {W t a : T} : (closed W).mem t a ↔ t - W ≤ a ∧ a ≤ t := Iff.rfl

theorem mem_halfOpen {W t a : T} : (halfOpen W).mem t a ↔ t - W < a ∧ a ≤ t := Iff.rfl

/-- The queue entries that survive an eviction are the log entries in the closed window. -/
theorem Tracks.count_eq_length {W s t : T} {w log : List T} (h : Tracks W s w log)
    (hst : s ≤ t) : (closed W).count t log = (evict (t - W) w).length := by
  have hc : s - W ≤ t - W := sub_le_sub_right hst W
  rw [evict_eq_filter _ _ h.queue_sorted, h.complete _ hc, Shape.count,
    List.countP_eq_length_filter]
  congr 1
  apply List.filter_congr
  intro a ha
  have hle : a ≤ t := le_trans (h.le a ha) hst
  rw [decide_eq_decide, mem_closed]
  exact and_iff_left hle

/-- Time may pass. -/
theorem Tracks.mono {W s t : T} {w log : List T} (h : Tracks W s w log) (hst : s ≤ t) :
    Tracks W t w log :=
  ⟨h.sorted, fun a ha ↦ le_trans (h.le a ha) hst, h.suffix,
    fun c hc ↦ h.complete c (le_trans (sub_le_sub_right hst W) hc)⟩

/-- Time may pass and the front be evicted. -/
theorem Tracks.evict {W s t : T} {w log : List T} (h : Tracks W s w log) (hst : s ≤ t) :
    Tracks W t (evict (t - W) w) log := by
  have hc : s - W ≤ t - W := sub_le_sub_right hst W
  refine ⟨h.sorted, fun a ha ↦ le_trans (h.le a ha) hst,
    (List.dropWhile_suffix _).trans h.suffix, ?_⟩
  intro c htc
  rw [evict_eq_filter _ _ h.queue_sorted, List.filter_filter, ← h.complete c (le_trans hc htc)]
  apply List.filter_congr
  intro a _
  by_cases hca : c ≤ a
  · simp [hca, le_trans htc hca]
  · simp [hca]

end AsbCloudApi.Base.Window
