import Mathlib.Data.List.Basic
import Mathlib.Data.List.Induction
import Mathlib.Data.List.Nodup

/-!
# Insertion-ordered dictionaries

Library `Base`. Python's `dict`: every key occurs once, a new key goes to the end and
a reassigned key keeps its place. The uniqueness of keys is a field of the structure,
so that a lookup and the list of items always describe the same map.
-/

namespace AsbCloudApi.Base

universe u v w

/-- Items in insertion order, each key once. -/
structure Dict (K : Type u) (V : Type v) where
  items : List (K × V)
  nodup : (items.map Prod.fst).Nodup

namespace Dict

variable {K : Type u} {V : Type v}

/-- The empty dictionary, Python's `{}`. -/
def empty : Dict K V := ⟨[], List.nodup_nil⟩

instance : Inhabited (Dict K V) := ⟨empty⟩

/-- The keys in insertion order. -/
def keys (d : Dict K V) : List K := d.items.map Prod.fst

/-- Two dictionaries with the same items in the same order are the same. -/
@[ext] theorem ext {d e : Dict K V} (h : d.items = e.items) : d = e := by
  cases d
  cases e
  cases h
  rfl

instance [DecidableEq K] [DecidableEq V] : DecidableEq (Dict K V) := fun d e ↦
  decidable_of_iff (d.items = e.items) ⟨ext, fun h ↦ congrArg items h⟩

/-- Truth value of a dictionary: `{}` is false. -/
def isEmpty (d : Dict K V) : Bool := d.items.isEmpty

theorem isEmpty_iff (d : Dict K V) : d.isEmpty = true ↔ d = empty := by
  constructor
  · intro h
    exact ext (List.isEmpty_iff.mp h)
  · intro h
    rw [h]
    rfl

/-- Replace every value, given its key: `{k: f(k, v) for k, v in d.items()}`. -/
def mapValues {W : Type w} (d : Dict K V) (f : K → V → W) : Dict K W :=
  ⟨d.items.map (fun p ↦ (p.1, f p.1 p.2)), by
    have h := d.nodup
    rwa [List.map_map, show Prod.fst ∘ (fun p : K × V ↦ (p.1, f p.1 p.2)) = Prod.fst from rfl]⟩

section Lookup

variable [DecidableEq K]

private def lookupList (k : K) : List (K × V) → Option V
  | [] => none
  | (a, b) :: rest => if a = k then some b else lookupList k rest

private def setList (k : K) (v : V) : List (K × V) → List (K × V)
  | [] => [(k, v)]
  | (a, b) :: rest => if a = k then (k, v) :: rest else (a, b) :: setList k v rest

private theorem setList_keys (k : K) (v : V) (xs : List (K × V)) :
    (setList k v xs).map Prod.fst =
      if k ∈ xs.map Prod.fst then xs.map Prod.fst else xs.map Prod.fst ++ [k] := by
  induction xs with
  | nil => simp [setList]
  | cons x rest ih =>
    obtain ⟨a, b⟩ := x
    by_cases ha : a = k
    · subst ha
      simp [setList]
    · have hk : ¬ k = a := fun h ↦ ha h.symm
      simp only [setList, ha, if_false, List.map_cons, List.mem_cons, hk, false_or, ih]
      split <;> simp

private theorem setList_nodup (k : K) (v : V) (xs : List (K × V))
    (h : (xs.map Prod.fst).Nodup) : ((setList k v xs).map Prod.fst).Nodup := by
  rw [setList_keys]
  split
  · exact h
  · next hk =>
    rw [List.nodup_append]
    refine ⟨h, by simp, ?_⟩
    intro a ha b hb he
    rw [List.mem_singleton] at hb
    rw [he, hb] at ha
    exact hk ha

/-- `d.get(k)`: the value of `k`, `none` when `k` is not a key. -/
def get? (d : Dict K V) (k : K) : Option V := lookupList k d.items

/-- `d[k] = v`: an existing key keeps its place, a new one goes to the end. -/
def set (d : Dict K V) (k : K) (v : V) : Dict K V :=
  ⟨setList k v d.items, setList_nodup k v d.items d.nodup⟩

/-- `d.pop(k, None)`. -/
def erase (d : Dict K V) (k : K) : Dict K V :=
  ⟨d.items.filter (fun p ↦ p.1 ≠ k),
    (List.filter_sublist.map Prod.fst).nodup d.nodup⟩

/-- Build a dictionary by assigning pairs from left to right, as `dict(pairs)` does. -/
def ofList (xs : List (K × V)) : Dict K V := xs.foldl (fun d p ↦ d.set p.1 p.2) empty

private theorem lookup_set (k j : K) (v : V) (xs : List (K × V)) :
    lookupList j (setList k v xs) = if k = j then some v else lookupList j xs := by
  induction xs with
  | nil => simp [setList, lookupList]
  | cons x rest ih =>
    obtain ⟨a, b⟩ := x
    by_cases ha : a = k
    · subst ha
      simp only [setList, if_true, lookupList]
      split <;> rfl
    · simp only [setList, ha, if_false, lookupList, ih]
      by_cases hj : a = j
      · subst hj
        have hk : ¬ k = a := fun h ↦ ha h.symm
        simp [hk]
      · simp [hj]

@[simp] theorem get?_empty (k : K) : (empty : Dict K V).get? k = none := rfl

private theorem setList_of_notMem (k : K) (v : V) (xs : List (K × V))
    (h : k ∉ xs.map Prod.fst) : setList k v xs = xs ++ [(k, v)] := by
  induction xs with
  | nil => rfl
  | cons x rest ih =>
    obtain ⟨a, b⟩ := x
    rw [List.map_cons, List.mem_cons, not_or] at h
    have ha : ¬ a = k := fun he ↦ h.1 he.symm
    simp [setList, ha, ih h.2]

/-- Assigning a key that does not pass a filter leaves the items that pass. -/
theorem filter_items_set (d : Dict K V) {k : K} (v : V) {q : K × V → Bool}
    (hk : ∀ w, q (k, w) = false) : (d.set k v).items.filter q = d.items.filter q := by
  change (setList k v d.items).filter q = d.items.filter q
  induction d.items with
  | nil => simp [setList, hk]
  | cons x rest ih =>
    obtain ⟨a, b⟩ := x
    by_cases ha : a = k
    · subst ha
      simp [setList, hk]
    · simp [setList, ha, ih, List.filter_cons]

private theorem foldl_set_items (d : Dict K V) (xs : List (K × V))
    (h : ((d.items ++ xs).map Prod.fst).Nodup) :
    (xs.foldl (fun d p ↦ d.set p.1 p.2) d).items = d.items ++ xs := by
  induction xs generalizing d with
  | nil => simp
  | cons x xs ih =>
    have hn : x.1 ∉ d.items.map Prod.fst := by
      rw [List.map_append, List.map_cons] at h
      intro hm
      exact (List.nodup_append.mp h).2.2 _ hm _ List.mem_cons_self rfl
    have hset : (d.set x.1 x.2).items = d.items ++ [x] := setList_of_notMem x.1 x.2 d.items hn
    rw [List.foldl_cons, ih]
    · rw [hset, List.append_assoc, List.singleton_append]
    · rwa [hset, List.append_assoc, List.singleton_append]

/-- Assigning the items of a dictionary one by one rebuilds it. -/
theorem ofList_items (d : Dict K V) : ofList d.items = d :=
  ext (foldl_set_items empty d.items d.nodup)

/-- A lookup after an assignment sees the new value at the assigned key only. -/
theorem get?_set (d : Dict K V) (k j : K) (v : V) :
    (d.set k v).get? j = if k = j then some v else d.get? j := lookup_set k j v d.items

@[simp] theorem get?_set_self (d : Dict K V) (k : K) (v : V) : (d.set k v).get? k = some v := by
  simp [get?_set]

theorem get?_set_ne (d : Dict K V) {k j : K} (v : V) (h : k ≠ j) :
    (d.set k v).get? j = d.get? j := by
  simp [get?_set, h]

/-- Later pairs of a list leave a key alone that they do not name. -/
theorem get?_ofList_append {k : K} (xs : List (K × V)) {ys : List (K × V)}
    (h : k ∉ ys.map Prod.fst) : (ofList (xs ++ ys)).get? k = (ofList xs).get? k := by
  unfold ofList
  rw [List.foldl_append]
  generalize xs.foldl (fun d p ↦ d.set p.1 p.2) (empty : Dict K V) = d
  induction ys generalizing d with
  | nil => rfl
  | cons p ys ih =>
    rw [List.map_cons, List.mem_cons, not_or] at h
    obtain ⟨hp, hys⟩ := h
    rw [List.foldl_cons, ih hys, get?_set_ne _ _ (Ne.symm hp)]

/-- A lookup after a removal misses the removed key only. -/
theorem get?_erase (d : Dict K V) (k j : K) :
    (d.erase k).get? j = if k = j then none else d.get? j := by
  change lookupList j (d.items.filter _) = if k = j then none else lookupList j d.items
  induction d.items with
  | nil => simp [lookupList]
  | cons x rest ih =>
    obtain ⟨a, b⟩ := x
    by_cases ha : a = k
    · subst ha
      simp only [ne_eq, not_true_eq_false, decide_false, Bool.false_eq_true, not_false_eq_true,
        List.filter_cons_of_neg, lookupList]
      rw [ih]
      split <;> simp_all
    · simp only [ne_eq, ha, not_false_eq_true, decide_true, List.filter_cons_of_pos, lookupList]
      rw [ih]
      by_cases hj : a = j
      · subst hj
        have hk : ¬ k = a := fun h ↦ ha h.symm
        simp [hk]
      · simp [hj]

theorem get?_mapValues {W : Type w} (d : Dict K V) (f : K → V → W) (k : K) :
    (d.mapValues f).get? k = (d.get? k).map (f k) := by
  change lookupList k (d.items.map _) = (lookupList k d.items).map _
  induction d.items with
  | nil => rfl
  | cons x rest ih =>
    obtain ⟨a, b⟩ := x
    by_cases ha : a = k
    · subst ha
      simp [lookupList]
    · simp [lookupList, ha, ih]

/-- Reassigning a key that is there replaces its value, and nothing else. -/
theorem set_eq_mapValues {d : Dict K V} {k : K} {v : V} (h : d.get? k = some v) (f : V → V) :
    d.set k (f v) = d.mapValues fun j w ↦ if j = k then f w else w := by
  have hd := d.nodup
  apply ext
  change lookupList k d.items = some v at h
  change setList k (f v) d.items = d.items.map _
  generalize d.items = xs at h hd
  induction xs with
  | nil => cases h
  | cons x rest ih =>
    obtain ⟨a, b⟩ := x
    rw [List.map_cons, List.nodup_cons] at hd
    by_cases ha : a = k
    · subst ha
      have hb : b = v := by simpa [lookupList] using h
      have hrest : rest.map (fun p ↦ (p.1, if p.1 = a then f p.2 else p.2)) = rest := by
        rw [List.map_congr_left fun p hp ↦ by
          rw [if_neg fun he : p.1 = a ↦ hd.1 (List.mem_map.mpr ⟨p, hp, he⟩)]]
        exact List.map_id rest
      simp [setList, hb, hrest]
    · have hk : lookupList k rest = some v := by simpa [lookupList, ha] using h
      simp [setList, ha, ih hk hd.2]

/-- A pair is listed exactly when the lookup of its key finds its value. -/
theorem mem_items_iff (d : Dict K V) (k : K) (v : V) : (k, v) ∈ d.items ↔ d.get? k = some v := by
  have hd := d.nodup
  change (k, v) ∈ d.items ↔ lookupList k d.items = some v
  generalize d.items = xs at hd
  induction xs with
  | nil => simp [lookupList]
  | cons x rest ih =>
    obtain ⟨a, b⟩ := x
    rw [List.map_cons, List.nodup_cons] at hd
    by_cases ha : a = k
    · subst ha
      have hn : (a, v) ∉ rest := fun h ↦ hd.1 (List.mem_map.mpr ⟨_, h, rfl⟩)
      simp [lookupList, hn, eq_comm]
    · have hk : ¬ k = a := fun h ↦ ha h.symm
      simp [lookupList, ha, hk, ih hd.2]

/-- A replacement that leaves every value of the dictionary leaves the dictionary. -/
theorem mapValues_eq_self {d : Dict K V} {f : K → V → V}
    (h : ∀ k v, d.get? k = some v → f k v = v) : d.mapValues f = d := by
  apply ext
  change d.items.map _ = d.items
  have hsame : ∀ p ∈ d.items, (p.1, f p.1 p.2) = p := by
    intro p hp
    rw [h p.1 p.2 ((mem_items_iff d p.1 p.2).mp hp)]
  rw [List.map_congr_left hsame]
  exact List.map_id d.items

/-- A key is listed exactly when its lookup succeeds. -/
theorem mem_keys_iff (d : Dict K V) (k : K) : k ∈ d.keys ↔ (d.get? k).isSome = true := by
  rw [Option.isSome_iff_exists]
  constructor
  · intro h
    obtain ⟨⟨a, v⟩, hm, ha⟩ := List.mem_map.mp h
    cases ha
    exact ⟨v, (mem_items_iff d a v).mp hm⟩
  · rintro ⟨v, hv⟩
    exact List.mem_map.mpr ⟨(k, v), (mem_items_iff d k v).mpr hv, rfl⟩

theorem get?_eq_none_iff (d : Dict K V) (k : K) : d.get? k = none ↔ k ∉ d.keys := by
  rw [mem_keys_iff, Bool.not_eq_true, Option.isSome_eq_false_iff, Option.isNone_iff_eq_none]

/-- A new key goes to the end. -/
theorem items_set_of_get?_eq_none {d : Dict K V} {k : K} (h : d.get? k = none) (v : V) :
    (d.set k v).items = d.items ++ [(k, v)] :=
  setList_of_notMem k v d.items ((get?_eq_none_iff d k).mp h)

end Lookup

end Dict
end AsbCloudApi.Base
