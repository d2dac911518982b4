import Mathlib.Data.List.Induction
import Mathlib.Data.List.Nodup

/-!
# Writes to cells

Library `Base`. A list of writes, each to one cell or to none: every cell holds the value of the
last write to it. All values are kept exactly if every write has a cell of its own.
-/

namespace AsbCloudApi.Base

universe u v

variable {K : Type u} {V : Type v} [DecidableEq K]

/-- What a cell holds after the writes, given what it held before. -/
def cellAfter (start : Option V) (k : K) (ws : List (Option K × V)) : Option V :=
  ws.foldl (fun held w ↦ if w.1 = some k then some w.2 else held) start

/-- Every value that was written is held by some cell at the end. -/
def AllKept (start : K → Option V) (ws : List (Option K × V)) : Prop :=
  ∀ w ∈ ws, ∃ k, cellAfter (start k) k ws = some w.2

theorem cellAfter_concat (start : Option V) (k : K) (ws : List (Option K × V))
    (w : Option K × V) : cellAfter start k (ws ++ [w]) =
      if w.1 = some k then some w.2 else cellAfter start k ws := List.foldl_concat _ _ _ _

/-- A value that is held was there before or has been written to this cell. -/
theorem exists_write_of_cellAfter {start : Option V} {k : K} {ws : List (Option K × V)} {v : V}
    (h : cellAfter start k ws = some v) : start = some v ∨ (some k, v) ∈ ws := by
  induction ws using List.reverseRecOn with
  | nil => exact Or.inl h
  | append_singleton ws w ih =>
    rw [cellAfter_concat] at h
    split at h
    · next hk =>
      right
      have hw : w = (some k, v) := Prod.ext hk (Option.some.inj h)
      rw [hw]
      exact List.mem_append_right _ List.mem_cons_self
    · rcases ih h with hstart | hmem
      · exact Or.inl hstart
      · exact Or.inr (List.mem_append_left _ hmem)

/-- A write to a cell that no later write touches is held by it. -/
theorem cellAfter_of_nodup {start : K → Option V} {ws : List (Option K × V)}
    (hn : (ws.map Prod.fst).Nodup) {k : K} {v : V} (hw : (some k, v) ∈ ws) :
    cellAfter (start k) k ws = some v := by
  induction ws using List.reverseRecOn with
  | nil => cases hw
  | append_singleton ws w ih =>
    rw [List.map_append, List.map_singleton, List.nodup_append_comm, List.singleton_append,
      List.nodup_cons] at hn
    rw [cellAfter_concat]
    rcases List.mem_append.mp hw with hbefore | hlast
    · have hne : w.1 ≠ some k := by
        intro hk
        exact hn.1 (hk ▸ List.mem_map_of_mem hbefore)
      rw [if_neg hne]
      exact ih hn.2 hbefore
    · rw [← List.mem_singleton.mp hlast, if_pos rfl]

/-- If every write has a cell of its own, all values are kept. -/
theorem allKept_of_nodup {start : K → Option V} {ws : List (Option K × V)}
    (hsome : ∀ w ∈ ws, w.1.isSome) (hn : (ws.map Prod.fst).Nodup) : AllKept start ws := by
  rintro ⟨cell, v⟩ hw
  obtain ⟨k, rfl⟩ := Option.isSome_iff_exists.mp (hsome _ hw)
  exact ⟨k, cellAfter_of_nodup hn hw⟩

/-- If different values are written, none of them held before, and all are kept, then every write
has a cell of its own. -/
theorem nodup_of_allKept {start : K → Option V} {ws : List (Option K × V)}
    (hv : (ws.map Prod.snd).Nodup) (hfresh : ∀ w ∈ ws, ∀ k, start k ≠ some w.2)
    (h : AllKept start ws) : (∀ w ∈ ws, w.1.isSome) ∧ (ws.map Prod.fst).Nodup := by
  have hinj := List.inj_on_of_nodup_map hv
  -- the cell that holds a value is the one it was written to
  have hcell : ∀ w ∈ ws, ∃ k, w.1 = some k ∧ cellAfter (start k) k ws = some w.2 := by
    intro w hw
    obtain ⟨k, hk⟩ := h w hw
    rcases exists_write_of_cellAfter hk with hstart | hmem
    · exact absurd hstart (hfresh w hw k)
    · exact ⟨k, congrArg Prod.fst (hinj hw hmem rfl), hk⟩
  constructor
  · intro w hw
    obtain ⟨k, hk, -⟩ := hcell w hw
    rw [hk]
    rfl
  · apply List.Nodup.map_on ?_ hv.of_map
    intro w hw w' hw' hsame
    obtain ⟨k, hk, hheld⟩ := hcell w hw
    obtain ⟨k', hk', hheld'⟩ := hcell w' hw'
    obtain rfl : k = k' := Option.some.inj (hk.symm.trans (hsame.trans hk'))
    exact hinj hw hw' (Option.some.inj (hheld.symm.trans hheld'))

end AsbCloudApi.Base
