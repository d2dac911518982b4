import Mathlib.Data.List.DropRight
import Mathlib.Data.List.Infix

/-!
# Text as a list of characters

Library `Base`. Operations of Python's `str` on the list of its characters. What depends on
Unicode tables is a parameter; on ASCII text these operations are fixed.
-/

namespace AsbCloudApi.Base.Text

/-- A text, character by character. -/
abbrev Chars := List Char

/-- `c.isascii()`. -/
def isAscii (c : Char) : Bool := c.toNat < 128

/-- The value of a digit in any base up to 16. -/
def digitVal? (c : Char) : Option Nat :=
  if c.isDigit then some (c.toNat - '0'.toNat)
  else if 'a' ≤ c ∧ c ≤ 'f' then some (c.toNat - 'a'.toNat + 10)
  else if 'A' ≤ c ∧ c ≤ 'F' then some (c.toNat - 'A'.toNat + 10)
  else none

/-- Whether a character is a digit in a base. -/
def isRadixDigit (radix : Nat) (c : Char) : Bool := (digitVal? c).any (· < radix)

/-- The number that a text of digits denotes. -/
def ofDigits (radix : Nat) (s : Chars) : Nat :=
  s.foldl (fun n c ↦ radix * n + (digitVal? c).getD 0) 0

/-- `s.isascii() and s.isdigit()`: no digit at all is not a number. -/
def isDigits (s : Chars) : Bool := !s.isEmpty && s.all Char.isDigit

/-- `s.partition(c)[0]`. -/
def before (c : Char) (s : Chars) : Chars := s.takeWhile (· ≠ c)

/-- `s.partition(c)[2]`. -/
def after (c : Char) (s : Chars) : Chars := (s.dropWhile (· ≠ c)).drop 1

/-- `s.rpartition(c)[2]`. -/
def afterLast (c : Char) (s : Chars) : Chars := s.rtakeWhile (· ≠ c)

/-- `s.partition(pattern)` around the first place where the pattern stands. -/
def partition (pattern : Chars) : Chars → Option (Chars × Chars)
  | [] => if pattern.isPrefixOf [] then some ([], []) else none
  | c :: s =>
    if pattern.isPrefixOf (c :: s) then some ([], (c :: s).drop pattern.length)
    else (partition pattern s).map fun p ↦ (c :: p.1, p.2)

/-- `s.strip(chars)`. -/
def strip (p : Char → Bool) (s : Chars) : Chars := (s.dropWhile p).rdropWhile p

/-- `s.removeprefix(front)`. -/
def removePrefix (front s : Chars) : Chars := if front.isPrefixOf s then s.drop front.length else s

/-- `s.lower()` of a text of ASCII characters. -/
def asciiLower (s : Chars) : Chars := s.map Char.toLower

/-- A C0 control or a space. -/
def isC0OrSpace (c : Char) : Bool := c.toNat ≤ 0x20

/-- The characters that URL parsers remove wherever they stand. -/
def isTabOrNewline (c : Char) : Bool := c = '\t' || c = '\r' || c = '\n'

/-- Nothing is stripped of a text without such characters. -/
theorem strip_eq_self {p : Char → Bool} {s : Chars} (h : ∀ c ∈ s, p c = false) :
    strip p s = s := by
  unfold strip
  rw [List.dropWhile_eq_self_iff.mpr, List.rdropWhile_eq_self_iff.mpr]
  · intro hne
    simp [h _ (List.getLast_mem hne)]
  · intro hl
    simp [h _ (List.getElem_mem hl)]

section Strip

variable {p : Char → Bool} {s t a b : Chars}

/-- A text without characters of a kind at its ends. -/
structure Trimmed (p : Char → Bool) (t : Chars) : Prop where
  head : ∀ c ∈ t.head?, p c = false
  last : ∀ c ∈ t.getLast?, p c = false

private theorem dropWhile_of_head (h : ∀ c ∈ t.head?, p c = false) : t.dropWhile p = t := by
  cases t with
  | nil => rfl
  | cons c t => rw [List.dropWhile_cons_of_neg (by simp [h c rfl])]

/-- What stands around a trimmed text is stripped off. -/
theorem strip_append (ha : ∀ c ∈ a, p c = true) (hb : ∀ c ∈ b, p c = true) (ht : Trimmed p t) :
    strip p (a ++ t ++ b) = t := by
  rw [strip, List.append_assoc, List.dropWhile_append_of_pos ha]
  cases t with
  | nil => rw [List.nil_append, List.dropWhile_eq_nil_iff.mpr hb, List.rdropWhile_nil]
  | cons c t =>
    rw [List.cons_append, List.dropWhile_cons_of_neg (by simp [ht.head c rfl]), ← List.cons_append,
      List.rdropWhile, List.reverse_append, List.dropWhile_append_of_pos (by simpa using hb),
      dropWhile_of_head, List.reverse_reverse]
    rw [List.head?_reverse]
    exact ht.last

theorem strip_eq_iff (ht : Trimmed p t) :
    strip p s = t ↔ ∃ a b, s = a ++ t ++ b ∧ (∀ c ∈ a, p c = true) ∧ ∀ c ∈ b, p c = true := by
  constructor
  · rintro rfl
    refine ⟨s.takeWhile p, (s.dropWhile p).rtakeWhile p, ?_, fun c ↦ List.mem_takeWhile_imp,
      fun c ↦ List.mem_rtakeWhile_imp⟩
    rw [strip, List.append_assoc, List.rdropWhile_append_rtakeWhile,
      List.takeWhile_append_dropWhile]
  · rintro ⟨a, b, rfl, ha, hb⟩
    exact strip_append ha hb ht

end Strip

theorem before_subset {c : Char} {s : Chars} : before c s ⊆ s := (List.takeWhile_prefix _).subset

theorem after_subset {c : Char} {s : Chars} : after c s ⊆ s :=
  ((List.drop_suffix _ _).trans (List.dropWhile_suffix _)).subset

theorem afterLast_subset {c : Char} {s : Chars} : afterLast c s ⊆ s :=
  (List.rtakeWhile_suffix _ _).subset

/-! ### Letters and digits -/

/-- What holds of the characters of a text may be checked one by one. -/
theorem forall_mem_of_all {P : Char → Prop} [DecidablePred P] {s : Chars}
    (h : s.all (decide <| P ·) = true) : ∀ c ∈ s, P c :=
  fun c hc ↦ of_decide_eq_true (List.all_eq_true.mp h c hc)

/-- A letter is put in lower case, everything else stays. -/
theorem isLower_toLower (c : Char) :
    c.toLower.isLower = true ∨ c.toLower = c := by
  have hletter : ∀ n < 91, 65 ≤ n → (Char.ofNat n).toLower.isLower = true := by decide
  by_cases hupper : 65 ≤ c.toNat ∧ c.toNat ≤ 90
  · have hlower := hletter c.toNat (by omega) hupper.1
    rw [Char.ofNat_toNat] at hlower
    exact Or.inl hlower
  · exact Or.inr (dif_neg hupper)

theorem not_mem_toDigits {c : Char} (hc : c.isDigit = false) (n : Nat) :
    c ∉ Nat.toDigits 10 n := by
  intro hmem
  rw [Nat.isDigit_of_mem_toDigits (by omega) (by omega) hmem] at hc
  cases hc

/-! ### Searching in a text with separators -/

section Separator

variable {sep : Char} {u v x rest : Chars}

theorem before_eq_self (hx : sep ∉ x) : before sep x = x :=
  List.takeWhile_eq_self_iff.mpr fun _ hc ↦ decide_eq_true fun h ↦ hx (h ▸ hc)

theorem afterLast_eq_self (hx : sep ∉ x) : afterLast sep x = x :=
  List.rtakeWhile_eq_self_iff.mpr fun _ hc ↦ decide_eq_true fun h ↦ hx (h ▸ hc)

theorem before_append_cons (hx : sep ∉ x) : before sep (x ++ sep :: rest) = x := by
  unfold before
  rw [List.takeWhile_append_of_pos, List.takeWhile_cons_of_neg (by simp), List.append_nil]
  intro c hc
  exact decide_eq_true fun h ↦ hx (h ▸ hc)

theorem after_append_cons (hx : sep ∉ x) : after sep (x ++ sep :: rest) = rest := by
  unfold after
  rw [List.dropWhile_append_of_pos, List.dropWhile_cons_of_neg (by simp), List.drop_succ_cons,
    List.drop_zero]
  intro c hc
  exact decide_eq_true fun h ↦ hx (h ▸ hc)

theorem before_append_after (hx : sep ∈ x) : before sep x ++ sep :: after sep x = x := by
  obtain ⟨a, b, rfl, ha⟩ := List.eq_append_cons_of_mem hx
  rw [before_append_cons ha, after_append_cons ha]

theorem head_splitOn (sep : Char) (x : Chars) : (x.splitOn sep).head? = some (before sep x) := by
  by_cases hx : sep ∈ x
  · obtain ⟨a, b, rfl, ha⟩ := List.eq_append_cons_of_mem hx
    rw [List.splitOn_append_cons_self_of_not_mem ha, before_append_cons ha]
    rfl
  · rw [List.splitOn_eq_singleton hx, before_eq_self hx]
    rfl

/-- The first separator splits a text in one way. -/
theorem append_cons_inj {a b r r' : Chars} (ha : sep ∉ a) (hb : sep ∉ b) :
    a ++ sep :: r = b ++ sep :: r' ↔ a = b ∧ r = r' := by
  constructor
  · intro h
    have hbefore := congrArg (before sep) h
    have hafter := congrArg (after sep) h
    rw [before_append_cons ha, before_append_cons hb] at hbefore
    rw [after_append_cons ha, after_append_cons hb] at hafter
    exact ⟨hbefore, hafter⟩
  · rintro ⟨rfl, rfl⟩
    rfl

theorem not_infix_of_not_mem (hx : sep ∉ x) : ¬ u ++ sep :: v <:+: x := fun h ↦
  hx (h.subset (List.mem_append_right _ List.mem_cons_self))

/-- What holds a separator is found across the first one, or after it. -/
theorem infix_append_cons_iff (hu : sep ∉ u) (hx : sep ∉ x) :
    u ++ sep :: v <:+: x ++ sep :: rest ↔
      (u <:+ x ∧ v <+: rest) ∨ u ++ sep :: v <:+: rest := by
  constructor
  · rintro ⟨s, t, h⟩
    by_cases hs : sep ∈ s
    · obtain ⟨s₁, s₂, rfl, hs₁⟩ := List.eq_append_cons_of_mem hs
      have hsplit : s₁ ++ sep :: (s₂ ++ (u ++ sep :: v) ++ t) = x ++ sep :: rest := by
        simpa using h
      obtain ⟨-, rfl⟩ := (append_cons_inj hs₁ hx).mp hsplit
      exact Or.inr ⟨s₂, t, rfl⟩
    · have hsplit : (s ++ u) ++ sep :: (v ++ t) = x ++ sep :: rest := by simpa using h
      have hsu : sep ∉ s ++ u := by simp [hs, hu]
      obtain ⟨rfl, rfl⟩ := (append_cons_inj hsu hx).mp hsplit
      exact Or.inl ⟨⟨s, rfl⟩, ⟨t, rfl⟩⟩
  · rintro (⟨⟨s, rfl⟩, ⟨t, rfl⟩⟩ | h)
    · exact ⟨s, t, by simp⟩
    · exact h.trans ((List.suffix_cons sep rest).trans (List.suffix_append x _)).isInfix

theorem prefix_append_cons_iff (hv : sep ∉ v) : v <+: x ++ sep :: rest ↔ v <+: x := by
  constructor
  · rintro ⟨t, h⟩
    rcases List.append_eq_append_iff.mp h with ⟨z, hz, -⟩ | ⟨z, rfl, hz⟩
    · exact ⟨z, hz.symm⟩
    · cases z with
      | nil => simp
      | cons c z =>
        rw [List.cons_append, List.cons.injEq] at hz
        exact absurd (by simp [hz.1]) hv
  · exact fun h ↦ h.trans (List.prefix_append x _)

theorem append_cons_prefix_iff (hv : sep ∉ v) (hx : sep ∉ x) :
    v ++ [sep] <+: x ++ sep :: rest ↔ v = x := by
  constructor
  · rintro ⟨t, h⟩
    have hsplit : v ++ sep :: t = x ++ sep :: rest := by simpa using h
    exact ((append_cons_inj hv hx).mp hsplit).1
  · rintro rfl
    exact ⟨rest, by simp⟩

end Separator

section Partition

variable {pattern s front rest : Chars}

theorem partition_eq_none_iff : partition pattern s = none ↔ ¬ pattern <:+: s := by
  induction s with
  | nil =>
    rw [partition]
    simp [List.infix_nil]
  | cons c s ih =>
    rw [partition, List.infix_cons_iff, not_or, ← ih, ← List.isPrefixOf_iff_prefix]
    split
    · next h => simp [h]
    · next h => simp [h]

theorem eq_of_partition (h : partition pattern s = some (front, rest)) :
    s = front ++ (pattern ++ rest) := by
  induction s generalizing front with
  | nil =>
    rw [partition] at h
    split at h
    · next hp =>
      cases h
      simpa using (List.isPrefixOf_iff_prefix.mp hp).eq_of_length_le (by simp)
    · cases h
  | cons c s ih =>
    rw [partition] at h
    split at h
    · next hp =>
      cases h
      obtain ⟨t, ht⟩ := List.isPrefixOf_iff_prefix.mp hp
      rw [← ht]
      simp
    · obtain ⟨⟨front', rest'⟩, hp, heq⟩ := Option.map_eq_some_iff.mp h
      cases heq
      rw [ih hp]
      rfl

end Partition

end AsbCloudApi.Base.Text
