import AsbCloudApi.Base.Text

/-!
# Regular expressions with groups

Library `Base`. Patterns of character classes, greedy repetitions, greedy optional parts and groups,
matched by backtracking: the matches at a place are listed in the order in which they are tried.
Substitution scans from left to right, takes the first match at each place and goes on behind it.
-/

namespace AsbCloudApi.Base

open Text

/-- A pattern with groups named by `G`: a character of a class, `[p]*`, a sequence, `(?:a)?` and
`(a)`. -/
inductive Regex (G : Type) where
  | char (p : Char → Bool)
  | many (p : Char → Bool)
  | seq (a b : Regex G)
  | opt (a : Regex G)
  | group (g : G) (a : Regex G)

/-- A match: the texts of its groups, what was matched and what is left. -/
structure Match (G : Type) where
  groups : List (G × Chars)
  text : Chars
  rest : Chars

/-- A match that goes on where another one has stopped. -/
def Match.andThen {G : Type} (m m' : Match G) : Match G :=
  ⟨m.groups ++ m'.groups, m.text ++ m'.text, m'.rest⟩

theorem Match.andThen_assoc {G : Type} (m₁ m₂ m₃ : Match G) :
    (m₁.andThen m₂).andThen m₃ = m₁.andThen (m₂.andThen m₃) := by
  simp [andThen]

theorem Match.andThen_empty {G : Type} (s : Chars) :
    Match.andThen (⟨[], [], s⟩ : Match G) = id := rfl

namespace Regex

variable {G : Type}

/-- Repeat a class: as often as possible, then less often. -/
def execMany (p : Char → Bool) : Chars → List (Match G)
  | [] => [⟨[], [], []⟩]
  | c :: s =>
    if p c then (execMany p s).map (fun m ↦ { m with text := c :: m.text }) ++ [⟨[], [], c :: s⟩]
    else [⟨[], [], c :: s⟩]

/-- The matches at the start of a text, first choice first. -/
def exec : Regex G → Chars → List (Match G)
  | .char _, [] => []
  | .char p, c :: s => if p c then [⟨[], [c], s⟩] else []
  | .many p, s => execMany p s
  | .seq a b, s => (exec a s).flatMap fun m ↦ (exec b m.rest).map m.andThen
  | .opt a, s => exec a s ++ [⟨[], [], s⟩]
  | .group g a, s => (exec a s).map fun m ↦ { m with groups := m.groups ++ [(g, m.text)] }

/-- A match is a part of the text. -/
theorem text_append_rest {r : Regex G} {s : Chars} {m : Match G} (h : m ∈ r.exec s) :
    m.text ++ m.rest = s := by
  induction r generalizing s m with
  | char p =>
    cases s with
    | nil => cases h
    | cons c s =>
      simp only [exec] at h
      split at h
      · rw [List.mem_singleton.mp h]
        rfl
      · cases h
  | many p =>
    simp only [exec] at h
    induction s generalizing m with
    | nil =>
      rw [List.mem_singleton.mp h]
      rfl
    | cons c s ih =>
      simp only [execMany] at h
      split at h
      · rcases List.mem_append.mp h with hmore | hnone
        · obtain ⟨m', hm', rfl⟩ := List.mem_map.mp hmore
          exact congrArg (c :: ·) (ih hm')
        · rw [List.mem_singleton.mp hnone]
          rfl
      · rw [List.mem_singleton.mp h]
        rfl
  | seq a b iha ihb =>
    obtain ⟨m₁, hm₁, h⟩ := List.mem_flatMap.mp h
    obtain ⟨m₂, hm₂, rfl⟩ := List.mem_map.mp h
    rw [Match.andThen, List.append_assoc, ihb hm₂, iha hm₁]
  | opt a ih =>
    rcases List.mem_append.mp h with h | h
    · exact ih h
    · rw [List.mem_singleton.mp h]
      rfl
  | group g a ih =>
    obtain ⟨m', hm', rfl⟩ := List.mem_map.mp h
    exact ih (m := m') hm'

section Laws

variable (a b c : Regex G) (s : Chars)

theorem exec_seq_assoc : ((a.seq b).seq c).exec s = (a.seq (b.seq c)).exec s := by
  simp only [exec, List.flatMap_assoc, List.flatMap_map, List.map_flatMap, List.map_map,
    Function.comp_def, ← Match.andThen_assoc]
  rfl

/-- What is optional is tried first. -/
theorem exec_seq_opt : (a.opt.seq b).exec s = (a.seq b).exec s ++ b.exec s := by
  simp [exec, List.flatMap_append, Match.andThen_empty]

theorem exec_seq_group (g : G) : ((group g a).seq b).exec s = (a.exec s).flatMap fun m ↦
    (b.exec m.rest).map (Match.andThen { m with groups := m.groups ++ [(g, m.text)] }) := by
  simp only [exec, List.flatMap_map]

variable {p : Char → Bool} {x : Char}

theorem exec_seq_char (h : p x = true) :
    ((char p).seq b).exec (x :: s) = (b.exec s).map (Match.andThen ⟨[], [x], s⟩) := by
  simp [exec, h]

theorem exec_seq_char_other (h : p x = false) : ((char p).seq b).exec (x :: s) = [] := by
  simp [exec, h]

end Laws

/-- If what follows a repetition never starts with a character of its class, only the longest
repetition counts. -/
theorem flatMap_execMany {β : Type} {p : Char → Bool} {k : Match G → List β}
    (hk : ∀ text c rest, p c = true → k ⟨[], text, c :: rest⟩ = []) (s : Chars) :
    (execMany p s).flatMap k = k ⟨[], s.takeWhile p, s.dropWhile p⟩ := by
  induction s generalizing k with
  | nil => simp [execMany]
  | cons c s ih =>
    cases hc : p c with
    | true =>
      have hmore := ih (k := fun m ↦ k { m with text := c :: m.text }) fun text d rest hd ↦
        hk (c :: text) d rest hd
      simp only [execMany, hc, if_true, List.flatMap_append, List.flatMap_map,
        List.takeWhile_cons_of_pos, List.dropWhile_cons_of_pos]
      rw [hmore, List.flatMap_singleton, hk [] c s hc, List.append_nil]
    | false => simp [execMany, hc]

/-! ### Substitution -/

/-- A text cut into the characters that are kept and the matches that are replaced. -/
abbrev Token (G : Type) := Char ⊕ Match G

/-- The text that a token stands for. -/
def Token.text : Token G → Chars
  | .inl c => [c]
  | .inr m => m.text

/-- Cut a text: a match that is not empty is taken, else a character is kept. -/
def tokens (r : Regex G) : Nat → Chars → List (Token G)
  | 0, _ => []
  | _, [] => []
  | n + 1, c :: s =>
    match (r.exec (c :: s)).head? with
    | some m => if m.text = [] then .inl c :: tokens r n s else .inr m :: tokens r n m.rest
    | none => .inl c :: tokens r n s

/-- The text of a sequence of tokens. -/
def render (ts : List (Token G)) : Chars := ts.flatMap Token.text

@[simp] theorem render_keep (c : Char) (ts : List (Token G)) :
    render (.inl c :: ts) = c :: render ts := rfl

@[simp] theorem render_take (m : Match G) (ts : List (Token G)) :
    render (.inr m :: ts) = m.text ++ render ts := rfl

/-- What stands in the place of a token. -/
def Token.replaced (replace : Match G → Chars) : Token G → Chars
  | .inl c => [c]
  | .inr m => replace m

/-- `re.sub(r, replace, s)`, for patterns that match no empty text. -/
def sub (r : Regex G) (replace : Match G → Chars) (s : Chars) : Chars :=
  (r.tokens s.length s).flatMap (Token.replaced replace)

/-- A right way to cut a text: where a match begins its first choice is taken, and nowhere else is
one. -/
inductive Tokenized (r : Regex G) : List (Token G) → Prop
  | nil : Tokenized r []
  | keep {c : Char} {ts : List (Token G)}
      (hno : ∀ m, (r.exec (c :: render ts)).head? = some m → m.text = [])
      (h : Tokenized r ts) : Tokenized r (.inl c :: ts)
  | take {m : Match G} {ts : List (Token G)}
      (hm : (r.exec (m.text ++ render ts)).head? = some m) (hne : m.text ≠ [])
      (h : Tokenized r ts) : Tokenized r (.inr m :: ts)

/-- The scan cuts a text in the right way. -/
theorem tokenized_tokens (r : Regex G) {n : Nat} {s : Chars} (hn : s.length ≤ n) :
    Tokenized r (r.tokens n s) ∧ render (r.tokens n s) = s := by
  induction n generalizing s with
  | zero =>
    rw [List.length_eq_zero_iff.mp (Nat.le_zero.mp hn)]
    exact ⟨.nil, rfl⟩
  | succ n ih =>
    cases s with
    | nil => exact ⟨.nil, rfl⟩
    | cons c s =>
      obtain ⟨htail, hrender⟩ := ih (s := s) (Nat.le_of_succ_le_succ hn)
      cases hm : (r.exec (c :: s)).head? with
      | none =>
        simp only [tokens, hm, render_keep, hrender, and_true]
        exact .keep (by rw [hrender, hm]; exact nofun) htail
      | some m =>
        have hsplit := text_append_rest (List.mem_of_mem_head? hm)
        by_cases hne : m.text = []
        · simp only [tokens, hm, if_pos hne, render_keep, hrender, and_true]
          refine .keep (fun m' hm' ↦ ?_) htail
          rw [hrender, hm] at hm'
          obtain rfl := Option.some.inj hm'
          exact hne
        · have hlen : m.rest.length ≤ n := by
            have hlength := congrArg List.length hsplit
            have hpos := List.length_pos_iff.mpr hne
            rw [List.length_append, List.length_cons] at hlength
            rw [List.length_cons] at hn
            omega
          obtain ⟨hrest, hrest'⟩ := ih hlen
          simp only [tokens, hm, if_neg hne, render_take, hrest', hsplit, and_true]
          exact .take (by rw [hrest', hsplit, hm]) hne hrest

end Regex
end AsbCloudApi.Base
