import AsbCloudApi.Base.Dict
import AsbCloudApi.Base.Regex

/-!
# References to the environment

Library `Startup`. Models the text case of `_resolve_env` of `src/asb_api/config.py:6–18`. Every
text is in exactly one way a sequence of characters and references, and its resolution replaces each
reference by the variable or its default. What is put in is not resolved again.
-/

namespace AsbCloudApi.Startup

open Base Text Regex

/-- The groups of `_ENV_VAR_RE`. -/
inductive EnvGroup where
  | one
  | two
  | three
  deriving DecidableEq

/-- `[^}:]`. -/
def isVarChar (c : Char) : Bool := c ≠ '\x7d' && c ≠ ':'

/-- `(?::(-)?([^\}]*))?\}`. -/
def envTailRe : Regex EnvGroup :=
  .seq (.opt (.seq (.char (· = ':')) (.seq (.opt (.group .two (.char (· = '-'))))
    (.group .three (.many (· ≠ '\x7d')))))) (.char (· = '\x7d'))

/-- `_ENV_VAR_RE`; `src/asb_api/config.py:6`. -/
def envVarRe : Regex EnvGroup :=
  .seq (.char (· = '$')) (.seq (.char (· = '\x7b'))
    (.seq (.group .one (.seq (.char isVarChar) (.many isVarChar))) envTailRe))

/-- `m.group(g)`. -/
def groupOf (m : Match EnvGroup) (g : EnvGroup) : Option Chars := m.groups.lookup g

/-- `_replace`; `src/asb_api/config.py:11–17`. -/
def replaceVar (environ : Dict String String) (m : Match EnvGroup) : Chars :=
  let var := (groupOf m .one).getD []
  let default := (groupOf m .three).getD []
  match environ.get? (String.ofList var) with
  | some val => val.toList
  | none => default

/-- `_ENV_VAR_RE.sub(_replace, value)`. -/
def resolveText (environ : Dict String String) (value : String) : String :=
  String.ofList (envVarRe.sub (replaceVar environ) value.toList)

/-! ### Where the pattern matches -/

/-- A reference to a variable. Behind a colon stands its default, with a dash before it or not. -/
structure Reference where
  name : Chars
  tail : Option Chars
  name_ne : name ≠ []
  name_free : ∀ c ∈ name, isVarChar c = true
  tail_free : ∀ t, tail = some t → '\x7d' ∉ t

namespace Reference

/-- The default behind a colon. -/
def dropDash : Chars → Chars
  | '-' :: t => t
  | t => t

/-- The groups behind a colon. -/
def tailGroups : Chars → List (EnvGroup × Chars)
  | '-' :: t => [(.two, ['-']), (.three, t)]
  | t => [(.three, t)]

theorem tailGroups_of_no_dash {t : Chars} (h : ∀ t', t ≠ '-' :: t') :
    tailGroups t = [(.three, t)] := by
  unfold tailGroups
  split
  · exact absurd rfl (h _)
  · rfl

/-- The text of a reference behind its name. -/
def tailText : Option Chars → Chars
  | none => ['\x7d']
  | some t => ':' :: t ++ ['\x7d']

theorem tailText_injective : Function.Injective tailText := by
  intro a b h
  cases a with
  | none =>
    cases b with
    | none => rfl
    | some t => cases h
  | some s =>
    cases b with
    | none => cases h
    | some t => rw [(List.cons.inj (List.append_cancel_right h)).2]

def text (v : Reference) : Chars := '$' :: '\x7b' :: v.name ++ tailText v.tail

/-- The match of a reference. -/
def toMatch (v : Reference) (rest : Chars) : Match EnvGroup :=
  ⟨(.one, v.name) :: v.tail.elim [] tailGroups, v.text, rest⟩

/-- What a reference stands for. -/
def value (environ : Dict String String) (v : Reference) : Chars :=
  match environ.get? (String.ofList v.name) with
  | some val => val.toList
  | none => v.tail.elim [] dropDash

end Reference

section Tail

variable {s : Chars}

private theorem exec_envTailRe_other {c : Char} (h : isVarChar c = true) (s : Chars) :
    envTailRe.exec (c :: s) = [] := by
  simp only [isVarChar, Bool.and_eq_true, decide_eq_true_eq] at h
  rw [envTailRe, exec_seq_opt, exec_seq_assoc, exec_seq_char_other _ _ (by simp [h.2])]
  simp [exec, h.1]

private theorem exec_envTailRe_close (s : Chars) :
    envTailRe.exec ('\x7d' :: s) = [⟨[], ['\x7d'], s⟩] := by
  rw [envTailRe, exec_seq_opt, exec_seq_assoc, exec_seq_char_other _ _ (by decide)]
  rfl

private theorem dropWhile_eq_cons_after (h : '\x7d' ∈ s) :
    s.dropWhile (· ≠ '\x7d') = '\x7d' :: after '\x7d' s := by
  obtain ⟨a, b, rfl, ha⟩ := List.eq_append_cons_of_mem h
  rw [after_append_cons ha, List.dropWhile_append_of_pos, List.dropWhile_cons_of_neg (by simp)]
  exact fun c hc ↦ decide_eq_true fun heq ↦ ha (heq ▸ hc)

/-- `([^\}]*)\}`: everything up to the next brace. -/
private theorem exec_fallback (s : Chars) :
    ((group EnvGroup.three (.many (· ≠ '\x7d'))).seq (.char (· = '\x7d'))).exec s =
      if '\x7d' ∈ s then
        [⟨[(.three, before '\x7d' s)], before '\x7d' s ++ ['\x7d'], after '\x7d' s⟩]
      else [] := by
  rw [exec_seq_group, exec, flatMap_execMany]
  · change ((Regex.char _).exec (s.dropWhile _)).map _ = _
    by_cases h : '\x7d' ∈ s
    · rw [if_pos h, dropWhile_eq_cons_after h]
      rfl
    · rw [if_neg h, List.dropWhile_eq_nil_iff.mpr]
      · rfl
      · exact fun c hc ↦ decide_eq_true fun heq ↦ h (heq ▸ hc)
  · intro text c rest hc
    simp [exec, of_decide_eq_true hc]

private theorem exec_dash (r : Regex EnvGroup) (s : Chars) :
    ((group EnvGroup.two (.char (· = '-'))).seq r).exec ('-' :: s) =
      (r.exec s).map (Match.andThen ⟨[(.two, ['-'])], ['-'], s⟩) := by
  rw [exec_seq_group]
  exact List.flatMap_singleton ..

/-- Behind a colon a dash is taken off the default. -/
private theorem head?_exec_envTailRe_colon (s : Chars) : (envTailRe.exec (':' :: s)).head? =
    if '\x7d' ∈ s then
      some ⟨Reference.tailGroups (before '\x7d' s), Reference.tailText (some (before '\x7d' s)),
        after '\x7d' s⟩
    else none := by
  have hclose : (Regex.char (G := EnvGroup) (· = '\x7d')).exec (':' :: s) = [] := rfl
  rw [envTailRe, exec_seq_opt, exec_seq_assoc, exec_seq_char _ _ (by decide), hclose,
    List.append_nil, exec_seq_assoc, exec_seq_opt, exec_fallback]
  by_cases hdash : ∃ t, s = '-' :: t
  · obtain ⟨t, rfl⟩ := hdash
    have hmem : '\x7d' ∈ '-' :: t ↔ '\x7d' ∈ t := by simp
    have hbefore : before '\x7d' ('-' :: t) = '-' :: before '\x7d' t := rfl
    have hafter : after '\x7d' ('-' :: t) = after '\x7d' t := rfl
    rw [exec_dash, exec_fallback, hbefore, hafter]
    simp only [hmem]
    split <;> rfl
  · have hnone : (Regex.char (G := EnvGroup) (· = '-')).exec s = [] := by
      cases s with
      | nil => rfl
      | cons c t => exact if_neg fun hc ↦ hdash ⟨t, by rw [of_decide_eq_true hc]⟩
    have hgroups : Reference.tailGroups (before '\x7d' s) = [(.three, before '\x7d' s)] := by
      apply Reference.tailGroups_of_no_dash
      intro t ht
      obtain ⟨rest, hrest⟩ := List.takeWhile_prefix (l := s) (· ≠ '\x7d')
      exact hdash ⟨t ++ rest, by rw [← hrest, ← List.cons_append]; exact congrArg (· ++ rest) ht⟩
    rw [exec_seq_group, hnone, hgroups]
    split <;> rfl

/-- What stands behind a name. -/
private theorem head?_exec_envTailRe_iff {m : Match EnvGroup} :
    (envTailRe.exec s).head? = some m ↔ ∃ tail rest, (∀ t, tail = some t → '\x7d' ∉ t) ∧
      s = Reference.tailText tail ++ rest ∧
      m = ⟨tail.elim [] Reference.tailGroups, Reference.tailText tail, rest⟩ := by
  constructor
  · intro h
    cases s with
    | nil => cases h
    | cons c s =>
      cases hc : isVarChar c with
      | true =>
        rw [exec_envTailRe_other hc] at h
        cases h
      | false =>
        have hends : c = '\x7d' ∨ c = ':' := by
          simpa [isVarChar, ← not_and_or, Classical.or_iff_not_imp_left] using hc
        rcases hends with rfl | rfl
        · rw [exec_envTailRe_close] at h
          cases h
          exact ⟨none, s, nofun, rfl, rfl⟩
        · rw [head?_exec_envTailRe_colon] at h
          split at h
          · next hmem =>
            cases h
            refine ⟨some (before '\x7d' s), after '\x7d' s, ?_, ?_, rfl⟩
            · rintro t ht
              cases ht
              intro hin
              have hne := List.mem_takeWhile_imp (p := (· ≠ '\x7d')) (l := s) hin
              simp at hne
            · simp [Reference.tailText, before_append_after hmem]
          · cases h
  · rintro ⟨tail, rest, hfree, rfl, rfl⟩
    cases tail with
    | none => rw [Reference.tailText, List.singleton_append, exec_envTailRe_close]; rfl
    | some t =>
      have ht := hfree t rfl
      have hsplit : Reference.tailText (some t) ++ rest = ':' :: (t ++ '\x7d' :: rest) := by
        simp [Reference.tailText]
      rw [hsplit, head?_exec_envTailRe_colon, if_pos (by simp), before_append_cons ht,
        after_append_cons ht]
      rfl

end Tail

/-- `\$\{([^}:]+)`: the name is taken as far as it goes. -/
private theorem head?_exec_envVarRe (s : Chars) : (envVarRe.exec ('$' :: '\x7b' :: s)).head? =
    if s.takeWhile isVarChar = [] then none
    else ((envTailRe.exec (s.dropWhile isVarChar)).head?).map fun m ↦
      Match.andThen ⟨[(.one, s.takeWhile isVarChar)], '$' :: '\x7b' :: s.takeWhile isVarChar,
        s.dropWhile isVarChar⟩ m := by
  rw [envVarRe, exec_seq_char _ _ (by decide), exec_seq_char _ _ (by decide), exec_seq_group]
  cases s with
  | nil => rfl
  | cons c s =>
    cases hc : isVarChar c with
    | false =>
      rw [exec_seq_char_other _ _ hc, List.takeWhile_cons_of_neg (by simp [hc]), if_pos rfl]
      rfl
    | true =>
      rw [exec_seq_char _ _ hc, List.takeWhile_cons_of_pos hc, List.dropWhile_cons_of_pos hc,
        if_neg (List.cons_ne_nil c _), exec, List.flatMap_map, flatMap_execMany]
      · simp only [List.head?_map, Option.map_map]
        rfl
      · intro text d rest hd
        change (envTailRe.exec (d :: rest)).map _ = []
        rw [exec_envTailRe_other hd, List.map_nil]

private theorem span_name {name : Chars} (h : ∀ c ∈ name, isVarChar c = true)
    (tail : Option Chars) (rest : Chars) :
    (name ++ (Reference.tailText tail ++ rest)).takeWhile isVarChar = name ∧
      (name ++ (Reference.tailText tail ++ rest)).dropWhile isVarChar =
        Reference.tailText tail ++ rest := by
  rw [List.takeWhile_append_of_pos h, List.dropWhile_append_of_pos h]
  cases tail with
  | none | some t => exact ⟨List.append_nil name, rfl⟩

private theorem opened_of_mem {s : Chars} {m : Match EnvGroup} (h : m ∈ envVarRe.exec s) :
    ∃ rest, s = '$' :: '\x7b' :: rest := by
  cases s with
  | nil => cases h
  | cons c s =>
    by_cases hc : c = '$'
    · subst hc
      rw [envVarRe, exec_seq_char _ _ (by decide)] at h
      cases s with
      | nil => cases h
      | cons c s =>
        by_cases hc : c = '\x7b'
        · exact ⟨s, by rw [hc]⟩
        · rw [exec_seq_char_other _ _ (decide_eq_false hc)] at h
          cases h
    · rw [envVarRe, exec_seq_char_other _ _ (decide_eq_false hc)] at h
      cases h

/-- The pattern matches exactly where a reference stands. -/
theorem head?_exec_envVarRe_iff {s : Chars} {m : Match EnvGroup} :
    (envVarRe.exec s).head? = some m ↔
      ∃ (v : Reference) (rest : Chars), s = v.text ++ rest ∧ m = v.toMatch rest := by
  constructor
  · intro h
    obtain ⟨s, rfl⟩ := opened_of_mem (List.mem_of_mem_head? h)
    rw [head?_exec_envVarRe] at h
    split at h
    · cases h
    · next hne =>
      obtain ⟨m', hm', rfl⟩ := Option.map_eq_some_iff.mp h
      obtain ⟨tail, rest, hfree, hdrop, rfl⟩ := head?_exec_envTailRe_iff.mp hm'
      refine ⟨⟨s.takeWhile isVarChar, tail, hne, fun c ↦ List.mem_takeWhile_imp, hfree⟩, rest,
        ?_, rfl⟩
      have hspan := List.takeWhile_append_dropWhile (p := isVarChar) (l := s)
      rw [hdrop] at hspan
      simp [Reference.text, hspan]
  · rintro ⟨v, rest, rfl, rfl⟩
    obtain ⟨htake, hdrop⟩ := span_name v.name_free v.tail rest
    have hsplit : v.text ++ rest =
        '$' :: '\x7b' :: (v.name ++ (Reference.tailText v.tail ++ rest)) := by
      simp [Reference.text]
    have htail := head?_exec_envTailRe_iff.mpr ⟨v.tail, rest, v.tail_free, rfl, rfl⟩
    rw [hsplit, head?_exec_envVarRe, htake, hdrop, if_neg v.name_ne, htail]
    rfl

/-! ### Templates -/

/-- A part of a template. -/
inductive Segment where
  | char (c : Char)
  | ref (v : Reference)

namespace Segment

/-- The text of a part. -/
def text : Segment → Chars
  | .char c => [c]
  | .ref v => v.text

/-- What a part stands for. -/
def value (environ : Dict String String) : Segment → Chars
  | .char c => [c]
  | .ref v => v.value environ

end Segment

/-- A template: no reference begins at one of its characters. -/
inductive Template : List Segment → Prop
  | nil : Template []
  | char {c : Char} {ts : List Segment}
      (hno : ∀ (v : Reference) rest, c :: ts.flatMap Segment.text ≠ v.text ++ rest)
      (h : Template ts) : Template (.char c :: ts)
  | ref {v : Reference} {ts : List Segment} (h : Template ts) : Template (.ref v :: ts)

/-- What is put in for a match is the value of its reference. -/
theorem replaceVar_toMatch (environ : Dict String String) (v : Reference) (rest : Chars) :
    replaceVar environ (v.toMatch rest) = v.value environ := by
  have hthree : (groupOf (v.toMatch rest) .three).getD [] = v.tail.elim [] Reference.dropDash := by
    change ((v.tail.elim [] Reference.tailGroups).lookup .three).getD [] = _
    cases v.tail with
    | none => rfl
    | some t =>
      change ((Reference.tailGroups t).lookup .three).getD [] = Reference.dropDash t
      unfold Reference.tailGroups Reference.dropDash
      split <;> rfl
  unfold replaceVar Reference.value
  rw [hthree]
  rfl

/-- A text begins with one reference at most. -/
theorem reference_unique {v v' : Reference} {rest rest' : Chars}
    (h : v.text ++ rest = v'.text ++ rest') : v = v' ∧ rest = rest' := by
  have hv := head?_exec_envVarRe_iff.mpr ⟨v, rest, rfl, rfl⟩
  rw [h, head?_exec_envVarRe_iff.mpr ⟨v', rest', rfl, rfl⟩] at hv
  obtain ⟨hgroups, htext, rfl⟩ := Match.mk.inj (Option.some.inj hv)
  have hname : v'.name = v.name := congrArg Prod.snd (List.cons.inj hgroups).1
  rw [Reference.text, Reference.text, hname] at htext
  have htail := Reference.tailText_injective (List.append_cancel_left htext)
  cases v
  cases v'
  subst hname htail
  exact ⟨rfl, rfl⟩

theorem Template.unique {ts ts' : List Segment} (h : Template ts) (h' : Template ts')
    (htext : ts.flatMap Segment.text = ts'.flatMap Segment.text) : ts = ts' := by
  induction h generalizing ts' with
  | nil =>
    cases h' with
    | nil => rfl
    | char => cases htext
    | ref => cases htext
  | @char c ts hno h ih =>
    cases h' with
    | nil => cases htext
    | @char c' ts' hno' h' =>
      obtain ⟨rfl, hrest⟩ := List.cons.inj htext
      rw [ih h' hrest]
    | @ref v ts' h' => exact absurd htext (hno v _)
  | @ref v ts h ih =>
    cases h' with
    | nil => cases htext
    | @char c ts' hno' h' => exact absurd htext.symm (hno' v _)
    | @ref v' ts' h' =>
      obtain ⟨rfl, hrest⟩ := reference_unique htext
      rw [ih h' hrest]

/-- What the scan cuts is a template. -/
theorem template_of_tokenized {toks : List (Token EnvGroup)} (h : Tokenized envVarRe toks) :
    ∃ ts, Template ts ∧ ts.flatMap Segment.text = render toks ∧ ∀ environ,
      toks.flatMap (Token.replaced (replaceVar environ)) = ts.flatMap (Segment.value environ) := by
  induction h with
  | nil => exact ⟨[], .nil, rfl, fun _ ↦ rfl⟩
  | @keep c toks hno h ih =>
    obtain ⟨ts, hts, htext, hvalue⟩ := ih
    refine ⟨.char c :: ts, .char (fun v rest hv ↦ ?_) hts, congrArg (c :: ·) htext,
      fun environ ↦ congrArg (c :: ·) (hvalue environ)⟩
    rw [htext] at hv
    have hempty := hno _ (head?_exec_envVarRe_iff.mpr ⟨v, rest, hv, rfl⟩)
    cases hempty
  | @take m toks hm hne h ih =>
    obtain ⟨ts, hts, htext, hvalue⟩ := ih
    obtain ⟨v, rest, -, rfl⟩ := head?_exec_envVarRe_iff.mp hm
    refine ⟨.ref v :: ts, .ref hts, congrArg (v.text ++ ·) htext, fun environ ↦ ?_⟩
    rw [List.flatMap_cons, List.flatMap_cons, hvalue]
    exact congrArg (· ++ _) (replaceVar_toMatch environ v rest)

/-- Every text is one template, and resolving the text replaces the references of the template. What
a variable holds is put in as it is. -/
theorem resolveText_exact (value : String) :
    ∃ ts, (Template ts ∧ ts.flatMap Segment.text = value.toList) ∧
      (∀ ts', Template ts' → ts'.flatMap Segment.text = value.toList → ts' = ts) ∧
      ∀ environ, (resolveText environ value).toList = ts.flatMap (Segment.value environ) := by
  obtain ⟨htokens, hrender⟩ := tokenized_tokens envVarRe (le_refl value.toList.length)
  obtain ⟨ts, hts, htext, hvalue⟩ := template_of_tokenized htokens
  rw [hrender] at htext
  refine ⟨ts, ⟨hts, htext⟩, fun ts' hts' htext' ↦ ?_, fun environ ↦ ?_⟩
  · exact hts'.unique hts (htext'.trans htext.symm)
  · rw [resolveText, String.toList_ofList, sub, hvalue]

end AsbCloudApi.Startup
