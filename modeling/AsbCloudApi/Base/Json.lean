import AsbCloudApi.Base.Dict
import AsbCloudApi.Base.Text

/-!
# JSON of string dictionaries

Library `Base`. Python's `json.dumps` and `json.loads` on dictionaries whose keys and values are
texts. The encoder escapes everything outside printable ASCII, characters above U+FFFF as
surrogate pairs. Reading back what was written gives the same dictionary.
-/

namespace AsbCloudApi.Base.Json

open Text

/-- Four hexadecimal digits. -/
def hex4 (n : Nat) : Chars :=
  [Nat.digitChar (n / 4096 % 16), Nat.digitChar (n / 256 % 16), Nat.digitChar (n / 16 % 16),
    Nat.digitChar (n % 16)]

/-- A character inside a string literal. -/
def escape (c : Char) : Chars :=
  if c = '"' then ['\\', '"']
  else if c = '\\' then ['\\', '\\']
  else if c = '\n' then ['\\', 'n']
  else if c = '\r' then ['\\', 'r']
  else if c = '\t' then ['\\', 't']
  else if c = '\x08' then ['\\', 'b']
  else if c = '\x0c' then ['\\', 'f']
  else if 0x20 ≤ c.toNat ∧ c.toNat ≤ 0x7e then [c]
  else if c.toNat < 0x10000 then '\\' :: 'u' :: hex4 c.toNat
  else
    let n := c.toNat - 0x10000
    '\\' :: 'u' :: hex4 (0xd800 + n / 0x400) ++ '\\' :: 'u' :: hex4 (0xdc00 + n % 0x400)

/-- A string literal. -/
def encodeString (s : Chars) : Chars := '"' :: s.flatMap escape ++ ['"']

/-- The separators: `(",", ":")`, or `(", ", ": ")` with spaces. -/
def separator (spaced : Bool) (c : Char) : Chars := if spaced then [c, ' '] else [c]

/-- One `key: value`. -/
def encodeMember (spaced : Bool) (m : Chars × Chars) : Chars :=
  encodeString m.1 ++ separator spaced ':' ++ encodeString m.2

/-- `json.dumps` on the items of a dictionary. -/
def encodeItems (spaced : Bool) (items : List (Chars × Chars)) : Chars :=
  '{' :: (separator spaced ',').intercalate (items.map (encodeMember spaced)) ++ ['}']

/-- Four hexadecimal digits are read. -/
def readHex4 : Chars → Option (Nat × Chars)
  | a :: b :: c :: d :: rest =>
    if [a, b, c, d].all (isRadixDigit 16) then some (ofDigits 16 [a, b, c, d], rest) else none
  | _ => none

/-- What follows a backslash. -/
def readEscape : Chars → Option (Char × Chars)
  | '"' :: rest => some ('"', rest)
  | '\\' :: rest => some ('\\', rest)
  | '/' :: rest => some ('/', rest)
  | 'b' :: rest => some ('\x08', rest)
  | 'f' :: rest => some ('\x0c', rest)
  | 'n' :: rest => some ('\n', rest)
  | 'r' :: rest => some ('\r', rest)
  | 't' :: rest => some ('\t', rest)
  | 'u' :: rest => do
    let (n, rest) ← readHex4 rest
    if 0xd800 ≤ n ∧ n < 0xdc00 then
      match rest with
      | '\\' :: 'u' :: rest => do
        let (m, rest) ← readHex4 rest
        if 0xdc00 ≤ m ∧ m < 0xe000 then
          some (Char.ofNat (0x10000 + (n - 0xd800) * 0x400 + (m - 0xdc00)), rest)
        else none
      | _ => none
    else if 0xdc00 ≤ n ∧ n < 0xe000 then none
    else some (Char.ofNat n, rest)
  | _ => none

/-- One character of a string literal. -/
def readChar : Chars → Option (Char × Chars)
  | [] => none
  | c :: rest =>
    if c = '\\' then readEscape rest else if c.toNat < 0x20 then none else some (c, rest)

/-- The rest of a string literal up to its closing quote; every character takes one unit of the
budget. -/
def readString : Nat → Chars → Option (Chars × Chars)
  | 0, _ => none
  | _ + 1, [] => none
  | fuel + 1, c :: rest =>
    if c = '"' then some ([], rest)
    else do
      let (a, rest) ← readChar (c :: rest)
      let (s, rest) ← readString fuel rest
      some (a :: s, rest)

/-- White space is skipped. -/
def skipWs (s : Chars) : Chars := s.dropWhile fun c ↦ c = ' ' || c = '\t' || c = '\n' || c = '\r'

/-- A character is expected. -/
def expect (c : Char) : Chars → Option Chars
  | [] => none
  | d :: rest => if d = c then some rest else none

/-- A string literal. -/
def readLiteral (s : Chars) : Option (Chars × Chars) := do
  let rest ← expect '"' s
  readString rest.length rest

/-- One `key: value`. -/
def readMember (s : Chars) : Option ((Chars × Chars) × Chars) := do
  let (key, rest) ← readLiteral s
  let rest ← expect ':' (skipWs rest)
  let (value, rest) ← readLiteral (skipWs rest)
  some ((key, value), skipWs rest)

/-- Members up to the closing brace. -/
def readMembers : Nat → Chars → Option (List (Chars × Chars) × Chars)
  | 0, _ => none
  | fuel + 1, s => do
    let (m, rest) ← readMember s
    match rest with
    | ',' :: rest => do
      let (ms, rest) ← readMembers fuel (skipWs rest)
      some (m :: ms, rest)
    | '}' :: rest => some ([m], rest)
    | _ => none

/-- `json.loads` on the text of an object of texts. -/
def decodeItems (s : Chars) : Option (List (Chars × Chars)) := do
  let rest ← expect '{' (skipWs s)
  match skipWs rest with
  | '}' :: rest => if (skipWs rest).isEmpty then some [] else none
  | rest => do
    let (items, rest) ← readMembers rest.length rest
    if (skipWs rest).isEmpty then some items else none

/-- `json.dumps(d)`. -/
def dumps (spaced : Bool) (d : Dict String String) : String :=
  String.ofList (encodeItems spaced (d.items.map fun p ↦ (p.1.toList, p.2.toList)))

/-- `json.loads(s)`. -/
def loads (s : String) : Option (Dict String String) :=
  (decodeItems s.toList).map fun items ↦
    Dict.ofList (items.map fun p ↦ (String.ofList p.1, String.ofList p.2))

/-! ### Round trip -/

private theorem digitVal_digitChar : ∀ k < 16, digitVal? (Nat.digitChar k) = some k := by decide

private theorem ofDigits_hex4 {n : Nat} (h : n < 0x10000) : ofDigits 16 (hex4 n) = n := by
  simp only [ofDigits, hex4, List.foldl_cons, List.foldl_nil,
    digitVal_digitChar _ (Nat.mod_lt _ (by decide : 16 > 0)), Option.getD_some]
  omega

private theorem hex4_all (n : Nat) : (hex4 n).all (isRadixDigit 16) = true := by
  have hd : ∀ m, isRadixDigit 16 (Nat.digitChar (m % 16)) = true := by
    intro m
    rw [isRadixDigit, digitVal_digitChar _ (Nat.mod_lt _ (by decide))]
    exact decide_eq_true (Nat.mod_lt _ (by decide))
  simp [hex4, hd]

private theorem readHex4_hex4 {n : Nat} (h : n < 0x10000) (rest : Chars) :
    readHex4 (hex4 n ++ rest) = some (n, rest) := by
  have hall := hex4_all n
  have hval := ofDigits_hex4 h
  unfold hex4 at hall hval ⊢
  simp only [List.cons_append, List.nil_append, readHex4]
  rw [if_pos hall, hval]

private theorem toNat_lt (c : Char) : c.toNat < 0x110000 := by
  have hv := c.valid
  simp only [UInt32.isValidChar, Nat.isValidChar] at hv
  have hc : c.toNat = c.val.toNat := rfl
  omega

private theorem not_surrogate (c : Char) :
    ¬ (0xd800 ≤ c.toNat ∧ c.toNat < 0xdc00) ∧ ¬ (0xdc00 ≤ c.toNat ∧ c.toNat < 0xe000) := by
  have hv := c.valid
  simp only [UInt32.isValidChar, Nat.isValidChar] at hv
  have hc : c.toNat = c.val.toNat := rfl
  omega

private theorem readEscape_hex {c : Char} (h : c.toNat < 0x10000) (rest : Chars) :
    readEscape ('u' :: (hex4 c.toNat ++ rest)) = some (c, rest) := by
  have hs := not_surrogate c
  simp only [readEscape, readHex4_hex4 h, Option.bind_eq_bind, Option.bind_some, if_neg hs.1,
    if_neg hs.2, Char.ofNat_toNat]

private theorem readEscape_pair (n : Nat) (h : n < 0x100000) (rest : Chars) :
    readEscape ('u' :: (hex4 (0xd800 + n / 0x400) ++
      '\\' :: 'u' :: hex4 (0xdc00 + n % 0x400)) ++ rest) =
      some (Char.ofNat (0x10000 + n), rest) := by
  generalize hm : 0xd800 + n / 0x400 = m
  generalize hl : 0xdc00 + n % 0x400 = l
  have hhi : 0xd800 ≤ m ∧ m < 0xdc00 := by omega
  have hlo : 0xdc00 ≤ l ∧ l < 0xe000 := by omega
  have hback : 0x10000 + (m - 0xd800) * 0x400 + (l - 0xdc00) = 0x10000 + n := by omega
  have hread₁ := fun t ↦ @readHex4_hex4 m (by omega) t
  have hread₂ := fun t ↦ @readHex4_hex4 l (by omega) t
  simp only [List.cons_append, List.append_assoc, readEscape, hread₁, hread₂, Option.bind_eq_bind,
    Option.bind_some, if_pos hhi, if_pos hlo, hback]

/-- A character is read back from its escape. -/
theorem readChar_escape (c : Char) (rest : Chars) :
    readChar (escape c ++ rest) = some (c, rest) := by
  unfold escape
  split
  · next h => rw [h]; rfl
  split
  · next h => rw [h]; rfl
  split
  · next h => rw [h]; rfl
  split
  · next h => rw [h]; rfl
  split
  · next h => rw [h]; rfl
  split
  · next h => rw [h]; rfl
  split
  · next h => rw [h]; rfl
  split
  · next hb _ _ _ _ _ hp =>
    have hn : ¬ c.toNat < 0x20 := by omega
    simp [readChar, hb, hn]
  split
  · next hlow => exact readEscape_hex hlow rest
  · next hhigh =>
    have hback : 0x10000 + (c.toNat - 0x10000) = c.toNat := by omega
    have hread := readEscape_pair (c.toNat - 0x10000) (by have := toNat_lt c; omega) rest
    rw [hback, Char.ofNat_toNat] at hread
    exact hread

/-- No escape starts with the quote that would close the literal. -/
theorem escape_head (c : Char) : ∃ d t, escape c = d :: t ∧ d ≠ '"' := by
  unfold escape
  split
  · exact ⟨_, _, rfl, by decide⟩
  split
  · exact ⟨_, _, rfl, by decide⟩
  split
  · exact ⟨_, _, rfl, by decide⟩
  split
  · exact ⟨_, _, rfl, by decide⟩
  split
  · exact ⟨_, _, rfl, by decide⟩
  split
  · exact ⟨_, _, rfl, by decide⟩
  split
  · exact ⟨_, _, rfl, by decide⟩
  split
  · next hq _ _ _ _ _ _ _ => exact ⟨_, _, rfl, hq⟩
  split
  · exact ⟨_, _, rfl, by decide⟩
  · exact ⟨_, _, rfl, by decide⟩

/-- A literal is read back, given a budget beyond its length. -/
theorem readString_encode (s rest : Chars) {fuel : Nat} (h : s.length < fuel) :
    readString fuel (s.flatMap escape ++ '"' :: rest) = some (s, rest) := by
  induction s generalizing fuel with
  | nil =>
    obtain ⟨n, rfl⟩ : ∃ n, fuel = n + 1 := ⟨fuel - 1, by omega⟩
    simp [readString]
  | cons c s ih =>
    obtain ⟨n, rfl⟩ : ∃ n, fuel = n + 1 := ⟨fuel - 1, by omega⟩
    obtain ⟨d, t, hd, hq⟩ := escape_head c
    have hchar := readChar_escape c (s.flatMap escape ++ '"' :: rest)
    rw [List.flatMap_cons, List.append_assoc]
    rw [hd, List.cons_append] at hchar ⊢
    rw [readString, if_neg hq, hchar]
    simp only [Option.bind_eq_bind, Option.bind_some]
    rw [ih (by simpa using h)]
    rfl

private theorem length_le_flatMap_escape (s : Chars) : s.length ≤ (s.flatMap escape).length := by
  induction s with
  | nil => simp
  | cons c s ih =>
    obtain ⟨d, t, hd, _⟩ := escape_head c
    rw [List.flatMap_cons, hd]
    simp only [List.length_cons, List.length_append]
    omega

theorem readLiteral_encode (s rest : Chars) :
    readLiteral (encodeString s ++ rest) = some (s, rest) := by
  have hlen := length_le_flatMap_escape s
  simp only [readLiteral, encodeString, List.cons_append, List.append_assoc, expect, if_true,
    Option.bind_eq_bind, Option.bind_some, List.nil_append]
  apply readString_encode
  simp only [List.length_append, List.length_cons]
  omega

private theorem skipWs_cons {c : Char} (rest : Chars)
    (h : (c = ' ' || c = '\t' || c = '\n' || c = '\r') = false) :
    skipWs (c :: rest) = c :: rest := by
  rw [skipWs, List.dropWhile_cons, h]
  rfl

private theorem skipWs_encodeString (s rest : Chars) :
    skipWs (encodeString s ++ rest) = encodeString s ++ rest := skipWs_cons _ rfl

private theorem skipWs_separator (spaced : Bool) (c : Char) (s rest : Chars)
    (h : skipWs (encodeString s ++ rest) = encodeString s ++ rest) :
    ∃ t, separator spaced c ++ (encodeString s ++ rest) = c :: t ∧
      skipWs t = encodeString s ++ rest := by
  cases spaced with
  | false => exact ⟨_, rfl, h⟩
  | true =>
    refine ⟨_, rfl, ?_⟩
    exact h

theorem readMember_encode (spaced : Bool) (m : Chars × Chars) {c : Char} (rest : Chars)
    (hc : (c = ' ' || c = '\t' || c = '\n' || c = '\r') = false) :
    readMember (encodeMember spaced m ++ c :: rest) = some (m, c :: rest) := by
  obtain ⟨t, ht, hskip⟩ := skipWs_separator spaced ':' m.2 (c :: rest) (skipWs_encodeString _ _)
  simp only [encodeMember, readMember, List.append_assoc, readLiteral_encode,
    Option.bind_eq_bind, Option.bind_some, ht]
  rw [skipWs_cons t rfl]
  simp only [expect, if_true, Option.bind_some, hskip, readLiteral_encode, skipWs_cons rest hc]

private theorem intercalate_cons_cons (sep x y : Chars) (xs : List Chars) :
    sep.intercalate (x :: y :: xs) = x ++ (sep ++ sep.intercalate (y :: xs)) := by
  simp [List.intercalate, List.intersperse]

private theorem intercalate_members (spaced : Bool) (sep : Chars) (m : Chars × Chars)
    (ms : List (Chars × Chars)) : ∃ t,
      sep.intercalate ((m :: ms).map (encodeMember spaced)) = encodeString m.1 ++ t := by
  cases ms with
  | nil => exact ⟨separator spaced ':' ++ encodeString m.2, by simp [encodeMember]⟩
  | cons m' ms =>
    rw [List.map_cons, List.map_cons, intercalate_cons_cons, encodeMember, List.append_assoc,
      List.append_assoc]
    exact ⟨_, rfl⟩

/-- Members are read back, given a budget for each of them. -/
theorem readMembers_encode (spaced : Bool) (m : Chars × Chars) (ms : List (Chars × Chars))
    (rest : Chars) {fuel : Nat} (h : ms.length < fuel) :
    readMembers fuel ((separator spaced ',').intercalate ((m :: ms).map (encodeMember spaced)) ++
      '}' :: rest) = some (m :: ms, rest) := by
  induction ms generalizing m fuel with
  | nil =>
    obtain ⟨n, rfl⟩ : ∃ n, fuel = n + 1 := ⟨fuel - 1, by omega⟩
    have hread := @readMember_encode spaced m '}' rest rfl
    simp only [List.map_cons, List.map_nil, List.intercalate_singleton, readMembers, hread,
      Option.bind_eq_bind, Option.bind_some]
  | cons m' ms ih =>
    obtain ⟨n, rfl⟩ : ∃ n, fuel = n + 1 := ⟨fuel - 1, by omega⟩
    obtain ⟨tail, htail⟩ := intercalate_members spaced (separator spaced ',') m' ms
    have hrest := @ih m' n (by simpa using h)
    rw [htail] at hrest
    obtain ⟨t, ht, hskip⟩ := skipWs_separator spaced ',' m'.1 (tail ++ '}' :: rest)
      (skipWs_encodeString _ _)
    have hread := @readMember_encode spaced m ',' t rfl
    rw [List.map_cons, List.map_cons, intercalate_cons_cons, ← List.map_cons, htail]
    simp only [List.append_assoc, ht, readMembers, hread, Option.bind_eq_bind, Option.bind_some,
      hskip]
    rw [List.append_assoc] at hrest
    rw [hrest]
    rfl

private theorem length_le_intercalate (spaced : Bool) (sep : Chars) (ms : List (Chars × Chars)) :
    ms.length ≤ (sep.intercalate (ms.map (encodeMember spaced))).length := by
  induction ms with
  | nil => simp
  | cons m ms ih =>
    cases ms with
    | nil => simp [encodeMember, encodeString]
    | cons m' ms =>
      rw [List.map_cons, List.map_cons, intercalate_cons_cons, ← List.map_cons]
      simp only [List.length_cons, List.length_append, encodeMember, encodeString] at ih ⊢
      omega

/-- What was written is read back. -/
theorem decodeItems_encodeItems (spaced : Bool) (items : List (Chars × Chars)) :
    decodeItems (encodeItems spaced items) = some items := by
  cases items with
  | nil => rfl
  | cons m ms =>
    have hlen := length_le_intercalate spaced (separator spaced ',') (m :: ms)
    obtain ⟨t, ht⟩ := intercalate_members spaced (separator spaced ',') m ms
    have hread := @readMembers_encode spaced m ms []
      (encodeString m.1 ++ (t ++ ['}'])).length (by
        rw [ht] at hlen
        simp only [List.length_append, List.length_cons, List.length_nil] at hlen ⊢
        omega)
    rw [ht, List.append_assoc] at hread
    rw [encodeItems, ht, List.cons_append, List.append_assoc]
    simp only [decodeItems, @skipWs_cons '{' _ rfl, expect, if_true, Option.bind_eq_bind,
      Option.bind_some, skipWs_encodeString]
    rw [encodeString, List.cons_append, List.cons_append] at hread ⊢
    change ((readMembers _ _).bind fun x ↦ _) = _
    rw [hread]
    rfl

/-- `json.loads(json.dumps(d)) == d`. -/
theorem loads_dumps (spaced : Bool) (d : Dict String String) :
    loads (dumps spaced d) = some d := by
  rw [loads, dumps, String.toList_ofList, decodeItems_encodeItems, Option.map_some, List.map_map]
  have hid : ((fun p : Chars × Chars ↦ (String.ofList p.1, String.ofList p.2)) ∘
      fun p : String × String ↦ (p.1.toList, p.2.toList)) = id := by
    funext p
    simp
  rw [hid, List.map_id, Dict.ofList_items]

theorem dumps_ne_empty (spaced : Bool) (d : Dict String String) : dumps spaced d ≠ "" := by
  intro h
  have hl := loads_dumps spaced d
  rw [h] at hl
  cases hl

end AsbCloudApi.Base.Json
