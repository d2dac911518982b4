import AsbCloudApi.Security.Outcomes

/-!
# IPv4 literals

Library `Security`. What `validate_scrape_url` of `src/asb_api/security.py` makes of a URL whose
host is an IPv4 address. The numeric classification is exact, but the patterns of internal names
are searched for anywhere in the text, and are found in the texts of some public addresses.
-/

namespace AsbCloudApi.Security

open Base Text Net Api

/-! ### The text of an address -/

/-- An octet of an address, the least significant one being the zeroth. -/
def octet (ip : BitVec 32) (k : Nat) : Nat := ip.toNat / 256 ^ k % 256

/-- A decimal octet. -/
def octetText (n : Nat) : Chars := Nat.toDigits 10 n

theorem octet_lt (ip : BitVec 32) (k : Nat) : octet ip k < 256 := Nat.mod_lt _ (by decide)

theorem ofOctets_octet (ip : BitVec 32) :
    IPv4.ofOctets (octet ip 3) (octet ip 2) (octet ip 1) (octet ip 0) = ip := by
  apply BitVec.eq_of_toNat_eq
  have hlt := ip.isLt
  rw [IPv4.ofOctets, BitVec.toNat_ofNat, octet, octet, octet, octet]
  omega

theorem parseOctet_octetText : ∀ n < 256, IPv4.parseOctet (octetText n) = some n := by
  decide +kernel

theorem numberC_octetText : ∀ n < 256, numberC (octetText n) = some n := by decide +kernel

theorem suffix_ten_iff :
    ∀ n < 256, "10".toList <:+ octetText n ↔ n = 10 ∨ n = 110 ∨ n = 210 := by
  decide +kernel

theorem length_octetText : ∀ n < 256, (octetText n).length ≤ 3 := by decide +kernel

theorem octetText_inj {m n : Nat} (hm : m < 256) (hn : n < 256) :
    octetText m = octetText n ↔ m = n := by
  constructor
  · intro h
    have hparse := congrArg IPv4.parseOctet h
    rw [parseOctet_octetText m hm, parseOctet_octetText n hn] at hparse
    exact Option.some.inj hparse
  · rintro rfl
    rfl

/-- Only an octet itself ends in its three digits. -/
theorem octetText_suffix_iff {m n : Nat} (hm : m < 256) (hlong : (octetText m).length = 3)
    (hn : n < 256) : octetText m <:+ octetText n ↔ m = n := by
  rw [← octetText_inj hm hn]
  constructor
  · intro h
    apply h.sublist.eq_of_length_le
    rw [hlong]
    exact length_octetText n hn
  · intro h
    rw [h]

/-- Only an octet itself starts with its three digits. -/
theorem octetText_prefix_iff {m n : Nat} (hm : m < 256) (hlong : (octetText m).length = 3)
    (hn : n < 256) : octetText m <+: octetText n ↔ m = n := by
  rw [← octetText_inj hm hn]
  constructor
  · intro h
    apply h.sublist.eq_of_length_le
    rw [hlong]
    exact length_octetText n hn
  · intro h
    rw [h]

theorem isDigit_of_mem_octetText {n : Nat} {c : Char} (h : c ∈ octetText n) :
    c.isDigit = true := Nat.isDigit_of_mem_toDigits (by omega) (by omega) h

theorem dot_not_mem_octetText {n : Nat} : '.' ∉ octetText n := not_mem_toDigits (by decide) n

/-- Four octets with dots between them. -/
def quadText (a b c d : Nat) : Chars :=
  octetText a ++ '.' :: (octetText b ++ '.' :: (octetText c ++ '.' :: octetText d))

section Quad

variable {a b c d : Nat}

theorem splitOn_quadText :
    (quadText a b c d).splitOn '.' = [octetText a, octetText b, octetText c, octetText d] := by
  rw [quadText, List.splitOn_append_cons_self_of_not_mem dot_not_mem_octetText,
    List.splitOn_append_cons_self_of_not_mem dot_not_mem_octetText,
    List.splitOn_append_cons_self_of_not_mem dot_not_mem_octetText,
    List.splitOn_eq_singleton dot_not_mem_octetText]

/-- The characters of an address. -/
theorem of_mem_quadText {x : Char} (h : x ∈ quadText a b c d) : x.isDigit = true ∨ x = '.' := by
  simp only [quadText, List.mem_append, List.mem_cons] at h
  rcases h with h | h | h | h | h | h | h
  · exact Or.inl (isDigit_of_mem_octetText h)
  · exact Or.inr h
  · exact Or.inl (isDigit_of_mem_octetText h)
  · exact Or.inr h
  · exact Or.inl (isDigit_of_mem_octetText h)
  · exact Or.inr h
  · exact Or.inl (isDigit_of_mem_octetText h)

variable (ha : a < 256) (hb : b < 256) (hc : c < 256) (hd : d < 256)
include ha hb hc hd

theorem parse_quadText : IPv4.parse (quadText a b c d) = some (IPv4.ofOctets a b c d) := by
  rw [IPv4.parse, splitOn_quadText]
  simp only [parseOctet_octetText, ha, hb, hc, hd]
  rfl

theorem inetAton_quadText : inetAton (quadText a b c d) = some (IPv4.ofOctets a b c d) := by
  have hparts : [octetText a, octetText b, octetText c, octetText d].mapM numberC =
      some [a, b, c, d] := by
    simp only [List.mapM_cons, List.mapM_nil, numberC_octetText, ha, hb, hc, hd]
    rfl
  have hfits : ¬ ((3 < [a, b, c].length || [a, b, c].any (255 < ·) ||
      256 ^ (4 - [a, b, c].length) ≤ d) = true) := by
    simp
    omega
  rw [inetAton, splitOn_quadText, hparts]
  simp only [Option.bind_eq_bind, Option.bind_some, List.getLast?_cons_cons,
    List.getLast?_singleton, List.dropLast_cons_cons, List.dropLast_singleton]
  rw [if_neg hfits]
  simp only [List.zipIdx_cons, List.zipIdx_nil, List.map_cons, List.map_nil, List.sum_cons,
    List.sum_nil]
  have hsum : a * 256 ^ 3 + (b * 256 ^ 2 + (c * 256 ^ 1 + 0)) + d =
      ((a * 256 + b) * 256 + c) * 256 + d := by
    omega
  rw [hsum]
  rfl

end Quad

/-! ### The patterns -/

/-- Where the patterns of internal names show in an address: `10.` at the end of one of the first
three octets, the others as neighbouring octets. -/
def ShowsPattern (a b c d : Nat) : Prop :=
  (∃ n ∈ [a, b, c], n = 10 ∨ n = 110 ∨ n = 210) ∨
    (169, 254) ∈ [(a, b), (b, c), (c, d)] ∨
    ∃ p ∈ [(a, b), (b, c)], p ∈ [(192, 168), (172, 16), (172, 17), (172, 18)]

instance (a b c d : Nat) : Decidable (ShowsPattern a b c d) := inferInstanceAs (Decidable (_ ∨ _))

section Patterns

variable {a b c d : Nat}

/-- A pattern with a dot is found across one of the three dots. -/
theorem infix_quadText_iff {u v : Chars} (hu : '.' ∉ u) :
    u ++ '.' :: v <:+: quadText a b c d ↔
      (u <:+ octetText a ∧
        v <+: octetText b ++ '.' :: (octetText c ++ '.' :: octetText d)) ∨
      (u <:+ octetText b ∧ v <+: octetText c ++ '.' :: octetText d) ∨
      (u <:+ octetText c ∧ v <+: octetText d) := by
  rw [quadText, infix_append_cons_iff hu dot_not_mem_octetText,
    infix_append_cons_iff hu dot_not_mem_octetText, infix_append_cons_iff hu dot_not_mem_octetText,
    iff_false_intro (not_infix_of_not_mem dot_not_mem_octetText), or_false]

variable (ha : a < 256) (hb : b < 256) (hc : c < 256) (hd : d < 256)
include ha hb hc

theorem infix_ten_iff : "10.".toList <:+: quadText a b c d ↔
    ∃ n ∈ [a, b, c], n = 10 ∨ n = 110 ∨ n = 210 := by
  have hsplit : "10.".toList = "10".toList ++ '.' :: [] := rfl
  rw [hsplit, infix_quadText_iff (by decide), suffix_ten_iff a ha, suffix_ten_iff b hb,
    suffix_ten_iff c hc]
  simp

/-- Two octets with a dot after each. -/
theorem infix_pair_iff {x y : Nat} (hx : x < 256) (hlong : (octetText x).length = 3)
    (hy : y < 256) : octetText x ++ '.' :: (octetText y ++ ['.']) <:+: quadText a b c d ↔
      (x, y) ∈ [(a, b), (b, c)] := by
  have hlast : ¬ octetText y ++ ['.'] <+: octetText d := fun h ↦
    dot_not_mem_octetText (h.subset (List.mem_append_right _ List.mem_cons_self))
  rw [infix_quadText_iff dot_not_mem_octetText, octetText_suffix_iff hx hlong ha,
    octetText_suffix_iff hx hlong hb,
    append_cons_prefix_iff dot_not_mem_octetText dot_not_mem_octetText,
    append_cons_prefix_iff dot_not_mem_octetText dot_not_mem_octetText, octetText_inj hy hb,
    octetText_inj hy hc, iff_false_intro hlast, and_false, or_false]
  simp

include hd

theorem infix_linkLocal_iff : "169.254".toList <:+: quadText a b c d ↔
    (169, 254) ∈ [(a, b), (b, c), (c, d)] := by
  have hsplit : "169.254".toList = octetText 169 ++ '.' :: octetText 254 := by decide
  have hx : (169 : Nat) < 256 := by decide
  have hy : (254 : Nat) < 256 := by decide
  rw [hsplit, infix_quadText_iff dot_not_mem_octetText, octetText_suffix_iff hx (by decide) ha,
    octetText_suffix_iff hx (by decide) hb, octetText_suffix_iff hx (by decide) hc,
    prefix_append_cons_iff dot_not_mem_octetText, prefix_append_cons_iff dot_not_mem_octetText,
    octetText_prefix_iff hy (by decide) hb, octetText_prefix_iff hy (by decide) hc,
    octetText_prefix_iff hy (by decide) hd]
  simp

/-- The patterns found in the text of an address. -/
theorem any_internalParts_iff :
    (internalParts.any fun x ↦ decide (x.toList <:+: quadText a b c d)) = true ↔
      ShowsPattern a b c d := by
  have hname : ¬ "metadata".toList <:+: quadText a b c d := by
    intro h
    have hm : 'm' ∈ quadText a b c d := h.subset (by decide)
    rcases of_mem_quadText hm with hdigit | hdot
    · cases hdigit
    · cases hdot
  have hsplit (s : String) (x y : Nat)
      (h : s.toList = octetText x ++ '.' :: (octetText y ++ ['.'])) (hx : x < 256)
      (hlong : (octetText x).length = 3) (hy : y < 256) :
      s.toList <:+: quadText a b c d ↔ (x, y) ∈ [(a, b), (b, c)] := by
    rw [h, infix_pair_iff ha hb hc hx hlong hy]
  simp only [internalParts, List.any_cons, List.any_nil, Bool.or_false, Bool.or_eq_true,
    decide_eq_true_eq]
  rw [iff_false_intro hname, false_or, infix_linkLocal_iff ha hb hc hd, infix_ten_iff ha hb hc,
    hsplit "192.168." 192 168 (by decide) (by decide) (by decide) (by decide),
    hsplit "172.16." 172 16 (by decide) (by decide) (by decide) (by decide),
    hsplit "172.17." 172 17 (by decide) (by decide) (by decide) (by decide),
    hsplit "172.18." 172 18 (by decide) (by decide) (by decide) (by decide)]
  rw [ShowsPattern, or_left_comm]
  apply or_congr_right
  apply or_congr_right
  grind

end Patterns

/-! ### The check of a literal -/

/-- The URL of an address. -/
def literalUrl (ip : BitVec 32) : String := "http://" ++ String.ofList (IPv4.format ip) ++ "/"

/-- An address is blocked exactly if it is internal, and accepted otherwise. -/
def ClassifiedExactly (u : UnicodeTables) (cfg : SecurityConfig) (dns : Resolver)
    (ip : BitVec 32) : Prop :=
  (validateScrapeUrl u cfg dns (literalUrl ip) = .error privateNetworkBlocked ↔
    (IPAddress.v4 ip).isInternal = true) ∧
  ((IPAddress.v4 ip).isInternal = false →
    validateScrapeUrl u cfg dns (literalUrl ip) = .ok (literalUrl ip))

section Check

variable (u : UnicodeTables) (cfg : SecurityConfig) (dns : Resolver) {text : Chars}

/-- The characters of an address, one by one. -/
theorem mem_of_digit_or_dot {c : Char} (h : c.isDigit = true ∨ c = '.') :
    c ∈ "0123456789.".toList := by
  rcases h with h | rfl
  · unfold Char.isDigit at h
    rw [Bool.and_eq_true, decide_eq_true_eq, decide_eq_true_eq] at h
    have hlow : 48 ≤ c.toNat := UInt32.le_iff_toNat_le.mp h.1
    have hhigh : c.toNat ≤ 57 := UInt32.le_iff_toNat_le.mp h.2
    have hall : ∀ n < 58, 48 ≤ n → Char.ofNat n ∈ "0123456789.".toList := by decide
    rw [← Char.ofNat_toNat c]
    exact hall c.toNat (by omega) hlow
  · decide

/-- What such a character is not. -/
theorem plain_of_digit_or_dot {c : Char} (h : c.isDigit = true ∨ c = '.') :
    isAscii c = true ∧ c.toLower = c ∧ isBracket c = false ∧ isTabOrNewline c = false ∧
      UrlParse.endsNetloc c = false ∧ c ∉ "@:[]%".toList := by
  have hall : ∀ c ∈ "0123456789.".toList, isAscii c = true ∧ c.toLower = c ∧
      isBracket c = false ∧ isTabOrNewline c = false ∧ UrlParse.endsNetloc c = false ∧
      c ∉ "@:[]%".toList :=
    forall_mem_of_all (by decide)
  exact hall c (mem_of_digit_or_dot h)

section Plain

variable (h : ∀ c ∈ text, c.isDigit = true ∨ c = '.')
include h

theorem not_mem_literal {c : Char} (hc : c ∈ "@:[]%".toList) : c ∉ text := fun hmem ↦
  (plain_of_digit_or_dot (h c hmem)).2.2.2.2.2 hc

theorem isAscii_literal : text.all isAscii = true :=
  List.all_eq_true.mpr fun c hc ↦ (plain_of_digit_or_dot (h c hc)).1

theorem lowerText_literal : u.lowerText text = text := by
  rw [UnicodeTables.lowerText, if_pos (isAscii_literal h), asciiLower,
    List.map_congr_left fun c hc ↦ (plain_of_digit_or_dot (h c hc)).2.1]
  exact List.map_id text

theorem hostLower_literal : hostLower u text = text := by
  rw [hostLower, lowerText_literal u h]
  exact strip_eq_self fun c hc ↦ (plain_of_digit_or_dot (h c hc)).2.2.1

theorem urlparse_literal : UrlParse.urlparse u ("http://".toList ++ text ++ ['/']) =
    some ⟨"http".toList, text, ['/']⟩ := by
  have hclean : UrlParse.clean ("http://".toList ++ text ++ ['/']) =
      "http://".toList ++ text ++ ['/'] := by
    have hkeep : ∀ c ∈ "http://".toList ++ text ++ ['/'], (!isTabOrNewline c) = true := by
      intro c hc
      rw [List.mem_append, List.mem_append] at hc
      rcases hc with (hc | hc) | hc
      · have hall : ∀ c ∈ "http://".toList, (!isTabOrNewline c) = true :=
          forall_mem_of_all (by decide)
        exact hall c hc
      · rw [(plain_of_digit_or_dot (h c hc)).2.2.2.1]
        rfl
      · rw [List.mem_singleton.mp hc]
        rfl
    exact List.filter_eq_self.mpr hkeep
  have hsplit : UrlParse.splitScheme ("http://".toList ++ text ++ ['/']) =
      ("http".toList, '/' :: '/' :: (text ++ ['/'])) := rfl
  have hends : ∀ c ∈ text, (!UrlParse.endsNetloc c) = true := fun c hc ↦ by
    rw [(plain_of_digit_or_dot (h c hc)).2.2.2.2.1]
    rfl
  have hnetloc : (text ++ ['/']).takeWhile (!UrlParse.endsNetloc ·) = text := by
    rw [List.takeWhile_append_of_pos hends]
    exact List.append_nil text
  have hrest : (text ++ ['/']).dropWhile (!UrlParse.endsNetloc ·) = ['/'] := by
    rw [List.dropWhile_append_of_pos hends]
    rfl
  have hbrackets : UrlParse.checkBrackets text = true := by
    rw [UrlParse.checkBrackets, if_neg (not_mem_literal h (by decide))]
    exact decide_eq_true (not_mem_literal h (by decide))
  have hcheck : UrlParse.checkNetloc u text = true := by
    rw [UrlParse.checkNetloc, if_pos (isAscii_literal h)]
  rw [UrlParse.urlparse, hclean, hsplit]
  simp only [hnetloc, hrest, hbrackets, hcheck, Bool.and_self, if_true]

theorem checkedHost_literal (hne : text ≠ []) (scheme rest : Chars) :
    checkedHost u ⟨scheme, text, rest⟩ = text := by
  have hinfo : (ParseResult.mk scheme text rest).hostinfo.1 = text := by
    rw [ParseResult.hostinfo]
    dsimp only
    rw [afterLast_eq_self (not_mem_literal h (by decide)),
      if_neg (not_mem_literal h (by decide))]
    exact before_eq_self (not_mem_literal h (by decide))
  have hname : (ParseResult.mk scheme text rest).hostname u = some text := by
    rw [ParseResult.hostname, hinfo]
    rw [if_neg (by simpa using hne), if_neg (not_mem_literal h (by decide)),
      lowerText_literal u h]
  rw [checkedHost, hostnameOr, hname, Option.getD_some, if_neg (by simpa using hne)]

end Plain

variable (ip : BitVec 32)

theorem format_eq_quadText : IPv4.format ip =
    quadText (octet ip 3) (octet ip 2) (octet ip 1) (octet ip 0) := by
  simp only [IPv4.format, List.append_assoc, List.cons_append]
  rfl

theorem of_mem_format {c : Char} (h : c ∈ IPv4.format ip) : c.isDigit = true ∨ c = '.' :=
  of_mem_quadText (format_eq_quadText ip ▸ h)

theorem format_ne_nil : IPv4.format ip ≠ [] := by
  rw [format_eq_quadText, quadText]
  simp

theorem parse_format : IPv4.parse (IPv4.format ip) = some ip := by
  rw [format_eq_quadText, parse_quadText (octet_lt ip 3) (octet_lt ip 2) (octet_lt ip 1)
    (octet_lt ip 0), ofOctets_octet]

theorem isPrivateAddress_format :
    isPrivateAddress (IPv4.format ip) = (IPAddress.v4 ip).isInternal := by
  have hstrip : strip isBracket (IPv4.format ip) = IPv4.format ip :=
    strip_eq_self fun c hc ↦ (plain_of_digit_or_dot (of_mem_format ip hc)).2.2.1
  rw [isPrivateAddress, hstrip, ipAddress, parse_format]

/-- Of the special names, only internal addresses are addresses. -/
theorem isInternal_of_privateHostname {name : String} (hname : name ∈ privateHostnames)
    (h : name.toList = IPv4.format ip) : (IPAddress.v4 ip).isInternal = true := by
  have hall : ∀ name ∈ privateHostnames, IPv4.parse name.toList = none ∨
      isPrivateAddress name.toList = true := by
    decide
  rw [← isPrivateAddress_format]
  rcases hall name hname with hnone | hprivate
  · rw [h, parse_format] at hnone
    cases hnone
  · rwa [h] at hprivate

/-- No address ends like an internal name. -/
theorem not_suffix_format {s : String} (hs : s ∈ internalSuffixes) :
    s.toList.isSuffixOf (IPv4.format ip) = false := by
  have hletter : ∀ s ∈ internalSuffixes, 'l' ∈ s.toList := by decide
  rw [Bool.eq_false_iff]
  intro h
  rcases of_mem_format ip ((List.isSuffixOf_iff_suffix.mp h).subset (hletter s hs)) with hl | hl
  · cases hl
  · cases hl

/-- An address is refused by its text if it is internal, or shows a pattern. -/
theorem isPrivateByName_format : isPrivateByName u (IPv4.format ip) = true ↔
    (IPAddress.v4 ip).isInternal = true ∨
      ShowsPattern (octet ip 3) (octet ip 2) (octet ip 1) (octet ip 0) := by
  have hpattern := any_internalParts_iff (octet_lt ip 3) (octet_lt ip 2) (octet_lt ip 1)
    (octet_lt ip 0)
  rw [← format_eq_quadText] at hpattern
  have hempty : (IPv4.format ip).isEmpty = false := by
    rw [List.isEmpty_eq_false_iff]
    exact format_ne_nil ip
  have hsuffix : internalSuffixes.any (·.toList.isSuffixOf (IPv4.format ip)) = false := by
    rw [List.any_eq_false]
    intro s hs
    rw [not_suffix_format ip hs]
    exact Bool.false_ne_true
  rw [isPrivateByName, hostLower_literal u fun c hc ↦ of_mem_format ip hc, hempty, hsuffix,
    isPrivateAddress_format]
  simp only [Bool.false_or, Bool.or_false, Bool.or_eq_true, hpattern]
  constructor
  · rintro ((hname | hinternal) | hshows)
    · obtain ⟨name, hmem, heq⟩ := List.any_eq_true.mp hname
      exact Or.inl (isInternal_of_privateHostname ip hmem (of_decide_eq_true heq))
    · exact Or.inl hinternal
    · exact Or.inr hshows
  · rintro (hinternal | hshows)
    · exact Or.inl (Or.inr hinternal)
    · exact Or.inr hshows

/-- The lookup of an address gives it back. -/
theorem resolvedHostAddresses_format :
    resolvedHostAddresses u dns (IPv4.format ip) = some [IPv4.format ip] := by
  have hname : idnaName u (IPv4.format ip) = some (IPv4.format ip) := by
    have hlabel : ∀ n < 256, (0 < (octetText n).length && (octetText n).length < 64) = true := by
      decide +kernel
    have hlabels : (((IPv4.format ip).splitOn '.').dropLast.all
        (fun l ↦ 0 < l.length && l.length < 64) &&
          ((IPv4.format ip).splitOn '.').getLast?.all (·.length < 64)) = true := by
      rw [format_eq_quadText, splitOn_quadText]
      have h3 := hlabel _ (octet_lt ip 3)
      have h2 := hlabel _ (octet_lt ip 2)
      have h1 := hlabel _ (octet_lt ip 1)
      have h0 := hlabel _ (octet_lt ip 0)
      simp only [Bool.and_eq_true, decide_eq_true_eq] at h3 h2 h1 h0
      simp [h3, h2, h1, h0]
    rw [idnaName, if_pos (isAscii_literal fun c hc ↦ of_mem_format ip hc)]
    exact if_pos hlabels
  have hnumber : inetAton (IPv4.format ip) = some ip := by
    rw [format_eq_quadText, inetAton_quadText (octet_lt ip 3) (octet_lt ip 2) (octet_lt ip 1)
      (octet_lt ip 0), ofOctets_octet]
  rw [resolvedHostAddresses, hname, Option.map_some, getaddrinfo, hnumber]

/-- Whether the configuration lets `http` URLs through. -/
def AllowsHttp (cfg : SecurityConfig) : Prop :=
  cfg.allowedSchemes = [] ∨ "http" ∈ cfg.allowedSchemes

/-- An `http` URL of an address gets to the check of its host exactly if `http` is allowed. -/
theorem acceptedParts_literalUrl : acceptedParts u cfg (literalUrl ip) =
    if "http" ∉ (if cfg.allowedSchemes.isEmpty then ["http", "https"] else cfg.allowedSchemes) then
      .error (badRequest "INVALID_URL_SCHEME"
        "Unsupported URL scheme 'http'. Only http and https are allowed.")
    else .ok ⟨"http".toList, IPv4.format ip, ['/']⟩ := by
  have htext : (literalUrl ip).toList = "http://".toList ++ IPv4.format ip ++ ['/'] := by
    simp [literalUrl, String.toList_append]
  have hne : literalUrl ip ≠ "" := fun h ↦ by
    rw [h] at htext
    cases htext
  have hfilled : (IPv4.format ip).isEmpty = false := by
    rw [List.isEmpty_eq_false_iff]
    exact format_ne_nil ip
  rw [acceptedParts, if_neg hne, htext, urlparse_literal u fun c hc ↦ of_mem_format ip hc]
  dsimp only
  rw [hfilled]
  rfl

theorem allowsHttp_iff : AllowsHttp cfg ↔
    "http" ∈ (if cfg.allowedSchemes.isEmpty then ["http", "https"] else cfg.allowedSchemes) := by
  unfold AllowsHttp
  cases cfg.allowedSchemes with
  | nil => simp
  | cons s ss => simp

end Check

/-- Where `http` is allowed, an address is refused by its text or accepted. -/
theorem validateScrapeUrl_literalUrl (u : UnicodeTables) {cfg : SecurityConfig} (dns : Resolver)
    (ip : BitVec 32) (hhttp : AllowsHttp cfg) :
    validateScrapeUrl u cfg.blocking dns (literalUrl ip) =
      if (IPAddress.v4 ip).isInternal = true ∨
          ShowsPattern (octet ip 3) (octet ip 2) (octet ip 1) (octet ip 0) then
        .error privateNetworkBlocked
      else .ok (literalUrl ip) := by
  have hparts := acceptedParts_literalUrl u cfg.blocking ip
  rw [if_neg (not_not.mpr ((allowsHttp_iff cfg.blocking).mp hhttp))] at hparts
  have hhost := checkedHost_literal u (fun c hc ↦ of_mem_format ip hc) (format_ne_nil ip)
    "http".toList ['/']
  have hlower := hostLower_literal u fun c hc ↦ of_mem_format ip hc
  have hblock : (!cfg.blocking.blockPrivateNetworks) = false := rfl
  rw [validateScrapeUrl, hparts]
  dsimp only
  rw [hblock, hhost, if_neg Bool.false_ne_true, isPrivateOrLocalhost]
  have hiff := isPrivateByName_format u ip
  by_cases hrefused : isPrivateByName u (IPv4.format ip) = true
  · rw [if_pos hrefused, if_pos (hiff.mp hrefused)]
    rfl
  · have hpublic : (IPAddress.v4 ip).isInternal = false := by
      rw [Bool.eq_false_iff]
      exact fun h ↦ hrefused (hiff.mpr (Or.inl h))
    rw [if_neg hrefused, if_neg (mt hiff.mpr hrefused), hlower, resolvedHostAddresses_format,
      Option.map_some, List.any_cons, List.any_nil, isPrivateAddress_format, hpublic]
    rfl

/-- For an `http` URL of an IPv4 address the check is exact if and only if `http` is allowed and
the address is internal or shows no pattern. -/
theorem classifiedExactly_iff (u : UnicodeTables) (cfg : SecurityConfig) (dns : Resolver)
    (ip : BitVec 32) : ClassifiedExactly u cfg.blocking dns ip ↔
      AllowsHttp cfg ∧ ((IPAddress.v4 ip).isInternal = true ∨
        ¬ ShowsPattern (octet ip 3) (octet ip 2) (octet ip 1) (octet ip 0)) := by
  unfold ClassifiedExactly
  by_cases hhttp : AllowsHttp cfg
  · rw [validateScrapeUrl_literalUrl u dns ip hhttp, iff_true_intro hhttp, true_and]
    by_cases hinternal : (IPAddress.v4 ip).isInternal = true
    · simp [hinternal]
    · rw [Bool.not_eq_true] at hinternal
      by_cases hshows : ShowsPattern (octet ip 3) (octet ip 2) (octet ip 1) (octet ip 0)
      · simp [hinternal, hshows]
      · simp [hinternal, hshows]
  · have hparts := acceptedParts_literalUrl u cfg.blocking ip
    rw [if_pos fun h ↦ hhttp ((allowsHttp_iff cfg.blocking).mpr h)] at hparts
    have hother : badRequest "INVALID_URL_SCHEME"
        "Unsupported URL scheme 'http'. Only http and https are allowed." ≠
          privateNetworkBlocked := by
      decide +kernel
    rw [validateScrapeUrl, hparts]
    simp [hhttp, hother]

/-- A public address that shows no pattern. -/
theorem classifiedExactly_iff_sample : ClassifiedExactly asciiTables ({} : SecurityConfig).blocking
    (fun _ ↦ []) (IPv4.ofOctets 8 8 8 8) :=
  (classifiedExactly_iff asciiTables {} (fun _ ↦ []) (IPv4.ofOctets 8 8 8 8)).mpr
    ⟨Or.inr (by decide), by decide +kernel⟩

/-- A public address with `10.` at the end of an octet is blocked. -/
theorem not_classifiedExactly : ¬ ∀ (u : UnicodeTables) (cfg : SecurityConfig) (dns : Resolver)
    (ip : BitVec 32), ClassifiedExactly u cfg.blocking dns ip := by
  intro h
  have hok := (h asciiTables {} (fun _ ↦ []) (IPv4.ofOctets 110 1 1 1)).2 (by decide +kernel)
  revert hok
  decide +kernel

end AsbCloudApi.Security
