import AsbCloudApi.Security.Browser

/-!
# Outcomes of the URL check

Library `Security`. `validate_scrape_url` of `src/asb_api/security.py` returns the URL or raises a
400 response, unless it looks up a host that cannot be encoded: the lookup's `UnicodeError` is no
`OSError`, and nothing catches it.
-/

namespace AsbCloudApi.Security

open Base Text Net Api

/-- The codes that `validate_scrape_url` gives to its 400 responses. -/
def errorCodes : List String := ["BAD_REQUEST", "INVALID_URL_SCHEME", "PRIVATE_NETWORK_BLOCKED"]

/-- The message for a private network. -/
def blockedMessage : String :=
  "Requests to private networks, localhost, or internal metadata services are " ++
    "not allowed in this configuration."

/-- The response for a private network. -/
def privateNetworkBlocked : Exn := badRequest "PRIVATE_NETWORK_BLOCKED" blockedMessage

/-- The check returns the URL, or raises a 400 response with an error code. -/
def HasTwoOutcomes (u : UnicodeTables) (cfg : SecurityConfig) (dns : Resolver)
    (url : String) : Prop :=
  validateScrapeUrl u cfg dns url = .ok url ∨
    ∃ errorCode ∈ errorCodes, ∃ message,
      validateScrapeUrl u cfg dns url = .error (badRequest errorCode message)

/-- A host that can be encoded for the lookup. In ASCII, only the last label may be empty, and
none may have 64 characters. -/
def Encodable (u : UnicodeTables) (host : Chars) : Prop :=
  if host.all isAscii then
    (∀ label ∈ (host.splitOn '.').dropLast, label ≠ []) ∧
      ∀ label ∈ host.splitOn '.', label.length < 64
  else (u.idna host).isSome

instance (u : UnicodeTables) (host : Chars) : Decidable (Encodable u host) := by
  unfold Encodable
  infer_instance

theorem idnaName_isSome_iff (u : UnicodeTables) (host : Chars) :
    (idnaName u host).isSome ↔ Encodable u host := by
  unfold idnaName Encodable
  by_cases hascii : host.all isAscii = true
  · rw [if_pos hascii, if_pos hascii]
    obtain ⟨labels, last, hlabels⟩ : ∃ labels last, host.splitOn '.' = labels ++ [last] :=
      ⟨_, _, (List.dropLast_append_getLast (List.splitOn_ne_nil '.' host)).symm⟩
    simp only [hlabels, List.dropLast_concat, List.getLast?_concat, Option.all_some]
    have hiff : (labels.all (fun l ↦ 0 < l.length && l.length < 64) &&
        decide (last.length < 64)) = true ↔
          (∀ label ∈ labels, label ≠ []) ∧ ∀ label ∈ labels ++ [last], label.length < 64 := by
      simp only [Bool.and_eq_true, List.all_eq_true, decide_eq_true_eq, List.mem_append,
        List.mem_singleton, List.length_pos_iff]
      constructor
      · rintro ⟨hall, hlast⟩
        refine ⟨fun l hl ↦ (hall l hl).1, ?_⟩
        rintro l (hl | rfl)
        · exact (hall l hl).2
        · exact hlast
      · rintro ⟨hfilled, hshort⟩
        exact ⟨fun l hl ↦ ⟨hfilled l hl, hshort l (Or.inl hl)⟩, hshort last (Or.inr rfl)⟩
    rw [← hiff]
    split
    · next hok => exact iff_of_true rfl hok
    · next hok => exact iff_of_false Bool.false_ne_true hok
  · rw [if_neg hascii, if_neg hascii]

/-- The tests before the lookup raise nothing but 400 responses. -/
theorem exists_of_acceptedParts_error {u : UnicodeTables} {cfg : SecurityConfig} {url : String}
    {e : Exn} (h : acceptedParts u cfg url = .error e) :
    ∃ errorCode ∈ errorCodes, ∃ message, e = badRequest errorCode message := by
  unfold acceptedParts at h
  dsimp only at h
  generalize (if cfg.allowedSchemes.isEmpty = true then ["http", "https"]
    else cfg.allowedSchemes) = allowed at h
  split at h
  · cases h
    exact ⟨_, by decide, _, rfl⟩
  · split at h
    · cases h
      exact ⟨"INVALID_URL_SCHEME", by decide, _, rfl⟩
    · split at h
      · cases h
        exact ⟨"INVALID_URL_SCHEME", by decide, _, rfl⟩
      · split at h
        · cases h
          exact ⟨"INVALID_URL_SCHEME", by decide, _, rfl⟩
        · cases h

/-- The check has no other outcome exactly if it looks up no host that cannot be encoded. -/
theorem hasTwoOutcomes_iff (u : UnicodeTables) (cfg : SecurityConfig) (dns : Resolver)
    (url : String) : HasTwoOutcomes u cfg dns url ↔
      (cfg.blockPrivateNetworks = true → ∀ parsed, acceptedParts u cfg url = .ok parsed →
        isPrivateByName u (checkedHost u parsed) = false →
          Encodable u (hostLower u (checkedHost u parsed))) := by
  unfold HasTwoOutcomes validateScrapeUrl
  cases hparts : acceptedParts u cfg url with
  | error e =>
    refine iff_of_true (Or.inr ?_) fun _ _ h ↦ nomatch h
    obtain ⟨errorCode, hmem, message, rfl⟩ := exists_of_acceptedParts_error hparts
    exact ⟨errorCode, hmem, message, rfl⟩
  | ok parsed =>
    cases hblock : cfg.blockPrivateNetworks with
    | false => exact iff_of_true (Or.inl rfl) fun h ↦ nomatch h
    | true =>
      simp only [Bool.not_true, Bool.false_eq_true, if_false, isPrivateOrLocalhost,
        resolvedHostAddresses]
      cases hname : isPrivateByName u (checkedHost u parsed) with
      | true =>
        refine iff_of_true (Or.inr ⟨"PRIVATE_NETWORK_BLOCKED", by decide, blockedMessage, rfl⟩) ?_
        rintro - _ ⟨⟩ hfalse
        rw [hname] at hfalse
        cases hfalse
      | false =>
        have hencodable := idnaName_isSome_iff u (hostLower u (checkedHost u parsed))
        cases hidna : idnaName u (hostLower u (checkedHost u parsed)) with
        | none =>
          rw [hidna] at hencodable
          refine iff_of_false ?_ fun h ↦ Bool.false_ne_true (hencodable.mpr (h trivial _ rfl hname))
          rintro (h | ⟨errorCode, -, message, h⟩)
          · cases h
          · cases h
        | some name =>
          rw [hidna] at hencodable
          refine iff_of_true ?_ ?_
          · cases hany : (getaddrinfo dns name).any isPrivateAddress with
            | true =>
              right
              refine ⟨"PRIVATE_NETWORK_BLOCKED", by decide, blockedMessage, ?_⟩
              simp only [Bool.false_eq_true, if_false, Option.map_some, hany]
              rfl
            | false =>
              left
              simp only [Bool.false_eq_true, if_false, Option.map_some, hany]
          · rintro - _ ⟨⟩ -
            exact hencodable.mp rfl

/-- A host with a dot at its end. -/
theorem hasTwoOutcomes_iff_sample : HasTwoOutcomes asciiTables ({} : SecurityConfig).blocking
    (fun _ ↦ []) "https://a.example./" := by
  refine (hasTwoOutcomes_iff asciiTables _ _ _).mpr fun _ parsed hparsed _ ↦ ?_
  have hparts : acceptedParts asciiTables ({} : SecurityConfig).blocking "https://a.example./" =
      .ok ⟨"https".toList, "a.example.".toList, "/".toList⟩ := by
    decide +kernel
  rw [hparts] at hparsed
  cases hparsed
  decide +kernel

/-- An empty label in the middle of a host raises `UnicodeError`. -/
theorem not_hasTwoOutcomes : ¬ ∀ (u : UnicodeTables) (cfg : SecurityConfig) (dns : Resolver)
    (url : String), HasTwoOutcomes u cfg dns url := by
  intro h
  have hraised : validateScrapeUrl asciiTables ({} : SecurityConfig).blocking (fun _ ↦ [])
      "http://a..b/" = .error (.py ⟨.unicodeError,
        "encoding with 'idna' codec failed (UnicodeError: label empty or too long)"⟩) := by
    decide +kernel
  rcases h asciiTables ({} : SecurityConfig).blocking (fun _ ↦ []) "http://a..b/" with
    hok | ⟨errorCode, -, message, herror⟩
  · rw [hraised] at hok
    cases hok
  · rw [hraised] at herror
    cases herror

end AsbCloudApi.Security
