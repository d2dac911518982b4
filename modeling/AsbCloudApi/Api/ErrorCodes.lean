import AsbCloudApi.Api.ErrorHandler

/-!
# Status and error code

Library `Api`. Each error code of `src/SPEC.md`, section 8, belongs to a status. The handler of
`src/asb_api/api/errors.py` finds the code of a text by what the text contains, and sends it with
whatever status the exception has.
-/

namespace AsbCloudApi.Api

open Base Text Net

/-- The codes that belong to one status; `src/SPEC.md:475–484`. -/
def codeStatus : List (String × Nat) :=
  [("OVERAGE_LIMIT_EXCEEDED", 402), ("MISSING_AUTH", 403), ("INVALID_API_KEY", 403),
    ("SESSION_NOT_FOUND", 404), ("RATE_LIMIT_EXCEEDED", 429), ("SERVICE_NOT_INITIALIZED", 503)]

/-- The code may be sent with the status. -/
def StatusFits (statusCode : Nat) (errorCode : String) : Prop :=
  (errorCode = "INTERNAL_ERROR" → 500 ≤ statusCode) ∧
    ∀ p ∈ codeStatus, p.1 = errorCode → statusCode = p.2

/-- The response has an error code that may be sent with its status. -/
def Consistent (r : JSONResponse) : Prop :=
  ∃ errorCode, r.content.get? "error_code" = some (.str errorCode) ∧
    StatusFits r.statusCode errorCode

/-! ### The status that a text is meant for -/

/-- The texts that the handler looks for, in its order, each with the status that it is meant
for. -/
def textStatus : List (String × Nat) :=
  [("missing authorization", 403), ("invalid api key", 403), ("service not initialized", 503),
    ("session store not initialized", 503), ("session not found", 404),
    ("usage tracker not initialized", 503), ("rate limit", 429), ("overage", 402)]

/-- The status is the one that the first of these texts in the detail is meant for. With none of
them it is a server error, or 404. -/
def DetailSuits (f : TextFunctions) (statusCode : Nat) (detail : String) : Prop :=
  match textStatus.find? fun p ↦ p.1.toList <:+: f.unicode.lowerText detail.toList with
  | some p => statusCode = p.2
  | none => statusCode = 404 ∨ 500 ≤ statusCode

/-- A code of the table fits its own status only. -/
theorem statusFits_iff {p : String × Nat} (h : p ∈ codeStatus) (statusCode : Nat) :
    StatusFits statusCode p.1 ↔ statusCode = p.2 := by
  have hgeneral : ∀ q ∈ codeStatus, q.1 ≠ "INTERNAL_ERROR" := by decide
  have hsingle : ∀ q ∈ codeStatus, ∀ r ∈ codeStatus, r.1 = q.1 → q.2 = r.2 := by decide
  constructor
  · intro hfits
    exact hfits.2 p h rfl
  · rintro rfl
    exact ⟨fun hcode ↦ absurd hcode (hgeneral p h), hsingle p h⟩

/-- The status of a code. -/
def statusOf (errorCode : String) : Nat :=
  ((codeStatus.find? fun p ↦ p.1 = errorCode).map Prod.snd).getD 500

/-- The text found first and the code found belong together. -/
theorem find_textStatus (f : TextFunctions) (detail : String) :
    (textStatus.find? fun p ↦ p.1.toList <:+: f.unicode.lowerText detail.toList) =
      (firstEntry f detail).map fun p ↦ (p.1, statusOf p.2) := by
  have hmap : textStatus = stringToCode.map fun p ↦ (p.1, statusOf p.2) := by decide
  rw [hmap, List.find?_map]
  rfl

/-- A plain detail is sent with a code that fits the status exactly if it suits the status. -/
theorem consistent_iff (f : TextFunctions) (statusCode : Nat) (detail : String)
    (headers : Dict String String) :
    Consistent (structuredHttpExceptionHandler f ⟨statusCode, .str detail, headers⟩) ↔
      DetailSuits f statusCode detail := by
  have hcode : Consistent (structuredHttpExceptionHandler f ⟨statusCode, .str detail, headers⟩) ↔
      StatusFits statusCode (codeOfText f statusCode (.str detail)).1 := by
    rw [handler_of_text]
    constructor
    · rintro ⟨errorCode, hget, hfits⟩
      cases hget
      exact hfits
    · intro hfits
      exact ⟨_, rfl, hfits⟩
  rw [hcode, codeOfText_fst, DetailSuits, find_textStatus]
  cases hfirst : firstEntry f detail with
  | none =>
    have hgeneral : ∀ p ∈ codeStatus, p.1 ≠ "INTERNAL_ERROR" ∧ p.1 ≠ "BAD_REQUEST" := by decide
    simp only [Option.map_none]
    by_cases hstatus : statusCode = 404
    · rw [if_pos hstatus]
      refine iff_of_true ⟨?_, ?_⟩ (Or.inl hstatus)
      · intro h
        exact absurd h (by decide)
      · intro p hp h
        exact absurd h (hgeneral p hp).2
    · rw [if_neg hstatus, or_iff_right hstatus]
      constructor
      · intro hfits
        exact hfits.1 rfl
      · intro hserver
        exact ⟨fun _ ↦ hserver, fun p hp h ↦ absurd h (hgeneral p hp).1⟩
  | some p =>
    have hlisted : ∀ q ∈ stringToCode, (q.2, statusOf q.2) ∈ codeStatus := by decide
    exact statusFits_iff (hlisted p (List.mem_of_find?_eq_some hfirst)) statusCode

private def plainText : TextFunctions := ⟨⟨id, id, some, some⟩, fun _ ↦ ""⟩

/-- A bad request goes out as `INTERNAL_ERROR`. -/
theorem not_consistent : ¬ ∀ (f : TextFunctions) (statusCode : Nat) (detail : String)
    (headers : Dict String String),
    Consistent (structuredHttpExceptionHandler f ⟨statusCode, .str detail, headers⟩) := by
  intro h
  obtain ⟨errorCode, hget, hfits⟩ := h plainText 400 "Invalid signature" Dict.empty
  have hsent : (structuredHttpExceptionHandler plainText
      ⟨400, .str "Invalid signature", Dict.empty⟩).content.get? "error_code" =
      some (.str "INTERNAL_ERROR") := by
    decide +kernel
  rw [hsent] at hget
  cases hget
  exact absurd (hfits.1 rfl) (by decide)

end AsbCloudApi.Api
