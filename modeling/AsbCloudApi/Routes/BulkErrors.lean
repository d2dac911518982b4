import AsbCloudApi.Routes.Bulk

/-!
# Errors of bulk items

Library `Routes`. An exception of a scrape is reported by `_bulk_error_from_http_exception` of
`src/asb_api/api/routes/scrape.py` in a batch, and by `structured_http_exception_handler` of
`src/asb_api/api/errors.py` otherwise. The two agree where the exception names its code itself.
-/

namespace AsbCloudApi.Routes

open Base Text Api

/-- The entry of a batch and the response to a single scrape have the same code and message. -/
structure ReportsAlike (f : TextFunctions) (exc : HTTPException) : Prop where
  errorCode : (bulkErrorFromHttpException f exc).get? "error_code" =
    (structuredHttpExceptionHandler f exc).content.get? "error_code"
  message : (bulkErrorFromHttpException f exc).get? "message" =
    (structuredHttpExceptionHandler f exc).content.get? "message"

/-- The exception names its code, or is a plain 404 whose text is not empty and holds none of the
texts that the handler has codes for. -/
def DescribedAlike (f : TextFunctions) (exc : HTTPException) : Prop :=
  match exc.detail with
  | .dict detail => (detail.get? "error_code").isSome = true
  | .str detail => exc.statusCode = 404 ∧ detail ≠ "" ∧
      ∀ p ∈ stringToCode, ¬ p.1.toList <:+: f.unicode.lowerText detail.toList
  | .none => False

section Detail

variable (f : TextFunctions) (statusCode : Nat) (headers : Dict String String)

/-- A dictionary is reported alike if it names its code. -/
theorem reportsAlike_dict_iff (detail : Dict String PyVal) :
    ReportsAlike f ⟨statusCode, .dict detail, headers⟩ ↔
      (detail.get? "error_code").isSome = true := by
  have hbulk : (bulkErrorFromHttpException f ⟨statusCode, .dict detail, headers⟩).get?
      "error_code" = some ((detail.get? "error_code").getD (.str "BAD_REQUEST")) := rfl
  constructor
  · intro h
    have hsame := h.errorCode
    rw [hbulk, errorCode_handler_dict] at hsame
    cases hcode : detail.get? "error_code" with
    | none =>
      rw [hcode] at hsame
      exact absurd hsame (by decide)
    | some code => rfl
  · intro hcode
    have hmessage : (bulkErrorFromHttpException f ⟨statusCode, .dict detail, headers⟩).get?
        "message" = some ((detail.get? "message").getD (.str (f.strOfDict detail))) := rfl
    refine ⟨?_, ?_⟩
    · obtain ⟨code, hcode⟩ := Option.isSome_iff_exists.mp hcode
      rw [hbulk, errorCode_handler_dict, hcode, Option.getD_some, Option.getD_some]
    · rw [hmessage, message_handler_dict, if_pos hcode]

/-- In a batch a text has a code by its status, which the handler gives to bad requests only. -/
theorem bulkCode_eq_iff (detail : String) :
    (if 500 ≤ statusCode then "WORKER_ERROR" else "BAD_REQUEST") =
        (codeOfText f statusCode (.str detail)).1 ↔
      statusCode = 404 ∧ firstEntry f detail = none := by
  rw [codeOfText_fst]
  cases hfirst : firstEntry f detail with
  | none =>
    by_cases hstatus : statusCode = 404
    · have hclient : ¬ 500 ≤ statusCode := by omega
      dsimp only
      rw [if_neg hclient, if_pos hstatus]
      exact iff_of_true rfl ⟨hstatus, rfl⟩
    · simp only [if_neg hstatus]
      refine iff_of_false ?_ fun h ↦ hstatus h.1
      split <;> decide
  | some p =>
    have hgeneral := general_ne_of_firstEntry hfirst
    refine iff_of_false ?_ fun h ↦ nomatch h.2
    dsimp only
    intro h
    rw [← h] at hgeneral
    split at hgeneral
    · exact hgeneral (by decide)
    · exact hgeneral (by decide)

/-- A text is reported alike only as a bad request with status 404. -/
theorem reportsAlike_str_iff (detail : String) :
    ReportsAlike f ⟨statusCode, .str detail, headers⟩ ↔
      statusCode = 404 ∧ detail ≠ "" ∧ firstEntry f detail = none := by
  have hcode : (bulkErrorFromHttpException f ⟨statusCode, .str detail, headers⟩).get?
      "error_code" = (structuredHttpExceptionHandler f
        ⟨statusCode, .str detail, headers⟩).content.get? "error_code" ↔
      statusCode = 404 ∧ firstEntry f detail = none := by
    rw [← bulkCode_eq_iff, handler_of_text]
    exact (Option.some_inj.trans (PyVal.str.injEq _ _).to_iff)
  have hmessage : (bulkErrorFromHttpException f ⟨statusCode, .str detail, headers⟩).get?
      "message" = (structuredHttpExceptionHandler f
        ⟨statusCode, .str detail, headers⟩).content.get? "message" ↔ detail ≠ "" := by
    rw [handler_of_text]
    refine (Option.some_inj.trans (PyVal.str.injEq _ _).to_iff).trans ?_
    unfold detailStr
    by_cases hempty : detail = ""
    · subst hempty
      decide
    · simp [hempty]
  constructor
  · intro h
    obtain ⟨hstatus, hnone⟩ := hcode.mp h.errorCode
    exact ⟨hstatus, hmessage.mp h.message, hnone⟩
  · rintro ⟨hstatus, hne, hnone⟩
    exact ⟨hcode.mpr ⟨hstatus, hnone⟩, hmessage.mpr hne⟩

/-- Without a detail the two messages differ. -/
theorem not_reportsAlike_none : ¬ ReportsAlike f ⟨statusCode, .none, headers⟩ := by
  intro h
  have hmessage := h.message
  rw [handler_of_none] at hmessage
  have hsame : (some (.str "None") : Option PyVal) = some (.str "Internal error") := hmessage
  exact absurd hsame (by decide)

end Detail

/-- A batch reports an exception as a single scrape does exactly if it is described alike. -/
theorem reportsAlike_iff (f : TextFunctions) (exc : HTTPException) :
    ReportsAlike f exc ↔ DescribedAlike f exc := by
  obtain ⟨statusCode, detail, headers⟩ := exc
  cases detail with
  | dict detail => exact reportsAlike_dict_iff f statusCode headers detail
  | str detail =>
    have hfirst : firstEntry f detail = none ↔
        ∀ p ∈ stringToCode, ¬ p.1.toList <:+: f.unicode.lowerText detail.toList := by
      unfold firstEntry
      simp only [List.find?_eq_none, decide_eq_true_eq]
    rw [reportsAlike_str_iff, hfirst]
    rfl
  | none => exact iff_of_false (not_reportsAlike_none f statusCode headers) id

/-- The exception of a scrape on a session of another key is not reported alike. -/
theorem not_reportsAlike : ¬ ∀ (f : TextFunctions) (exc : HTTPException), ReportsAlike f exc := by
  intro h
  have hcode := (h ⟨⟨id, id, some, some⟩, fun _ ↦ ""⟩
    ⟨404, .str "Session not found", Dict.empty⟩).errorCode
  revert hcode
  decide +kernel

end AsbCloudApi.Routes
