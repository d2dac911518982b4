import AsbCloudApi.Api.Errors
import AsbCloudApi.Net.UrlParse

/-!
# The error handler

Library `Api`. Models `structured_http_exception_handler` of `src/asb_api/api/errors.py`. An
exception with a dictionary keeps it, with the two required fields added; any other detail
becomes a message, and its code is found by what the text contains.
-/

namespace AsbCloudApi.Api

open Base Text Net

/-- `_STRING_TO_CODE`; `src/asb_api/api/errors.py:25–34`. -/
def stringToCode : List (String × String) :=
  [("missing authorization", "MISSING_AUTH"),
    ("invalid api key", "INVALID_API_KEY"),
    ("service not initialized", "SERVICE_NOT_INITIALIZED"),
    ("session store not initialized", "SERVICE_NOT_INITIALIZED"),
    ("session not found", "SESSION_NOT_FOUND"),
    ("usage tracker not initialized", "SERVICE_NOT_INITIALIZED"),
    ("rate limit", "RATE_LIMIT_EXCEEDED"),
    ("overage", "OVERAGE_LIMIT_EXCEEDED")]

/-- `JSONResponse`, as far as the handler fills it in. -/
structure JSONResponse where
  statusCode : Nat
  content : Dict String PyVal
  headers : Dict String String

/-- What the handlers take from Python: the tables of `str.lower`, and `str` of a dictionary. -/
structure TextFunctions where
  unicode : UnicodeTables
  strOfDict : Dict String PyVal → String

/-- `str(exc.detail or "Internal error")`, for a detail that is no dictionary. -/
def detailStr : Detail → String
  | .str s => if s = "" then "Internal error" else s
  | _ => "Internal error"

/-- The code for a plain detail, and its message; `src/asb_api/api/errors.py:89–103`. -/
def codeOfText (f : TextFunctions) (statusCode : Nat) (detail : Detail) : String × String :=
  let lowered := f.unicode.lowerText (detailStr detail).toList
  let errorCode :=
    match stringToCode.find? (fun p ↦ p.1.toList <:+: lowered) with
    | some p => p.2
    | none => "INTERNAL_ERROR"
  if statusCode = 404 ∧ errorCode = "INTERNAL_ERROR" then
    ("BAD_REQUEST", if detailStr detail = "" then "Resource not found" else detailStr detail)
  else (errorCode, detailStr detail)

/-- `structured_http_exception_handler`; `src/asb_api/api/errors.py:70–112`. -/
def structuredHttpExceptionHandler (f : TextFunctions) (exc : HTTPException) : JSONResponse :=
  match exc.detail with
  | .dict detail =>
    let content :=
      if (detail.get? "error_code").isSome then detail
      else detail.set "error_code" (.str "INTERNAL_ERROR")
    let content :=
      if (content.get? "message").isSome then content
      else content.set "message" (.str (f.strOfDict content))
    ⟨exc.statusCode, content, exc.headers⟩
  | detail =>
    let (errorCode, message) := codeOfText f exc.statusCode detail
    ⟨exc.statusCode, Dict.ofList [("error_code", .str errorCode), ("message", .str message)],
      exc.headers⟩

theorem statusCode_handler (f : TextFunctions) (exc : HTTPException) :
    (structuredHttpExceptionHandler f exc).statusCode = exc.statusCode := by
  unfold structuredHttpExceptionHandler
  split <;> rfl

/-- A dictionary with both required fields is sent as it is. -/
theorem handler_of_complete (f : TextFunctions) {exc : HTTPException} {d : Dict String PyVal}
    (hd : exc.detail = .dict d) (hcode : (d.get? "error_code").isSome = true)
    (hmessage : (d.get? "message").isSome = true) :
    structuredHttpExceptionHandler f exc = ⟨exc.statusCode, d, exc.headers⟩ := by
  unfold structuredHttpExceptionHandler
  rw [hd]
  simp only [hcode, hmessage, if_true]

theorem detailStr_ne_empty (detail : Detail) : detailStr detail ≠ "" := by
  unfold detailStr
  split
  · split
    · decide
    · next h => exact h
  · decide

theorem codeOfText_message (f : TextFunctions) (statusCode : Nat) (detail : Detail) :
    (codeOfText f statusCode detail).2 = detailStr detail := by
  unfold codeOfText
  simp only [detailStr_ne_empty, if_false]
  split <;> split <;> rfl

/-- The entry whose text is found first. -/
def firstEntry (f : TextFunctions) (s : String) : Option (String × String) :=
  stringToCode.find? fun p ↦ p.1.toList <:+: f.unicode.lowerText s.toList

/-- The text that stands for an empty detail holds no more of the table than that does. -/
theorem firstEntry_detailStr (f : TextFunctions) (s : String) :
    firstEntry f (detailStr (.str s)) = firstEntry f s := by
  by_cases hs : s = ""
  · subst hs
    have hdefault : f.unicode.lowerText "Internal error".toList = "internal error".toList := by
      rw [UnicodeTables.lowerText, if_pos (by decide)]
      decide
    have hempty : f.unicode.lowerText "".toList = "".toList := rfl
    have hnone : firstEntry f "Internal error" = none := by
      unfold firstEntry
      rw [hdefault]
      decide
    rw [detailStr, if_pos rfl, hnone]
    unfold firstEntry
    rw [hempty]
    decide
  · rw [detailStr, if_neg hs]

/-- No entry of the table stands for one of the general codes. -/
theorem general_ne_of_firstEntry {f : TextFunctions} {s : String} {p : String × String}
    (h : firstEntry f s = some p) : p.2 ∉ ["INTERNAL_ERROR", "BAD_REQUEST", "WORKER_ERROR"] := by
  have hall : ∀ q ∈ stringToCode, q.2 ∉ ["INTERNAL_ERROR", "BAD_REQUEST", "WORKER_ERROR"] := by
    decide
  exact hall p (List.mem_of_find?_eq_some h)

/-- The code of a text is that of the entry found, or a general one. -/
theorem codeOfText_fst (f : TextFunctions) (statusCode : Nat) (s : String) :
    (codeOfText f statusCode (.str s)).1 =
      match firstEntry f s with
      | some p => p.2
      | none => if statusCode = 404 then "BAD_REQUEST" else "INTERNAL_ERROR" := by
  rw [← firstEntry_detailStr]
  unfold codeOfText
  cases hfirst : firstEntry f (detailStr (.str s)) with
  | none =>
    unfold firstEntry at hfirst
    simp only [hfirst, and_true]
    split <;> rfl
  | some p =>
    have hcode : p.2 ≠ "INTERNAL_ERROR" := fun h ↦
      general_ne_of_firstEntry hfirst (h ▸ List.mem_cons_self)
    unfold firstEntry at hfirst
    simp only [hfirst, hcode, and_false, if_false]

/-- A plain detail becomes a code and a message. -/
theorem handler_of_text (f : TextFunctions) (statusCode : Nat) (s : String)
    (headers : Dict String String) :
    structuredHttpExceptionHandler f ⟨statusCode, .str s, headers⟩ = ⟨statusCode, Dict.ofList
      [("error_code", .str (codeOfText f statusCode (.str s)).1),
        ("message", .str (detailStr (.str s)))], headers⟩ := by
  unfold structuredHttpExceptionHandler
  dsimp only
  rw [codeOfText_message]

/-- Without a detail the message is the default. -/
theorem handler_of_none (f : TextFunctions) (statusCode : Nat) (headers : Dict String String) :
    structuredHttpExceptionHandler f ⟨statusCode, .none, headers⟩ = ⟨statusCode, Dict.ofList
      [("error_code", .str (codeOfText f statusCode .none).1),
        ("message", .str (detailStr .none))], headers⟩ := by
  unfold structuredHttpExceptionHandler
  dsimp only
  rw [codeOfText_message]

/-- A required field keeps its value, or gets its default. -/
private theorem get?_ensure (d : Dict String PyVal) (k j : String) (v : PyVal) :
    (if (d.get? k).isSome then d else d.set k v).get? j =
      if k = j then some ((d.get? k).getD v) else d.get? j := by
  cases hk : d.get? k with
  | none =>
    rw [if_neg (by simp), Dict.get?_set, Option.getD_none]
  | some w =>
    rw [if_pos Option.isSome_some, Option.getD_some]
    split
    · next hj => rw [← hj, hk]
    · rfl

/-- The code of a dictionary is its own, or the general one. -/
theorem errorCode_handler_dict (f : TextFunctions) (statusCode : Nat) (d : Dict String PyVal)
    (headers : Dict String String) :
    (structuredHttpExceptionHandler f ⟨statusCode, .dict d, headers⟩).content.get? "error_code" =
      some ((d.get? "error_code").getD (.str "INTERNAL_ERROR")) := by
  unfold structuredHttpExceptionHandler
  dsimp only
  rw [get?_ensure, if_neg (by decide), get?_ensure, if_pos rfl]

/-- The message of a dictionary is its own, or the dictionary with its code as a text. -/
theorem message_handler_dict (f : TextFunctions) (statusCode : Nat) (d : Dict String PyVal)
    (headers : Dict String String) :
    (structuredHttpExceptionHandler f ⟨statusCode, .dict d, headers⟩).content.get? "message" =
      some ((d.get? "message").getD (.str (f.strOfDict
        (if (d.get? "error_code").isSome then d
          else d.set "error_code" (.str "INTERNAL_ERROR"))))) := by
  unfold structuredHttpExceptionHandler
  dsimp only
  rw [get?_ensure, if_pos rfl, get?_ensure, if_neg (by decide)]

end AsbCloudApi.Api
