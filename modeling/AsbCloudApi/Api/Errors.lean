import AsbCloudApi.Base.Dict
import Mathlib.Data.Rat.Defs

/-!
# Exceptions

Library `Api`. Models the HTTP exceptions of `src/asb_api/api/errors.py:37–53` and of the
FastAPI class they derive from: a status, a detail that is text or a dictionary, and
response headers. All other exceptions are told apart by the classes the code catches.
-/

namespace AsbCloudApi.Api

open Base

/-- The Python values that occur in error details and in JSON. -/
inductive PyVal where
  | none
  | bool (b : Bool)
  | int (n : Int)
  | float (q : ℚ)
  | str (s : String)
  | list (items : List PyVal)
  | dict (items : List (String × PyVal))

namespace PyVal

mutual

/-- Equality of values, computed. -/
def beq : PyVal → PyVal → Bool
  | .none, .none => true
  | .bool a, .bool b => a = b
  | .int a, .int b => a = b
  | .float a, .float b => a = b
  | .str a, .str b => a = b
  | .list as, .list bs => beqItems as bs
  | .dict as, .dict bs => beqFields as bs
  | _, _ => false

/-- Equality of lists. -/
def beqItems : List PyVal → List PyVal → Bool
  | [], [] => true
  | a :: as, b :: bs => beq a b && beqItems as bs
  | _, _ => false

/-- Equality of the items of dictionaries. -/
def beqFields : List (String × PyVal) → List (String × PyVal) → Bool
  | [], [] => true
  | (j, a) :: as, (k, b) :: bs => j = k && beq a b && beqFields as bs
  | _, _ => false

end

mutual

theorem beq_iff (a b : PyVal) : beq a b = true ↔ a = b := by
  cases a <;> cases b <;> simp [beq, beqItems_iff, beqFields_iff]

theorem beqItems_iff (as bs : List PyVal) : beqItems as bs = true ↔ as = bs := by
  cases as <;> cases bs <;> simp [beqItems, beq_iff, beqItems_iff]

theorem beqFields_iff (as bs : List (String × PyVal)) : beqFields as bs = true ↔ as = bs := by
  rcases as with _ | ⟨⟨j, a⟩, as⟩ <;> rcases bs with _ | ⟨⟨k, b⟩, bs⟩ <;>
    simp [beqFields, beq_iff, beqFields_iff]

end

instance : DecidableEq PyVal := fun a b ↦ decidable_of_iff _ (beq_iff a b)

/-- `bool(v)`. -/
def truthy : PyVal → Bool
  | .none => false
  | .bool b => b
  | .int n => n ≠ 0
  | .float q => q ≠ 0
  | .str s => s ≠ ""
  | .list items => !items.isEmpty
  | .dict items => !items.isEmpty

end PyVal

/-- Python's `int()` on a number: truncation towards zero. -/
def pyInt (q : ℚ) : Int := q.num.tdiv q.den

/-- `HTTPException.detail`: absent, plain text or a dictionary. -/
inductive Detail where
  | none
  | str (s : String)
  | dict (d : Dict String PyVal)
  deriving DecidableEq

/-- FastAPI's `HTTPException`. -/
structure HTTPException where
  statusCode : Nat
  detail : Detail
  headers : Dict String String
  deriving DecidableEq

/-- `APIError.__init__`; `src/asb_api/api/errors.py:43–53`. Extra fields follow the two
required ones. -/
def APIError (statusCode : Nat) (errorCode message : String)
    (extra : List (String × PyVal)) : HTTPException where
  statusCode := statusCode
  detail := .dict (Dict.ofList
    ([("error_code", .str errorCode), ("message", .str message)] ++ extra))
  headers := Dict.empty

/-- Classes of other exceptions, as far as the code tells them apart. -/
inductive PyErrorClass where
  | poolExhaustedError
  | providerError
  | runtimeError
  | valueError
  | unicodeError
  | keyError
  | other
  deriving DecidableEq

/-- Any other exception: its class and its text `str(e)`. -/
structure PyError where
  cls : PyErrorClass
  text : String
  deriving DecidableEq

/-- `KeyError(key)`. Its text is `repr(key)`, here of a key that needs neither escapes nor double
quotes. -/
def PyError.keyError (key : String) : PyError := ⟨.keyError, "'" ++ key ++ "'"⟩

/-- What a handler may raise. -/
inductive Exn where
  | http (e : HTTPException)
  | py (e : PyError)
  deriving DecidableEq

/-- A sequence succeeds exactly if both of its parts do. -/
theorem bind_eq_ok_iff {E α β : Type} {x : Except E α} {f : α → Except E β} {b : β} :
    (x >>= f) = .ok b ↔ ∃ a, x = .ok a ∧ f a = .ok b := by
  cases x with
  | error e => simp [bind, Except.bind]
  | ok a => simp [bind, Except.bind]

end AsbCloudApi.Api
