import TenantAuth.Json.Value

/-!
Why an operation is refused.

Each kind of refusal has a code and the status that a caller over the network sees. The wording is
made in one place, from the parts that the refusal carries.
-/

namespace TenantAuth

/-- A refusal. -/
inductive Fault
  | notAuthenticated (message : Option String)
  | entityNotFound (resource : String) (id : Option String)
  | forbiddenAccess (message : Option String)
  | preconditionViolation (message : String)
  | validation (field message : String)
  | unexpected (message : String)
  | deadlineOutOfRange
  | timeOutOfRange
  deriving DecidableEq

namespace Fault

/-- A detail behind a colon, if there is one. -/
def detail : Option String → String
  | none => ""
  | some m => ": " ++ m

/-- The wording of a refusal. -/
def message : Fault → String
  | .notAuthenticated m => "Not authenticated" ++ detail m
  | .entityNotFound resource id => resource ++ " not found" ++ detail id
  | .forbiddenAccess m => "Forbidden" ++ detail m
  | .preconditionViolation m => "Precondition violation: " ++ m
  | .validation field m => "Validation error on field '" ++ field ++ "': " ++ m
  | .unexpected m => "Unexpected error: " ++ m
  | .deadlineOutOfRange => "Unexpected error: a deadline lies beyond the last instant"
  | .timeOutOfRange => "Unexpected error: a time step begins beyond the last second"

/-- The code of a refusal. -/
def code : Fault → String
  | .notAuthenticated _ => "not_authenticated"
  | .entityNotFound _ _ => "entity_not_found"
  | .forbiddenAccess _ => "forbidden_access"
  | .preconditionViolation _ => "precondition_violation"
  | .validation _ _ => "validation"
  | .unexpected _ => "unexpected"
  | .deadlineOutOfRange => "unexpected"
  | .timeOutOfRange => "unexpected"

/-- The status of a refusal. -/
def status : Fault → Nat
  | .notAuthenticated _ => 401
  | .entityNotFound _ _ => 404
  | .forbiddenAccess _ => 403
  | .preconditionViolation _ => 409
  | .validation _ _ => 400
  | .unexpected _ => 500
  | .deadlineOutOfRange => 500
  | .timeOutOfRange => 500

/-- The field of a name, unless there is no value. -/
def present (name : String) : Option String → List (String × Json)
  | none => []
  | some s => [(name, .string s)]

/-- The parts that a refusal carries. -/
def parts : Fault → List (String × Json)
  | .notAuthenticated m => present "message" m
  | .entityNotFound resource id => ("resource", .string resource) :: present "id" id
  | .forbiddenAccess m => present "message" m
  | .preconditionViolation m => [("message", .string m)]
  | .validation field m => [("field", .string field), ("message", .string m)]
  | .unexpected m => [("message", .string m)]
  | .deadlineOutOfRange => []
  | .timeOutOfRange => []

/-- A refusal as JSON. -/
def toJson (f : Fault) : Json := Json.ofFields (("type", .string f.code) :: f.parts)

end Fault

end TenantAuth
