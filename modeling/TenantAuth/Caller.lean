import TenantAuth.Identifier

/-!
Who makes a call.

A caller that has not signed in has no identifier and no roles. Operators, who may administer any
account, hold a role of the platform as opposed to one within an organization.
-/

namespace TenantAuth

/-- Roles at the level of the platform. -/
inductive PlatformRole
  | standard
  | operations
  deriving DecidableEq

/-- The name of a role. -/
def PlatformRole.name : PlatformRole → String
  | .standard => "standard"
  | .operations => "operations"

/-- The role of a name. -/
def PlatformRole.ofName? : String → Option PlatformRole
  | "standard" => some .standard
  | "operations" => some .operations
  | _ => none

/-- The roles that a caller holds. -/
structure CallerRoles where
  platform : List PlatformRole
  organization : List String
  deriving DecidableEq

/-- A caller. -/
structure Caller where
  callId : String
  userId : Option UserId
  roles : CallerRoles
  deriving DecidableEq

namespace Caller

/-- A caller that has not signed in. -/
def anonymous (callId : String) : Caller := ⟨callId, none, ⟨[], []⟩⟩

/-- A caller that has signed in, with the standard role. -/
def authenticated (callId : String) (user : UserId) : Caller :=
    ⟨callId, some user, ⟨[.standard], []⟩⟩

/-- Whether a caller has signed in. -/
def isAuthenticated (c : Caller) : Bool := c.userId.isSome

/-- Whether a caller holds a role of the platform. -/
def hasRole (c : Caller) (role : PlatformRole) : Bool := c.roles.platform.contains role

/-- Whether a caller may administer any account. -/
def isOperator (c : Caller) : Bool := c.hasRole .operations

end Caller

/-! ### As JSON -/

/-- A role as JSON. -/
def PlatformRole.toJson (r : PlatformRole) : Json := .string r.name

/-- A role from JSON. -/
def PlatformRole.ofJson? (v : Json) : Option PlatformRole := (Json.name? v).bind ofName?

/-- Roles as JSON. -/
def CallerRoles.toJson (r : CallerRoles) : Json :=
  Json.ofFields [("platform", Json.ofList PlatformRole.toJson r.platform),
    ("organization", Json.ofList Json.string r.organization)]

/-- Roles from JSON. -/
def CallerRoles.ofJson? (v : Json) : Option CallerRoles := do
  let fields ← Json.record? ["platform", "organization"] v
  let platform ← Json.required? (Json.list? PlatformRole.ofJson?) "platform" fields
  let organization ← Json.required? (Json.list? Json.string?) "organization" fields
  return ⟨platform, organization⟩

/-- A caller as JSON. -/
def Caller.toJson (c : Caller) : Json :=
  Json.ofFields [("call_id", .string c.callId),
    ("caller_id", Json.ofOption (fun (id : UserId) => id.uuid.toJson) c.userId),
    ("roles", c.roles.toJson)]

/-- A caller from JSON. -/
def Caller.ofJson? (v : Json) : Option Caller := do
  let fields ← Json.record? ["call_id", "caller_id", "roles"] v
  let callId ← Json.required? Json.string? "call_id" fields
  let userId ← Json.optional? Uuid.ofJson? "caller_id" fields
  let roles ← Json.required? CallerRoles.ofJson? "roles" fields
  return ⟨callId, userId.map UserId.mk, roles⟩

end TenantAuth
