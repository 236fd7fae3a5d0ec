import TenantAuth.Identifier
import TenantAuth.Time.Rfc3339

/-!
End users as others know them: persons and machines, the organizations that they belong to, their
profiles, and the keys of machines.
-/

namespace TenantAuth

/-- What an end user is. -/
inductive Classification
  | person
  | machine
  deriving DecidableEq

/-- The name of a classification. -/
def Classification.name : Classification → String
  | .person => "person"
  | .machine => "machine"

/-- The classification of a name. -/
def Classification.ofName? : String → Option Classification
  | "person" => some .person
  | "machine" => some .machine
  | _ => none

/-- An end user. -/
structure EndUser where
  id : UserId
  classification : Classification
  deriving DecidableEq

/-- Whether an end user is a person. -/
def EndUser.isPerson (u : EndUser) : Bool := u.classification = .person

/-- That an end user belongs to an organization. -/
structure Membership where
  id : MembershipId
  organizationId : OrganizationId
  userId : UserId
  isDefault : Bool
  deriving DecidableEq

/-- An end user with the organizations that tokens are issued for. -/
structure Member where
  id : UserId
  classification : Classification
  memberships : List Membership
  deriving DecidableEq

/-- What an end user tells about themselves. -/
structure Profile where
  userId : UserId
  displayName : String
  emailAddress : Option String
  phoneNumber : Option String
  deriving DecidableEq

/-- A key that a machine signs in with. -/
structure ApiKey where
  key : String
  userId : UserId
  description : String
  expiresOn : Option Instant
  deriving DecidableEq

/-! ### As JSON -/

/-- A classification as JSON. -/
def Classification.toJson (c : Classification) : Json := .string c.name

/-- A classification from JSON. -/
def Classification.ofJson? (v : Json) : Option Classification := (Json.name? v).bind ofName?

/-- An end user as JSON. -/
def EndUser.toJson (u : EndUser) : Json :=
  Json.ofFields [("id", u.id.uuid.toJson), ("classification", u.classification.toJson)]

/-- An end user from JSON. -/
def EndUser.ofJson? (v : Json) : Option EndUser := do
  let fields ← Json.record? ["id", "classification"] v
  let id ← Json.required? Uuid.ofJson? "id" fields
  let classification ← Json.required? Classification.ofJson? "classification" fields
  return ⟨⟨id⟩, classification⟩

/-- A membership as JSON. -/
def Membership.toJson (m : Membership) : Json :=
  Json.ofFields [("id", m.id.uuid.toJson), ("organization_id", m.organizationId.uuid.toJson),
    ("user_id", m.userId.uuid.toJson), ("is_default", .bool m.isDefault)]

/-- A membership from JSON. -/
def Membership.ofJson? (v : Json) : Option Membership := do
  let fields ← Json.record? ["id", "organization_id", "user_id", "is_default"] v
  let id ← Json.required? Uuid.ofJson? "id" fields
  let organizationId ← Json.required? Uuid.ofJson? "organization_id" fields
  let userId ← Json.required? Uuid.ofJson? "user_id" fields
  let isDefault ← Json.required? Json.bool? "is_default" fields
  return ⟨⟨id⟩, ⟨organizationId⟩, ⟨userId⟩, isDefault⟩

/-- A member as JSON. -/
def Member.toJson (m : Member) : Json :=
  Json.ofFields [("id", m.id.uuid.toJson), ("classification", m.classification.toJson),
    ("memberships", Json.ofList Membership.toJson m.memberships)]

/-- A member from JSON. -/
def Member.ofJson? (v : Json) : Option Member := do
  let fields ← Json.record? ["id", "classification", "memberships"] v
  let id ← Json.required? Uuid.ofJson? "id" fields
  let classification ← Json.required? Classification.ofJson? "classification" fields
  let memberships ← Json.required? (Json.list? Membership.ofJson?) "memberships" fields
  return ⟨⟨id⟩, classification, memberships⟩

/-- A profile as JSON. -/
def Profile.toJson (p : Profile) : Json :=
  Json.ofFields [("user_id", p.userId.uuid.toJson), ("display_name", .string p.displayName),
    ("email_address", Json.ofOption Json.string p.emailAddress),
    ("phone_number", Json.ofOption Json.string p.phoneNumber)]

/-- A profile from JSON. -/
def Profile.ofJson? (v : Json) : Option Profile := do
  let fields ← Json.record? ["user_id", "display_name", "email_address", "phone_number"] v
  let userId ← Json.required? Uuid.ofJson? "user_id" fields
  let displayName ← Json.required? Json.string? "display_name" fields
  let emailAddress ← Json.optional? Json.string? "email_address" fields
  let phoneNumber ← Json.optional? Json.string? "phone_number" fields
  return ⟨⟨userId⟩, displayName, emailAddress, phoneNumber⟩

/-- A key as JSON. -/
def ApiKey.toJson (k : ApiKey) : Json :=
  Json.ofFields [("key", .string k.key), ("user_id", k.userId.uuid.toJson),
    ("description", .string k.description),
    ("expires_on", Json.ofOption Instant.toJson k.expiresOn)]

/-- A key from JSON. -/
def ApiKey.ofJson? (v : Json) : Option ApiKey := do
  let fields ← Json.record? ["key", "user_id", "description", "expires_on"] v
  let key ← Json.required? Json.string? "key" fields
  let userId ← Json.required? Uuid.ofJson? "user_id" fields
  let description ← Json.required? Json.string? "description" fields
  let expiresOn ← Json.optional? Instant.ofJson? "expires_on" fields
  return ⟨key, ⟨userId⟩, description, expiresOn⟩

end TenantAuth
