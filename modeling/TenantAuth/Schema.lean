import TenantAuth.SignIn.View
import TenantAuth.Caller
import TenantAuth.EndUser
import TenantAuth.Stream.Event

/-!
The resources that travel as JSON, by name.

Each resource has one canonical form, in which it is written. Reading is more generous, so that
reading and writing again brings a value to its canonical form.
-/

namespace TenantAuth.Schema

/-- The canonical form of a value, if it is read. -/
def canonical {α : Type} (read : Json → Option α) (write : α → Json) (v : Json) : Option Json :=
  (read v).map write

/-- The canonical form of an identifier. -/
def identifier : Json → Option Json := canonical Uuid.ofJson? Uuid.toJson

/-- The canonical form of a text. -/
def text : Json → Option Json := canonical Json.string? Json.string

/-- The canonical form of each resource. -/
def resources : List (String × (Json → Option Json)) := [
  ("UserId", identifier),
  ("CredentialId", identifier),
  ("AuthenticatorId", identifier),
  ("OrganizationId", identifier),
  ("MembershipId", identifier),
  ("EmailAddress", text),
  ("PhoneNumber", text),
  ("PlatformRole", canonical PlatformRole.ofJson? PlatformRole.toJson),
  ("CallerRoles", canonical CallerRoles.ofJson? CallerRoles.toJson),
  ("CallerContext", canonical Caller.ofJson? Caller.toJson),
  ("MfaAuthenticatorType", canonical AuthenticatorKind.ofJson? AuthenticatorKind.toJson),
  ("OobChallenge", canonical Challenge.ofJson? Challenge.toJson),
  ("AuthenticatorMaterial", canonical Material.ofJson? Material.toJson),
  ("MfaAuthenticator", canonical Authenticator.ofJson? Authenticator.toJson),
  ("MfaOptions", canonical MfaOptions.ofJson? MfaOptions.toJson),
  ("RegistrationVerification", canonical Registration.ofJson? Registration.toJson),
  ("PersonCredentialRoot", canonical Credential.ofJson? Credential.toJson),
  ("PersonCredential", canonical CredentialView.ofJson? CredentialView.toJson),
  ("CredentialMfaAuthenticator", canonical AuthenticatorView.ofJson? AuthenticatorView.toJson),
  ("CredentialMfaAuthenticatorAssociation", canonical AssociationView.ofJson?
    AssociationView.toJson),
  ("CredentialMfaAuthenticatorConfirmation", canonical ConfirmationView.ofJson?
    ConfirmationView.toJson),
  ("CredentialMfaAuthenticatorChallenge", canonical ChallengeView.ofJson? ChallengeView.toJson),
  ("MachineCredential", canonical MachineView.ofJson? MachineView.toJson),
  ("EndUserClassification", canonical Classification.ofJson? Classification.toJson),
  ("EndUser", canonical EndUser.ofJson? EndUser.toJson),
  ("Membership", canonical Membership.ofJson? Membership.toJson),
  ("EndUserWithMemberships", canonical Member.ofJson? Member.toJson),
  ("UserProfile", canonical Profile.ofJson? Profile.toJson),
  ("ApiKey", canonical ApiKey.ofJson? ApiKey.toJson),
  ("AccessTokens", canonical AccessTokens.ofJson? AccessTokens.toJson),
  ("AuthToken", canonical AuthToken.ofJson? AuthToken.toJson),
  ("AuthenticateTokens", canonical SignInTokens.ofJson? SignInTokens.toJson),
  ("AuthenticationOutcome", canonical SignInOutcome.ofJson? SignInOutcome.toJson),
  ("EventStreamChangeEvent", canonical Event.ofJson? Event.toJson),
  ("PendingEvent", canonical PendingEvent.ofJson? PendingEvent.toJson)]

/-- The canonical form of a value as a resource of a name. -/
def canonical? (name : String) (v : Json) : Option Json := do (← resources.lookup name) v

end TenantAuth.Schema
