import TenantAuth.Credential.Authenticating
import TenantAuth.SignIn.View
import TenantAuth.SignIn.World

/-!
How persons sign in and look after their second factors.

Whoever has signed in acts on their own credential; whoever is in the middle of a sign-in acts on
the credential that its token is bound to. Each operation loads the credential, changes it, stores
it, and only then sends messages or has tokens issued.
-/

namespace TenantAuth.SignIn

variable {ω : Type} (s : Services) (k : Collaborators ω) (now : Instant) (caller : Caller)

/-- Refuse an end user that is not a person. -/
def ensurePerson (user : UserId) : SignInM ω Unit := do
  let endUser ← ask (.getUser user) (k.getUser caller user)
  ensure endUser.isPerson (.preconditionViolation "Only a person can have password credentials")

/-- The credential of a user. -/
def findByUser (user : UserId) : SignInM ω Credential := do
  demand (← ask (.findByUser user) (k.findByUser user)) (.entityNotFound "PersonCredential" none)

/-- The credential that a token is bound to, and the holder of the token. -/
def findByToken (token : Option String) : SignInM ω (Credential × MfaCaller) := do
  let token ← demand (token.filter fun t => !t.isEmpty) (.notAuthenticated none)
  let credential ← demand (← ask (.findByToken token) (k.findByToken token))
    (.notAuthenticated none)
  return (credential, .anonymous credential.userId token)

/-- The credential that a caller may act on. -/
def resolve (token : Option String) : SignInM ω (Credential × MfaCaller) :=
  match caller.userId with
  | some user => return (← findByUser k user, .authenticated user)
  | none => findByToken k token

/-- Store a credential. -/
def save (credential : Credential) : SignInM ω Credential :=
    ask (.save credential) (k.save credential)

/-- Have tokens issued for a user. -/
def issueTokens (user : UserId) : SignInM ω SignInTokens := do
  let member ← ask (.getMember user) (k.getMember caller user)
  let tokens ← ask (.issueTokens member) (k.issueTokens caller member)
  return tokens.ofUser user

/-- Send messages, one after the other. -/
def send : List Notification → SignInM ω Unit
  | [] => return ()
  | message :: rest => do
    ask (.notify message) (k.notify caller message)
    send rest

/-- The identifier of a caller that has signed in. -/
def signedIn : SignInM ω UserId := demand caller.userId (.notAuthenticated none)

/-- Sign in with a password. If the second factor is asked for, the sign-in waits for it. -/
def authenticate (username password : String) : SignInM ω SignInOutcome := do
  let credential ← demand (← ask (.findByUsername username) (k.findByUsername username))
    (.notAuthenticated none)
  let user := credential.userId
  ensurePerson k caller user
  let (isRight, _) ← work credential (Credential.hasPassword s password)
  ensure isRight (.notAuthenticated none)
  ensure credential.isVerified (.preconditionViolation "Registration is not verified")
  if credential.mfa.isEnabled then do
    let (token, credential) ← work credential (Credential.initiateMfa s now)
    let _ ← save k credential
    return .mfaRequired token
  else return .authenticated (← issueTokens k caller user)

/-- Ask for the second factor in one's own sign-ins, or no longer. -/
def changeMfa (isEnabled : Bool) : SignInM ω CredentialView := do
  let user ← signedIn caller
  let credential ← findByUser k user
  ensurePerson k caller user
  let (_, credential) ← work credential (Credential.changeMfa caller isEnabled)
  return (← save k credential).view

/-- Forget all about the second factor of a user, as an operator. -/
def resetMfa (user : UserId) : SignInM ω CredentialView := do
  let credential ← findByUser k user
  ensurePerson k caller user
  let (_, credential) ← work credential (Credential.resetMfa caller)
  return (← save k credential).view

/-- The authenticators of a credential. -/
def listAuthenticators (token : Option String) : SignInM ω (List AuthenticatorView) := do
  let (credential, mfaCaller) ← resolve k caller token
  let (authenticators, _) ← work credential (Credential.viewAuthenticators mfaCaller now)
  return authenticators.map Authenticator.view

/-- Add an authenticator, and send the secret of one that is reached out-of-band. -/
def associate (token : Option String) (kind : AuthenticatorKind) (phone : Option String) :
    SignInM ω AssociationView := do
  let (credential, mfaCaller) ← resolve k caller token
  let user := credential.userId
  ensurePerson k caller user
  let profile ← ask (.getProfile user) (k.getProfile caller user)
  let profileEmail := profile.emailAddress.bind fun text => (EmailAddress.parse text).toOption
  let phone ← liftExcept (phone.mapM PhoneNumber.parse)
  let (association, credential) ←
    work credential (Credential.associate s now mfaCaller kind phone none profileEmail)
  let _ ← save k credential
  send k caller association.notifications
  return ⟨kind, association.recoveryCodes, association.authenticator.oobCode?,
    association.authenticator.barcodeUri?, association.secret⟩

/-- Confirm an authenticator; in the middle of a sign-in, this ends it. -/
def confirm (token : Option String) (kind : AuthenticatorKind) (oobCode : Option String)
    (typed : String) :
    SignInM ω ConfirmationView := do
  let (credential, mfaCaller) ← resolve k caller token
  let user := credential.userId
  ensurePerson k caller user
  let (_, credential) ← work credential (Credential.confirm s now mfaCaller kind oobCode typed)
  let saved ← save k credential
  if mfaCaller.isAnonymous then return ⟨some (← issueTokens k caller user), none⟩
  else return ⟨none, some (saved.authenticators.map Authenticator.view)⟩

/-- Challenge an authenticator, and send the secret of one that is reached out-of-band. -/
def challenge (token : Option String) (id : AuthenticatorId) : SignInM ω ChallengeView := do
  let (credential, mfaCaller) ← resolve k caller token
  ensurePerson k caller credential.userId
  let (outcome, credential) ← work credential (Credential.challenge s now mfaCaller id)
  let _ ← save k credential
  send k caller outcome.notifications
  return ⟨outcome.kind, outcome.oobCode⟩

/-- End a sign-in by the second factor. -/
def verify (token : Option String) (kind : AuthenticatorKind) (oobCode : Option String)
    (typed : String) :
    SignInM ω SignInTokens := do
  ensure (!caller.isAuthenticated)
    (.forbiddenAccess (some "MFA verification is only for callers signing in"))
  let (credential, mfaCaller) ← findByToken k token
  let user := credential.userId
  ensurePerson k caller user
  let (_, credential) ← work credential (Credential.verify s now mfaCaller kind oobCode typed)
  let _ ← save k credential
  issueTokens k caller user

/-- Remove one of one's own authenticators. -/
def disassociate (id : AuthenticatorId) : SignInM ω Unit := do
  let user ← signedIn caller
  let credential ← findByUser k user
  ensurePerson k caller user
  let (_, credential) ← work credential (Credential.disassociate now (.authenticated user) id)
  let _ ← save k credential

end TenantAuth.SignIn
