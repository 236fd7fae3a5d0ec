import TenantAuth.Credential.Authenticating

/-!
The operations on a credential as values, so that a course of them can be given as a list.
-/

namespace TenantAuth.Credential

/-- An operation with what it is given. -/
inductive Action
  | setPassword (password : String)
  | hasPassword (password : String)
  | setDetails (email : EmailAddress) (displayName : String)
  | initiateRegistration
  | verifyRegistration
  | changeMfa (caller : Caller) (isEnabled : Bool)
  | enforceMfa (caller : Caller)
  | resetMfa (caller : Caller)
  | initiateMfa
  | authorize (caller : MfaCaller)
  | viewAuthenticators (caller : MfaCaller)
  | associate (caller : MfaCaller) (kind : AuthenticatorKind) (phone : Option PhoneNumber)
      (email profileEmail : Option EmailAddress)
  | confirm (caller : MfaCaller) (kind : AuthenticatorKind) (oobCode : Option String)
      (typed : String)
  | challenge (caller : MfaCaller) (id : AuthenticatorId)
  | verify (caller : MfaCaller) (kind : AuthenticatorKind) (oobCode : Option String)
      (typed : String)
  | disassociate (caller : MfaCaller) (id : AuthenticatorId)
  deriving DecidableEq

/-- What an operation gives back. -/
inductive Answer
  | done
  | truth (b : Bool)
  | token (token : String)
  | authenticators (list : List Authenticator)
  | association (outcome : Association)
  | challenge (outcome : ChallengeOutcome)
  deriving DecidableEq

/-- Carry out an operation at an instant. -/
def perform (s : Services) (now : Instant) : Action → CredentialM Answer
  | .setPassword password => do
    setPassword s password
    return .done
  | .hasPassword password => return .truth (← hasPassword s password)
  | .setDetails email displayName => do
    setDetails email displayName
    return .done
  | .initiateRegistration => return .token (← initiateRegistration s)
  | .verifyRegistration => do
    verifyRegistration now
    return .done
  | .changeMfa caller isEnabled => do
    changeMfa caller isEnabled
    return .done
  | .enforceMfa caller => do
    enforceMfa caller
    return .done
  | .resetMfa caller => do
    resetMfa caller
    return .done
  | .initiateMfa => return .token (← initiateMfa s now)
  | .authorize caller => do
    authorize caller now
    return .done
  | .viewAuthenticators caller => return .authenticators (← viewAuthenticators caller now)
  | .associate caller kind phone email profileEmail =>
    return .association (← associate s now caller kind phone email profileEmail)
  | .confirm caller kind oobCode typed => do
    confirm s now caller kind oobCode typed
    return .done
  | .challenge caller id => return .challenge (← challenge s now caller id)
  | .verify caller kind oobCode typed => do
    verify s now caller kind oobCode typed
    return .done
  | .disassociate caller id => do
    disassociate now caller id
    return .done

/-- Carry out an operation on a desk: its answer, and the desk afterwards, whether or not it was
refused. -/
def run (s : Services) (now : Instant) (action : Action) (desk : Desk) :
    Except Fault Answer × Desk :=
  (perform s now action).run.run desk

end TenantAuth.Credential
