import TenantAuth.SignIn.Machine
import TenantAuth.SignIn.Person

/-!
The operations of signing in as values, so that a course of them can be given as a list.
-/

namespace TenantAuth.SignIn

/-- An operation with what it is given, apart from who makes it and when. -/
inductive Request
  | authenticate (username password : String)
  | changeMfa (isEnabled : Bool)
  | resetMfa (user : UserId)
  | list (token : Option String)
  | associate (token : Option String) (kind : AuthenticatorKind) (phone : Option String)
  | confirm (token : Option String) (kind : AuthenticatorKind) (oobCode : Option String)
      (typed : String)
  | challenge (token : Option String) (id : AuthenticatorId)
  | verify (token : Option String) (kind : AuthenticatorKind) (oobCode : Option String)
      (typed : String)
  | disassociate (id : AuthenticatorId)
  | registerMachine (name : String) (timezone country : Option String) (expiresOn : Option Instant)
  deriving DecidableEq

/-- What an operation gives back. -/
inductive Reply
  | outcome (outcome : SignInOutcome)
  | credential (view : CredentialView)
  | authenticators (views : List AuthenticatorView)
  | association (view : AssociationView)
  | confirmation (view : ConfirmationView)
  | challenge (view : ChallengeView)
  | tokens (tokens : SignInTokens)
  | machine (view : MachineView)
  | done
  deriving DecidableEq

/-- A reply as JSON. -/
def Reply.toJson : Reply → Json
  | .outcome o => o.toJson
  | .credential view => view.toJson
  | .authenticators views => Json.ofList AuthenticatorView.toJson views
  | .association view => view.toJson
  | .confirmation view => view.toJson
  | .challenge view => view.toJson
  | .tokens t => t.toJson
  | .machine view => view.toJson
  | .done => .null

variable {ω : Type}

/-- Handle a request that a caller makes at an instant. -/
def handle (s : Services) (k : Collaborators ω) (now : Instant) (caller : Caller) :
    Request → SignInM ω Reply
  | .authenticate username password =>
    return .outcome (← authenticate s k now caller username password)
  | .changeMfa isEnabled => return .credential (← changeMfa k caller isEnabled)
  | .resetMfa user => return .credential (← resetMfa k caller user)
  | .list token => return .authenticators (← listAuthenticators k now caller token)
  | .associate token kind phone => return .association (← associate s k now caller token kind phone)
  | .confirm token kind oobCode typed =>
    return .confirmation (← confirm s k now caller token kind oobCode typed)
  | .challenge token id => return .challenge (← challenge s k now caller token id)
  | .verify token kind oobCode typed =>
    return .tokens (← verify s k now caller token kind oobCode typed)
  | .disassociate id => do
    disassociate k now caller id
    return .done
  | .registerMachine name timezone country expiresOn =>
    return .machine (← registerMachine k caller name timezone country expiresOn)

/-- Handle a request in a world: the reply, and the world afterwards. -/
def run (s : Services) (k : Collaborators ω) (now : Instant) (caller : Caller) (request : Request)
    (world : World ω) : Except Fault Reply × World ω :=
  (handle s k now caller request).run.run world

end TenantAuth.SignIn
