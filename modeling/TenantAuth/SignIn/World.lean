import TenantAuth.Caller
import TenantAuth.Credential.Registering
import TenantAuth.EndUser
import TenantAuth.Mfa.Notification
import TenantAuth.SignIn.Tokens

/-!
The others that a sign-in depends on, and the record that is kept of asking them.

Credentials are stored, users and profiles known, messages sent and tokens issued by others. What
they know and how they answer is left open: a state of theirs, and an answer that depends on it.
Every question is entered into a journal together with the refusal that it met, in the order of
asking.
-/

namespace TenantAuth.SignIn

/-- The others, with a state of type `ω`. A refused question may change the state as well. -/
structure Collaborators (ω : Type) where
  findByUser : (user : UserId) → ω → Except Fault (Option Credential) × ω
  findByToken : (token : String) → ω → Except Fault (Option Credential) × ω
  findByUsername : (username : String) → ω → Except Fault (Option Credential) × ω
  save : (credential : Credential) → ω → Except Fault Credential × ω
  getUser : (caller : Caller) → (user : UserId) → ω → Except Fault EndUser × ω
  getMember : (caller : Caller) → (user : UserId) → ω → Except Fault Member × ω
  getProfile : (caller : Caller) → (user : UserId) → ω → Except Fault Profile × ω
  notify : (caller : Caller) → (message : Notification) → ω → Except Fault Unit × ω
  issueTokens : (caller : Caller) → (member : Member) → ω → Except Fault AccessTokens × ω
  registerMachine : (caller : Caller) → (name : String) → (timezone country : Option String) → ω →
    Except Fault EndUser × ω
  createApiKey : (caller : Caller) → (user : UserId) → (description : String) →
    (expiresOn : Option Instant) → ω → Except Fault ApiKey × ω

/-- A question to one of the others. -/
inductive Question
  | findByUser (user : UserId)
  | findByToken (token : String)
  | findByUsername (username : String)
  | save (credential : Credential)
  | getUser (user : UserId)
  | getMember (user : UserId)
  | getProfile (user : UserId)
  | notify (message : Notification)
  | issueTokens (member : Member)
  | registerMachine (caller : Option UserId) (name : String) (timezone country : Option String)
  | createApiKey (caller : Option UserId) (user : UserId) (description : String)
      (expiresOn : Option Instant)
  deriving DecidableEq

/-- A question that was asked, with the refusal that it met, if any. -/
structure Exchange where
  question : Question
  refusal : Option Fault
  deriving DecidableEq

/-- All that a sign-in depends on: the state of the others, the draws made, and the journal. -/
structure World (ω : Type) where
  outside : ω
  draws : Draws
  journal : List Exchange

/-- Steps of a sign-in, which may be refused. -/
abbrev SignInM (ω : Type) := ExceptT Fault (StateM (World ω))

variable {ω α : Type}

/-- The refusal in an answer. -/
def refusal? : Except Fault α → Option Fault
  | .ok _ => none
  | .error fault => some fault

/-- Ask one of the others. A refusal is passed on as it is. -/
def ask (question : Question) (answer : ω → Except Fault α × ω) : SignInM ω α := fun world =>
  let (reply, outside) := answer world.outside
  (reply, { world with outside, journal := world.journal ++ [⟨question, refusal? reply⟩] })

/-- Carry out an operation on a credential that was loaded, and give the credential as it is
afterwards. -/
def work (credential : Credential) (operation : CredentialM α) : SignInM ω (α × Credential) :=
    fun world =>
  let (reply, desk) := operation.run.run ⟨credential, world.draws⟩
  (reply.map fun a => (a, desk.credential), { world with draws := desk.draws })

end TenantAuth.SignIn
