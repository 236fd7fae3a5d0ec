import TenantAuth.SignIn.World

/-!
Collaborators in memory: a list of credentials, and counts of what was issued.

A credential is found by its user, by the token that is bound to it, or by exactly the address it
signs in with. Storing one puts it in the place of the one with its identifier. What is known of
users is given from outside, and so is who refuses to answer.
-/

namespace TenantAuth.SignIn

/-- Those who may refuse to answer. -/
inductive Party
  | find
  | save
  | users
  | memberships
  | profiles
  | sms
  | email
  | tokens
  | register
  | apiKeys
  deriving DecidableEq

/-- The name of a party. -/
def Party.name : Party → String
  | .find => "find"
  | .save => "save"
  | .users => "users"
  | .memberships => "memberships"
  | .profiles => "profiles"
  | .sms => "sms"
  | .email => "email"
  | .tokens => "tokens"
  | .register => "register"
  | .apiKeys => "api_keys"

/-- The party that takes a message to a contact. -/
def Party.ofContact : Contact → Party
  | .sms _ => .sms
  | .email _ => .email

/-- What is known from outside: which users there are, their addresses, the next machine, when
tokens expire, and who refuses to answer. -/
structure Surroundings where
  classification : UserId → Option Classification
  emailAddress : UserId → Option String
  machine : UserId
  accessExpiresOn : Instant
  refreshExpiresOn : Instant
  isUnavailable : Party → Bool

/-- Collaborators in memory. -/
structure Directory where
  credentials : List Credential
  issued : Nat
  keys : Nat

namespace Directory

/-- Nothing was stored or issued. -/
def empty : Directory := ⟨[], 0, 0⟩

/-- Add a credential. -/
def add (credential : Credential) (d : Directory) : Directory :=
  { d with credentials := d.credentials ++ [credential] }

/-- Store a credential in the place of the one with its identifier. -/
def store (credential : Credential) (d : Directory) : Directory :=
  add credential { d with credentials := d.credentials.filter fun other => other.id ≠
    credential.id }

/-- The first credential that satisfies a condition. -/
def find (condition : Credential → Bool) (d : Directory) :
    Except Fault (Option Credential) × Directory :=
  (.ok (d.credentials.find? condition), d)

end Directory

namespace Surroundings

variable {α : Type} (s : Surroundings)

/-- The answer of a party, unless it refuses. -/
def answer (party : Party) (reply : Directory → Except Fault α × Directory) (d : Directory) :
    Except Fault α × Directory :=
  if s.isUnavailable party then (.error (.unexpected s!"{party.name} unavailable"), d) else reply d

/-- What is known of a user, in some form. -/
def known (user : UserId) (form : Classification → α) (d : Directory) :
    Except Fault α × Directory :=
  match s.classification user with
  | some classification => (.ok (form classification), d)
  | none => (.error (.entityNotFound "EndUser" (some user.uuid.text)), d)

/-- The only membership of a user, in an organization of their own. -/
def membership (user : UserId) : Membership := ⟨⟨user.uuid⟩, ⟨user.uuid⟩, user, true⟩

/-- The collaborators in memory. -/
def collaborators : Collaborators Directory where
  findByUser user := s.answer .find (Directory.find fun c => c.userId = user)
  findByToken token := s.answer .find (Directory.find fun c => c.mfa.isBoundTo token)
  findByUsername username :=
    s.answer .find (Directory.find fun c => c.username.any fun e => e.text = username)
  save credential := s.answer .save fun d => (.ok credential, d.store credential)
  getUser _ user := s.answer .users (s.known user fun c => ⟨user, c⟩)
  getMember _ user := s.answer .memberships (s.known user fun c => ⟨user, c, [membership user]⟩)
  getProfile _ user := s.answer .profiles fun d => (.ok ⟨user, "", s.emailAddress user, none⟩, d)
  notify _ message := s.answer (.ofContact message.contact) fun d => (.ok (), d)
  issueTokens _ _ := s.answer .tokens fun d =>
    let n := d.issued + 1
    (.ok ⟨s!"access{n}", s.accessExpiresOn, s!"refresh{n}", s.refreshExpiresOn⟩,
      { d with issued := n })
  registerMachine _ _ _ _ := s.answer .register fun d => (.ok ⟨s.machine, .machine⟩, d)
  createApiKey _ user description expiresOn := s.answer .apiKeys fun d =>
    let n := d.keys + 1
    (.ok ⟨s!"apikey{n}", user, description ++ " (key)", expiresOn⟩, { d with keys := n })

end Surroundings

end TenantAuth.SignIn
