import TenantAuth.SignIn.View
import TenantAuth.SignIn.World

/-!
How machines are registered. A machine signs in with a key, which it gets along with its
registration.
-/

namespace TenantAuth.SignIn

variable {ω : Type}

/-- Register a machine and create its first key. -/
def registerMachine (k : Collaborators ω) (caller : Caller) (name : String)
    (timezone country : Option String) (expiresOn : Option Instant) : SignInM ω MachineView := do
  let machine ← ask (.registerMachine caller.userId name timezone country)
    (k.registerMachine caller name timezone country)
  let key ← ask (.createApiKey caller.userId machine.id name expiresOn)
    (k.createApiKey caller machine.id name expiresOn)
  return ⟨machine.id, key.key, caller.userId, key.description, key.expiresOn⟩

end TenantAuth.SignIn
