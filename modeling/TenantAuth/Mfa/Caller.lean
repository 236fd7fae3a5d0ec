import TenantAuth.Identifier

/-!
Who acts on the authenticators of a credential: the user whose it is, known by having signed in, or
someone in the middle of signing in, known by the token of that sign-in.
-/

namespace TenantAuth

/-- Someone who acts on authenticators. -/
structure MfaCaller where
  userId : UserId
  token : Option String
  deriving DecidableEq

namespace MfaCaller

/-- A caller that has signed in. -/
def authenticated (user : UserId) : MfaCaller := ⟨user, none⟩

/-- A caller in the middle of signing in. -/
def anonymous (user : UserId) (token : String) : MfaCaller := ⟨user, some token⟩

/-- Whether a caller is in the middle of signing in. -/
def isAnonymous (c : MfaCaller) : Bool := c.token.isSome

end MfaCaller

end TenantAuth
