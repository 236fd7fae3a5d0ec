import TenantAuth.Codec.Base32
import TenantAuth.Codec.Percent
import TenantAuth.Hash.Hmac
import TenantAuth.Hash.Sha1
import TenantAuth.Text.Blank
import TenantAuth.Text.Numeral
import TenantAuth.Text.Quoted

/-!
One-time passwords that depend on the time.

Time is counted in steps of thirty seconds since 1970. The code of a step is six digits taken from
the authentication code of its number under a shared secret. A code is accepted for the current
step, the one before it and the one after it, unless that step was used before.
-/

namespace TenantAuth.Totp

/-- Why there is no code for a secret or a step, or no address for an account. -/
inductive Fault
  | invalidSecret
  | shortSecret (bits : Nat)
  | colonInIssuer (issuer : String)
  | colonInAccount (account : String)
  | refused (reason : String)
  | timeOutOfRange
  deriving DecidableEq

/-- A refusal to set up codes. -/
def refusal (reason : String) : String := "TOTP creation failed: " ++ reason

/-- The wording of a fault. -/
def Fault.message : Fault → String
  | .invalidSecret => "OTP secret is not valid base32"
  | .shortSecret bits =>
    refusal s!"The length of the shared secret MUST be at least 128 bits. {bits} bits is not enough"
  | .colonInIssuer issuer =>
    refusal s!"Issuer can't contain a colon. \"{issuer}\" contains a colon"
  | .colonInAccount account =>
    refusal s!"Account Name can't contain a colon. \"{account}\" contains a colon"
  | .refused reason => refusal reason
  | .timeOutOfRange => "a time step begins beyond the last second"

/-- The code of a fault. -/
def Fault.code : Fault → String
  | .invalidSecret => "invalid_secret"
  | _ => "totp"

/-- The number of digits of a code. -/
def digits : Nat := 6

/-- The seconds of a step. -/
def stepSeconds : Nat := 30

/-- The least number of bytes of a secret. -/
def leastSecretSize : Nat := 16

/-- The number of random bytes in a new secret. -/
def secretSize : Nat := 20

/-- The bytes of a secret that is written in base 32. -/
def secretBytes (secret : String) : Except Fault (List UInt8) :=
  match Codec.Base32.decode secret with
  | none => .error .invalidSecret
  | some bytes =>
    if bytes.length < leastSecretSize then .error (.shortSecret (8 * bytes.length)) else .ok bytes

/-! ### Codes -/

/-- The eight bytes of a counter, most significant first. -/
def counterBytes (counter : Nat) : List UInt8 :=
  (List.range 8).map fun i => UInt8.ofNat (counter / Nat.pow 256 (7 - i))

/-- The number that four bytes of an authentication code give, at the place that its last byte
names. -/
def truncated (mac : List UInt8) : Nat :=
  let offset := (mac.getLastD 0).toNat % 16
  (((mac.drop offset).take 4).foldl (fun n b => n * 256 + b.toNat) 0) % Nat.pow 2 31

/-- A number as a code. -/
def codeText (n : Nat) : String :=
  let numeral := Text.numeral (n % Nat.pow 10 digits)
  String.ofList (List.replicate (digits - numeral.length) '0' ++ numeral)

/-- The code at a time in seconds. -/
def codeAt (secret : List UInt8) (time : Nat) : String :=
  codeText (truncated (Hash.hmac Hash.Sha1.digest 64 secret (counterBytes (time / stepSeconds))))

/-- The first second of a step, if it is a time. Times have 64 bits. -/
def stepStart (step : Nat) : Except Fault Nat :=
  if step * stepSeconds < Nat.pow 2 64 then .ok (step * stepSeconds) else .error .timeOutOfRange

/-! ### Checking -/

/-- The outcome of checking a code. -/
inductive Verdict
  | valid (step : Nat)
  | invalid
  deriving DecidableEq

/-- The step of a time. -/
def stepOf (time : Nat) : Nat := time / stepSeconds

/-- The steps whose codes are accepted, in the order in which they are tried. -/
def window (time : Nat) : List Nat :=
  let current := stepOf time
  current :: (if 0 < current then [current - 1] else []) ++ [current + 1]

/-- Check what a person typed against the codes of steps, one after the other. The first step with
that code decides, and counts unless it was used recently. A step is only looked at if none before
it decided. -/
def check (codeAt : (time : Nat) → String) (recent : List Nat) (typed : String) :
    (steps : List Nat) → Except Fault Verdict
  | [] => return .invalid
  | step :: rest => do
    let start ← stepStart step
    if codeAt start = Text.trimmed typed then
      return if recent.contains step then .invalid else .valid step
    else check codeAt recent typed rest

/-- Check what a person typed against a secret. -/
def verify (secret : String) (recent : List Nat) (typed : String) (time : Nat) :
    Except Fault Verdict := do
  check (codeAt (← secretBytes secret)) recent typed (window time)

/-! ### Setting up -/

/-- The address by which an app takes over a secret. -/
def address (issuer secret account : String) : Except Fault String := do
  let bytes ← secretBytes secret
  if issuer.contains ':' then throw (.colonInIssuer issuer)
  if account.contains ':' then throw (.colonInAccount account)
  let issuer := Codec.Percent.encode issuer
  let account := Codec.Percent.encode account
  let secret := String.ofList (Codec.Base32.encodeUnpadded bytes)
  return s!"otpauth://totp/{issuer}:{account}?secret={secret}&issuer={issuer}"

/-- The secret of random bytes. -/
def secretOfBytes (bytes : List UInt8) : String := Codec.Base32.encode bytes

end TenantAuth.Totp
