import TenantAuth.Hash.Argon2
import TenantAuth.Password.Phc

/-!
Hashing passwords, and checking them against stored hashes.

A new hash is of the hybrid variant in its newer version, thirty-two bytes long. A stored hash is
checked with whatever it names itself, so that hashes of other costs stay usable; one that names
something that cannot be computed matches no password.
-/

namespace TenantAuth.Password

open Hash.Argon2 (Cost Job Variant Version)

/-- Why a cost is refused. -/
inductive CostFault
  | memoryTooSmall
  | timeTooSmall
  | tooFewThreads
  | tooManyThreads
  deriving DecidableEq

/-- The wording of a fault. -/
def CostFault.message : CostFault → String
  | .memoryTooSmall => "memory cost is too small"
  | .timeTooSmall => "time cost is too small"
  | .tooFewThreads => "not enough threads"
  | .tooManyThreads => "too many threads"

/-- Why passwords cannot be hashed or checked. -/
inductive Fault
  | hashingFailed (reason : String)
  | invalidParameters (reason : CostFault)
  | malformedHash
  deriving DecidableEq

/-- The wording of a fault. -/
def Fault.message : Fault → String
  | .hashingFailed reason => s!"Password hashing failed: {reason}"
  | .invalidParameters reason => s!"Invalid Argon2 parameters: {reason.message}"
  | .malformedHash => "Stored password hash is malformed"

/-- The code of a fault. -/
def Fault.code : Fault → String
  | .hashingFailed _ => "hashing_failed"
  | .invalidParameters _ => "invalid_params"
  | .malformedHash => "invalid_hash_format"

/-- The first reason to refuse a cost. -/
def costFault? (c : Cost) : Option CostFault :=
  if c.memory < 8 ∨ c.memory < 8 * c.lanes then some .memoryTooSmall
  else if c.passes < 1 then some .timeTooSmall
  else if c.lanes < 1 then some .tooFewThreads
  else if Nat.pow 2 24 ≤ c.lanes then some .tooManyThreads
  else none

/-- What hashing costs when nothing else is asked for. -/
def defaultCost : Cost := ⟨19456, 2, 1⟩

/-- Hashing at a cost. -/
structure Hasher where
  cost : Cost

/-- A hasher, when its cost is possible. -/
def Hasher.ofCost (cost : Cost) : Except Fault Hasher :=
  match costFault? cost with
  | none => .ok ⟨cost⟩
  | some fault => .error (.invalidParameters fault)

/-- The length of a salt in bytes. -/
def saltLength : Nat := 16

/-- The hash of a password, as it is stored. -/
def Hasher.hash (h : Hasher) (salt : List UInt8) (password : String) : String :=
  let output := Job.run
    ⟨.hybrid, .v19, h.cost, Text.utf8 password, salt, [], 32⟩
  s!"$argon2id$v=19$m={h.cost.memory},t={h.cost.passes},p={h.cost.lanes}$"
    ++ Codec.Base64.standard.encodeUnpadded salt ++ "$" ++
    Codec.Base64.standard.encodeUnpadded output

/-- The variant of a name. -/
def variant? : String → Option Variant
  | "argon2d" => some .dependent
  | "argon2i" => some .independent
  | "argon2id" => some .hybrid
  | _ => none

/-- The version of a number; hashes without one are of the newer. -/
def version? : Option Nat → Option Version
  | none => some .v19
  | some 16 => some .v16
  | some 19 => some .v19
  | some _ => none

/-- Bytes in unpadded base 64, at most as many as given. -/
def boundedBytes? (bound : Nat) (value : String) : Option (List UInt8) :=
  (Codec.Base64.decodeUnpadded? (Text.utf8 value)).filter fun bytes => bytes.length ≤ bound

/-- Take in one parameter of a stored hash: a cost, or data that enters the hash. -/
def applyParameter (settings : Cost × List UInt8) (parameter : String × String) :
    Option (Cost × List UInt8) :=
  let (cost, data) := settings
  match parameter.1 with
  | "m" => (Phc.decimal? parameter.2.toList).map fun n => ({ cost with memory := n }, data)
  | "t" => (Phc.decimal? parameter.2.toList).map fun n => ({ cost with passes := n }, data)
  | "p" => (Phc.decimal? parameter.2.toList).map fun n => ({ cost with lanes := n }, data)
  | "keyid" => (boundedBytes? 8 parameter.2).map fun _ => settings
  | "data" => (boundedBytes? 32 parameter.2).map fun bytes => (cost, bytes)
  | _ => none

/-- Whether a password has the hash whose parts are given; none when it cannot be computed. -/
def Phc.matches? (phc : Phc) (password : String) : Option Bool := do
  let saltText ← phc.salt
  let expected ← phc.output
  let (cost, data) ← phc.parameters.foldlM applyParameter (defaultCost, [])
  guard (costFault? cost).isNone
  let variant ← variant? phc.algorithm
  let version ← version? phc.version
  let salt ← Codec.Base64.decodeUnpadded? (Text.utf8 saltText)
  guard (8 ≤ salt.length)
  return Job.run ⟨variant, version, cost, Text.utf8 password, salt, data, expected.length⟩ =
    expected

/-- Whether a password has a stored hash. -/
def verify (password stored : String) : Except Fault Bool :=
  match Phc.ofString? stored with
  | none => .error .malformedHash
  | some phc => .ok ((phc.matches? password).getD false)

end TenantAuth.Password
