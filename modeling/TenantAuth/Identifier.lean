import TenantAuth.Codec.Hex
import TenantAuth.Json.Record

/-!
Identifiers: 128 bits, written as five groups of hexadecimal digits.

Four spellings are read: the groups with hyphens, the digits alone, the groups in braces, and the
groups behind `urn:uuid:`. What is wrong with any other text is decided from the text alone: first a
letter that belongs to no spelling, then the number of groups, then the length of the first wrong
group.
-/

namespace TenantAuth

/-- An identifier of 128 bits. -/
structure Uuid where
  bits : BitVec 128
  deriving DecidableEq

/-- Why a text is no identifier. -/
inductive UuidFault
  | length (found : Nat)
  | character (found : Char) (index : Nat)
  | groupCount (found : Nat)
  | groupLength (group expected found : Nat)
  deriving DecidableEq

/-- The wording of a fault. -/
def UuidFault.message : UuidFault → String
  | .length found => s!"invalid length: found {found}"
  | .character found index => s!"invalid character: found `{String.singleton found}` at {index}"
  | .groupCount found => s!"invalid group count: expected 5, found {found}"
  | .groupLength group expected found =>
    s!"invalid group length in group {group}: expected {expected}, found {found}"

namespace Uuid

/-- The 32 digits of an identifier. -/
def digits (u : Uuid) : List Char :=
  (List.range 32).map fun i => Codec.Hex.digit ((u.bits.toNat >>> (4 * (31 - i))) % 16)

/-- The groups of digits with hyphens between them. -/
def chars (u : Uuid) : List Char :=
  let d := u.digits
  d.take 8 ++ '-' :: (d.drop 8).take 4 ++ '-' :: (d.drop 12).take 4 ++ '-' :: (d.drop 16).take 4
    ++ '-' :: d.drop 20

/-- The text of an identifier. -/
def text (u : Uuid) : String := String.ofList u.chars

/-- The value of a hexadecimal digit in either case. -/
def digitValue? (c : Char) : Option Nat :=
  if '0' ≤ c && c ≤ '9' then some (c.toNat - 48)
  else if 'a' ≤ c && c ≤ 'f' then some (c.toNat - 87)
  else if 'A' ≤ c && c ≤ 'F' then some (c.toNat - 55)
  else none

/-- The identifier of 32 digits. -/
def ofDigits? (cs : List Char) : Option Uuid :=
  if cs.length = 32 then
    (cs.mapM digitValue?).map fun values =>
      ⟨BitVec.ofNat 128 (values.foldl (fun n v => n * 16 + v) 0)⟩
  else none

/-- The identifier of digits in five groups. -/
def ofGroups? (cs : List Char) : Option Uuid :=
  let hyphens := [8, 13, 18, 23]
  if cs.length = 36 && hyphens.all (fun i => cs[i]? = some '-') then
    ofDigits?
      (cs.take 8 ++ (cs.drop 9).take 4 ++ (cs.drop 14).take 4 ++ (cs.drop 19).take 4 ++ cs.drop 24)
  else none

/-- The lead of the spelling as a name. -/
def urnLead : List Char := "urn:uuid:".toList

/-- What a spelling wraps around the groups: the number of characters before them, and the
groups. -/
def unwrap? (cs : List Char) : Option (Nat × List Char) :=
  if cs.head? = some '\x7b' && cs.getLast? = some '\x7d' && 2 ≤ cs.length then
    some (1, (cs.drop 1).dropLast)
  else if (cs.take 9).map Char.toLower = urnLead then some (9, cs.drop 9)
  else none

/-- The identifier that a text spells. -/
def ofChars? (cs : List Char) : Option Uuid :=
  match unwrap? cs with
  | some (_, inner) => ofGroups? inner
  | none => if cs.length = 32 then ofDigits? cs else ofGroups? cs

/-- The first character that no spelling has, and its place in bytes. -/
def strayCharacter? (index : Nat) : List Char → Option (Char × Nat)
  | [] => none
  | c :: rest =>
    if c = '-' || (digitValue? c).isSome then strayCharacter? (index + c.utf8Size) rest
    else some (c, index)

/-- The places of the hyphens. -/
def hyphenPlaces (cs : List Char) : List Nat :=
  cs.zipIdx.filterMap fun (c, i) => if c = '-' then some i else none

/-- The groups before a hyphen: number, expected length and start. -/
def groups : List (Nat × Nat × Nat) := [(0, 8, 0), (1, 4, 9), (2, 4, 14), (3, 4, 19)]

/-- The first group whose hyphen is out of place. -/
def groupFault? (places : List Nat) : Option UuidFault :=
  (groups.zip places).findSome? fun ((group, expected, start), place) =>
    if place = start + expected then none else some (.groupLength group expected (place - start))

/-- What is wrong with digits and hyphens that begin `lead` bytes into a text of `size` bytes: a
stray character, a lack of hyphens where digits alone were possible, the number of groups, or the
first wrong one. -/
def bodyFault (lead size : Nat) (mayBeDigits : Bool) (cs : List Char) : UuidFault :=
  match strayCharacter? lead cs with
  | some (c, index) => .character c index
  | none =>
    let places := hyphenPlaces cs
    if mayBeDigits && places.isEmpty then .length size
    else if places.length ≠ 4 then .groupCount (places.length + 1)
    else (groupFault? places).getD (.groupLength 4 12 (size - 24))

/-- The number of bytes of a text. -/
def byteCount (cs : List Char) : Nat := (String.ofList cs).utf8ByteSize

/-- What is wrong with a text that spells no identifier. A text of the size of groups is held
against groups alone, so that nothing wraps it; and what wraps a text of the size of groups is left
out of account. -/
def faultOf (cs : List Char) : UuidFault :=
  let size := byteCount cs
  if size = 0 || 45 < size then .length size
  else if size = 36 then bodyFault 0 size false cs
  else
    match unwrap? cs with
    | none => bodyFault 0 size true cs
    | some (lead, inner) =>
      if byteCount inner = 36 then bodyFault 0 36 false inner else bodyFault lead size false inner

/-- The identifier that a text spells, or what is wrong with it. -/
def parse (s : String) : Except UuidFault Uuid :=
  match ofChars? s.toList with
  | some u => .ok u
  | none => .error (faultOf s.toList)

/-- An identifier drawn at random: sixteen bytes, in which version and variant are set. -/
def ofRandom (bytes : List UInt8) : Uuid :=
  let n : BitVec 128 := BitVec.ofNat 128 (bytes.foldl (fun n b => n * 256 + b.toNat) 0)
  let version : BitVec 128 := 0xF <<< 76
  let variant : BitVec 128 := 0x3 <<< 62
  ⟨(n &&& ~~~version &&& ~~~variant) ||| (0x4 <<< 76) ||| (0x2 <<< 62)⟩

/-- An identifier as JSON. -/
def toJson (u : Uuid) : Json := .string u.text

/-- An identifier from JSON. -/
def ofJson? : Json → Option Uuid
  | .string s => ofChars? s.toList
  | _ => none

end Uuid

/-! ### Identifiers of different things -/

/-- The identifier of a user. -/
structure UserId where
  uuid : Uuid
  deriving DecidableEq

/-- The identifier of a credential. -/
structure CredentialId where
  uuid : Uuid
  deriving DecidableEq

/-- The identifier of an authenticator. -/
structure AuthenticatorId where
  uuid : Uuid
  deriving DecidableEq

/-- The identifier of an organization. -/
structure OrganizationId where
  uuid : Uuid
  deriving DecidableEq

/-- The identifier of a membership. -/
structure MembershipId where
  uuid : Uuid
  deriving DecidableEq

/-- What an identifier identifies. -/
inductive IdKind
  | user
  | credential
  | authenticator
  | organization
  | membership
  deriving DecidableEq

/-- The name of a kind of identifier. -/
def IdKind.name : IdKind → String
  | .user => "UserId"
  | .credential => "CredentialId"
  | .authenticator => "AuthenticatorId"
  | .organization => "OrganizationId"
  | .membership => "MembershipId"

/-- A text that is no identifier of the wanted kind. -/
structure IdFault where
  kind : IdKind
  reason : UuidFault
  deriving DecidableEq

/-- The wording of a fault. -/
def IdFault.message (f : IdFault) : String := s!"Failed to parse {f.kind.name}: {f.reason.message}"

/-- Read an identifier of a kind. -/
def IdKind.parse (kind : IdKind) (s : String) : Except IdFault Uuid :=
  (Uuid.parse s).mapError fun reason => ⟨kind, reason⟩

end TenantAuth
