import TenantAuth.Codec.Base64
import TenantAuth.Text.Blank
import TenantAuth.Text.Numeral

/-!
Password hashes as text.

The form is `$id[$v=N][$name=value,…][$salt[$hash]]`. A text of another form is no password hash;
one of this form may still name an algorithm, parameters or a salt that nothing can be computed
with.
-/

namespace TenantAuth.Password

/-- The parts of a password hash. -/
structure Phc where
  algorithm : String
  version : Option Nat
  parameters : List (String × String)
  salt : Option String
  output : Option (List UInt8)

namespace Phc

/-- Characters of the names of algorithms and parameters. -/
def isNameChar (c : Char) : Bool := ('a' ≤ c && c ≤ 'z') || ('0' ≤ c && c ≤ '9') || c = '-'

/-- Characters of values and salts. -/
def isValueChar (c : Char) : Bool :=
  ('a' ≤ c && c ≤ 'z') || ('A' ≤ c && c ≤ 'Z') || ('0' ≤ c && c ≤ '9') ||
    c = '/' || c = '+' || c = '.' || c = '-'

/-- A name has one to 32 characters. -/
def isName (cs : List Char) : Bool := 1 ≤ cs.length && cs.length ≤ 32 && cs.all isNameChar

/-- A value has at most 64 characters. -/
def isValue (cs : List Char) : Bool := cs.length ≤ 64 && cs.all isValueChar

/-- A salt has four to 64 characters. -/
def isSalt (cs : List Char) : Bool := 4 ≤ cs.length && isValue cs

/-- A number of 32 bits without sign or leading zeros. -/
def decimal? (cs : List Char) : Option Nat :=
  if cs.isEmpty || (cs.head? = some '0' && 1 < cs.length) then none
  else (Text.readDigits (Nat.pow 2 32 - 1) .tooLarge 0 cs).toOption

/-- One parameter. -/
def parameter? (cs : List Char) : Option (String × String) :=
  match Text.splitOnChar '=' cs with
  | [name, value] =>
    if isName name && isValue value then some (String.ofList name, String.ofList value) else none
  | _ => none

/-- The longest text of all parameters. -/
def maxParametersLength : Nat := 127

/-- The parameters of a field. -/
def parameters? (cs : List Char) : Option (List (String × String)) :=
  if cs.length ≤ maxParametersLength then (Text.splitOnChar ',' cs).mapM parameter? else none

/-- The output of a field: ten to 64 bytes. -/
def output? (cs : List Char) : Option (List UInt8) :=
  (Codec.Base64.decodeUnpadded? (Text.utf8 (String.ofList cs))).filter fun bytes =>
    10 ≤ bytes.length && bytes.length ≤ 64

/-- The field `v=N`, and the fields after it. -/
def takeVersion? : List (List Char) → Option (Option Nat × List (List Char))
  | ('v' :: '=' :: value) :: rest =>
    if value.contains ',' then some (none, ('v' :: '=' :: value) :: rest)
    else if isValue value then (decimal? value).map fun v => (some v, rest)
    else none
  | fields => some (none, fields)

/-- The field of parameters, and the fields after it. -/
def takeParameters? : List (List Char) → Option (List (String × String) × List (List Char))
  | field :: rest =>
    if field.contains '=' then (parameters? field).map fun ps => (ps, rest)
    else some ([], field :: rest)
  | [] => some ([], [])

/-- The parts of a password hash, when the text has its form. -/
def ofString? (s : String) : Option Phc :=
  match Text.splitOnChar '$' s.toList with
  | [] :: algorithm :: fields => do
    guard (isName algorithm)
    let (version, fields) ← takeVersion? fields
    let (parameters, fields) ← takeParameters? fields
    let phc : Phc := ⟨String.ofList algorithm, version, parameters, none, none⟩
    match fields with
    | [] => some phc
    | salt :: rest =>
      guard (isSalt salt)
      let phc := { phc with salt := some (String.ofList salt) }
      match rest with
      | [] => some phc
      | [output] => (output? output).map fun bytes => { phc with output := some bytes }
      | _ => none
  | _ => none

end Phc

end TenantAuth.Password
