import TenantAuth.Fault
import TenantAuth.Text.Case
import TenantAuth.Text.Quoted

/-!
Addresses that a person can be reached at.

A mail address is kept without surrounding blanks and in lower case; a phone number is kept as a
plus sign and seven to fifteen digits, whatever blanks and hyphens it was written with.
-/

namespace TenantAuth

/-- A mail address. -/
structure EmailAddress where
  text : String
  deriving DecidableEq

/-- A phone number. -/
structure PhoneNumber where
  text : String
  deriving DecidableEq

/-- Refusal of a text that is no mail address. -/
def Fault.notAnEmailAddress : Fault := .validation "email_address" "is not a valid email address"

/-- Refusal of a text that is no phone number. -/
def Fault.notAPhoneNumber : Fault := .validation "phone_number" "is not a valid E.164 phone number"

/-- Whether a text without surrounding blanks has the form of a mail address: two parts around the
only at sign, neither of them empty, and no blank. -/
def EmailAddress.isWellFormed (cs : List Char) : Bool :=
  let name := cs.takeWhile (· ≠ '@')
  match cs.drop name.length with
  | [] => false
  | _ :: host => !name.isEmpty && !host.isEmpty && !host.contains '@' && !cs.any Text.isBlank

/-- The mail address that a text gives. -/
def EmailAddress.parse (s : String) : Except Fault EmailAddress :=
  let cs := Text.trim s.toList
  if EmailAddress.isWellFormed cs then .ok ⟨Text.lowercase (String.ofList cs)⟩
  else .error .notAnEmailAddress

/-- Whether a text is a plus sign and seven to fifteen digits. -/
def PhoneNumber.isWellFormed : List Char → Bool
  | '+' :: digits =>
    7 ≤ digits.length && digits.length ≤ 15 && digits.all fun c => '0' ≤ c && c ≤ '9'
  | _ => false

/-- The phone number that a text gives. -/
def PhoneNumber.parse (s : String) : Except Fault PhoneNumber :=
  let cs := s.toList.filter fun c => !Text.isBlank c && c ≠ '-'
  if PhoneNumber.isWellFormed cs then .ok ⟨String.ofList cs⟩ else .error .notAPhoneNumber

/-- A mail address in diagnostics. -/
def EmailAddress.display (e : EmailAddress) : String := "EmailAddress(" ++ Text.quoted e.text ++ ")"

/-- A phone number in diagnostics. -/
def PhoneNumber.display (p : PhoneNumber) : String := "PhoneNumber(" ++ Text.quoted p.text ++ ")"

end TenantAuth
