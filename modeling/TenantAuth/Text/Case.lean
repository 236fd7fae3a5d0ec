import TenantAuth.Text.Case.Table
import TenantAuth.Text.Blank

/-!
Case conversion of whole texts.

Every character is replaced by its full mapping, which may be several characters long. The capital
sigma is the one letter whose lower case depends on its surroundings: it is the final form after a
cased letter and not before one, where marks and signs that casing ignores are looked through on
both sides.
-/

namespace TenantAuth.Text

/-- The image of a code point under the first run that holds it. -/
def CaseRun.image? (runs : List CaseRun) (n : Nat) : Option Nat :=
  match runs.find? fun r => r.first ≤ n && n ≤ r.last && (n - r.first) % r.stride == 0 with
  | some r => some (r.image + (n - r.first))
  | none => none

/-- The full lower-case mapping of a character by itself. -/
def lowerOf (c : Char) : List Char :=
  if c.toNat < 0x80 then [c.toLower]
  else
    match lowerExpansions.lookup c.toNat with
    | some image => image.map Char.ofNat
    | none => [((CaseRun.image? lowerRuns c.toNat).map Char.ofNat).getD c]

/-- The full upper-case mapping of a character. -/
def upperOf (c : Char) : List Char :=
  if c.toNat < 0x80 then [c.toUpper]
  else
    match upperExpansions.lookup c.toNat with
    | some image => image.map Char.ofNat
    | none => [((CaseRun.image? upperRuns c.toNat).map Char.ofNat).getD c]

/-- Whether a character is a letter with a case. -/
def isCased (c : Char) : Bool := inRanges casedRanges c.toNat

/-- Whether casing looks through a character. -/
def isCaseIgnorable (c : Char) : Bool := inRanges caseIgnorableRanges c.toNat

/-- Whether the first character that casing does not ignore has a case. -/
def startsCased (cs : List Char) : Bool :=
  match cs.dropWhile isCaseIgnorable with
  | [] => false
  | c :: _ => isCased c

/-- Lower case of a text whose earlier characters, last first, are `before`. -/
def lowerAfter (before : List Char) : List Char → List Char
  | [] => []
  | c :: rest =>
    let image :=
      if c = 'Σ' then
        if startsCased before && !startsCased rest then ['ς'] else ['σ']
      else lowerOf c
    image ++ lowerAfter (c :: before) rest

/-- A text in lower case. -/
def lowercase (s : String) : String := String.ofList (lowerAfter [] s.toList)

/-- A text in upper case. -/
def uppercase (s : String) : String := String.ofList (s.toList.flatMap upperOf)

end TenantAuth.Text
