/-!
Text as bytes in UTF-8, and the place where bytes stop being text.

A fault names the first byte that no text could have there. It is incomplete when the bytes end
inside a sequence that is sound so far; otherwise it counts the bytes of the sequence that can be
given up.
-/

namespace TenantAuth.Text

/-- Why bytes are not text. -/
inductive Utf8Fault
  | invalid (width index : Nat)
  | incomplete (index : Nat)
  deriving DecidableEq

/-- The wording of a fault. -/
def Utf8Fault.message : Utf8Fault → String
  | .invalid width index => s!"invalid utf-8 sequence of {width} bytes from index {index}"
  | .incomplete index => s!"incomplete utf-8 byte sequence from index {index}"

/-- The bytes of a text. -/
def utf8 (s : String) : List UInt8 := s.toUTF8.toList

/-- The ranges that the bytes after a first byte must lie in, when it can start a sequence. -/
def continuations? (b : UInt8) : Option (List (UInt8 × UInt8)) :=
  let tail : UInt8 × UInt8 := (0x80, 0xBF)
  if b < 0x80 then some []
  else if 0xC2 ≤ b && b ≤ 0xDF then some [tail]
  else if b = 0xE0 then some [(0xA0, 0xBF), tail]
  else if b = 0xED then some [(0x80, 0x9F), tail]
  else if 0xE1 ≤ b && b ≤ 0xEF then some [tail, tail]
  else if b = 0xF0 then some [(0x90, 0xBF), tail, tail]
  else if 0xF1 ≤ b && b ≤ 0xF3 then some [tail, tail, tail]
  else if b = 0xF4 then some [(0x80, 0x8F), tail, tail]
  else none

/-- How the bytes that follow meet the ranges asked of them. -/
inductive Follow
  | complete
  | short
  | broken (width : Nat)

/-- Compare the bytes that follow with the ranges asked of them; `width` counts the bytes already
sound. -/
def follow (width : Nat) : List (UInt8 × UInt8) → List UInt8 → Follow
  | [], _ => .complete
  | _ :: _, [] => .short
  | r :: ranges, b :: rest =>
    if r.1 ≤ b && b ≤ r.2 then follow (width + 1) ranges rest else .broken width

/-- The first fault at or after the byte numbered `index`. -/
def utf8Fault? (index : Nat) : List UInt8 → Option Utf8Fault
  | [] => none
  | b :: rest =>
    match continuations? b with
    | none => some (.invalid 1 index)
    | some ranges =>
      match follow 1 ranges rest with
      | .complete => utf8Fault? (index + 1 + ranges.length) (rest.drop ranges.length)
      | .short => some (.incomplete index)
      | .broken width => some (.invalid width index)
  termination_by bytes => bytes.length
  decreasing_by simp only [List.length_drop, List.length_cons]; omega

/-- The text that the bytes spell, or the first fault in them. -/
def ofUtf8 (bytes : List UInt8) : Except Utf8Fault String :=
  match String.fromUTF8? ⟨bytes.toArray⟩ with
  | some s => .ok s
  | none => .error ((utf8Fault? 0 bytes).getD (.incomplete 0))

end TenantAuth.Text
