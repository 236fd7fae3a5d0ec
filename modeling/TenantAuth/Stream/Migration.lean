import TenantAuth.Stream.Event

/-!
Bringing events of former times up to date before they are projected.
-/

namespace TenantAuth

/-- What is done to an event before it is projected. -/
abbrev Migration := Event → Except StreamFault Event

namespace Migration

/-- Events stay as they are. -/
def identity : Migration := .ok

/-- The new name of an event type; of two renamings of one name the later counts. -/
def newName? (renames : List (String × String)) (eventType : String) : Option String :=
  renames.reverse.lookup eventType

/-- Event types are renamed, though not to the empty name. -/
def ofRenames (renames : List (String × String)) : Migration := fun e =>
  match newName? renames e.eventType with
  | none => .ok e
  | some name =>
    if name = "" then .error (.migrationFailed e.eventType "renamed to an empty event type")
    else .ok { e with eventType := name }

end Migration

end TenantAuth
