import TenantAuth.Mfa.Rehearsal
import TenantAuth.Proofs.Mfa.Proving

/-!
Services that follow a script keep what is asked of services.
-/

namespace TenantAuth.Script

variable {script : Script}

/-- What stands between marks is read back. -/
theorem unmarked?_marked (text : String) : unmarked? (marked text) = some text := by
  simp [unmarked?, marked]

/-- What is decrypted is what was encrypted. -/
theorem undoes : script.services.Undoes := by
  intro use use' text stored opened hencrypted hopened
  simp only [services, encrypt] at hencrypted
  split at hencrypted
  · cases hencrypted
  · cases hencrypted
    simp only [services, decrypt, unmarked?_marked] at hopened
    split at hopened
    · cases hopened
    · exact (Except.ok.inj hopened).symm

/-- Identifiers show the number of their draw, so they differ as long as the numbers fit. -/
theorem distinct {count : Nat} (hcount : count ≤ Nat.pow 2 64) :
    script.services.Distinct count := by
  intro draw hdraw draw' hdraw' h
  have hbits : BitVec.ofNat 128 (identifierBase + draw + 1) =
      BitVec.ofNat 128 (identifierBase + draw' + 1) :=
    congrArg (fun id : AuthenticatorId => id.uuid.bits) h
  have hvalue := congrArg BitVec.toNat hbits
  simp only [BitVec.toNat_ofNat, identifierBase] at hvalue
  have hbound : Nat.pow 2 64 = 18446744073709551616 := rfl
  omega

/-- A script for examples: one code counts for one time step, and nothing is refused. -/
def sample : Script where
  otpSecrets := ["SECRET"]
  recoveryCodes := some ["AAAA", "BBBB"]
  stepsOf typed := if typed = "111111" then [7] else []
  withoutBarcode := false
  notEncrypted := []
  notDecrypted := []
  withoutHash := false
  withoutMatch := false
  rememberedSteps := 3
  tokenLifetime := ⟨600⟩

end TenantAuth.Script
