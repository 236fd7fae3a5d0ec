import TenantAuth.Proofs.Credential.Effects

/-!
Draws are never taken back.

Whatever an operation does, and even where it is refused, as many identifiers of authenticators were
drawn afterwards as before, or more. So one that is drawn next was never drawn.
-/

namespace TenantAuth

variable {s : Services} {α ε : Type}

/-! ### Services -/

namespace Services

/-- Identifiers that were drawn. -/
abbrev Drawing (m : ServiceM α) : Prop := Moves (Grows Draws.authenticatorIds) m

theorem drawing_request {wording : ε → String} {answer : Nat → Except ε α} :
    Drawing (nextUse >>= fun use => unexpected wording (answer use)) :=
  moves_bind (moves_modifyGet fun _ => Nat.le_refl _) fun _ => moves_unexpected _ _

@[simp] theorem drawing_requestBarcodeUri (secret account : String) :
    Drawing (s.requestBarcodeUri secret account) :=
  drawing_request

@[simp] theorem drawing_requestVerdict (secret : String) (recent : List Nat) (typed : String) :
    Drawing (s.requestVerdict secret recent typed) :=
  moves_bind (moves_modifyGet fun _ => Nat.le_refl _) fun _ => moves_liftExcept _

@[simp] theorem drawing_requestEncryption (text : String) : Drawing (s.requestEncryption text) :=
  drawing_request

@[simp] theorem drawing_requestDecryption (stored : String) :
    Drawing (s.requestDecryption stored) :=
  drawing_request

@[simp] theorem drawing_requestHash (password : String) : Drawing (s.requestHash password) :=
  drawing_request

@[simp] theorem drawing_requestMatch (password stored : String) :
    Drawing (s.requestMatch password stored) :=
  drawing_request

@[simp] theorem drawing_drawAuthenticatorId : Drawing s.drawAuthenticatorId :=
  moves_modifyGet fun _ => Nat.le_succ _

@[simp] theorem drawing_drawOtpSecret : Drawing s.drawOtpSecret :=
    moves_modifyGet fun _ => Nat.le_refl _

@[simp] theorem drawing_drawOobCode : Drawing s.drawOobCode :=
    moves_modifyGet fun _ => Nat.le_refl _

@[simp] theorem drawing_drawOobSecret : Drawing s.drawOobSecret :=
    moves_modifyGet fun _ => Nat.le_refl _

@[simp] theorem drawing_drawRecoveryCodes : Drawing s.drawRecoveryCodes :=
    moves_modifyGet fun _ => Nat.le_refl _

@[simp] theorem drawing_drawSignInToken : Drawing s.drawSignInToken :=
    moves_modifyGet fun _ => Nat.le_refl _

@[simp] theorem drawing_drawVerificationToken : Drawing s.drawVerificationToken :=
  moves_modifyGet fun _ => Nat.le_refl _

end Services

/-! ### Authenticators -/

namespace Authenticator

@[simp] theorem drawing_create (isActive : Bool) (material : Material) :
    Services.Drawing (create s isActive material) := by
  simp [create]

@[simp] theorem drawing_ofRecoveryCodes (codes : List String) :
    Services.Drawing (ofRecoveryCodes s codes) := by
  simp [ofRecoveryCodes]

@[simp] theorem drawing_ofSecret (secret uri : String) :
    Services.Drawing (ofSecret s secret uri) := by
  simp [ofSecret]

@[simp] theorem drawing_ofContact (contact : Contact) (code secret : String) :
    Services.Drawing (ofContact s contact code secret) := by
  simp [ofContact]

@[simp] theorem drawing_decryptRecoveryCodes (a : Authenticator) :
    Services.Drawing (a.decryptRecoveryCodes s) := by
  unfold decryptRecoveryCodes
  split <;> simp

/-- As many identifiers were drawn after steps as before, or more. -/
abbrev Drawing (m : AuthenticatorM α) : Prop :=
    Moves (Grows fun h : Held => h.draws.authenticatorIds) m

@[simp] theorem drawing_use {step : ServiceM α} (hstep : Services.Drawing step) :
    Drawing (use step) := by
  intro h r h' hrun
  obtain ⟨n, hends, rfl⟩ := use_iff.1 hrun
  exact hstep _ _ _ hends

@[simp] theorem drawing_current : Drawing current := by
  intro h r h' hrun
  rw [show h' = h from (congrArg Prod.snd hrun).symm]
  exact Nat.le_refl _

@[simp] theorem drawing_update (f : Authenticator → Authenticator) : Drawing (update f) := by
  intro h r h' hrun
  rw [(update_iff.1 hrun).2]
  exact Nat.le_refl _

@[simp] theorem drawing_provePossession (oobCode : Option String) (typed : String) :
    Drawing (provePossession s oobCode typed) := by
  refine moves_bind drawing_current fun a => moves_ite ?_ ?_
  · refine moves_bind (moves_demand _ _) fun code => moves_bind drawing_current fun a => ?_
    split <;> simp
  · refine moves_bind drawing_current fun a => ?_
    split
    · refine moves_bind (by simp) fun secret => moves_bind (by simp) fun verdict => ?_
      cases verdict <;> simp
    · simp

@[simp] theorem drawing_consumeRecoveryCode (typed : String) :
    Drawing (consumeRecoveryCode s typed) := by
  refine moves_bind drawing_current fun a => moves_bind (by simp) fun codes => ?_
  simp

@[simp] theorem drawing_rechallenge : Drawing (rechallenge s) := by
  refine moves_bind drawing_current fun a => ?_
  split
  · refine moves_bind (by simp) fun code => moves_bind (by simp) fun secret =>
      moves_bind (by simp) fun stored => ?_
    simp
  · simp

end Authenticator

/-! ### Credentials -/

namespace Credential

variable {now : Instant}

/-- As many identifiers were drawn after steps as before, or more. -/
abbrev Drawing (m : CredentialM α) : Prop :=
    Moves (Grows fun d : Desk => d.draws.authenticatorIds) m

@[simp] theorem drawing_use {step : ServiceM α} (h : Services.Drawing step) :
    Drawing (use step) := by
  intro d r d' hrun
  rw [show d' = ⟨d.credential, (step.run.run d.draws).2⟩ from (congrArg Prod.snd hrun).symm]
  exact h _ _ _ rfl

@[simp] theorem drawing_current : Drawing current := by
  intro d r d' hrun
  rw [show d' = d from (congrArg Prod.snd hrun).symm]
  exact Nat.le_refl _

@[simp] theorem drawing_update (f : Credential → Credential) : Drawing (update f) := by
  intro d r d' hrun
  rw [show d' = ⟨f d.credential, d.draws⟩ from (congrArg Prod.snd hrun).symm]
  exact Nat.le_refl _

/-- What is done to one authenticator takes back no draw if it takes back none by itself. -/
@[simp] theorem drawing_onFirst {condition : Authenticator → Bool} {missing : Fault}
    {steps : AuthenticatorM α} (h : Authenticator.Drawing steps) :
    Drawing (onFirst condition missing steps) := by
  intro d r d' hrun
  cases ha : d.credential.authenticators.find? condition with
  | none =>
    rw [((onFirst_iff_of_none ha).1 hrun).2]
    exact Nat.le_refl _
  | some a =>
    obtain ⟨b, n, hsteps, rfl⟩ := (onFirst_iff_of_find? ha).1 hrun
    exact h _ _ _ hsteps

@[simp] theorem drawing_authorize (caller : MfaCaller) : Drawing (authorize caller now) := by
  refine moves_bind drawing_current fun c => ?_
  split <;> simp

@[simp] theorem drawing_ensureMfaEnabled : Drawing ensureMfaEnabled := by simp [ensureMfaEnabled]

@[simp] theorem drawing_makeRecoveryCodes : Drawing (makeRecoveryCodes s) := by
  refine moves_bind (by simp) fun c => moves_ite (by simp) ?_
  refine moves_bind (by simp) fun codes => moves_bind (by simp) fun a => ?_
  simp

@[simp] theorem drawing_makeTotp (account : String) (codes : Option (List String)) :
    Drawing (makeTotp s account codes) := by
  refine moves_bind (by simp) fun secret => moves_bind (by simp) fun uri => ?_
  simp

@[simp] theorem drawing_makeOutOfBand (contact : Contact) (codes : Option (List String)) :
    Drawing (makeOutOfBand s contact codes) := by
  refine moves_bind (by simp) fun code => moves_bind (by simp) fun secret => ?_
  simp

theorem drawing_associate (caller : MfaCaller) (kind : AuthenticatorKind)
    (phone : Option PhoneNumber) (email profileEmail : Option EmailAddress) :
    Drawing (associate s now caller kind phone email profileEmail) := by
  unfold associate
  iterate 9 refine moves_bind (by simp) fun _ => ?_
  split
  · refine moves_bind (by simp) fun c => moves_bind (by simp) fun association => ?_
    simp
  · refine moves_bind (by simp) fun association => ?_
    simp

/-- No operation takes back a draw. -/
theorem drawing_perform (action : Action) : Drawing (perform s now action) := by
  cases action with
  | authorize => simp [perform]
  | associate => exact moves_bind (drawing_associate _ _ _ _ _) fun _ => moves_pure _
  | challenge caller id =>
    refine moves_bind ?_ fun _ => moves_pure _
    refine moves_bind (by simp) fun _ => moves_bind (by simp) fun _ => drawing_onFirst ?_
    refine moves_bind (by simp) fun a => moves_bind (by simp) fun _ => ?_
    simp
  | verify caller kind oobCode typed =>
    refine moves_bind ?_ fun _ => moves_pure _
    unfold verify
    iterate 2 refine moves_bind (by simp) fun _ => ?_
    exact moves_bind (drawing_onFirst (moves_ite (by simp) (by simp))) (by simp)
  | _ =>
    refine moves_bind ?_ fun _ => moves_pure _
    simp only [setPassword, hasPassword, setDetails, initiateRegistration,
      verifyRegistration, changeMfa, enforceMfa, resetMfa, initiateMfa, viewAuthenticators, confirm,
      disassociate]
    repeat refine moves_bind (by simp) fun _ => ?_
    simp

end Credential

end TenantAuth
