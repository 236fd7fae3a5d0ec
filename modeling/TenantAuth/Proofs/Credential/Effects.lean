import TenantAuth.Credential.Action
import TenantAuth.Proofs.Mfa.Proving

/-!
What each operation on a credential does to it when it succeeds.

There is one statement for each operation that changes something: the conditions that were met, and
the credential afterwards. The others leave the credential as it is. Whatever is said of all
operations follows from these, operation by operation.
-/

namespace TenantAuth.Credential

variable {s : Services} {now : Instant} {d d' : Desk} {α : Type}

/-! ### Parts of operations -/

@[simp] theorem current_ok_iff {c : Credential} :
    Ends current d (.ok c) d' ↔ c = d.credential ∧ d' = d := by
  change (Except.ok d.credential, d) = (.ok c, d') ↔ _
  rw [Prod.mk.injEq, Except.ok.injEq, eq_comm, eq_comm (b := d')]

@[simp] theorem update_ok_iff {f : Credential → Credential} {u : Unit} :
    Ends (update f) d (.ok u) d' ↔ d' = { d with credential := f d.credential } := by
  change (Except.ok (), { d with credential := f d.credential }) = (.ok u, d') ↔ _
  simp [eq_comm]

/-- Using a service does not touch the credential, whatever comes of it. -/
theorem use_iff {step : ServiceM α} {r : Except Fault α} :
    Ends (use step) d r d' ↔ ∃ n, Ends step d.draws r n ∧ d' = ⟨d.credential, n⟩ := by
  constructor
  · intro h
    obtain ⟨rfl, rfl⟩ := Prod.mk.inj h
    exact ⟨_, rfl, rfl⟩
  · rintro ⟨n, h, rfl⟩
    change ((step.run.run d.draws).1, Desk.mk d.credential (step.run.run d.draws).2) = _
    rw [h]

@[simp] theorem use_ok_iff {step : ServiceM α} {a : α} :
    Ends (use step) d (.ok a) d' ↔ ∃ n, Ends step d.draws (.ok a) n ∧ d' = ⟨d.credential, n⟩ :=
  use_iff

/-- Work on the first authenticator that satisfies a condition ends as it does for that
authenticator alone, and leaves it in its place. -/
theorem onFirst_iff_of_find? {condition : Authenticator → Bool} {missing : Fault}
    {steps : AuthenticatorM α} {r : Except Fault α} {a : Authenticator}
    (ha : d.credential.authenticators.find? condition = some a) :
    Ends (onFirst condition missing steps) d r d' ↔
      ∃ b n, Ends steps ⟨a, d.draws⟩ r ⟨b, n⟩ ∧ d' = ⟨{ d.credential with
        authenticators := replaceFirst condition b d.credential.authenticators }, n⟩ := by
  have hrun : (onFirst condition missing steps).run.run d = ((steps.run.run ⟨a, d.draws⟩).1,
      ⟨{ d.credential with
        authenticators := replaceFirst condition (steps.run.run ⟨a, d.draws⟩).2.authenticator
          d.credential.authenticators }, (steps.run.run ⟨a, d.draws⟩).2.draws⟩) := by
    change onFirst condition missing steps d = _
    rw [onFirst, ha]
    rfl
  rw [Ends, hrun]
  constructor
  · intro h
    obtain ⟨rfl, rfl⟩ := Prod.mk.inj h
    exact ⟨_, _, rfl, rfl⟩
  · rintro ⟨b, n, hsteps, rfl⟩
    rw [show steps.run.run ⟨a, d.draws⟩ = (r, ⟨b, n⟩) from hsteps]

/-- Without such an authenticator there is nothing to work on. -/
theorem onFirst_iff_of_none {condition : Authenticator → Bool} {missing : Fault}
    {steps : AuthenticatorM α} {r : Except Fault α}
    (hnone : d.credential.authenticators.find? condition = none) :
    Ends (onFirst condition missing steps) d r d' ↔ r = .error missing ∧ d' = d := by
  have hrun : (onFirst condition missing steps).run.run d = (.error missing, d) := by
    change onFirst condition missing steps d = _
    rw [onFirst, hnone]
  rw [Ends, hrun, Prod.mk.injEq, eq_comm, eq_comm (a := d)]

@[simp] theorem onFirst_ok_iff {condition : Authenticator → Bool} {missing : Fault}
    {steps : AuthenticatorM α} {x : α} :
    Ends (onFirst condition missing steps) d (.ok x) d' ↔
      ∃ a b n, d.credential.authenticators.find? condition = some a ∧ Ends steps ⟨a, d.draws⟩
        (.ok x) ⟨b, n⟩ ∧ d' = ⟨{ d.credential with
          authenticators := replaceFirst condition b d.credential.authenticators }, n⟩ := by
  cases ha : d.credential.authenticators.find? condition with
  | none => simp [onFirst_iff_of_none ha]
  | some a => simp [onFirst_iff_of_find? ha]

@[simp] theorem authorize_ok_iff {caller : MfaCaller} {u : Unit} :
    Ends (authorize caller now) d (.ok u) d' ↔
      d.credential.unauthorized? caller now = none ∧ d' = d := by
  simp only [authorize, Ends.bind_ok_iff, current_ok_iff, and_assoc, exists_and_left,
    exists_eq_left]
  cases d.credential.unauthorized? caller now <;> simp

@[simp] theorem ensureMfaEnabled_ok_iff {u : Unit} :
    Ends ensureMfaEnabled d (.ok u) d' ↔ d.credential.mfa.isEnabled = true ∧ d' = d := by
  simp [ensureMfaEnabled, and_assoc]

/-- Whoever is authorized is the owner, and a token they carry is the outstanding one and has not
expired. -/
theorem unauthorized?_eq_none {c : Credential} {caller : MfaCaller} :
    c.unauthorized? caller now = none ↔
      caller.userId = c.userId ∧ ∀ token, caller.token = some token →
      c.mfa.isValid token now = true := by
  unfold unauthorized?
  cases caller.token with
  | none => simp
  | some token => cases h : c.mfa.isValid token now <;> simp [h]

/-! ### Password, registration and options -/

theorem setPassword_ok {password : String} {u : Unit}
    (h : Ends (setPassword s password) d (.ok u) d') :
    leastPasswordLength ≤ password.length ∧ ∃ hash,
      s.hashPassword d.draws.uses password = .ok hash ∧
        d'.credential = { d.credential with passwordHash := some hash } := by
  simp only [setPassword, Ends.bind_ok_iff, Ends.ensure_ok_iff, use_ok_iff,
    Services.requestHash_ok_iff, update_ok_iff, decide_eq_true_eq] at h
  obtain ⟨_, _, ⟨hlength, rfl⟩, hash, _, ⟨_, ⟨hhash, rfl⟩, rfl⟩, rfl⟩ := h
  exact ⟨hlength, hash, hhash, rfl⟩

theorem hasPassword_ok {password : String} {isRight : Bool}
    (h : Ends (hasPassword s password) d (.ok isRight) d') :
    ∃ hash, d.credential.passwordHash = some hash ∧
      s.verifyPassword d.draws.uses password hash = .ok isRight ∧ d'.credential = d.credential := by
  simp only [hasPassword, Ends.bind_ok_iff, current_ok_iff, Ends.demand_ok_iff, use_ok_iff,
    Services.requestMatch_ok_iff] at h
  obtain ⟨_, _, ⟨rfl, rfl⟩, hash, _, ⟨hstored, rfl⟩, _, ⟨hmatch, rfl⟩, rfl⟩ := h
  exact ⟨hash, hstored, hmatch, rfl⟩

@[simp] theorem setDetails_ok_iff {email : EmailAddress} {displayName : String} {u : Unit} :
    Ends (setDetails email displayName) d (.ok u) d' ↔
      d' = { d with credential :=
        { d.credential with username := some email, displayName := some displayName } } :=
  update_ok_iff

theorem initiateRegistration_ok {token : String}
    (h : Ends (initiateRegistration s) d (.ok token) d') :
    d.credential.username.isSome = true ∧ d.credential.isVerified = false ∧
      token = s.verificationToken d.draws.verificationTokens ∧
      d'.credential = { d.credential with registration := .pending token } := by
  simp only [initiateRegistration, Services.drawVerificationToken, Ends.bind_ok_iff, current_ok_iff,
    Ends.ensure_ok_iff, use_ok_iff, Ends.modifyGet_iff, update_ok_iff, Ends.pure_iff,
    Bool.not_eq_true',
    Except.ok.injEq] at h
  obtain ⟨_, _, ⟨rfl, rfl⟩, _, _, ⟨husername, rfl⟩, _, _, ⟨hopen, rfl⟩, _, _,
    ⟨_, ⟨rfl, rfl⟩, rfl⟩, _, _, rfl, rfl, rfl⟩ := h
  exact ⟨husername, hopen, rfl, rfl⟩

theorem verifyRegistration_ok {u : Unit} (h : Ends (verifyRegistration now) d (.ok u) d') :
    d.credential.registration.isPending = true ∧
      d'.credential = { d.credential with registration := .verified now } := by
  simp only [verifyRegistration, Ends.bind_ok_iff, current_ok_iff, Ends.ensure_ok_iff,
    update_ok_iff] at h
  obtain ⟨_, _, ⟨rfl, rfl⟩, _, _, ⟨hpending, rfl⟩, rfl⟩ := h
  exact ⟨hpending, rfl⟩

theorem changeMfa_ok {caller : Caller} {isEnabled : Bool} {u : Unit}
    (h : Ends (changeMfa caller isEnabled) d (.ok u) d') :
    (caller.userId = some d.credential.userId ∨ caller.isOperator = true) ∧
      (isEnabled = true ∨ d.credential.mfa.canBeDisabled = true) ∧
      d'.credential = { d.credential with mfa := { d.credential.mfa with isEnabled } } := by
  simp only [changeMfa, Ends.bind_ok_iff, current_ok_iff, Ends.ensure_ok_iff, update_ok_iff,
    Bool.or_eq_true, decide_eq_true_eq] at h
  obtain ⟨_, _, ⟨rfl, rfl⟩, _, _, ⟨hcaller, rfl⟩, _, _, ⟨hallowed, rfl⟩, rfl⟩ := h
  exact ⟨hcaller, hallowed, rfl⟩

theorem enforceMfa_ok {caller : Caller} {u : Unit} (h : Ends (enforceMfa caller) d (.ok u) d') :
    caller.isOperator = true ∧
      d'.credential =
        { d.credential with
          mfa := { d.credential.mfa with isEnabled := true, canBeDisabled := false } } := by
  simp only [enforceMfa, Ends.bind_ok_iff, Ends.ensure_ok_iff, update_ok_iff] at h
  obtain ⟨_, _, ⟨hcaller, rfl⟩, rfl⟩ := h
  exact ⟨hcaller, rfl⟩

theorem resetMfa_ok {caller : Caller} {u : Unit} (h : Ends (resetMfa caller) d (.ok u) d') :
    caller.isOperator = true ∧
      d'.credential = { d.credential with mfa := .initial, authenticators := [] } := by
  simp only [resetMfa, Ends.bind_ok_iff, Ends.ensure_ok_iff, update_ok_iff] at h
  obtain ⟨_, _, ⟨hcaller, rfl⟩, rfl⟩ := h
  exact ⟨hcaller, rfl⟩

theorem initiateMfa_ok {token : String} (h : Ends (initiateMfa s now) d (.ok token) d') :
    d.credential.mfa.isEnabled = true ∧ token = s.signInToken d.draws.signInTokens ∧
      ∃ expiry, now.add? s.tokenLifetime = some expiry ∧
        d'.credential = { d.credential with mfa := d.credential.mfa.bind token expiry } := by
  simp only [initiateMfa, Services.drawSignInToken, Ends.bind_ok_iff, current_ok_iff,
    Ends.ensure_ok_iff, use_ok_iff, Ends.modifyGet_iff, Ends.demand_ok_iff, update_ok_iff,
    Ends.pure_iff, Except.ok.injEq] at h
  obtain ⟨_, _, ⟨rfl, rfl⟩, _, _, ⟨henabled, rfl⟩, _, _, ⟨_, ⟨rfl, rfl⟩, rfl⟩, expiry, _,
    ⟨hexpiry, rfl⟩, _, _, rfl, rfl, rfl⟩ := h
  exact ⟨henabled, rfl, expiry, hexpiry, rfl⟩

/-! ### Adding an authenticator -/

/-- The recovery codes that are made along with an authenticator: none if there are some, else new
ones that are active. -/
inductive CodesMade (s : Services) (n : Draws) :
    Bool → List Authenticator → Option (List String) → Nat → Prop
  | there : CodesMade s n true [] none n.authenticatorIds
  | made {stored : String} {use : Nat}
      (encrypted : s.encrypt use (RecoveryCode.join (s.recoveryCodes n.recoveryCodes)) =
        .ok stored) :
      CodesMade s n false
        [⟨s.authenticatorId n.authenticatorIds, true, none, .recoveryCodes stored⟩]
        (some (s.recoveryCodes n.recoveryCodes)) (n.authenticatorIds + 1)

/-- Whatever is made along with an authenticator are recovery codes. -/
theorem CodesMade.kind_eq {n : Draws} {there : Bool} {made : List Authenticator}
    {shown : Option (List String)} {draw : Nat} (h : CodesMade s n there made shown draw) :
    ∀ a ∈ made, a.kind = .recoveryCodes := by
  intro a ha
  cases h with
  | there => cases ha
  | made _ =>
    rw [List.mem_singleton.1 ha]
    rfl

theorem makeRecoveryCodes_ok {codes : Option (List String)}
    (h : Ends (makeRecoveryCodes s) d (.ok codes) d') :
    ∃ made,
      CodesMade s d.draws d.credential.recoveryCodes?.isSome made codes d'.draws.authenticatorIds ∧
      d'.credential =
        { d.credential with authenticators := d.credential.authenticators ++ made } := by
  simp only [makeRecoveryCodes, Ends.bind_ok_iff, current_ok_iff] at h
  obtain ⟨_, _, ⟨rfl, rfl⟩, h⟩ := h
  split at h
  · rename_i hsome
    simp only [Ends.pure_iff, Except.ok.injEq] at h
    obtain ⟨rfl, rfl⟩ := h
    exact ⟨[], by rw [hsome]; exact .there, by rw [List.append_nil]⟩
  · rename_i hnone
    simp only [Services.drawRecoveryCodes, Ends.bind_ok_iff, use_ok_iff, Ends.modifyGet_iff,
      update_ok_iff, Ends.pure_iff, Except.ok.injEq] at h
    obtain ⟨_, _, ⟨_, ⟨rfl, rfl⟩, rfl⟩, a, _, ⟨n, hmade, rfl⟩, _, _, rfl, rfl, rfl⟩ := h
    obtain ⟨stored, hstored, rfl, hn⟩ := Authenticator.ofRecoveryCodes_ok hmade
    refine ⟨_, ?_, rfl⟩
    rw [Bool.not_eq_true] at hnone
    rw [hnone, hn]
    exact .made hstored

/-- A new authenticator of a kind waits for its confirmation, with a challenge if it is reached
out-of-band. -/
structure Pending (s : Services) (kind : AuthenticatorKind) (draw : Nat)
    (a : Authenticator) : Prop where
  id_eq : a.id = s.authenticatorId draw
  inactive : a.isActive = false
  unused : a.usedUp = none
  kind_eq : a.kind = kind
  challenged : kind.isOutOfBand = true → a.challenge?.isSome = true

theorem makeTotp_ok {account : String} {codes : Option (List String)} {outcome : Association}
    (h : Ends (makeTotp s account codes) d (.ok outcome) d') :
    Pending s .totp d.draws.authenticatorIds outcome.authenticator ∧ outcome.recoveryCodes = codes ∧
      d'.credential = d.credential ∧ d'.draws.authenticatorIds = d.draws.authenticatorIds + 1 := by
  simp only [makeTotp, Services.drawOtpSecret, Ends.bind_ok_iff, use_ok_iff, Ends.modifyGet_iff,
    Services.requestBarcodeUri_ok_iff, Ends.pure_iff, Except.ok.injEq] at h
  obtain ⟨_, _, ⟨_, ⟨rfl, rfl⟩, rfl⟩, uri, _, ⟨_, ⟨_, rfl⟩, rfl⟩, a, _, ⟨n, hmade, rfl⟩,
    rfl, rfl⟩ := h
  obtain ⟨stored, _, rfl, hn⟩ := Authenticator.ofSecret_ok hmade
  exact ⟨⟨rfl, rfl, rfl, rfl, by simp [AuthenticatorKind.isOutOfBand]⟩, rfl, rfl, hn⟩

theorem makeOutOfBand_ok {contact : Contact} {codes : Option (List String)} {outcome : Association}
    (h : Ends (makeOutOfBand s contact codes) d (.ok outcome) d') :
    Pending s contact.kind d.draws.authenticatorIds outcome.authenticator ∧
      outcome.recoveryCodes = codes ∧ d'.credential = d.credential ∧
        d'.draws.authenticatorIds = d.draws.authenticatorIds + 1 := by
  simp only [makeOutOfBand, Services.drawOobCode, Services.drawOobSecret,
    Ends.bind_ok_iff, use_ok_iff, Ends.modifyGet_iff, Ends.pure_iff, Except.ok.injEq] at h
  obtain ⟨_, _, ⟨_, ⟨rfl, rfl⟩, rfl⟩, _, _, ⟨_, ⟨rfl, rfl⟩, rfl⟩, a, _, ⟨n, hmade, rfl⟩,
    rfl, rfl⟩ := h
  obtain ⟨stored, _, rfl, hn⟩ := Authenticator.ofContact_ok hmade
  exact ⟨⟨rfl, rfl, rfl, rfl, fun _ => rfl⟩, rfl, rfl, hn⟩

/-- Authenticators that are reached nowhere are those of time-based codes; others are of the kind of
their contact. -/
theorem contactFor_ok {kind : AuthenticatorKind} {phone : Option PhoneNumber}
    {email profileEmail : Option EmailAddress} {contact : Option Contact}
    (h : contactFor kind phone email profileEmail = .ok contact) (hkind : kind ≠ .recoveryCodes) :
    (contact = none ∧ kind = .totp) ∨ ∃ c, contact = some c ∧ c.kind = kind := by
  unfold contactFor at h
  cases kind with
  | recoveryCodes => exact absurd rfl hkind
  | totp => exact Or.inl ⟨(Except.ok.inj h).symm, rfl⟩
  | oobSms =>
    cases phone with
    | none => simp at h
    | some number => exact Or.inr ⟨.sms number, (Except.ok.inj h).symm, rfl⟩
  | oobEmail =>
    simp only at h
    split at h
    · exact Or.inr ⟨_, (Except.ok.inj h).symm, rfl⟩
    · simp at h

/-- The authenticators that stay when one of a kind is added: all but a pending one of that kind. -/
def staying (kind : AuthenticatorKind) (list : List Authenticator) : List Authenticator :=
  list.filter fun a => !(a.kind = kind && !a.isActive)

/-- The recovery codes are found whether or not a pending authenticator of another kind is left
out. -/
theorem recoveryCodes?_staying {c : Credential} {kind : AuthenticatorKind}
    (hkind : kind ≠ .recoveryCodes) :
    recoveryCodes? { c with authenticators := staying kind c.authenticators } =
      c.recoveryCodes? := by
  unfold recoveryCodes? staying
  rw [List.find?_filter]
  congr 1
  funext a
  by_cases ha : a.kind = .recoveryCodes
  · simp [ha, Ne.symm hkind]
  · simp [ha]

/-- An authenticator is added pending and last, behind those that stay and behind recovery codes if
they had to be made. -/
theorem associate_ok {caller : MfaCaller} {kind : AuthenticatorKind} {phone : Option PhoneNumber}
    {email profileEmail : Option EmailAddress} {outcome : Association}
    (h : Ends (associate s now caller kind phone email profileEmail) d (.ok outcome) d') :
    d.credential.unauthorized? caller now = none ∧ d.credential.isVerified = true ∧
      d.credential.mfa.isEnabled = true ∧ kind ≠ .recoveryCodes ∧ d.credential.active? kind = none ∧
      ∃ made draw, CodesMade s d.draws d.credential.recoveryCodes?.isSome made
        outcome.recoveryCodes draw ∧ Pending s kind draw outcome.authenticator ∧
        d'.draws.authenticatorIds = draw + 1 ∧
        d'.credential = { d.credential with
          authenticators :=
            staying kind d.credential.authenticators ++ made ++ [outcome.authenticator] } := by
  simp only [associate, Ends.bind_ok_iff, authorize_ok_iff, current_ok_iff, Ends.ensure_ok_iff,
    ensureMfaEnabled_ok_iff, Ends.liftExcept_ok_iff, update_ok_iff, decide_eq_true_eq,
    Option.isNone_iff_eq_none, and_assoc, exists_and_left, exists_eq_left, exists_const] at h
  obtain ⟨hauthorized, hverified, henabled, hkind, hinactive, contact, hcontact, codes, d₁,
    hcodes, h⟩ := h
  refine ⟨hauthorized, hverified, henabled, hkind, hinactive, ?_⟩
  obtain ⟨made, hmade, hd₁⟩ := makeRecoveryCodes_ok hcodes
  have hthere := recoveryCodes?_staying (c := d.credential) hkind
  simp only [staying] at hthere
  simp only [hthere] at hmade
  refine ⟨made, d₁.draws.authenticatorIds, ?_⟩
  have hpending : Pending s kind d₁.draws.authenticatorIds outcome.authenticator ∧
      outcome.recoveryCodes = codes ∧ d'.draws.authenticatorIds = d₁.draws.authenticatorIds + 1 ∧
      d'.credential = { d₁.credential with
        authenticators := d₁.credential.authenticators ++ [outcome.authenticator] } := by
    rcases contactFor_ok hcontact hkind with ⟨rfl, rfl⟩ | ⟨contact, rfl, rfl⟩
    · simp only [Ends.bind_ok_iff, current_ok_iff, update_ok_iff, Ends.pure_iff,
        Except.ok.injEq, and_assoc, exists_and_left, exists_eq_left, exists_const] at h
      obtain ⟨_, d₂, hmake, rfl, rfl⟩ := h
      obtain ⟨hpending, hsame, hd₂, hn⟩ := makeTotp_ok hmake
      exact ⟨hpending, hsame, hn, by rw [hd₂]⟩
    · simp only [Ends.bind_ok_iff, update_ok_iff, Ends.pure_iff, Except.ok.injEq, exists_and_left,
        exists_eq_left, exists_const] at h
      obtain ⟨_, d₂, hmake, rfl, rfl⟩ := h
      obtain ⟨hpending, hsame, hd₂, hn⟩ := makeOutOfBand_ok hmake
      exact ⟨hpending, hsame, hn, by rw [hd₂]⟩
  obtain ⟨hpending, rfl, hn, hd'⟩ := hpending
  exact ⟨hmade, hpending, hn, by rw [hd', hd₁]; rfl⟩

/-! ### Proving, challenging and removing -/

/-- A pending authenticator that is proved becomes active, and ends the sign-in it was proved in. -/
theorem confirm_ok {caller : MfaCaller} {kind : AuthenticatorKind} {oobCode : Option String}
    {typed : String} {u : Unit} (h : Ends (confirm s now caller kind oobCode typed) d (.ok u) d') :
    d.credential.unauthorized? caller now = none ∧ d.credential.mfa.isEnabled = true ∧
      kind ≠ .recoveryCodes ∧ ∃ a proved, d.credential.pending? kind = some a ∧
        Ends (Authenticator.provePossession s oobCode typed) ⟨a, d.draws⟩ (.ok ())
        ⟨proved, d'.draws⟩ ∧
        d'.credential = { d.credential with
          authenticators :=
            replaceFirst (fun a => a.kind = kind && !a.isActive) { proved with isActive := true }
            d.credential.authenticators
          mfa :=
            if caller.isAnonymous then d.credential.mfa.clearToken else d.credential.mfa } := by
  simp only [confirm, Ends.bind_ok_iff, authorize_ok_iff, ensureMfaEnabled_ok_iff,
    Ends.ensure_ok_iff, onFirst_ok_iff, update_ok_iff, decide_eq_true_eq, and_assoc,
    exists_and_left, exists_eq_left,
    exists_const] at h
  obtain ⟨hauthorized, henabled, hkind, _, _, ⟨a, ha, b, n, hsteps, rfl⟩, rfl⟩ := h
  obtain ⟨_, ⟨proved, _⟩, hproved, hactivated⟩ := hsteps
  obtain ⟨rfl, rfl⟩ := Held.mk.inj (Authenticator.update_iff.1 hactivated).2
  exact ⟨hauthorized, henabled, hkind, a, proved, ha, hproved, rfl⟩

/-- An authenticator that is active is challenged. -/
theorem challenge_ok {caller : MfaCaller} {id : AuthenticatorId} {outcome : ChallengeOutcome}
    (h : Ends (challenge s now caller id) d (.ok outcome) d') :
    d.credential.unauthorized? caller now = none ∧ d.credential.mfa.isEnabled = true ∧
      ∃ a challenged sent, d.credential.authenticator? id = some a ∧ a.isActive = true ∧
        Ends (Authenticator.rechallenge s) ⟨a, d.draws⟩ (.ok sent) ⟨challenged, d'.draws⟩ ∧
        outcome = ⟨id, a.kind, sent.map Prod.fst, (sent.map Prod.snd).toList⟩ ∧
        d'.credential = { d.credential with
          authenticators :=
            replaceFirst (fun a => a.id = id) challenged d.credential.authenticators } := by
  simp only [challenge, Ends.bind_ok_iff, authorize_ok_iff, ensureMfaEnabled_ok_iff, onFirst_ok_iff,
    Authenticator.current_ok_iff, Ends.ensure_ok_iff, Ends.pure_iff, Except.ok.injEq, and_assoc,
    exists_and_left,
    exists_eq_left, exists_const] at h
  obtain ⟨hauthorized, henabled, a, ha, hactive, challenged, n, ⟨sent, _, hchallenged, rfl, rfl⟩,
    rfl⟩ := h
  exact ⟨hauthorized, henabled, a, challenged, sent, ha, hactive, hchallenged, rfl, rfl⟩

/-- An active authenticator that is proved stays active, and ends the sign-in. -/
theorem verify_ok {caller : MfaCaller} {kind : AuthenticatorKind} {oobCode : Option String}
    {typed : String} {u : Unit} (h : Ends (verify s now caller kind oobCode typed) d (.ok u) d') :
    d.credential.unauthorized? caller now = none ∧ d.credential.mfa.isEnabled = true ∧
      ∃ a proved, d.credential.active? kind = some a ∧
        Ends (if kind = .recoveryCodes then Authenticator.consumeRecoveryCode s typed
          else Authenticator.provePossession s oobCode typed) ⟨a, d.draws⟩ (.ok ())
          ⟨proved, d'.draws⟩ ∧
        d'.credential = { d.credential with
          authenticators :=
            replaceFirst (fun a => a.kind = kind && a.isActive) proved d.credential.authenticators
          mfa := d.credential.mfa.clearToken } := by
  simp only [verify, Ends.bind_ok_iff, authorize_ok_iff, ensureMfaEnabled_ok_iff, onFirst_ok_iff,
    update_ok_iff, and_assoc, exists_and_left, exists_eq_left, exists_const] at h
  obtain ⟨hauthorized, henabled, _, _, ⟨a, ha, proved, n, hproved, rfl⟩, rfl⟩ := h
  exact ⟨hauthorized, henabled, a, proved, ha, hproved, rfl⟩

/-- An authenticator is removed, unless it is that of the recovery codes. -/
theorem disassociate_ok {caller : MfaCaller} {id : AuthenticatorId} {u : Unit}
    (h : Ends (disassociate now caller id) d (.ok u) d') :
    d.credential.unauthorized? caller now = none ∧
      ∃ a, d.credential.authenticator? id = some a ∧ a.kind ≠ .recoveryCodes ∧
        d' = { d with credential :=
          { d.credential with authenticators := removed id d.credential.authenticators } } := by
  simp only [disassociate, Ends.bind_ok_iff, authorize_ok_iff, Ends.ensure_ok_iff, current_ok_iff,
    Ends.demand_ok_iff, update_ok_iff, decide_eq_true_eq, and_assoc, exists_and_left,
    exists_eq_left,
    exists_const] at h
  obtain ⟨hauthorized, a, ha, hkind, rfl⟩ := h
  exact ⟨hauthorized, a, ha, hkind, rfl⟩

@[simp] theorem viewAuthenticators_ok_iff {caller : MfaCaller} {list : List Authenticator} :
    Ends (viewAuthenticators caller now) d (.ok list) d' ↔
      d.credential.unauthorized? caller now = none ∧ list = d.credential.authenticators ∧
      d' = d := by
  simp only [viewAuthenticators, Ends.bind_ok_iff, authorize_ok_iff, current_ok_iff, Ends.pure_iff,
    Except.ok.injEq, and_assoc, exists_and_left, exists_eq_left, exists_const]

/-! ### All operations -/

/-- Operations after which another sign-in token is outstanding, or none. -/
def Action.ReplacesToken : Action → Prop
  | .resetMfa _ => True
  | .initiateMfa => True
  | .confirm caller _ _ _ => caller.isAnonymous = true
  | .verify _ _ _ _ => True
  | _ => False

/-- What an operation gives back is made of the answer of the steps that it consists of. -/
theorem answered_as {m : CredentialM α} {f : α → Answer} {answer : Answer}
    (h : Ends (m >>= fun a => pure (f a)) d (.ok answer) d') :
    ∃ a, Ends m d (.ok a) d' ∧ answer = f a := by
  simp only [Ends.bind_ok_iff, Ends.pure_iff, Except.ok.injEq] at h
  obtain ⟨a, _, h, rfl, rfl⟩ := h
  exact ⟨a, h, rfl⟩

/-- What an operation gives back is the answer of the steps that it consists of. -/
theorem answered {m : CredentialM α} {f : α → Answer} {answer : Answer}
    (h : Ends (m >>= fun a => pure (f a)) d (.ok answer) d') : ∃ a, Ends m d (.ok a) d' :=
  let ⟨a, h, _⟩ := answered_as h
  ⟨a, h⟩

/-- What an operation makes of whose a credential is, and of its sign-in token. -/
structure Holds (action : Action) (c c' : Credential) : Prop where
  id_eq : c'.id = c.id
  userId_eq : c'.userId = c.userId
  kept : ¬action.ReplacesToken →
    c'.mfa.tokenHash = c.mfa.tokenHash ∧ c'.mfa.tokenExpiry = c.mfa.tokenExpiry
  replaced : action.ReplacesToken → action = .initiateMfa ∨ c'.mfa.tokenHash = none

/-- A credential stays that of its user, and only few operations touch its sign-in token. -/
theorem holds_perform {action : Action} {answer : Answer}
    (h : Ends (perform s now action) d (.ok answer) d') :
    Holds action d.credential d'.credential := by
  cases action with
  | setPassword password =>
    obtain ⟨_, h⟩ := answered h
    obtain ⟨_, _, _, hd'⟩ := setPassword_ok h
    rw [hd']
    exact ⟨rfl, rfl, fun _ => ⟨rfl, rfl⟩, False.elim⟩
  | hasPassword password =>
    obtain ⟨_, h⟩ := answered h
    obtain ⟨_, _, _, hd'⟩ := hasPassword_ok h
    rw [hd']
    exact ⟨rfl, rfl, fun _ => ⟨rfl, rfl⟩, False.elim⟩
  | setDetails email displayName =>
    obtain ⟨_, h⟩ := answered h
    rw [setDetails_ok_iff.1 h]
    exact ⟨rfl, rfl, fun _ => ⟨rfl, rfl⟩, False.elim⟩
  | initiateRegistration =>
    obtain ⟨_, h⟩ := answered h
    obtain ⟨_, _, _, hd'⟩ := initiateRegistration_ok h
    rw [hd']
    exact ⟨rfl, rfl, fun _ => ⟨rfl, rfl⟩, False.elim⟩
  | verifyRegistration =>
    obtain ⟨_, h⟩ := answered h
    obtain ⟨_, hd'⟩ := verifyRegistration_ok h
    rw [hd']
    exact ⟨rfl, rfl, fun _ => ⟨rfl, rfl⟩, False.elim⟩
  | changeMfa caller isEnabled =>
    obtain ⟨_, h⟩ := answered h
    obtain ⟨_, _, hd'⟩ := changeMfa_ok h
    rw [hd']
    exact ⟨rfl, rfl, fun _ => ⟨rfl, rfl⟩, False.elim⟩
  | enforceMfa caller =>
    obtain ⟨_, h⟩ := answered h
    obtain ⟨_, hd'⟩ := enforceMfa_ok h
    rw [hd']
    exact ⟨rfl, rfl, fun _ => ⟨rfl, rfl⟩, False.elim⟩
  | resetMfa caller =>
    obtain ⟨_, h⟩ := answered h
    obtain ⟨_, hd'⟩ := resetMfa_ok h
    rw [hd']
    exact ⟨rfl, rfl, fun hkept => absurd trivial hkept, fun _ => Or.inr rfl⟩
  | initiateMfa =>
    obtain ⟨_, h⟩ := answered h
    obtain ⟨_, _, _, _, hd'⟩ := initiateMfa_ok h
    rw [hd']
    exact ⟨rfl, rfl, fun hkept => absurd trivial hkept, fun _ => Or.inl rfl⟩
  | authorize caller =>
    obtain ⟨_, h⟩ := answered h
    rw [(authorize_ok_iff.1 h).2]
    exact ⟨rfl, rfl, fun _ => ⟨rfl, rfl⟩, False.elim⟩
  | viewAuthenticators caller =>
    obtain ⟨_, h⟩ := answered h
    rw [(viewAuthenticators_ok_iff.1 h).2.2]
    exact ⟨rfl, rfl, fun _ => ⟨rfl, rfl⟩, False.elim⟩
  | associate caller kind phone email profileEmail =>
    obtain ⟨_, h⟩ := answered h
    obtain ⟨_, _, _, _, _, _, _, _, _, _, hd'⟩ := associate_ok h
    rw [hd']
    exact ⟨rfl, rfl, fun _ => ⟨rfl, rfl⟩, False.elim⟩
  | confirm caller kind oobCode typed =>
    obtain ⟨_, h⟩ := answered h
    obtain ⟨_, _, _, _, _, _, _, hd'⟩ := confirm_ok h
    rw [hd']
    refine ⟨rfl, rfl, ?_, ?_⟩
    · intro (hkept : ¬caller.isAnonymous = true)
      rw [if_neg hkept]
      exact ⟨rfl, rfl⟩
    · intro (hreplaced : caller.isAnonymous = true)
      rw [if_pos hreplaced]
      exact Or.inr rfl
  | challenge caller id =>
    obtain ⟨_, h⟩ := answered h
    obtain ⟨_, _, _, _, _, _, _, _, _, hd'⟩ := challenge_ok h
    rw [hd']
    exact ⟨rfl, rfl, fun _ => ⟨rfl, rfl⟩, False.elim⟩
  | verify caller kind oobCode typed =>
    obtain ⟨_, h⟩ := answered h
    obtain ⟨_, _, _, _, _, _, hd'⟩ := verify_ok h
    rw [hd']
    exact ⟨rfl, rfl, fun hkept => absurd trivial hkept, fun _ => Or.inr rfl⟩
  | disassociate caller id =>
    obtain ⟨_, h⟩ := answered h
    obtain ⟨_, _, _, _, rfl⟩ := disassociate_ok h
    exact ⟨rfl, rfl, fun _ => ⟨rfl, rfl⟩, False.elim⟩

end TenantAuth.Credential
