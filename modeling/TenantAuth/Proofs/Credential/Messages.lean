import TenantAuth.Proofs.Credential.Effects

/-!
What is sent when an authenticator is added or challenged.

A message goes to the contact of an authenticator, and carries the secret that answers the challenge
which that authenticator has outstanding from then on.
-/

namespace TenantAuth

variable {s : Services} {n n' : Draws}

/-- A message carries the secret of the challenge that an authenticator has outstanding. -/
def Authenticator.IsSent (s : Services) (a : Authenticator) (message : Notification) : Prop :=
  ∃ code stored use, a.material = .outOfBand message.contact (some ⟨code, stored⟩) ∧
    s.encrypt use message.secret = .ok stored

/-- A challenge is sent to the authenticator that has it outstanding, and shown by its code. -/
theorem Authenticator.sent_of_rechallenge {a a' : Authenticator}
    {sent : Option (String × Notification)} (h : Ends (rechallenge s) ⟨a, n⟩ (.ok sent) ⟨a', n'⟩) :
    a'.kind = a.kind ∧ sent.map Prod.fst = a'.oobCode? ∧
      ∀ message ∈ (sent.map Prod.snd).toList, a'.IsSent s message := by
  rcases rechallenge_ok h with
    ⟨contact, _, _, _, stored, _, hmade, hstored, rfl, rfl⟩ | ⟨hkind, rfl, rfl⟩
  · refine ⟨by rw [kind, kind, hmade]; rfl, rfl, fun message hmessage => ?_⟩
    obtain rfl := List.mem_singleton.1 hmessage
    exact ⟨_, stored, _, rfl, hstored⟩
  · refine ⟨rfl, ?_, fun _ hmessage => absurd hmessage List.not_mem_nil⟩
    rw [oobCode?, challenge?]
    cases hmade : a'.material with
    | outOfBand contact challenge =>
      rw [kind, hmade] at hkind
      cases contact <;> cases hkind
    | recoveryCodes | totp => rfl

namespace Credential

variable {now : Instant} {d d' : Desk}

/-- An authenticator that is reached out-of-band is sent its first challenge. -/
theorem sent_of_makeOutOfBand {contact : Contact} {codes : Option (List String)}
    {outcome : Association} (h : Ends (makeOutOfBand s contact codes) d (.ok outcome) d') :
    ∀ message ∈ outcome.notifications, outcome.authenticator.IsSent s message := by
  simp only [makeOutOfBand, Services.drawOobCode, Services.drawOobSecret,
    Ends.bind_ok_iff, use_ok_iff, Ends.modifyGet_iff, Ends.pure_iff, Except.ok.injEq] at h
  obtain ⟨_, _, ⟨_, ⟨rfl, rfl⟩, rfl⟩, _, _, ⟨_, ⟨rfl, rfl⟩, rfl⟩, a, _, ⟨_, hmade, rfl⟩,
    rfl, rfl⟩ := h
  obtain ⟨stored, hstored, rfl, _⟩ := Authenticator.ofContact_ok hmade
  intro message hmessage
  obtain rfl := List.mem_singleton.1 hmessage
  exact ⟨_, stored, _, rfl, hstored⟩

/-- Nothing is sent for time-based codes. -/
theorem sent_of_makeTotp {account : String} {codes : Option (List String)} {outcome : Association}
    (h : Ends (makeTotp s account codes) d (.ok outcome) d') : outcome.notifications = [] := by
  simp only [makeTotp, Ends.bind_ok_iff, Ends.pure_iff, Except.ok.injEq] at h
  obtain ⟨_, _, _, _, _, _, _, _, _, rfl, _⟩ := h
  rfl

/-- What is sent when an authenticator is added is sent to it. -/
theorem sent_of_associate {caller : MfaCaller} {kind : AuthenticatorKind}
    {phone : Option PhoneNumber} {email profileEmail : Option EmailAddress} {outcome : Association}
    (h : Ends (associate s now caller kind phone email profileEmail) d (.ok outcome) d') :
    ∀ message ∈ outcome.notifications, outcome.authenticator.IsSent s message := by
  simp only [associate, Ends.bind_ok_iff, authorize_ok_iff, current_ok_iff, Ends.ensure_ok_iff,
    ensureMfaEnabled_ok_iff, Ends.liftExcept_ok_iff, update_ok_iff, and_assoc, exists_and_left,
    exists_eq_left,
    exists_const] at h
  obtain ⟨_, _, _, _, _, contact, _, codes, _, _, h⟩ := h
  cases contact with
  | none =>
    simp only [Ends.bind_ok_iff, current_ok_iff, update_ok_iff, Ends.pure_iff,
      Except.ok.injEq, and_assoc, exists_and_left, exists_eq_left, exists_const] at h
    obtain ⟨_, _, hmade, rfl, _⟩ := h
    rw [sent_of_makeTotp hmade]
    exact fun _ hmessage => absurd hmessage List.not_mem_nil
  | some contact =>
    simp only [Ends.bind_ok_iff, update_ok_iff, Ends.pure_iff, Except.ok.injEq, exists_and_left,
      exists_eq_left, exists_const] at h
    obtain ⟨_, _, hmade, rfl, _⟩ := h
    exact sent_of_makeOutOfBand hmade

end Credential

end TenantAuth
