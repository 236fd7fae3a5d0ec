import TenantAuth.Proofs.Codec.Base32
import TenantAuth.Proofs.Contact.Canonical
import TenantAuth.Proofs.Credential.Refusals
import TenantAuth.Proofs.Mfa.Configured

/-!
For whom an authenticator of time-based codes can be set up.

With the services of a configuration, colons alone stand in the way: one in the issuer that was
configured, or one in the address that a person registered with. Both are accepted where they are
given, and a colon in them comes to light only when an address is made for an app.
-/

namespace TenantAuth

variable {σ α β : Type}

namespace Totp

variable {issuer secret account : String} {bytes : List UInt8}

/-- A secret that was made of enough bytes is made of them. -/
theorem secretBytes_secretOfBytes (h : leastSecretSize ≤ bytes.length) :
    secretBytes (secretOfBytes bytes) = .ok bytes := by
  rw [secretBytes, secretOfBytes, Codec.Base32.decode_encode]
  exact if_neg (Nat.not_lt.2 h)

/-- Why an issuer and an account have no address: one of them, the issuer first, has a colon in
it. -/
def colonFault? (issuer account : String) : Option Fault :=
  if issuer.contains ':' then some (.colonInIssuer issuer)
  else if account.contains ':' then some (.colonInAccount account)
  else none

/-- There is an address for a secret that can be read, unless for a colon. -/
theorem address_eq (hsecret : secretBytes secret = .ok bytes) :
    ∃ uri, address issuer secret account =
    match colonFault? issuer account with
    | some fault => .error fault
    | none => .ok uri := by
  unfold address colonFault?
  rw [hsecret]
  cases hissuer : issuer.contains ':' with
  | true => exact ⟨"", rfl⟩
  | false =>
    cases haccount : account.contains ':' with
    | true => exact ⟨"", rfl⟩
    | false => exact ⟨_, rfl⟩

end Totp

/-! ### Steps that get through -/

namespace Services

variable {s : Services} {n : Draws}

/-- A service that always answers is used without a refusal. -/
theorem neverRefused_request {ε : Type} {wording : ε → String} {answer : Nat → Except ε α}
    (h : ∀ use, ∃ a, answer use = .ok a) :
    NeverRefused (nextUse >>= fun use => unexpected wording (answer use)) := by
  refine refusedOnly_bind (refusedOnly_modifyGet _) fun use => ?_
  obtain ⟨a, ha⟩ := h use
  rw [ha]
  exact refusedOnly_pure a

/-- A fault of a service is passed on. -/
theorem request_refused {ε : Type} {wording : ε → String} {answer : Nat → Except ε α} {fault : ε}
    (h : answer n.uses = .error fault) :
    Ends (nextUse >>= fun use => unexpected wording (answer use)) n
      (.error (.unexpected (wording fault))) { n with uses := n.uses + 1 } := by
  refine Ends.bind_iff.2 (Or.inl ⟨n.uses, _, Ends.modifyGet_iff.2 ⟨rfl, rfl⟩, ?_⟩)
  rw [h]
  exact Ends.throw_iff.2 ⟨rfl, rfl⟩

/-- Whatever is to be encrypted is. -/
def Encrypts (s : Services) : Prop := ∀ use text, ∃ stored, s.encrypt use text = .ok stored

theorem neverRefused_requestEncryption (hs : s.Encrypts) (text : String) :
    NeverRefused (s.requestEncryption text) :=
  neverRefused_request fun use => hs use text

end Services

namespace Authenticator

variable {s : Services}

theorem neverRefused_create (isActive : Bool) (material : Material) :
    NeverRefused (create s isActive material) :=
  refusedOnly_bind (refusedOnly_modifyGet _) fun _ => refusedOnly_pure _

theorem neverRefused_ofRecoveryCodes (hs : s.Encrypts) (codes : List String) :
    NeverRefused (ofRecoveryCodes s codes) :=
  refusedOnly_bind (Services.neverRefused_requestEncryption hs _) fun _ => neverRefused_create _ _

theorem neverRefused_ofSecret (hs : s.Encrypts) (secret uri : String) :
    NeverRefused (ofSecret s secret uri) :=
  refusedOnly_bind (Services.neverRefused_requestEncryption hs _) fun _ => neverRefused_create _ _

end Authenticator

namespace Credential

variable {s : Services} {now : Instant} {d : Desk} {account : String}

/-- Recovery codes are made where everything is encrypted. -/
theorem neverRefused_makeRecoveryCodes (hs : s.Encrypts) : NeverRefused (makeRecoveryCodes s) := by
  refine refusedOnly_bind refusedOnly_current fun c => ?_
  split
  · exact refusedOnly_pure none
  · refine refusedOnly_bind (refusedOnly_use (refusedOnly_modifyGet _)) fun codes => ?_
    refine refusedOnly_bind (refusedOnly_use (Authenticator.neverRefused_ofRecoveryCodes hs codes))
      fun made => ?_
    exact refusedOnly_bind (refusedOnly_update _) fun _ => refusedOnly_pure _

/-- An authenticator of time-based codes is made if there is an address for the secret that is
drawn. -/
theorem neverRefused_makeTotp (hs : s.Encrypts)
    (haddress : ∀ use draw, ∃ uri, s.barcodeUri use (s.otpSecret draw) account = .ok uri)
    (codes : Option (List String)) : NeverRefused (makeTotp s account codes) := by
  intro d fault d' h
  rw [makeTotp, Services.drawOtpSecret, draw_bind_iff] at h
  have haddressed : NeverRefused (s.requestBarcodeUri (s.otpSecret d.draws.otpSecrets) account) :=
    Services.neverRefused_request fun use => haddress use _
  refine refusedOnly_bind (refusedOnly_use haddressed) (fun uri => ?_) _ _ _ h
  exact refusedOnly_bind (refusedOnly_use (Authenticator.neverRefused_ofSecret hs _ uri)) fun _ =>
    refusedOnly_pure _

/-- It is not made if there is none. -/
theorem makeTotp_refused {fault : Totp.Fault}
    (haddress : ∀ use draw, s.barcodeUri use (s.otpSecret draw) account = .error fault)
    (codes : Option (List String)) (d : Desk) :
    ∃ d', Ends (makeTotp s account codes) d (.error (.unexpected fault.message)) d' := by
  rw [makeTotp, Services.drawOtpSecret]
  have hrequest : Ends (s.requestBarcodeUri (s.otpSecret d.draws.otpSecrets) account)
      { d.draws with otpSecrets := d.draws.otpSecrets + 1 }
      (.error (.unexpected fault.message)) _ :=
    Services.request_refused (haddress _ _)
  exact ⟨_, draw_bind_iff.2 (Ends.bind_iff.2 (Or.inr ⟨_, use_iff.2 ⟨_, hrequest, rfl⟩, rfl⟩))⟩

/-- Once all was checked and the recovery codes are made, it is left to make the authenticator and
to add it. -/
theorem addTotp_ends {address : EmailAddress} (hs : s.Encrypts)
    (hnamed : d.credential.username = some address) (profileEmail : Option EmailAddress) :
    ∃ codes d₁, ∀ r d', Ends (do
        let association ← makeTotp s address.text codes
        update fun c => { c with authenticators := c.authenticators ++ [association.authenticator] }
        return association) d₁ r d' → Ends (addReachedAt s .totp profileEmail none) d r d' := by
  obtain ⟨codes, d₁, hmade⟩ := (neverRefused_makeRecoveryCodes hs).answers
    { d with credential :=
        { d.credential with authenticators := staying .totp d.credential.authenticators } }
  -- Making recovery codes leaves the name alone, and with it the label of the account.
  have hlabel : d₁.credential.accountLabel profileEmail = address.text := by
    rw [leaves_makeRecoveryCodes hmade, accountLabel, hnamed]
    rfl
  refine ⟨codes, d₁, fun r d' h => ?_⟩
  rw [addReachedAt, update_bind_iff]
  refine Ends.bind_iff.2 (Or.inl ⟨codes, d₁, hmade, ?_⟩)
  refine current_bind_iff.2 ?_
  rw [hlabel]
  exact h

/-- Whoever is authorized for a verified credential that asks for the second factor may add the
first authenticator of time-based codes. -/
theorem admitAdding_totp {caller : MfaCaller}
    (hauthorized : d.credential.unauthorized? caller now = none)
    (hverified : d.credential.isVerified = true) (henabled : d.credential.mfa.isEnabled = true)
    (hinactive : d.credential.active? .totp = none) (phone : Option PhoneNumber)
    (email profileEmail : Option EmailAddress) :
    Ends (admitAdding now caller .totp phone email profileEmail) d (.ok none) d := by
  simp only [admitAdding, Ends.bind_ok_iff, authorize_ok_iff, current_ok_iff, Ends.ensure_ok_iff,
    ensureMfaEnabled_ok_iff, Ends.liftExcept_ok_iff, decide_eq_true_eq,
    Option.isNone_iff_eq_none, and_assoc,
    exists_and_left, exists_eq_left, exists_const]
  exact ⟨hauthorized, hverified, henabled, by decide, hinactive, rfl, trivial⟩

end Credential

/-! ### The services of a configuration -/

namespace Services

variable {s : Services} {config : MfaConfig} {random : RandomSource} {clock : Nat → Nat}
  {account : String}

/-- The services of a configuration encrypt whatever they are to. -/
theorem encrypts_of_config (h : ofConfig config random clock = .ok s) : s.Encrypts := by
  obtain ⟨key, lifetime, _, _, rfl⟩ := eq_of_ofConfig h
  exact fun use text => ⟨_, rfl⟩

/-- A secret that is drawn is long enough. -/
theorem secretBytes_otpSecret (h : ofConfig config random clock = .ok s) (draw : Nat) :
    ∃ bytes, Totp.secretBytes (s.otpSecret draw) = .ok bytes := by
  obtain ⟨key, lifetime, _, _, rfl⟩ := eq_of_ofConfig h
  refine ⟨random.bytes .otpSecret draw Totp.secretSize, Totp.secretBytes_secretOfBytes ?_⟩
  rw [RandomSource.length_bytes]
  decide

/-- They make an address for an app, unless there is a colon in the issuer or in the account. -/
theorem barcodeUri_eq (h : ofConfig config random clock = .ok s) (use draw : Nat) :
    ∃ uri, s.barcodeUri use (s.otpSecret draw) account =
      match Totp.colonFault? config.issuer account with
      | some fault => .error fault
      | none => .ok uri := by
  obtain ⟨bytes, hsecret⟩ := secretBytes_otpSecret h draw
  obtain ⟨key, lifetime, _, _, rfl⟩ := eq_of_ofConfig h
  exact Totp.address_eq hsecret

end Services

namespace Credential

variable {s : Services} {now : Instant} {d : Desk} {caller : MfaCaller} {phone : Option PhoneNumber}
  {email profileEmail : Option EmailAddress} {config : MfaConfig} {random : RandomSource}
  {clock : Nat → Nat} {typed : String} {address : EmailAddress}

/-- Whoever is authorized can add an authenticator of time-based codes to a verified credential that
asks for the second factor and has none yet, unless there is a colon in the issuer that was
configured or in the address that was typed when registering. Otherwise a fault comes to light that
was not expected, and that names the colon. -/
theorem enrols_unless_colon (hconfig : Services.ofConfig config random clock = .ok s)
    (htyped : EmailAddress.parse typed = .ok address)
    (hnamed : d.credential.username = some address)
    (hauthorized : d.credential.unauthorized? caller now = none)
    (hverified : d.credential.isVerified = true) (henabled : d.credential.mfa.isEnabled = true)
    (hinactive : d.credential.active? .totp = none) :
    (config.issuer.contains ':' = false → typed.contains ':' = false → ∃ association d',
        Ends (associate s now caller .totp phone email profileEmail) d (.ok association) d') ∧
      (config.issuer.contains ':' = true → ∃ d',
        Ends (associate s now caller .totp phone email profileEmail) d
        (.error (.unexpected (Totp.Fault.colonInIssuer config.issuer).message)) d') ∧
      (config.issuer.contains ':' = false → typed.contains ':' = true → ∃ d',
        Ends (associate s now caller .totp phone email profileEmail) d
          (.error (.unexpected (Totp.Fault.colonInAccount address.text).message)) d') := by
  have hencrypts := Services.encrypts_of_config hconfig
  have hadmitted :=
    admitAdding_totp hauthorized hverified henabled hinactive phone email profileEmail
  obtain ⟨codes, d₁, hlast⟩ := addTotp_ends hencrypts hnamed profileEmail
  have hrefused (fault : Totp.Fault)
      (hcolon : Totp.colonFault? config.issuer address.text = some fault) :
      ∃ d', Ends (associate s now caller .totp phone email profileEmail) d
        (.error (.unexpected fault.message)) d' := by
    have haddress (use draw : Nat) :
        s.barcodeUri use (s.otpSecret draw) address.text = .error fault := by
      obtain ⟨uri, huri⟩ := Services.barcodeUri_eq hconfig use draw
      rw [huri, hcolon]
    obtain ⟨d', h⟩ := makeTotp_refused haddress codes d₁
    rw [associate_eq]
    exact ⟨d', Ends.bind_iff.2
      (Or.inl ⟨_, _, hadmitted, hlast _ _ (Ends.bind_iff.2 (Or.inr ⟨_, h, rfl⟩))⟩)⟩
  have hcolons : address.text.contains ':' = typed.contains ':' :=
    EmailAddress.contains_colon htyped
  refine ⟨fun hissuer haccount => ?_, fun hissuer => hrefused _ ?_, fun hissuer haccount =>
    hrefused _ ?_⟩
  · have hnone : Totp.colonFault? config.issuer address.text = none := by
      rw [Totp.colonFault?, hissuer, hcolons, haccount]
      rfl
    have haddress (use draw : Nat) :
        ∃ uri, s.barcodeUri use (s.otpSecret draw) address.text = .ok uri := by
      obtain ⟨uri, huri⟩ := Services.barcodeUri_eq hconfig use draw
      exact ⟨uri, by rw [huri, hnone]⟩
    obtain ⟨association, d₂, h⟩ := (neverRefused_makeTotp hencrypts haddress codes).answers d₁
    rw [associate_eq]
    exact ⟨association, _, Ends.bind_ok_iff.2 ⟨_, _, hadmitted, hlast _ _ (Ends.bind_ok_iff.2
      ⟨association, d₂, h, update_bind_iff.2 (Ends.pure_iff.2 ⟨rfl, rfl⟩)⟩)⟩⟩
  · rw [Totp.colonFault?, if_pos hissuer]
  · rw [Totp.colonFault?, hissuer, hcolons, haccount]
    rfl

/-- A configuration of which only the key was given. -/
def keyOnly : MfaConfig :=
  ⟨MfaConfig.defaultIssuer, "000102030405060708090a0b0c0d0e0f101112131415161718191a1b1c1d1e1f",
    MfaConfig.defaultSteps, MfaConfig.defaultLifetimeSeconds⟩

/-- A credential without authenticators that was registered under some address. -/
def bareNamed (address : EmailAddress) : Desk :=
  { sampleBare with credential := { sampleBare.credential with username := some address } }

theorem enrols_unless_colon_sample :
    keyOnly.Accepted ∧ ∃ s, Services.ofConfig keyOnly ⟨fun _ _ _ => 0⟩ (fun _ => 0) = .ok s ∧
      (∃ association d', Ends (associate s ⟨2, 0⟩ (.authenticated ⟨⟨1#128⟩⟩) .totp none none none)
        (bareNamed ⟨"ann@example.com"⟩) (.ok association) d') ∧
      ∃ d', Ends (associate s ⟨2, 0⟩ (.authenticated ⟨⟨1#128⟩⟩) .totp none none none)
        (bareNamed ⟨"ops:ann@example.com"⟩)
        (.error (.unexpected (Totp.Fault.colonInAccount "ops:ann@example.com").message)) d' := by
  have haccepted : keyOnly.Accepted :=
    .ofDraft (rfl : MfaConfig.ofDraft ⟨none, some keyOnly.key, none, none⟩ = .ok keyOnly)
  have hread : (Services.ofConfig keyOnly ⟨fun _ _ _ => 0⟩ fun _ => 0).isOk = true := by
    decide +kernel
  obtain ⟨s, hs⟩ : ∃ s, Services.ofConfig keyOnly ⟨fun _ _ _ => 0⟩ (fun _ => 0) = .ok s := by
    cases hservices : Services.ofConfig keyOnly ⟨fun _ _ _ => 0⟩ fun _ => 0 with
    | error fault => rw [hservices] at hread; cases hread
    | ok s => exact ⟨s, rfl⟩
  have hplain : EmailAddress.parse "Ann@example.com" = .ok ⟨"ann@example.com"⟩ := rfl
  have hcolon : EmailAddress.parse "Ops:Ann@example.com" = .ok ⟨"ops:ann@example.com"⟩ := rfl
  have hauthorized : sampleBare.credential.unauthorized? (.authenticated ⟨⟨1#128⟩⟩) ⟨2, 0⟩ =
    none := by decide +kernel
  have hverified : sampleBare.credential.isVerified = true := by decide +kernel
  have henabled : sampleBare.credential.mfa.isEnabled = true := by decide +kernel
  have hinactive : sampleBare.credential.active? .totp = none := by decide +kernel
  have hnamed (address : EmailAddress) : (bareNamed address).credential.username = some address :=
    rfl
  have hissuer : keyOnly.issuer.contains ':' = false := by rw [String.contains_char_eq]; decide
  have hplainTyped :
    "Ann@example.com".contains ':' = false := by rw [String.contains_char_eq]; decide
  have hcolonTyped :
    "Ops:Ann@example.com".contains ':' = true := by rw [String.contains_char_eq]; decide
  refine ⟨haccepted, s, hs, ?_, ?_⟩
  · exact (enrols_unless_colon hs hplain (hnamed _) hauthorized hverified henabled hinactive).1
      hissuer hplainTyped
  · exact (enrols_unless_colon hs hcolon (hnamed _) hauthorized hverified henabled hinactive).2.2
      hissuer hcolonTyped

end Credential

end TenantAuth
