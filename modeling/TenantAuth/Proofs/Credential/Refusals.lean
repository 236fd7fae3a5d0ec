import TenantAuth.Proofs.Credential.RecoveryCodes

/-!
What an operation leaves behind when it is refused.

An operation looks at the credential and uses services first, and changes the credential at its end,
in one step that cannot be refused. So one that is refused leaves the credential as it was, even
where a service fails half-way.

Only adding an authenticator is different. Before the new one is made, a pending one of its kind is
left out and recovery codes are added if there are none. If a service fails then, this stays. The
recovery codes that stay were shown to nobody, and they are not shown later either.
-/

namespace TenantAuth

variable {s : Services} {now : Instant} {σ α β : Type}

instance decidableEqExcept {ε : Type} [DecidableEq ε] [DecidableEq α] : DecidableEq (Except ε α)
  | .error e, .error e' => decidable_of_iff (e = e') ⟨congrArg Except.error, Except.error.inj⟩
  | .ok a, .ok a' => decidable_of_iff (a = a') ⟨congrArg Except.ok, Except.ok.inj⟩
  | .error _, .ok _ => isFalse nofun
  | .ok _, .error _ => isFalse nofun

/-! ### Refusals by services -/

/-- Steps are refused only because a service failed, which was not expected. -/
abbrev OnlyServicesRefuse (m : ExceptT Fault (StateM σ) α) : Prop :=
  RefusedOnly (fun fault => ∃ cause, fault = .unexpected cause) m

@[simp] theorem onlyServicesRefuse_unexpected {ε : Type} (wording : ε → String) (x : Except ε α) :
    OnlyServicesRefuse (unexpected wording x : ExceptT Fault (StateM σ) α) := by
  intro st fault st' h
  cases x with
  | ok a => cases (Ends.pure_iff.1 h).1
  | error e => exact ⟨wording e, Except.error.inj (Ends.throw_iff.1 h).1⟩

namespace Services

theorem onlyServicesRefuse_request {ε : Type} {wording : ε → String} {answer : Nat → Except ε α} :
    OnlyServicesRefuse (nextUse >>= fun use => unexpected wording (answer use)) :=
  refusedOnly_bind (refusedOnly_modifyGet _) fun _ => onlyServicesRefuse_unexpected _ _

@[simp] theorem onlyServicesRefuse_requestBarcodeUri (secret account : String) :
    OnlyServicesRefuse (s.requestBarcodeUri secret account) :=
  onlyServicesRefuse_request

@[simp] theorem onlyServicesRefuse_requestEncryption (text : String) :
    OnlyServicesRefuse (s.requestEncryption text) :=
  onlyServicesRefuse_request

@[simp] theorem onlyServicesRefuse_drawAuthenticatorId : OnlyServicesRefuse s.drawAuthenticatorId :=
  refusedOnly_modifyGet _

@[simp] theorem onlyServicesRefuse_drawOtpSecret : OnlyServicesRefuse s.drawOtpSecret :=
  refusedOnly_modifyGet _

@[simp] theorem onlyServicesRefuse_drawOobCode : OnlyServicesRefuse s.drawOobCode :=
  refusedOnly_modifyGet _

@[simp] theorem onlyServicesRefuse_drawOobSecret : OnlyServicesRefuse s.drawOobSecret :=
  refusedOnly_modifyGet _

@[simp] theorem onlyServicesRefuse_drawRecoveryCodes : OnlyServicesRefuse s.drawRecoveryCodes :=
  refusedOnly_modifyGet _

end Services

namespace Authenticator

theorem ofRecoveryCodes_refused {codes : List String} {n n' : Draws} {fault : Fault}
    (h : Ends (ofRecoveryCodes s codes) n (.error fault) n') :
    ∃ e, s.encrypt n.uses (RecoveryCode.join codes) = .error e := by
  cases hstored : s.encrypt n.uses (RecoveryCode.join codes) with
  | error e => exact ⟨e, rfl⟩
  | ok stored =>
    have hmade : Ends (ofRecoveryCodes s codes) n
        (.ok ⟨s.authenticatorId n.authenticatorIds, true, none, .recoveryCodes stored⟩)
        { n with uses := n.uses + 1, authenticatorIds := n.authenticatorIds + 1 } :=
      Ends.bind_ok_iff.2 ⟨stored, _, Services.requestEncryption_ok_iff.2 ⟨hstored, rfl⟩,
        create_ok_iff.2 ⟨rfl, rfl⟩⟩
    cases (Ends.unique h hmade).1

@[simp] theorem onlyServicesRefuse_ofRecoveryCodes (codes : List String) :
    OnlyServicesRefuse (ofRecoveryCodes s codes) := by
  simp [ofRecoveryCodes, create]

@[simp] theorem onlyServicesRefuse_ofSecret (secret uri : String) :
    OnlyServicesRefuse (ofSecret s secret uri) := by
  simp [ofSecret, create]

@[simp] theorem onlyServicesRefuse_ofContact (contact : Contact) (code secret : String) :
    OnlyServicesRefuse (ofContact s contact code secret) := by
  simp [ofContact, create]

end Authenticator

namespace Credential

variable {d d' : Desk} {m : CredentialM α} {k : α → CredentialM β} {fault : Fault}

@[simp] theorem refusedOnly_use {reason : Fault → Prop} {step : ServiceM α}
    (h : RefusedOnly reason step) : RefusedOnly reason (use step) := by
  intro d fault d' hrun
  obtain ⟨n, hstep, _⟩ := use_iff.1 hrun
  exact h _ _ _ hstep

@[simp] theorem refusedOnly_current {reason : Fault → Prop} : RefusedOnly reason current :=
    fun _ _ _ => nofun

@[simp] theorem refusedOnly_update {reason : Fault → Prop} (f : Credential → Credential) :
    RefusedOnly reason (update f) :=
  fun _ _ _ => nofun

theorem current_bind_iff {k : Credential → CredentialM β} {r : Except Fault β} :
    Ends (current >>= k) d r d' ↔ Ends (k d.credential) d r d' :=
  Iff.rfl

theorem update_bind_iff {f : Credential → Credential} {k : Unit → CredentialM β}
    {r : Except Fault β} :
    Ends (update f >>= k) d r d' ↔ Ends (k ()) { d with credential := f d.credential } r d' :=
  Iff.rfl

theorem draw_bind_iff {f : Draws → α × Draws} {k : α → CredentialM β} {r : Except Fault β} :
    Ends (use (modifyGet f) >>= k) d r d' ↔
      Ends (k (f d.draws).1) ⟨d.credential, (f d.draws).2⟩ r d' :=
  Iff.rfl

/-! ### Looking first, changing last -/

@[simp] theorem looks_current : Looks Desk.credential current := by
  intro d r d' h
  rw [show d' = d from (congrArg Prod.snd h).symm]
  exact rfl

@[simp] theorem looks_use (step : ServiceM α) : Looks Desk.credential (use step) := by
  intro d r d' h
  obtain ⟨n, _, rfl⟩ := use_iff.1 h
  exact rfl

@[simp] theorem looks_authorize (caller : MfaCaller) :
    Looks Desk.credential (authorize caller now) := by
  refine moves_bind looks_current fun c => ?_
  split <;> simp

@[simp] theorem looks_ensureMfaEnabled :
    Looks Desk.credential ensureMfaEnabled := by simp [ensureMfaEnabled]

/-- A change is not refused. -/
theorem allOrNothing_update (f : Credential → Credential) :
    AllOrNothing Desk.credential (update f) :=
  NeverRefused.allOrNothing (refusedOnly_update f)

/-- What is put in its own place changes nothing. -/
theorem replaceFirst_self {condition : Authenticator → Bool} {a : Authenticator}
    {list : List Authenticator} (hfind : list.find? condition = some a) :
    replaceFirst condition a list = list := by
  induction list with
  | nil => rfl
  | cons first rest ih =>
    rw [List.find?_cons] at hfind
    rw [replaceFirst]
    cases hfirst : condition first with
    | true =>
      rw [hfirst] at hfind
      rw [← Option.some.inj hfind]
      rfl
    | false =>
      rw [hfirst] at hfind
      exact congrArg (first :: ·) (ih hfind)

/-- What leaves an authenticator as it was leaves the credential as it was. -/
theorem allOrNothing_onFirst {condition : Authenticator → Bool} {missing : Fault}
    {steps : AuthenticatorM α} (h : AllOrNothing Held.authenticator steps) :
    AllOrNothing Desk.credential (onFirst condition missing steps) := by
  intro d fault d' hrun
  cases ha : d.credential.authenticators.find? condition with
  | none => rw [((onFirst_iff_of_none ha).1 hrun).2]
  | some a =>
    obtain ⟨b, n, hsteps, rfl⟩ := (onFirst_iff_of_find? ha).1 hrun
    obtain rfl : b = a := h _ _ _ hsteps
    rw [replaceFirst_self ha]

/-! ### Adding an authenticator -/

/-- Steps change nothing, and are refused for a reason of their own and not because a service
failed. -/
def Checks (m : CredentialM α) : Prop :=
  ∀ d r d', Ends m d r d' → d' = d ∧ ∀ cause, r ≠ .error (.unexpected cause)

theorem checks_pure (a : α) : Checks (pure a : CredentialM α) := by
  intro d r d' h
  obtain ⟨rfl, rfl⟩ := Ends.pure_iff.1 h
  exact ⟨rfl, nofun⟩

theorem checks_bind (hm : Checks m) (hk : ∀ a, Checks (k a)) : Checks (m >>= k) := by
  intro d r d' h
  rcases Ends.bind_iff.1 h with ⟨a, d₁, hfirst, hrest⟩ | ⟨fault, hfirst, rfl⟩
  · obtain ⟨rfl, _⟩ := hm _ _ _ hfirst
    exact hk a _ _ _ hrest
  · obtain ⟨rfl, hfault⟩ := hm _ _ _ hfirst
    exact ⟨rfl, fun cause hcause => hfault cause (congrArg Except.error (Except.error.inj hcause))⟩

theorem checks_current : Checks current := by
  intro d r d' h
  obtain ⟨rfl, rfl⟩ := Prod.mk.inj h
  exact ⟨rfl, nofun⟩

theorem checks_throw (hfault : ∀ cause, fault ≠ .unexpected cause) :
    Checks (throw fault : CredentialM α) := by
  intro d r d' h
  obtain ⟨rfl, rfl⟩ := Ends.throw_iff.1 h
  exact ⟨rfl, fun cause hcause => hfault cause (Except.error.inj hcause)⟩

theorem checks_ensure {c : Bool} (hfault : ∀ cause, fault ≠ .unexpected cause) :
    Checks (ensure c fault : CredentialM Unit) := by
  unfold ensure
  split
  · exact checks_pure ()
  · exact checks_throw hfault

theorem checks_liftExcept {x : Except Fault α} (hx : ∀ cause, x ≠ .error (.unexpected cause)) :
    Checks (liftExcept x : CredentialM α) := by
  cases x with
  | ok a => exact checks_pure a
  | error fault => exact checks_throw fun cause hcause => hx cause (congrArg Except.error hcause)

theorem checks_authorize (caller : MfaCaller) : Checks (authorize caller now) := by
  refine checks_bind checks_current fun c => ?_
  split
  · rename_i fault hfault
    refine checks_throw ?_
    rintro cause rfl
    simp only [unauthorized?, tokenNotValid] at hfault
    split at hfault
    · cases hfault
    · split at hfault <;> cases hfault
  · exact checks_pure ()

/-- What adding an authenticator checks before it changes anything; where it is to be reached comes
of it. -/
def admitAdding (now : Instant) (caller : MfaCaller) (kind : AuthenticatorKind)
    (phone : Option PhoneNumber) (email profileEmail : Option EmailAddress) :
    CredentialM (Option Contact) := do
  authorize caller now
  ensure (← current).isVerified (.preconditionViolation "Registration is not verified")
  ensureMfaEnabled
  ensure (kind ≠ .recoveryCodes) (.validation "type" "recovery codes cannot be associated directly")
  ensure ((← current).active? kind).isNone
    (.preconditionViolation s!"A {kind.name} authenticator is already associated")
  liftExcept (contactFor kind phone email profileEmail)

/-- What adding an authenticator does once it has checked what it is given. -/
def addReachedAt (s : Services) (kind : AuthenticatorKind) (profileEmail : Option EmailAddress)
    (contact : Option Contact) : CredentialM Association := do
  update fun c => { c with authenticators := staying kind c.authenticators }
  let recoveryCodes ← makeRecoveryCodes s
  let association ←
    match contact with
    | none => do makeTotp s ((← current).accountLabel profileEmail) recoveryCodes
    | some contact => makeOutOfBand s contact recoveryCodes
  update fun c => { c with authenticators := c.authenticators ++ [association.authenticator] }
  return association

/-- Adding an authenticator is checking first and changing then. -/
theorem associate_eq (caller : MfaCaller) (kind : AuthenticatorKind) (phone : Option PhoneNumber)
    (email profileEmail : Option EmailAddress) :
    associate s now caller kind phone email profileEmail =
      admitAdding now caller kind phone email profileEmail >>=
      addReachedAt s kind profileEmail := by
  simp only [admitAdding, bind_assoc]
  rfl

theorem admitAdding_ok {caller : MfaCaller} {kind : AuthenticatorKind} {phone : Option PhoneNumber}
    {email profileEmail : Option EmailAddress} {contact : Option Contact}
    (h : Ends (admitAdding now caller kind phone email profileEmail) d (.ok contact) d') :
    d' = d ∧ kind ≠ .recoveryCodes ∧ d.credential.active? kind = none ∧
      contactFor kind phone email profileEmail = .ok contact := by
  simp only [admitAdding, Ends.bind_ok_iff, authorize_ok_iff, current_ok_iff, Ends.ensure_ok_iff,
    ensureMfaEnabled_ok_iff, Ends.liftExcept_ok_iff, decide_eq_true_eq,
    Option.isNone_iff_eq_none, and_assoc,
    exists_and_left, exists_eq_left, exists_const] at h
  obtain ⟨_, _, _, hkind, hinactive, hcontact, rfl⟩ := h
  exact ⟨rfl, hkind, hinactive, hcontact⟩

theorem checks_admitAdding (caller : MfaCaller) (kind : AuthenticatorKind)
    (phone : Option PhoneNumber) (email profileEmail : Option EmailAddress) :
    Checks (admitAdding now caller kind phone email profileEmail) := by
  refine checks_bind (checks_authorize caller) fun _ => checks_bind checks_current fun c =>
    checks_bind (checks_ensure nofun) fun _ =>
      checks_bind (checks_bind checks_current fun _ => checks_ensure nofun) fun _ =>
        checks_bind (checks_ensure nofun) fun _ => checks_bind checks_current fun _ =>
        checks_bind (checks_ensure nofun) fun _ => checks_liftExcept ?_
  intro cause
  unfold contactFor
  split
  · split <;> nofun
  · split <;> nofun
  · nofun

/-- The recovery codes that are made before an authenticator is added: none if there are some, and
none if they cannot be encrypted. -/
def codesBefore (s : Services) (d : Desk) : List Authenticator :=
  if d.credential.recoveryCodes?.isSome then []
  else
    match s.encrypt d.draws.uses (RecoveryCode.join (s.recoveryCodes d.draws.recoveryCodes)) with
    | .ok stored =>
      [⟨s.authenticatorId d.draws.authenticatorIds, true, none, .recoveryCodes stored⟩]
    | .error _ => []

/-- Recovery codes that were made are there, and if they could not be made nothing is. -/
theorem leaves_makeRecoveryCodes {r : Except Fault (Option (List String))}
    (h : Ends (makeRecoveryCodes s) d r d') : d'.credential =
      { d.credential with authenticators := d.credential.authenticators ++ codesBefore s d } := by
  unfold makeRecoveryCodes at h
  rw [current_bind_iff] at h
  unfold codesBefore
  split at h
  · rename_i hthere
    rw [(Ends.pure_iff.1 h).2, if_pos hthere, List.append_nil]
  · rename_i hnone
    rw [if_neg hnone]
    rw [Services.drawRecoveryCodes, draw_bind_iff] at h
    rcases Ends.bind_iff.1 h with ⟨a, d₁, hused, hrest⟩ | ⟨fault, hused, _⟩
    · obtain ⟨n, hmade, rfl⟩ := use_iff.1 hused
      obtain ⟨stored, hstored, rfl, _⟩ := Authenticator.ofRecoveryCodes_ok hmade
      rw [update_bind_iff] at hrest
      rw [(Ends.pure_iff.1 hrest).2, hstored]
    · obtain ⟨n, hrefused, rfl⟩ := use_iff.1 hused
      obtain ⟨e, he⟩ := Authenticator.ofRecoveryCodes_refused hrefused
      rw [he, List.append_nil]

@[simp] theorem looks_makeTotp (account : String) (codes : Option (List String)) :
    Looks Desk.credential (makeTotp s account codes) := by
  refine moves_bind (by simp) fun secret => moves_bind (by simp) fun uri => ?_
  simp

@[simp] theorem looks_makeOutOfBand (contact : Contact) (codes : Option (List String)) :
    Looks Desk.credential (makeOutOfBand s contact codes) := by
  refine moves_bind (by simp) fun code => moves_bind (by simp) fun secret => ?_
  simp

@[simp] theorem onlyServicesRefuse_makeRecoveryCodes :
    OnlyServicesRefuse (makeRecoveryCodes s) := by
  refine refusedOnly_bind (by simp) fun c => ?_
  split
  · simp
  · refine refusedOnly_bind (by simp) fun codes => refusedOnly_bind (by simp) fun a => ?_
    simp

@[simp] theorem onlyServicesRefuse_makeTotp (account : String) (codes : Option (List String)) :
    OnlyServicesRefuse (makeTotp s account codes) := by
  refine refusedOnly_bind (by simp) fun secret => refusedOnly_bind (by simp) fun uri => ?_
  simp

@[simp] theorem onlyServicesRefuse_makeOutOfBand (contact : Contact)
    (codes : Option (List String)) : OnlyServicesRefuse (makeOutOfBand s contact codes) := by
  refine refusedOnly_bind (by simp) fun code => refusedOnly_bind (by simp) fun secret => ?_
  simp

/-- Once all was checked, only a service that fails is in the way of adding an authenticator. -/
theorem onlyServicesRefuse_addReachedAt (kind : AuthenticatorKind)
    (profileEmail : Option EmailAddress) (contact : Option Contact) :
    OnlyServicesRefuse (addReachedAt s kind profileEmail contact) := by
  refine refusedOnly_bind (by simp) fun _ => refusedOnly_bind (by simp) fun codes => ?_
  cases contact with
  | none =>
    refine refusedOnly_bind (by simp) fun c => ?_
    simp
  | some contact => simp

/-- What is left where adding an authenticator is refused. -/
inductive LeftBehind (s : Services) (kind : AuthenticatorKind) (d : Desk) (fault : Fault)
    (d' : Desk) : Prop
  | nothing (expected : ∀ cause, fault ≠ .unexpected cause) (desk_eq : d' = d)
  | halfway (cause : String) (fault_eq : fault = .unexpected cause)
      (inactive : d.credential.active? kind = none) (kind_ne : kind ≠ .recoveryCodes)
      (credential_eq : d'.credential = { d.credential with
        authenticators := staying kind d.credential.authenticators ++ codesBefore s d }) :
      LeftBehind s kind d fault d'

/-- Adding an authenticator is refused by a check, before anything was changed, or because a service
failed, after a pending authenticator was left out and recovery codes were made. -/
theorem associate_refused {caller : MfaCaller} {kind : AuthenticatorKind}
    {phone : Option PhoneNumber} {email profileEmail : Option EmailAddress}
    (h : Ends (associate s now caller kind phone email profileEmail) d (.error fault) d') :
    LeftBehind s kind d fault d' := by
  rw [associate_eq] at h
  rcases Ends.bind_error_iff.1 h with hchecked | ⟨contact, d₁, hadmitted, hfailed⟩
  · obtain ⟨rfl, hexpected⟩ := checks_admitAdding _ _ _ _ _ _ _ _ hchecked
    exact .nothing (fun cause hcause => hexpected cause (congrArg Except.error hcause)) rfl
  · obtain ⟨rfl, hkind, hinactive, _⟩ := admitAdding_ok hadmitted
    obtain ⟨cause, rfl⟩ := onlyServicesRefuse_addReachedAt _ _ _ _ _ _ hfailed
    refine .halfway cause rfl hinactive hkind ?_
    unfold addReachedAt at hfailed
    rw [update_bind_iff] at hfailed
    have hcodes : codesBefore s { d₁ with credential :=
        { d₁.credential with authenticators := staying kind d₁.credential.authenticators } } =
            codesBefore s d₁ := by
      simp only [codesBefore, recoveryCodes?_staying hkind]
    rcases Ends.bind_error_iff.1 hfailed with hmaking | ⟨codes, d₂, hmade, hrest⟩
    · rw [leaves_makeRecoveryCodes hmaking, hcodes]
    · have hsame : d'.credential = d₂.credential := by
        cases contact with
        | none =>
          refine Looks.then looks_current
            (fun c => Looks.then (looks_makeTotp _ _) fun association => ?_) _ _ _ hrest
          exact (allOrNothing_update _).answer _
        | some contact =>
          refine Looks.then (looks_makeOutOfBand _ _) (fun association => ?_) _ _ _ hrest
          exact (allOrNothing_update _).answer _
      rw [hsame, leaves_makeRecoveryCodes hmade, hcodes]

/-- Recovery codes that are made are active, and there were none before. -/
theorem codesBefore_spec {codes : Authenticator} (h : codes ∈ codesBefore s d) :
    d.credential.recoveryCodes? = none ∧ codesBefore s d = [codes] ∧
      codes.kind = .recoveryCodes := by
  unfold codesBefore at h ⊢
  split at h
  · cases h
  · rename_i hnone
    rw [if_neg hnone]
    split at h
    · rename_i stored hstored
      obtain rfl := List.mem_singleton.1 h
      exact ⟨by simpa using hnone, rfl, rfl⟩
    · cases h

/-- The list stays as it is only if nothing is left out and nothing is made. -/
theorem staying_append_codesBefore_iff {kind : AuthenticatorKind} :
    staying kind d.credential.authenticators ++ codesBefore s d = d.credential.authenticators ↔
      d.credential.pending? kind = none ∧ codesBefore s d = [] := by
  constructor
  · intro h
    have hmade : codesBefore s d = [] := by
      refine List.eq_nil_iff_forall_not_mem.2 fun codes hcodes => ?_
      obtain ⟨hnone, _, hkind⟩ := codesBefore_spec hcodes
      have hthere : codes ∈ d.credential.authenticators := h ▸ List.mem_append_right _ hcodes
      exact List.find?_eq_none.1 hnone codes hthere (by simpa using hkind)
    rw [hmade, List.append_nil, staying, List.filter_eq_self] at h
    exact ⟨List.find?_eq_none.2 fun a ha => by simpa [Decidable.imp_iff_not_or] using h a ha, hmade⟩
  · rintro ⟨hnone, hmade⟩
    rw [hmade, List.append_nil, staying, List.filter_eq_self]
    intro a ha
    simpa [Decidable.imp_iff_not_or] using List.find?_eq_none.1 hnone a ha

/-- What goes through leaves a desk behind. -/
theorem Goes.run_eq {action : Action} {answer : Answer} (h : Goes s d (now, action) answer) :
    run s now action d = (.ok answer, (run s now action d).2) :=
  Prod.ext h rfl

/-- Where recovery codes are there, none are shown when an authenticator is added. -/
theorem shown_eq_none {caller : MfaCaller} {kind : AuthenticatorKind} {phone : Option PhoneNumber}
    {email profileEmail : Option EmailAddress} {outcome : Association}
    (hthere : d.credential.recoveryCodes?.isSome = true)
    (h : Goes s d (now, .associate caller kind phone email profileEmail) (.association outcome)) :
    outcome.recoveryCodes = none := by
  obtain ⟨_, hdone, hsame⟩ := answered_as h.run_eq
  obtain rfl := Answer.association.inj hsame
  obtain ⟨_, _, _, _, _, made, draw, hmade, _⟩ := associate_ok hdone
  rw [hthere] at hmade
  generalize outcome.recoveryCodes = shown at hmade
  cases hmade
  rfl

/-- Adding an authenticator that is refused may leave something behind. If a check refused it, all
is as it was. If a service failed, a pending authenticator of the kind is gone, and recovery codes
were made if there were none; so the credential is as it was only if there was no such authenticator
and no codes were made. Codes that were made stay, and are not shown when an authenticator is added
after all. -/
theorem leftovers_of_refused {caller : MfaCaller} {kind : AuthenticatorKind}
    {phone : Option PhoneNumber} {email profileEmail : Option EmailAddress}
    (h : run s now (.associate caller kind phone email profileEmail) d = (.error fault, d')) :
    LeftBehind s kind d fault d' ∧
      (d'.credential = d.credential ↔
        (∀ cause, fault ≠ .unexpected cause) ∨
          d.credential.pending? kind = none ∧ codesBefore s d = []) ∧
      ∀ codes ∈ codesBefore s d, (∃ cause, fault = .unexpected cause) →
        d'.credential.recoveryCodes? = some codes ∧
          ∀ now' caller' kind' phone' email' profileEmail' outcome,
            Goes s d' (now', .associate caller' kind' phone' email' profileEmail')
              (.association outcome) → outcome.recoveryCodes = none := by
  have hrefused : LeftBehind s kind d fault d' := by
    obtain ⟨e | outcome, hends, hr⟩ := Ends.bind_pure_iff.1 h
    · obtain rfl := Except.error.inj hr
      exact associate_refused hends
    · cases hr
  refine ⟨hrefused, ?_, ?_⟩
  · cases hrefused with
    | nothing expected desk_eq =>
      exact iff_of_true (congrArg Desk.credential desk_eq) (Or.inl expected)
    | halfway cause fault_eq _ _ credential_eq =>
      rw [or_iff_right (fun expected => expected cause fault_eq), ← staying_append_codesBefore_iff,
        credential_eq]
      exact ⟨congrArg Credential.authenticators, fun hsame => by rw [hsame]⟩
  · rintro codes hcodes ⟨_, hfailed⟩
    cases hrefused with
    | nothing expected _ => exact absurd hfailed (expected _)
    | halfway _ _ _ kind_ne credential_eq =>
      obtain ⟨hnone, hmade, hkind⟩ := codesBefore_spec hcodes
      have hthere : d'.credential.recoveryCodes? = some codes := by
        have hstaying := recoveryCodes?_staying (c := d.credential) kind_ne
        rw [credential_eq, hmade]
        rw [hnone, recoveryCodes?] at hstaying
        rw [recoveryCodes?, List.find?_append, hstaying, Option.none_or,
          List.find?_cons_of_pos (by simpa using hkind)]
      exact ⟨hthere, fun _ _ _ _ _ _ _ hgoes => shown_eq_none (by rw [hthere]; rfl) hgoes⟩

/-- A script by which the first out-of-band secret is not encrypted. -/
def withoutFirstSecret : Script := { Script.sample with notEncrypted := ["oobsecret1"] }

/-- A credential for which the second factor is asked, and which has none yet. -/
def sampleBare : Desk :=
    course withoutFirstSecret.services ⟨create ⟨⟨2#128⟩⟩ ⟨⟨1#128⟩⟩, .none⟩ (sampleCourse.take 5)

/-- Recovery codes stay behind of an authenticator whose secret could not be encrypted. -/
theorem leftovers_sample :
    ∃ cause d', run withoutFirstSecret.services ⟨2, 0⟩
        (.associate (.authenticated ⟨⟨1#128⟩⟩) .oobSms (some ⟨"+6498876986"⟩) none none)
          sampleBare = (.error (.unexpected cause), d') ∧
      sampleBare.credential.authenticators = [] ∧
        d'.credential.authenticators.map Authenticator.kind = [.recoveryCodes] ∧
      LeftBehind withoutFirstSecret.services .oobSms sampleBare (.unexpected cause) d' := by
  obtain ⟨cause, hfailed⟩ : ∃ cause, (run withoutFirstSecret.services ⟨2, 0⟩
      (.associate (.authenticated ⟨⟨1#128⟩⟩) .oobSms (some ⟨"+6498876986"⟩) none none)
        sampleBare).1 = .error (.unexpected cause) :=
        ⟨"Encryption failed: refused", by decide +kernel⟩
  refine ⟨cause, _, Prod.ext hfailed rfl, by decide +kernel, by decide +kernel, ?_⟩
  exact (leftovers_of_refused (Prod.ext hfailed rfl)).1

/-- An operation by which an authenticator is added. -/
def Action.Adds : Action → Prop
  | .associate _ _ _ _ _ => True
  | _ => False

/-- Operations other than the adding of an authenticator look first and change last. -/
theorem allOrNothing_perform {action : Action} (hother : ¬action.Adds) :
    AllOrNothing Desk.credential (perform s now action) := by
  cases action with
  | setPassword password =>
    refine AllOrNothing.answer (Looks.then (by simp) fun _ => Looks.then (by simp) fun hash => ?_) _
    exact allOrNothing_update _
  | hasPassword password =>
    refine AllOrNothing.answer (Looks.allOrNothing ?_) _
    exact moves_bind (by simp) fun c => moves_bind (by simp) fun stored => by simp
  | setDetails email displayName => exact (allOrNothing_update _).answer _
  | initiateRegistration =>
    refine AllOrNothing.answer (Looks.then (by simp) fun c => Looks.then (by simp) fun _ =>
      Looks.then (by simp) fun _ => Looks.then (by simp) fun token => ?_) _
    exact (allOrNothing_update _).answer _
  | verifyRegistration =>
    refine AllOrNothing.answer (Looks.then (by simp) fun c => Looks.then (by simp) fun _ => ?_) _
    exact allOrNothing_update _
  | changeMfa caller isEnabled =>
    refine AllOrNothing.answer (Looks.then (by simp) fun c => Looks.then (by simp) fun _ =>
      Looks.then (by simp) fun _ => ?_) _
    exact allOrNothing_update _
  | enforceMfa caller => exact (Looks.then (by simp) fun _ => allOrNothing_update _).answer _
  | resetMfa caller => exact (Looks.then (by simp) fun _ => allOrNothing_update _).answer _
  | initiateMfa =>
    refine AllOrNothing.answer (Looks.then (by simp) fun c => Looks.then (by simp) fun _ =>
      Looks.then (by simp) fun token => Looks.then (by simp) fun expiry => ?_) _
    exact (allOrNothing_update _).answer _
  | authorize caller => exact AllOrNothing.answer (Looks.allOrNothing (by simp)) _
  | viewAuthenticators caller =>
    refine AllOrNothing.answer (Looks.allOrNothing ?_) _
    exact moves_bind (by simp) fun _ => moves_bind (by simp) fun c => by simp
  | associate => exact absurd trivial hother
  | confirm caller kind oobCode typed =>
    refine AllOrNothing.answer (Looks.then (by simp) fun _ => Looks.then (by simp) fun _ =>
      Looks.then (by simp) fun _ => (allOrNothing_onFirst ?_).then fun _ => refusedOnly_update _) _
    exact (Authenticator.allOrNothing_provePossession _ _).then fun _ =>
      Authenticator.refusedOnly_update _
  | challenge caller id =>
    refine AllOrNothing.answer (Looks.then (by simp) fun _ => Looks.then (by simp) fun _ =>
      allOrNothing_onFirst ?_) _
    exact Looks.then (by simp) fun a => Looks.then (by simp) fun _ =>
      Authenticator.allOrNothing_rechallenge.answer _
  | verify caller kind oobCode typed =>
    refine AllOrNothing.answer (Looks.then (by simp) fun _ => Looks.then (by simp) fun _ =>
      (allOrNothing_onFirst ?_).then fun _ => refusedOnly_update _) _
    exact allOrNothing_ite (Authenticator.allOrNothing_consumeRecoveryCode _)
      (Authenticator.allOrNothing_provePossession _ _)
  | disassociate caller id =>
    refine AllOrNothing.answer (Looks.then (by simp) fun _ => Looks.then (by simp) fun c =>
      Looks.then (by simp) fun a => Looks.then (by simp) fun _ => ?_) _
    exact allOrNothing_update _

/-- An operation that is refused leaves the credential as it was, whatever it was, unless it was to
add an authenticator. It does not matter who calls, when, or which use of a service fails. -/
theorem unchanged_of_refused {action : Action} (hother : ¬action.Adds)
    (h : run s now action d = (.error fault, d')) : d'.credential = d.credential :=
  allOrNothing_perform hother d fault d' h

/-- A code whose time step was used before is refused. -/
theorem unchanged_sample :
    ∃ d', run Script.sample.services ⟨5, 0⟩ (.verify (.authenticated ⟨⟨1#128⟩⟩) .totp none "111111")
        ⟨sample, .none⟩ = (.error Authenticator.mismatch, d') ∧ d'.credential = sample := by
  have hother : ¬(Action.verify (.authenticated ⟨⟨1#128⟩⟩) .totp none "111111").Adds := not_false
  have hrefused :
      (run Script.sample.services ⟨5, 0⟩ (.verify (.authenticated ⟨⟨1#128⟩⟩) .totp none "111111")
        ⟨sample, .none⟩).1 = .error Authenticator.mismatch := by decide +kernel
  generalize hrun :
    run Script.sample.services ⟨5, 0⟩ (.verify (.authenticated ⟨⟨1#128⟩⟩) .totp none "111111")
      ⟨sample, .none⟩ = ended at hrefused ⊢
  obtain ⟨r, d'⟩ := ended
  obtain rfl : r = .error Authenticator.mismatch := hrefused
  have hsame := unchanged_of_refused hother hrun
  dsimp only at hsame
  exact ⟨d', rfl, hsame⟩

end Credential

end TenantAuth
