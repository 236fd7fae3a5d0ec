import TenantAuth.Proofs.SignIn.Keeping

/-!
What the handling of a request can come to.

Either it is quiet, or a password was accepted, or it stored a credential. A password that is
accepted has tokens issued if no second factor is asked for, and otherwise a sign-in token stored
and returned. A request of another kind stores what its operation made of a credential that was
kept; only one that ends a sign-in then has tokens issued. This is said once, and whatever holds of
every course of requests is read off it.
-/

namespace TenantAuth.SignIn

variable {ω : Type} {s : Services} {k : Collaborators ω} {kept : ω → Kept} {now : Instant}
  {caller : Caller} {w w' : World ω}

/-- A password is accepted: the user of a name is a person with this password and a verified
registration. -/
structure Accepts (s : Services) (k : Collaborators ω) (kept : ω → Kept) (caller : Caller)
    (username password : String) (w : World ω) (c : Credential) : Prop where
  kept_eq : kept w.outside c.userId = some c
  found : (k.findByUsername username w.outside).1 = .ok (some c)
  isPerson : ∃ endUser,
    (k.getUser caller c.userId (k.findByUsername username w.outside).2).1 = .ok endUser ∧
    endUser.isPerson = true
  isRight :
    ∃ hash, c.passwordHash = some hash ∧ s.verifyPassword w.draws.uses password hash = .ok true
  isVerified : c.isVerified = true

/-- The operation on a credential that a request stands for. -/
inductive Acts (caller : Caller) (c : Credential) : Request → Credential.Action → Prop
  | changeMfa {isEnabled : Bool} :
      Acts caller c (.changeMfa isEnabled) (.changeMfa caller isEnabled)
  | resetMfa {user : UserId} : Acts caller c (.resetMfa user) (.resetMfa caller)
  | associate {token : Option String} {kind : AuthenticatorKind} {phone : Option String}
      {number : Option PhoneNumber} {email : Option EmailAddress} {speaker : MfaCaller}
      (speaks : Speaks caller c token speaker) :
      Acts caller c (.associate token kind phone) (.associate speaker kind number none email)
  | confirm {token oobCode : Option String} {kind : AuthenticatorKind} {typed : String}
      {speaker : MfaCaller} (speaks : Speaks caller c token speaker) :
      Acts caller c (.confirm token kind oobCode typed) (.confirm speaker kind oobCode typed)
  | challenge {token : Option String} {id : AuthenticatorId} {speaker : MfaCaller}
      (speaks : Speaks caller c token speaker) :
      Acts caller c (.challenge token id) (.challenge speaker id)
  | verify {token : String} {oobCode : Option String} {kind : AuthenticatorKind} {typed : String}
      (anonymous : caller.userId = none) :
      Acts caller c (.verify (some token) kind oobCode typed)
        (.verify (.anonymous c.userId token) kind oobCode typed)
  | disassociate {user : UserId} {id : AuthenticatorId} (signedIn : caller.userId = some user) :
      Acts caller c (.disassociate id) (.disassociate (.authenticated user) id)

/-- Whether a request ends a sign-in when it succeeds. -/
def Request.EndsSignIn (caller : Caller) : Request → Prop
  | .verify _ _ _ _ => True
  | .confirm _ _ _ _ => caller.userId = none
  | _ => False

/-- What the handling of a request comes to. -/
inductive Conduct (s : Services) (k : Collaborators ω) (kept : ω → Kept) (now : Instant)
    (caller : Caller) (w w' : World ω) : Request → Except Fault Reply → Prop
  | idle {request : Request} {r : Except Fault Reply} (quiet : Quiet kept w w') :
      Conduct s k kept now caller w w' request r
  | admits {username password : String} {c : Credential} {w₁ : World ω} {r : Except Fault Reply}
      (accepts : Accepts s k kept caller username password w c) (disabled : c.mfa.isEnabled = false)
      (quiet : Quiet kept w w₁) (admitted : Admitted kept c.userId w₁ w') :
      Conduct s k kept now caller w w' (.authenticate username password) r
  | pays {username password token : String} {c c' : Credential} {n n' : Draws} {w₁ : World ω}
      (accepts : Accepts s k kept caller username password w c)
      (initiated : Ends (Credential.initiateMfa s now) ⟨c, n⟩ (.ok token) ⟨c', n'⟩)
      (quiet : Quiet kept w w₁) (stored : Stored kept c' w₁ w') :
      Conduct s k kept now caller w w' (.authenticate username password)
        (.ok (.outcome (.mfaRequired token)))
  | stores {request : Request} {action : Credential.Action} {answer : Credential.Answer}
      {c c' : Credential} {n n' : Draws} {w₁ w₂ : World ω} {r : Except Fault Reply}
      (loaded : kept w.outside c.userId = some c) (acts : Acts caller c request action)
      (done : Ends (Credential.perform s now action) ⟨c, n⟩ (.ok answer) ⟨c', n'⟩)
      (quiet : Quiet kept w w₁) (stored : Stored kept c' w₁ w₂)
      (rest : Quiet kept w₂ w' ∨ request.EndsSignIn caller ∧ Admitted kept c.userId w₂ w') :
      Conduct s k kept now caller w w' request r

/-! ### Request by request -/

/-- What an operation on a credential gives back is its answer. -/
theorem performed {α : Type} {m : CredentialM α} {f : α → Credential.Answer} {a : α} {d d' : Desk}
    (h : Ends m d (.ok a) d') : Ends (m >>= fun a => pure (f a)) d (.ok (f a)) d' :=
  Ends.bind_ok_iff.2 ⟨a, d', h, Ends.pure_iff.2 ⟨rfl, rfl⟩⟩

variable (hk : Keeps k kept)
include hk

omit hk in
/-- A password that was found right is accepted, once the registration turns out to be verified. -/
theorem accepts_of_steps {username password : String} {c c₁ : Credential}
    {shown : Option Credential} {w₁ w₂ w₃ : World ω} {u : Unit} (hk : Keeps k kept)
    (hask : Ends (ask (.findByUsername username) (k.findByUsername username)) w (.ok shown) w₁)
    (hshown : shown = some c) (hperson : Ends (ensurePerson k caller c.userId) w₁ (.ok u) w₂)
    (hmatch : Ends (work c (Credential.hasPassword s password)) w₂ (.ok (true, c₁)) w₃)
    (hverified : c.isVerified = true) : Accepts s k kept caller username password w c := by
  obtain ⟨hfound, rfl⟩ := ask_iff.1 hask
  obtain ⟨hperson, hdraws⟩ := ensurePerson_ok hperson
  obtain ⟨n, hmatch, _⟩ := work_ok_iff.1 hmatch
  obtain ⟨hash, hhash, hright, _⟩ := Credential.hasPassword_ok hmatch
  rw [hdraws] at hright
  rw [hshown] at hfound
  exact ⟨(hk.findByUsername username _).2 c hfound.symm, hfound.symm, hperson,
    ⟨hash, hhash, hright⟩, hverified⟩

theorem conduct_authenticate {username password : String} {r : Except Fault SignInOutcome}
    (hends : Ends (authenticate s k now caller username password) w r w') :
    Conduct s k kept now caller w w' (.authenticate username password) (r.map .outcome) := by
  rcases (quiet_findByUsername hk username).after (Quiet.refl w) hends with
    hidle | ⟨shown, w₁, hask, hquiet₁, h₁⟩
  · exact .idle hidle
  rcases (moves_demand _ _).after hquiet₁ h₁ with hidle | ⟨c, w₂, hdemand, _, h₂⟩
  · exact .idle hidle
  obtain ⟨hshown, rfl⟩ := Ends.demand_ok_iff.1 hdemand
  rcases (quiet_ensurePerson hk c.userId).after hquiet₁ h₂ with
    hidle | ⟨_, w₃, hperson, hquiet₃, h₃⟩
  · exact .idle hidle
  rcases (quiet_work c _).after hquiet₃ h₃ with hidle | ⟨⟨isRight, _⟩, w₄, hmatch, hquiet₄, h₄⟩
  · exact .idle hidle
  rcases (moves_ensure _ _).after hquiet₄ h₄ with hidle | ⟨_, w₅, hright, _, h₅⟩
  · exact .idle hidle
  obtain ⟨rfl, rfl⟩ := Ends.ensure_ok_iff.1 hright
  rcases (moves_ensure _ _).after hquiet₄ h₅ with hidle | ⟨_, w₆, hensure, _, h₆⟩
  · exact .idle hidle
  obtain ⟨hverified, rfl⟩ := Ends.ensure_ok_iff.1 hensure
  have haccepts : Accepts s k kept caller username password w c :=
    accepts_of_steps hk hask hshown hperson hmatch hverified
  -- from here on the password is accepted, and it depends on the second factor what is stored or
  -- issued
  split at h₆
  · rcases stored_of_work hk hquiet₄ h₆ fun _ _ => rfl with
      hidle | ⟨token, c', n, n', saved, w₇, w₈, hdone, hquiet₇, hstored, h₈⟩
    · exact .idle hidle
    · obtain ⟨rfl, rfl⟩ := Ends.pure_iff.1 h₈
      exact .pays haccepts hdone hquiet₇ hstored
  · rename_i hdisabled
    obtain ⟨r₁, hissue, _⟩ := Ends.bind_pure_iff.1 h₆
    rcases issueTokens_ends hk hissue with hidle | hadmitted
    · exact .idle (hquiet₄.trans hidle)
    · exact .admits haccepts (by simpa using hdisabled) hquiet₄ hadmitted

theorem conduct_changeMfa {isEnabled : Bool} {r₁ : Except Fault CredentialView}
    {r : Except Fault Reply} (hends : Ends (changeMfa k caller isEnabled) w r₁ w') :
    Conduct s k kept now caller w w' (.changeMfa isEnabled) r := by
  rcases (moves_demand _ _).after (Quiet.refl w) hends with hidle | ⟨user, w₁, hdemand, hquiet₁, h₁⟩
  · exact .idle hidle
  obtain ⟨huser, rfl⟩ := Ends.demand_ok_iff.1 hdemand
  rcases (quiet_findByUser hk user).after hquiet₁ h₁ with hidle | ⟨c, w₂, hfound, hquiet₂, h₂⟩
  · exact .idle hidle
  rcases (quiet_ensurePerson hk user).after hquiet₂ h₂ with hidle | ⟨_, w₃, _, hquiet₃, h₃⟩
  · exact .idle hidle
  rcases stored_of_work hk hquiet₃ h₃ fun _ _ => rfl with
    hidle | ⟨a, c', n, n', saved, w₄, w₅, hdone, hquiet₄, hstored, h₅⟩
  · exact .idle hidle
  · exact .stores (findByUser_ok hk hfound) .changeMfa (performed hdone) hquiet₄ hstored
      (Or.inl (moves_pure _ _ _ _ h₅))

theorem conduct_resetMfa {user : UserId} {r₁ : Except Fault CredentialView} {r : Except Fault Reply}
    (hends : Ends (resetMfa k caller user) w r₁ w') :
    Conduct s k kept now caller w w' (.resetMfa user) r := by
  rcases (quiet_findByUser hk user).after (Quiet.refl w) hends with
    hidle | ⟨c, w₁, hfound, hquiet₁, h₁⟩
  · exact .idle hidle
  rcases (quiet_ensurePerson hk user).after hquiet₁ h₁ with hidle | ⟨_, w₂, _, hquiet₂, h₂⟩
  · exact .idle hidle
  rcases stored_of_work hk hquiet₂ h₂ fun _ _ => rfl with
    hidle | ⟨a, c', n, n', saved, w₃, w₄, hdone, hquiet₃, hstored, h₄⟩
  · exact .idle hidle
  · exact .stores (findByUser_ok hk hfound) .resetMfa (performed hdone) hquiet₃ hstored
      (Or.inl (moves_pure _ _ _ _ h₄))

/-- Whoever speaks for a credential that is kept goes on with it, once its user is known to be a
person. -/
theorem after_resolve {β : Type} {token : Option String}
    {next : Credential × MfaCaller → SignInM ω β} {rest : Credential → MfaCaller → SignInM ω β}
    {r : Except Fault β}
    (hnext : ∀ c speaker, next (c, speaker) = ensurePerson k caller c.userId >>=
      fun _ => rest c speaker) (hends : Ends (resolve k caller token >>= next) w r w') :
    Quiet kept w w' ∨ ∃ c speaker w₁, kept w.outside c.userId = some c ∧
      Speaks caller c token speaker ∧ Quiet kept w w₁ ∧ Ends (rest c speaker) w₁ r w' := by
  rcases (quiet_resolve hk token).after (Quiet.refl w) hends with
    hidle | ⟨⟨c, speaker⟩, w₁, hfound, hquiet₁, h₁⟩
  · exact Or.inl hidle
  obtain ⟨hloaded, hspeaks⟩ := resolve_ok hk hfound
  rw [hnext] at h₁
  rcases (quiet_ensurePerson hk c.userId).after hquiet₁ h₁ with hidle | ⟨_, w₂, _, hquiet₂, h₂⟩
  · exact Or.inl hidle
  · exact Or.inr ⟨c, speaker, w₂, hloaded, hspeaks, hquiet₂, h₂⟩

theorem conduct_associate {token phone : Option String} {kind : AuthenticatorKind}
    {r₁ : Except Fault AssociationView} {r : Except Fault Reply}
    (hends : Ends (associate s k now caller token kind phone) w r₁ w') :
    Conduct s k kept now caller w w' (.associate token kind phone) r := by
  rcases after_resolve hk (fun _ _ => rfl) hends with
    hidle | ⟨c, speaker, w₁, hloaded, hspeaks, hquiet₁, h₁⟩
  · exact .idle hidle
  rcases (quiet_getProfile hk c.userId).after hquiet₁ h₁ with hidle | ⟨profile, w₂, _, hquiet₂, h₂⟩
  · exact .idle hidle
  rcases (moves_liftExcept _).after hquiet₂ h₂ with hidle | ⟨number, w₃, _, hquiet₃, h₃⟩
  · exact .idle hidle
  rcases stored_of_work hk hquiet₃ h₃ fun _ _ => rfl with
    hidle | ⟨a, c', n, n', saved, w₄, w₅, hdone, hquiet₄, hstored, h₅⟩
  · exact .idle hidle
  · exact .stores hloaded (.associate hspeaks) (performed hdone) hquiet₄ hstored
      (Or.inl (moves_bind (quiet_send hk _) (fun _ => moves_pure _) _ _ _ h₅))

theorem conduct_confirm {token oobCode : Option String} {kind : AuthenticatorKind} {typed : String}
    {r₁ : Except Fault ConfirmationView} {r : Except Fault Reply}
    (hends : Ends (confirm s k now caller token kind oobCode typed) w r₁ w') :
    Conduct s k kept now caller w w' (.confirm token kind oobCode typed) r := by
  rcases after_resolve hk (fun _ _ => rfl) hends with
    hidle | ⟨c, speaker, w₁, hloaded, hspeaks, hquiet₁, h₁⟩
  · exact .idle hidle
  rcases stored_of_work hk hquiet₁ h₁ fun _ _ => rfl with
    hidle | ⟨a, c', n, n', saved, w₂, w₃, hdone, hquiet₂, hstored, h₃⟩
  · exact .idle hidle
  refine .stores hloaded (.confirm hspeaks) (performed hdone) hquiet₂ hstored ?_
  cases hspeaks with
  | owner _ => exact Or.inl (moves_pure _ _ _ _ h₃)
  | bearer hanonymous =>
    obtain ⟨r₂, hissue, _⟩ := Ends.bind_pure_iff.1 h₃
    exact (issueTokens_ends hk hissue).imp id (And.intro hanonymous)

theorem conduct_challenge {token : Option String} {id : AuthenticatorId}
    {r₁ : Except Fault ChallengeView} {r : Except Fault Reply}
    (hends : Ends (challenge s k now caller token id) w r₁ w') :
    Conduct s k kept now caller w w' (.challenge token id) r := by
  rcases after_resolve hk (fun _ _ => rfl) hends with
    hidle | ⟨c, speaker, w₁, hloaded, hspeaks, hquiet₁, h₁⟩
  · exact .idle hidle
  rcases stored_of_work hk hquiet₁ h₁ fun _ _ => rfl with
    hidle | ⟨a, c', n, n', saved, w₂, w₃, hdone, hquiet₂, hstored, h₃⟩
  · exact .idle hidle
  · exact .stores hloaded (.challenge hspeaks) (performed hdone) hquiet₂ hstored
      (Or.inl (moves_bind (quiet_send hk _) (fun _ => moves_pure _) _ _ _ h₃))

theorem conduct_verify {token oobCode : Option String} {kind : AuthenticatorKind} {typed : String}
    {r₁ : Except Fault SignInTokens} {r : Except Fault Reply}
    (hends : Ends (verify s k now caller token kind oobCode typed) w r₁ w') :
    Conduct s k kept now caller w w' (.verify token kind oobCode typed) r := by
  rcases (moves_ensure _ _).after (Quiet.refl w) hends with hidle | ⟨_, w₁, hensure, hquiet₁, h₁⟩
  · exact .idle hidle
  obtain ⟨hanonymous, rfl⟩ := Ends.ensure_ok_iff.1 hensure
  rcases (quiet_findByToken hk token).after hquiet₁ h₁ with
    hidle | ⟨⟨c, speaker⟩, w₂, hfound, hquiet₂, h₂⟩
  · exact .idle hidle
  obtain ⟨hloaded, text, rfl, rfl⟩ := findByToken_ok hk hfound
  rcases (quiet_ensurePerson hk c.userId).after hquiet₂ h₂ with hidle | ⟨_, w₃, _, hquiet₃, h₃⟩
  · exact .idle hidle
  rcases stored_of_work hk hquiet₃ h₃ fun _ _ => rfl with
    hidle | ⟨a, c', n, n', saved, w₄, w₅, hdone, hquiet₄, hstored, h₅⟩
  · exact .idle hidle
  · have hcaller : caller.userId = none := by
      simpa [Caller.isAuthenticated] using hanonymous
    exact .stores hloaded (.verify hcaller) (performed hdone) hquiet₄ hstored
      ((issueTokens_ends hk h₅).imp id (And.intro trivial))

theorem conduct_disassociate {id : AuthenticatorId} {r₁ : Except Fault Unit}
    {r : Except Fault Reply} (hends : Ends (disassociate k now caller id) w r₁ w') :
    Conduct s k kept now caller w w' (.disassociate id) r := by
  rcases (moves_demand _ _).after (Quiet.refl w) hends with hidle | ⟨user, w₁, hdemand, hquiet₁, h₁⟩
  · exact .idle hidle
  obtain ⟨huser, rfl⟩ := Ends.demand_ok_iff.1 hdemand
  rcases (quiet_findByUser hk user).after hquiet₁ h₁ with hidle | ⟨c, w₂, hfound, hquiet₂, h₂⟩
  · exact .idle hidle
  rcases (quiet_ensurePerson hk user).after hquiet₂ h₂ with hidle | ⟨_, w₃, _, hquiet₃, h₃⟩
  · exact .idle hidle
  rcases stored_of_work hk hquiet₃ h₃ fun _ _ => rfl with
    hidle | ⟨a, c', n, n', saved, w₄, w₅, hdone, hquiet₄, hstored, h₅⟩
  · exact .idle hidle
  · exact .stores (findByUser_ok hk hfound) (.disassociate huser) (performed hdone) hquiet₄ hstored
      (Or.inl (moves_pure _ _ _ _ h₅))

theorem quiet_listAuthenticators (token : Option String) :
    Moves (Quiet kept) (listAuthenticators k now caller token) :=
  moves_bind (quiet_resolve hk token) fun _ => moves_bind (quiet_work _ _) fun _ => moves_pure _

/-- What the handling of any request comes to. -/
theorem conduct_handle {request : Request} {r : Except Fault Reply}
    (h : Ends (handle s k now caller request) w r w') :
    Conduct s k kept now caller w w' request r := by
  cases request with
  | authenticate username password =>
    obtain ⟨r₁, hinner, rfl⟩ := Ends.bind_pure_iff.1 h
    exact conduct_authenticate hk hinner
  | changeMfa isEnabled =>
    obtain ⟨r₁, h, _⟩ := Ends.bind_pure_iff.1 h
    exact conduct_changeMfa hk h
  | resetMfa user =>
    obtain ⟨r₁, h, _⟩ := Ends.bind_pure_iff.1 h
    exact conduct_resetMfa hk h
  | list token =>
    exact .idle (moves_bind (quiet_listAuthenticators hk token) (fun _ => moves_pure _) _ _ _ h)
  | associate token kind phone =>
    obtain ⟨r₁, h, _⟩ := Ends.bind_pure_iff.1 h
    exact conduct_associate hk h
  | confirm token kind oobCode typed =>
    obtain ⟨r₁, h, _⟩ := Ends.bind_pure_iff.1 h
    exact conduct_confirm hk h
  | challenge token id =>
    obtain ⟨r₁, h, _⟩ := Ends.bind_pure_iff.1 h
    exact conduct_challenge hk h
  | verify token kind oobCode typed =>
    obtain ⟨r₁, h, _⟩ := Ends.bind_pure_iff.1 h
    exact conduct_verify hk h
  | disassociate id =>
    obtain ⟨r₁, h, _⟩ := Ends.bind_pure_iff.1 h
    exact conduct_disassociate hk h
  | registerMachine name timezone country expiresOn =>
    exact .idle (moves_bind (quiet_registerMachine hk name timezone country expiresOn)
      (fun _ => moves_pure _) _ _ _ h)

end TenantAuth.SignIn
