import TenantAuth.Proofs.Credential.Messages
import TenantAuth.Proofs.Credential.WellFormed
import TenantAuth.Proofs.SignIn.Archive
import TenantAuth.Proofs.SignIn.Asking

/-!
Requests of those who have signed in.

Whoever has signed in and is no operator gets no further than their own credential, whatever
credential the others show for a user. Only the credential that was loaded is stored, as that of the
same user; only its authenticators are shown and only their contacts are written to; and no tokens
are issued.
-/

namespace TenantAuth

/-- A message goes to the contact of one of the authenticators of a credential. -/
def Credential.IsReachedBy (c : Credential) (message : Notification) : Prop :=
  ∃ a ∈ c.authenticators, ∃ challenge, a.material = .outOfBand message.contact challenge

namespace SignIn

variable {ω α β : Type} {s : Services} {k : Collaborators ω} {now : Instant} {caller : Caller}
  {user : UserId} {w w' : World ω}

/-- A request that acts on a credential, as opposed to signing in and to registering a machine. -/
inductive Request.ActsOnCredential : Request → Prop
  | changeMfa {isEnabled : Bool} : ActsOnCredential (.changeMfa isEnabled)
  | resetMfa {user : UserId} : ActsOnCredential (.resetMfa user)
  | list {token : Option String} : ActsOnCredential (.list token)
  | associate {token phone : Option String} {kind : AuthenticatorKind} :
      ActsOnCredential (.associate token kind phone)
  | confirm {token oobCode : Option String} {kind : AuthenticatorKind} {typed : String} :
      ActsOnCredential (.confirm token kind oobCode typed)
  | challenge {token : Option String} {id : AuthenticatorId} :
      ActsOnCredential (.challenge token id)
  | verify {token oobCode : Option String} {kind : AuthenticatorKind} {typed : String} :
      ActsOnCredential (.verify token kind oobCode typed)
  | disassociate {id : AuthenticatorId} : ActsOnCredential (.disassociate id)

/-- What a reply shows of authenticators, it shows of those of one credential. -/
inductive Reply.ShowsOnly (c : Credential) : Reply → Prop
  | credential : ShowsOnly c (.credential c.view)
  | authenticators : ShowsOnly c (.authenticators (c.authenticators.map Authenticator.view))
  | confirmation :
      ShowsOnly c (.confirmation ⟨none, some (c.authenticators.map Authenticator.view)⟩)
  | association {a : Authenticator} {recoveryCodes : Option (List String)} {secret : Option String}
      (added : a ∈ c.authenticators) :
      ShowsOnly c (.association ⟨a.kind, recoveryCodes, a.oobCode?, a.barcodeUri?, secret⟩)
  | challenge {a : Authenticator} (challenged : a ∈ c.authenticators) :
      ShowsOnly c (.challenge ⟨a.kind, a.oobCode?⟩)
  | done : ShowsOnly c .done

/-- A credential is shown for a user. -/
def Loads (k : Collaborators ω) (user : UserId) (w : World ω) (c : Credential) : Prop :=
  (k.findByUser user w.outside).1 = .ok (some c)

/-- What the request of a user comes to who is no operator. -/
inductive Deed (k : Collaborators ω) (user : UserId) (w w' : World ω)
    (r : Except Fault Reply) : Prop
  | refused {fault : Fault} (reply : r = .error fault) (idle : Idle w w')
  | shows {c : Credential} {view : Reply} (loaded : Loads k user w c) (own : c.userId = user)
      (reply : r = .ok view) (shown : view.ShowsOnly c) (idle : Idle w w')
  | stores {c c' : Credential} {w₁ w₂ : World ω} (loaded : Loads k user w c) (own : c.userId = user)
      (id_eq : c'.id = c.id) (userId_eq : c'.userId = c.userId) (idle : Idle w w₁)
      (saves : Saves k c' w₁ w₂)
      (sends : Asks (fun question => ∃ message, question = .notify message ∧ c'.IsReachedBy message)
        w₂ w') (shown : ∀ view, r = .ok view → view.ShowsOnly c')

/-- A contact of an authenticator is a contact of its credential. -/
theorem reachedBy_of_sent {c : Credential} {a : Authenticator} {message : Notification}
    (ha : a ∈ c.authenticators) (hsent : a.IsSent s message) : c.IsReachedBy message := by
  obtain ⟨_, _, _, hmade, _⟩ := hsent
  exact ⟨a, ha, _, hmade⟩

/-! ### The credential that is loaded -/

/-- Whoever has signed in acts on the credential that is shown for them. -/
theorem after_findByUser {next : Credential → SignInM ω β} {r : Except Fault β}
    (h : Ends (findByUser k user >>= next) w r w') :
    ((∃ fault, r = .error fault) ∧ Idle w w') ∨
      ∃ c w₁, Loads k user w c ∧ Idle w w₁ ∧ Ends (next c) w₁ r w' := by
  rcases Idle.after (idle_findByUser user) (Asks.refl w) h with
    hrefused | ⟨c, w₁, hfound, hidle, hrest⟩
  · exact Or.inl hrefused
  simp only [findByUser, Ends.bind_ok_iff, ask_iff, Ends.demand_ok_iff] at hfound
  obtain ⟨_, _, ⟨hanswer, rfl⟩, rfl, rfl⟩ := hfound
  exact Or.inr ⟨c, _, hanswer.symm, hidle, hrest⟩

/-- Whoever is authorized as a user acts on the credential of that user. -/
theorem own_of_authorized {c : Credential} (h : c.unauthorized? (.authenticated user) now = none) :
    c.userId = user :=
  (Credential.unauthorized?_eq_none.1 h).1.symm

/-- The others store what they are given, where they store it. -/
def StoresAsGiven (k : Collaborators ω) : Prop :=
    ∀ c outside c', (k.save c outside).1 = .ok c' → c' = c

/-- A question by which a message is sent to a contact of a credential. -/
def Writes (c : Credential) (question : Question) : Prop :=
    ∃ message, question = .notify message ∧ c.IsReachedBy message

/-- An operation keeps whose credential it is, and only the owner gets through it. -/
def Owned (user : UserId) (c : Credential) (operation : CredentialM α) : Prop :=
  ∀ a n c' n',
    Ends operation ⟨c, n⟩ (.ok a) ⟨c', n'⟩ → c.userId = user ∧ c'.id = c.id ∧ c'.userId = c.userId

/-- What an operation that only the owner gets through gives back is shown, and sent, of what it
left. -/
theorem deed_of_work (hsave : StoresAsGiven k) {c : Credential} {w₁ : World ω}
    {operation : CredentialM α} {next : α × Credential → SignInM ω β}
    {rest : α → Credential → SignInM ω β} {f : β → Reply} {r : Except Fault β}
    (hloaded : Loads k user w c) (hidle : Idle w w₁) (howned : Owned user c operation)
    (h : Ends (work c operation >>= next) w₁ r w')
    (hnext : ∀ a c', next (a, c') = save k c' >>= rest a)
    (hrest : ∀ a n c' n' w₂, Ends operation ⟨c, n⟩ (.ok a) ⟨c', n'⟩ → Ends (rest a c') w₂ r w' →
      Asks (Writes c') w₂ w' ∧ ∀ b, r = .ok b → (f b).ShowsOnly c') :
    Deed k user w w' (r.map f) := by
  rcases saves_of_work hidle h hnext with
    ⟨⟨fault, rfl⟩, hidle'⟩ | ⟨a, c', n', w₂, w₃, hdone, hidle₂, hsaves, hlast⟩
  · exact .refused rfl hidle'
  obtain ⟨hown, hid, huser⟩ := howned _ _ _ _ hdone
  rcases hlast with ⟨fault, rfl, rfl⟩ | ⟨saved, hsaved, hlast⟩
  · exact .stores hloaded hown hid huser hidle₂ hsaves (Asks.refl _) nofun
  · obtain rfl := hsave _ _ _ hsaved
    obtain ⟨hwrites, hshows⟩ := hrest _ _ _ _ _ hdone hlast
    refine .stores hloaded hown hid huser hidle₂ hsaves hwrites fun view hview => ?_
    cases r with
    | error fault => cases hview
    | ok b =>
      obtain rfl := Except.ok.inj hview
      exact hshows b rfl

/-- Where messages go to the contacts of a credential, nothing else is done by sending them, and
what is given back afterwards is given back if they could be sent. -/
theorem writes_of_send {c : Credential} {messages : List Notification} {b : β} {r : Except Fault β}
    (hmessages : ∀ message ∈ messages, c.IsReachedBy message)
    (h : Ends (send k caller messages >>= fun _ => pure b) w r w') :
    Asks (Writes c) w w' ∧ ∀ b', r = .ok b' → b' = b := by
  obtain ⟨reply, hsend, rfl⟩ := Ends.bind_pure_iff.1 h
  refine ⟨(asks_send messages _ _ _ hsend).mono fun _ ⟨message, hmessage, hquestion⟩ =>
    ⟨message, hquestion, hmessages message hmessage⟩, fun b' hb' => ?_⟩
  cases reply with
  | error fault => cases hb'
  | ok _ => exact (Except.ok.inj hb').symm

/-! ### Operations for the owner -/

variable {c : Credential}

theorem owned_changeMfa {isEnabled : Bool} (hcaller : caller.userId = some user)
    (hrole : caller.isOperator = false) : Owned user c (Credential.changeMfa caller isEnabled) := by
  intro _ n c' n' h
  obtain ⟨howner | hoperator, _, rfl⟩ := Credential.changeMfa_ok h
  · exact ⟨Option.some.inj (howner.symm.trans hcaller), rfl, rfl⟩
  · exact absurd (hrole.symm.trans hoperator) nofun

theorem owned_associate {kind : AuthenticatorKind} {phone : Option PhoneNumber}
    {email profileEmail : Option EmailAddress} :
    Owned user c
      (Credential.associate s now (.authenticated user) kind phone email profileEmail) := by
  intro _ n c' n' h
  obtain ⟨hauthorized, _, _, _, _, _, _, _, _, _, rfl⟩ := Credential.associate_ok h
  exact ⟨own_of_authorized hauthorized, rfl, rfl⟩

theorem owned_confirm {kind : AuthenticatorKind} {oobCode : Option String} {typed : String} :
    Owned user c (Credential.confirm s now (.authenticated user) kind oobCode typed) := by
  intro _ n c' n' h
  obtain ⟨hauthorized, _, _, _, _, _, _, rfl⟩ := Credential.confirm_ok h
  exact ⟨own_of_authorized hauthorized, rfl, rfl⟩

theorem owned_challenge {id : AuthenticatorId} :
    Owned user c (Credential.challenge s now (.authenticated user) id) := by
  intro _ n c' n' h
  obtain ⟨hauthorized, _, _, _, _, _, _, _, _, rfl⟩ := Credential.challenge_ok h
  exact ⟨own_of_authorized hauthorized, rfl, rfl⟩

theorem owned_disassociate {id : AuthenticatorId} :
    Owned user c (Credential.disassociate now (.authenticated user) id) := by
  intro _ n c' n' h
  obtain ⟨hauthorized, _, _, _, hd'⟩ := Credential.disassociate_ok h
  obtain ⟨rfl, _⟩ := Desk.mk.inj hd'
  exact ⟨own_of_authorized hauthorized, rfl, rfl⟩

/-! ### Request by request -/

section Requests

variable (hcaller : caller.userId = some user)
include hcaller

/-- Whoever has signed in acts as the user that they are. -/
theorem after_resolve_signedIn {token : Option String} {next : Credential × MfaCaller → SignInM ω β}
    {r : Except Fault β} (h : Ends (resolve k caller token >>= next) w r w') :
    ((∃ fault, r = .error fault) ∧ Idle w w') ∨
      ∃ c w₁, Loads k user w c ∧ Idle w w₁ ∧ Ends (next (c, .authenticated user)) w₁ r w' := by
  rw [resolve, hcaller] at h
  dsimp only at h
  rw [bind_assoc] at h
  rcases after_findByUser h with hrefused | ⟨c, w₁, hloaded, hidle, hrest⟩
  · exact Or.inl hrefused
  · rw [pure_bind] at hrest
    exact Or.inr ⟨c, w₁, hloaded, hidle, hrest⟩

theorem deed_changeMfa (hsave : StoresAsGiven k) (hrole : caller.isOperator = false)
    {isEnabled : Bool} {r : Except Fault CredentialView}
    (h : Ends (changeMfa k caller isEnabled) w r w') :
    Deed k user w w' (r.map .credential) := by
  rw [changeMfa, signedIn, hcaller] at h
  rcases Idle.after (moves_demand _ _) (Asks.refl w) h with
    ⟨⟨_, rfl⟩, hidle⟩ | ⟨user', w₁, hdemand, _, h₁⟩
  · exact .refused rfl hidle
  obtain ⟨huser, rfl⟩ := Ends.demand_ok_iff.1 hdemand
  obtain rfl := Option.some.inj huser
  rcases after_findByUser h₁ with ⟨⟨_, rfl⟩, hidle⟩ | ⟨c, w₂, hloaded, hidle₂, h₂⟩
  · exact .refused rfl hidle
  rcases Idle.after (idle_ensurePerson user) hidle₂ h₂ with
    ⟨⟨_, rfl⟩, hidle⟩ | ⟨_, w₃, _, hidle₃, h₃⟩
  · exact .refused rfl hidle
  refine deed_of_work hsave hloaded hidle₃ (owned_changeMfa hcaller hrole) h₃ (fun _ _ => rfl) ?_
  intro _ _ c' _ w₄ _ hlast
  obtain ⟨rfl, rfl⟩ := Ends.pure_iff.1 hlast
  refine ⟨Asks.refl _, fun view hview => ?_⟩
  cases hview
  exact .credential

omit hcaller in
theorem deed_resetMfa (hrole : caller.isOperator = false) {other : UserId}
    {r : Except Fault CredentialView} (h : Ends (resetMfa k caller other) w r w') :
    Deed k user w w' (r.map .credential) := by
  rcases after_findByUser h with ⟨⟨_, rfl⟩, hidle⟩ | ⟨c, w₁, _, hidle₁, h₁⟩
  · exact .refused rfl hidle
  rcases Idle.after (idle_ensurePerson other) hidle₁ h₁ with
    ⟨⟨_, rfl⟩, hidle⟩ | ⟨_, w₂, _, hidle₂, h₂⟩
  · exact .refused rfl hidle
  rcases saves_of_work hidle₂ h₂ (fun _ _ => rfl) with ⟨⟨_, rfl⟩, hidle⟩ | ⟨_, _, _, _, _, hdone, _⟩
  · exact .refused rfl hidle
  · exact absurd (hrole.symm.trans (Credential.resetMfa_ok hdone).1) nofun

theorem deed_listAuthenticators {token : Option String} {r : Except Fault (List AuthenticatorView)}
    (h : Ends (listAuthenticators k now caller token) w r w') :
    Deed k user w w' (r.map .authenticators) := by
  rcases after_resolve_signedIn hcaller h with ⟨⟨_, rfl⟩, hidle⟩ | ⟨c, w₁, hloaded, hidle₁, h₁⟩
  · exact .refused rfl hidle
  rcases Idle.after (asks_work _ _) hidle₁ h₁ with
    ⟨⟨_, rfl⟩, hidle⟩ | ⟨⟨list, c'⟩, w₂, hview, hidle₂, h₂⟩
  · exact .refused rfl hidle
  obtain ⟨n', hdone, _⟩ := work_ok_iff.1 hview
  obtain ⟨hauthorized, rfl, _⟩ := Credential.viewAuthenticators_ok_iff.1 hdone
  obtain ⟨rfl, rfl⟩ := Ends.pure_iff.1 h₂
  exact .shows hloaded (own_of_authorized hauthorized) rfl .authenticators hidle₂

theorem deed_associate (hsave : StoresAsGiven k) {token phone : Option String}
    {kind : AuthenticatorKind} {r : Except Fault AssociationView}
    (h : Ends (associate s k now caller token kind phone) w r w') :
    Deed k user w w' (r.map .association) := by
  rcases after_resolve_signedIn hcaller h with ⟨⟨_, rfl⟩, hidle⟩ | ⟨c, w₁, hloaded, hidle₁, h₁⟩
  · exact .refused rfl hidle
  rcases Idle.after (idle_ensurePerson _) hidle₁ h₁ with ⟨⟨_, rfl⟩, hidle⟩ | ⟨_, w₂, _, hidle₂, h₂⟩
  · exact .refused rfl hidle
  rcases Idle.after (idle_getProfile _) hidle₂ h₂ with
    ⟨⟨_, rfl⟩, hidle⟩ | ⟨profile, w₃, _, hidle₃, h₃⟩
  · exact .refused rfl hidle
  rcases Idle.after (moves_liftExcept _) hidle₃ h₃ with
    ⟨⟨_, rfl⟩, hidle⟩ | ⟨number, w₄, _, hidle₄, h₄⟩
  · exact .refused rfl hidle
  refine deed_of_work hsave hloaded hidle₄ owned_associate h₄ (fun _ _ => rfl) ?_
  intro association n c' n' w₅ hdone hlast
  have hsent := Credential.sent_of_associate hdone
  obtain ⟨_, _, _, _, _, made, draw, _, hpending, _, hc'⟩ := Credential.associate_ok hdone
  have hadded : association.authenticator ∈ c'.authenticators := by
    rw [show c' = _ from hc']
    exact List.mem_append_right _ List.mem_cons_self
  obtain ⟨hwrites, hview⟩ := writes_of_send (fun message hmessage =>
    reachedBy_of_sent hadded (hsent message hmessage)) hlast
  refine ⟨hwrites, fun view hr => ?_⟩
  rw [hview view hr, ← hpending.kind_eq]
  exact .association hadded

theorem deed_confirm (hsave : StoresAsGiven k) {token oobCode : Option String}
    {kind : AuthenticatorKind} {typed : String} {r : Except Fault ConfirmationView}
    (h : Ends (confirm s k now caller token kind oobCode typed) w r w') :
    Deed k user w w' (r.map .confirmation) := by
  rcases after_resolve_signedIn hcaller h with ⟨⟨_, rfl⟩, hidle⟩ | ⟨c, w₁, hloaded, hidle₁, h₁⟩
  · exact .refused rfl hidle
  rcases Idle.after (idle_ensurePerson _) hidle₁ h₁ with ⟨⟨_, rfl⟩, hidle⟩ | ⟨_, w₂, _, hidle₂, h₂⟩
  · exact .refused rfl hidle
  refine deed_of_work hsave hloaded hidle₂ owned_confirm h₂ (fun _ _ => rfl) ?_
  intro _ _ c' _ w₃ _ hlast
  obtain ⟨rfl, rfl⟩ := Ends.pure_iff.1 hlast
  refine ⟨Asks.refl _, fun view hview => ?_⟩
  cases hview
  exact .confirmation

theorem deed_challenge (hsave : StoresAsGiven k) {token : Option String} {id : AuthenticatorId}
    {r : Except Fault ChallengeView} (h : Ends (challenge s k now caller token id) w r w') :
    Deed k user w w' (r.map .challenge) := by
  rcases after_resolve_signedIn hcaller h with ⟨⟨_, rfl⟩, hidle⟩ | ⟨c, w₁, hloaded, hidle₁, h₁⟩
  · exact .refused rfl hidle
  rcases Idle.after (idle_ensurePerson _) hidle₁ h₁ with ⟨⟨_, rfl⟩, hidle⟩ | ⟨_, w₂, _, hidle₂, h₂⟩
  · exact .refused rfl hidle
  refine deed_of_work hsave hloaded hidle₂ owned_challenge h₂ (fun _ _ => rfl) ?_
  intro outcome n c' n' w₃ hdone hlast
  obtain ⟨_, _, a, challenged, sent, ha, _, hrechallenge, rfl, hc'⟩ := Credential.challenge_ok hdone
  obtain ⟨hkind, hcode, hsent⟩ := Authenticator.sent_of_rechallenge hrechallenge
  have hthere : challenged ∈ c'.authenticators := by
    rw [show c' = _ from hc']
    exact mem_replaceFirst_of_find? ha
  obtain ⟨hwrites, hview⟩ := writes_of_send (fun message hmessage =>
    reachedBy_of_sent hthere (hsent message hmessage)) hlast
  refine ⟨hwrites, fun view hr => ?_⟩
  rw [hview view hr, hcode, ← hkind]
  exact .challenge hthere

theorem deed_verify {token oobCode : Option String} {kind : AuthenticatorKind} {typed : String}
    {r : Except Fault SignInTokens}
    (h : Ends (verify s k now caller token kind oobCode typed) w r w') :
    Deed k user w w' (r.map .tokens) := by
  rcases Idle.after (moves_ensure _ _) (Asks.refl w) h with
    ⟨⟨_, rfl⟩, hidle⟩ | ⟨_, w₁, hensure, _, _⟩
  · exact .refused rfl hidle
  · have hanonymous := (Ends.ensure_ok_iff.1 hensure).1
    rw [Caller.isAuthenticated, hcaller] at hanonymous
    cases hanonymous

theorem deed_disassociate (hsave : StoresAsGiven k) {id : AuthenticatorId} {r : Except Fault Unit}
    (h : Ends (disassociate k now caller id) w r w') : Deed k user w w' (r.map fun _ => .done) := by
  rw [disassociate, signedIn, hcaller] at h
  rcases Idle.after (moves_demand _ _) (Asks.refl w) h with
    ⟨⟨_, rfl⟩, hidle⟩ | ⟨user', w₁, hdemand, _, h₁⟩
  · exact .refused rfl hidle
  obtain ⟨huser, rfl⟩ := Ends.demand_ok_iff.1 hdemand
  obtain rfl := Option.some.inj huser
  rcases after_findByUser h₁ with ⟨⟨_, rfl⟩, hidle⟩ | ⟨c, w₂, hloaded, hidle₂, h₂⟩
  · exact .refused rfl hidle
  rcases Idle.after (idle_ensurePerson user) hidle₂ h₂ with
    ⟨⟨_, rfl⟩, hidle⟩ | ⟨_, w₃, _, hidle₃, h₃⟩
  · exact .refused rfl hidle
  refine deed_of_work hsave hloaded hidle₃ owned_disassociate h₃ (fun _ _ => rfl) ?_
  intro _ _ c' _ w₄ _ hlast
  obtain ⟨rfl, rfl⟩ := Ends.pure_iff.1 hlast
  exact ⟨Asks.refl _, fun _ _ => .done⟩

/-- What any request of a user comes to who is no operator, apart from those by which one signs in
or registers a machine. -/
theorem deed_handle (hsave : StoresAsGiven k) (hrole : caller.isOperator = false)
    {request : Request} (hrequest : request.ActsOnCredential) {r : Except Fault Reply}
    (h : Ends (handle s k now caller request) w r w') : Deed k user w w' r := by
  cases hrequest with
  | changeMfa =>
    obtain ⟨_, hinner, rfl⟩ := Ends.bind_pure_iff.1 h
    exact deed_changeMfa hcaller hsave hrole hinner
  | resetMfa =>
    obtain ⟨_, hinner, rfl⟩ := Ends.bind_pure_iff.1 h
    exact deed_resetMfa hrole hinner
  | list =>
    obtain ⟨_, hinner, rfl⟩ := Ends.bind_pure_iff.1 h
    exact deed_listAuthenticators hcaller hinner
  | associate =>
    obtain ⟨_, hinner, rfl⟩ := Ends.bind_pure_iff.1 h
    exact deed_associate hcaller hsave hinner
  | confirm =>
    obtain ⟨_, hinner, rfl⟩ := Ends.bind_pure_iff.1 h
    exact deed_confirm hcaller hsave hinner
  | challenge =>
    obtain ⟨_, hinner, rfl⟩ := Ends.bind_pure_iff.1 h
    exact deed_challenge hcaller hsave hinner
  | verify =>
    obtain ⟨_, hinner, rfl⟩ := Ends.bind_pure_iff.1 h
    exact deed_verify hcaller hinner
  | disassociate =>
    obtain ⟨_, hinner, rfl⟩ := Ends.bind_pure_iff.1 h
    exact deed_disassociate hcaller hsave hinner

end Requests

/-! ### Only their own -/

/-- Someone was asked a question between two worlds. -/
def Asked (w w' : World ω) (question : Question) : Prop :=
  ∃ e ∈ w'.journal.drop w.journal.length, e.question = question

/-- Whatever was asked is of the sort that was asked. -/
theorem Asked.sort_of_asks {sort : Question → Prop} {question : Question} (h : Asked w w' question)
    (hasks : Asks sort w w') : sort question := by
  obtain ⟨more, hjournal, hsort⟩ := hasks
  obtain ⟨e, he, rfl⟩ := h
  rw [hjournal, List.drop_left] at he
  exact hsort e he

/-- A credential that is stored on the way is stored, and what else is asked is asked before or
after. -/
theorem asked_iff_of_saves {sort sort' : Question → Prop} {c : Credential} {w₁ w₂ : World ω}
    (hbefore : Asks sort w w₁) (hsaves : Saves k c w₁ w₂) (hafter : Asks sort' w₂ w') :
    Asked w w' (.save c) ∧
      ∀ question, Asked w w' question → sort question ∨ question = .save c ∨ sort' question := by
  obtain ⟨more, hjournal, hmore⟩ := hbefore
  obtain ⟨later, hjournal', hlater⟩ := hafter
  have hasked : w'.journal.drop w.journal.length =
      more ++ ⟨.save c, refusal? (k.save c w₁.outside).1⟩ :: later := by
    rw [hjournal', hsaves, hjournal, List.append_assoc, List.append_assoc, List.drop_left,
      List.singleton_append]
  refine ⟨⟨_, by rw [hasked]; exact List.mem_append_right _ List.mem_cons_self, rfl⟩, ?_⟩
  rintro _ ⟨e, he, rfl⟩
  rw [hasked, List.mem_append, List.mem_cons] at he
  rcases he with he | rfl | he
  · exact Or.inl (hmore e he)
  · exact Or.inr (Or.inl rfl)
  · exact Or.inr (Or.inr (hlater e he))

/-- Whoever acts keeps to their own credential: nothing else is stored, written to or shown, and
whatever is stored is what was loaded. If the credential that is loaded turns out to be of someone
else, nothing is done. -/
structure KeepsToOwn (k : Collaborators ω) (user : UserId) (w w' : World ω)
    (r : Except Fault Reply) : Prop where
  saved : ∀ c', Asked w w' (.save c') →
    c'.userId = user ∧ ∃ c, Loads k user w c ∧ c'.id = c.id ∧ c'.userId = c.userId
  written : ∀ message, Asked w w' (.notify message) →
    ∃ c, c.userId = user ∧ Asked w w' (.save c) ∧ c.IsReachedBy message
  unissued : ∀ member, ¬Asked w w' (.issueTokens member)
  shown : ∀ view, r = .ok view →
    ∃ c, c.userId = user ∧ (Loads k user w c ∨ Asked w w' (.save c)) ∧ view.ShowsOnly c
  foreign : ∀ c, Loads k user w c → c.userId ≠ user → Idle w w' ∧ ∃ fault, r = .error fault

/-- Whatever a request comes to, it keeps to the credential of the user. -/
theorem keepsToOwn_of_deed {r : Except Fault Reply} (h : Deed k user w w' r) :
    KeepsToOwn k user w w' r := by
  cases h with
  | @refused fault hr hidle =>
    exact ⟨fun _ hasked => (hasked.sort_of_asks hidle).elim,
      fun _ hasked => (hasked.sort_of_asks hidle).elim, fun _ hasked => hasked.sort_of_asks hidle,
      fun view hview => absurd (hr.symm.trans hview) nofun,
      fun _ _ _ => ⟨hidle, fault, hr⟩⟩
  | @shows c view hloaded hown hr hshown hidle =>
    refine ⟨fun _ hasked => (hasked.sort_of_asks hidle).elim,
      fun _ hasked => (hasked.sort_of_asks hidle).elim, fun _ hasked => hasked.sort_of_asks hidle,
      fun other hother => ?_, fun other hother hforeign => ?_⟩
    · obtain rfl := Except.ok.inj (hr.symm.trans hother)
      exact ⟨c, hown, Or.inl hloaded, hshown⟩
    · obtain rfl := Option.some.inj (Except.ok.inj (hloaded.symm.trans hother))
      exact absurd hown hforeign
  | @stores c c' w₁ w₂ hloaded hown hid huser hidle hsaves hsends hshown =>
    obtain ⟨hsaved, hasked⟩ := asked_iff_of_saves hidle hsaves hsends
    have hown' : c'.userId = user := huser.trans hown
    refine ⟨fun c₁ h => ?_, fun message h => ?_, fun member h => ?_, fun view hview => ?_,
      fun other hother hforeign => ?_⟩
    · rcases hasked _ h with hidle | hsame | ⟨_, hsame, _⟩
      · exact hidle.elim
      · cases hsame
        exact ⟨hown', c, hloaded, hid, huser⟩
      · cases hsame
    · rcases hasked _ h with hidle | hsame | ⟨_, hsame, hreached⟩
      · exact hidle.elim
      · cases hsame
      · cases hsame
        exact ⟨c', hown', hsaved, hreached⟩
    · rcases hasked _ h with hidle | hsame | ⟨_, hsame, _⟩
      · exact hidle
      · cases hsame
      · cases hsame
    · exact ⟨c', hown', Or.inr hsaved, hshown view hview⟩
    · obtain rfl := Option.some.inj (Except.ok.inj (hloaded.symm.trans hother))
      exact absurd hown hforeign

/-- Someone who has signed in and is no operator acts on their own credential only, whatever the
others answer. -/
theorem owner_keeps_to_own (hcaller : caller.userId = some user) (hrole : caller.isOperator = false)
    (hsave : StoresAsGiven k) {request : Request} (hrequest : request.ActsOnCredential)
    (now : Instant) (w : World ω) :
    KeepsToOwn k user w (run s k now caller request w).2 (run s k now caller request w).1 :=
  keepsToOwn_of_deed (deed_handle hcaller hsave hrole hrequest rfl)

/-- Collaborators that show some credential for every user. -/
def confused : Collaborators (List Credential) :=
  { Archive.collaborators with findByUser := fun _ versions => (.ok versions.head?, versions) }

theorem owner_keeps_to_own_confused :
    (Caller.authenticated "call" ⟨⟨1#128⟩⟩).userId = some ⟨⟨1#128⟩⟩ ∧
      (Caller.authenticated "call" ⟨⟨1#128⟩⟩).isOperator = false ∧ StoresAsGiven confused ∧
      Request.ActsOnCredential (.changeMfa true) ∧
      KeepsToOwn confused ⟨⟨1#128⟩⟩ ⟨[Credential.sample], .none, []⟩
        (run Script.sample.services confused ⟨0, 0⟩ (Caller.authenticated "call" ⟨⟨1#128⟩⟩)
          (.changeMfa true) ⟨[Credential.sample], .none, []⟩).2
        (run Script.sample.services confused ⟨0, 0⟩ (Caller.authenticated "call" ⟨⟨1#128⟩⟩)
          (.changeMfa true) ⟨[Credential.sample], .none, []⟩).1 := by
  have hsave : StoresAsGiven confused := fun c _ c' h => (Except.ok.inj h).symm
  exact ⟨rfl, rfl, hsave, .changeMfa, owner_keeps_to_own rfl rfl hsave .changeMfa _ _⟩

end SignIn

end TenantAuth
