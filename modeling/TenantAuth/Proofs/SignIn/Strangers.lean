import TenantAuth.Proofs.Credential.WellFormed
import TenantAuth.Proofs.SignIn.Archive
import TenantAuth.Proofs.SignIn.Asking

/-!
Requests of those who have not signed in and hold no valid token.

Such a request is refused, whatever credential the others show for the token: nothing is stored,
sent or issued, and nothing of an authenticator is given away. The refusal says no more than that
the caller is not authenticated, unless the end user, their profile or the number given stands in
the way before the token is looked at.
-/

namespace TenantAuth.SignIn

variable {ω α β : Type} {s : Services} {k : Collaborators ω} {caller : Caller} {now : Instant}
  {w w' : World ω}

/-- A request that may present a sign-in token, and the token that it presents. -/
inductive Request.Presents (token : Option String) : Request → Prop
  | list : Presents token (.list token)
  | associate {kind : AuthenticatorKind} {phone : Option String} :
      Presents token (.associate token kind phone)
  | confirm {kind : AuthenticatorKind} {oobCode : Option String} {typed : String} :
      Presents token (.confirm token kind oobCode typed)
  | challenge {id : AuthenticatorId} : Presents token (.challenge token id)
  | verify {kind : AuthenticatorKind} {oobCode : Option String} {typed : String} :
      Presents token (.verify token kind oobCode typed)

/-- What is shown for a token. The others are not asked about a missing or empty one. -/
def shown (k : Collaborators ω) (token : Option String) (w : World ω) :
    Except Fault (Option Credential) :=
  match token with
  | none => .ok none
  | some text => if text = "" then .ok none else (k.findByToken text w.outside).1

/-- A credential waits for a token: it has stored the hash of it, and the expiry lies ahead. -/
def AwaitsToken (c : Credential) (token : Option String) (now : Instant) : Prop :=
  ∃ text, token = some text ∧ c.mfa.tokenHash = some (Token.hash text) ∧
    ∃ expiry, c.mfa.tokenExpiry = some expiry ∧ now.isBefore expiry = true

/-- Someone who has not signed in holds a token that is valid: the credential shown for it waits for
it. -/
def HoldsToken (k : Collaborators ω) (token : Option String) (now : Instant) (w : World ω) : Prop :=
  ∃ c, shown k token w = .ok (some c) ∧ AwaitsToken c token now

/-- What stands in the way of a request before the token is looked at: an end user who is not known
or not a person, and for a new authenticator a profile that is not known or a number that is
none. -/
inductive Stumbles (k : Collaborators ω) (caller : Caller) (user : UserId) (outside : ω) :
    Request → Fault → Prop
  | unknown {request : Request} {fault : Fault} (checks : ∀ token, request ≠ .list token)
      (refused : (k.getUser caller user outside).1 = .error fault) :
      Stumbles k caller user outside request fault
  | machine {request : Request} {endUser : EndUser} (checks : ∀ token, request ≠ .list token)
      (answered : (k.getUser caller user outside).1 = .ok endUser)
      (other : endUser.isPerson = false) :
      Stumbles k caller user outside request
        (.preconditionViolation "Only a person can have password credentials")
  | profile {token phone : Option String} {kind : AuthenticatorKind} {fault : Fault}
      (refused : (k.getProfile caller user (k.getUser caller user outside).2).1 = .error fault) :
      Stumbles k caller user outside (.associate token kind phone) fault
  | number {token phone : Option String} {kind : AuthenticatorKind} {fault : Fault}
      (refused : phone.mapM PhoneNumber.parse = .error fault) :
      Stumbles k caller user outside (.associate token kind phone) fault

/-- With what a request is refused, depending on what is shown for the token. -/
structure Rebuffs (k : Collaborators ω) (caller : Caller) (token : Option String)
    (request : Request) (w : World ω) (fault : Fault) : Prop where
  unknown : shown k token w = .ok none → fault = .notAuthenticated none
  passedOn : ∀ refusal, shown k token w = .error refusal → fault = refusal
  stale : ∀ text c, token = some text → shown k token w = .ok (some c) →
    fault = Credential.tokenNotValid ∨
      Stumbles k caller c.userId (k.findByToken text w.outside).2 request fault

/-- Steps end in a refusal of some sort, and are idle. -/
def Refuses (sort : Fault → Prop) (m : SignInM ω α) (w : World ω) : Prop :=
  ∀ r w', Ends m w r w' → Idle w w' ∧ ∃ fault, r = .error fault ∧ sort fault

/-! ### Refusals -/

section Refuses

variable {sort : Fault → Prop} {m : SignInM ω α} {next : α → SignInM ω β}

/-- Steps are refused if the first of them are, or what follows them is. -/
theorem Refuses.bind (hidle : Moves Idle m)
    (hrefused : ∀ fault w', Ends m w (.error fault) w' → sort fault)
    (hnext : ∀ a w', Ends m w (.ok a) w' → Refuses sort (next a) w') :
    Refuses sort (m >>= next) w := by
  intro r w' h
  rcases Ends.bind_iff.1 h with ⟨a, w₁, hm, hlater⟩ | ⟨fault, hm, rfl⟩
  · obtain ⟨hidle', hfault⟩ := hnext a w₁ hm r w' hlater
    exact ⟨(hidle _ _ _ hm).trans hidle', hfault⟩
  · exact ⟨hidle _ _ _ hm, fault, rfl, hrefused fault w' hm⟩

/-- Steps that are refused are not followed by others. -/
theorem Refuses.andThen (h : Refuses sort m w) : Refuses sort (m >>= next) w := by
  intro r w' hends
  rcases Ends.bind_iff.1 hends with ⟨a, w₁, hm, _⟩ | ⟨fault, hm, rfl⟩
  · obtain ⟨_, _, hrefused, _⟩ := h _ _ hm
    cases hrefused
  · obtain ⟨hidle, _, hfault, hsort⟩ := h _ _ hm
    cases hfault
    exact ⟨hidle, fault, rfl, hsort⟩

theorem Refuses.mono {sort' : Fault → Prop} (h : Refuses sort m w)
    (hsort : ∀ fault, sort fault → sort' fault) :
    Refuses sort' m w := by
  intro r w' hends
  obtain ⟨hidle, fault, hr, hfault⟩ := h r w' hends
  exact ⟨hidle, fault, hr, hsort fault hfault⟩

end Refuses

/-! ### Looking at the token -/

/-- What looking up a token comes to. -/
theorem findByToken_ends {token : Option String} {r : Except Fault (Credential × MfaCaller)}
    (h : Ends (findByToken k token) w r w') :
    (∃ text c, token = some text ∧ shown k token w = .ok (some c) ∧
      r = .ok (c, .anonymous c.userId text) ∧
        w'.outside = (k.findByToken text w.outside).2) ∨
      (shown k token w = .ok none ∧ r = .error (.notAuthenticated none)) ∨
      ∃ fault, shown k token w = .error fault ∧ r = .error fault := by
  by_cases hmissing : token = none ∨ token = some ""
  · have hrefused : findByToken k token = throw (.notAuthenticated none) := by
      rcases hmissing with rfl | rfl <;> rfl
    have hshown : shown k token w = .ok none := by
      rcases hmissing with rfl | rfl <;> rfl
    rw [hrefused] at h
    exact Or.inr (Or.inl ⟨hshown, (Ends.throw_iff.1 h).1⟩)
  · rw [not_or] at hmissing
    obtain ⟨text, rfl⟩ := Option.ne_none_iff_exists'.1 hmissing.1
    have htext : text ≠ "" := fun heq => hmissing.2 (congrArg some heq)
    have hfilter : (some text).filter (fun text => !text.isEmpty) = some text := by
      simp [Option.filter, htext]
    have hshown : shown k (some text) w = (k.findByToken text w.outside).1 := if_neg htext
    rw [findByToken, hfilter] at h
    obtain ⟨_, _, hdemand, h₁⟩ := (Ends.bind_iff.1 h).resolve_right fun ⟨_, hdemand, _⟩ => by
      exact absurd (Ends.pure_iff.1 hdemand).1 nofun
    obtain ⟨htoken, rfl⟩ := Ends.demand_ok_iff.1 hdemand
    obtain rfl := Option.some.inj htoken
    rcases Ends.bind_iff.1 h₁ with ⟨found, w₁, hask, h₂⟩ | ⟨fault, hask, rfl⟩
    · obtain ⟨hfound, rfl⟩ := ask_iff.1 hask
      cases found with
      | none => exact Or.inr (Or.inl ⟨hshown.trans hfound.symm, (Ends.throw_iff.1 h₂).1⟩)
      | some c =>
        obtain ⟨hr, rfl⟩ := Ends.pure_iff.1 h₂
        exact Or.inl ⟨text, c, rfl, hshown.trans hfound.symm, hr, rfl⟩
    · obtain ⟨hrefused, _⟩ := ask_iff.1 hask
      exact Or.inr (Or.inr ⟨fault, hshown.trans hrefused.symm, rfl⟩)

/-- Whoever carries a token that a credential does not wait for is not authorized. -/
theorem authorize_stale {c : Credential} {text : String} {n : Draws}
    (hstale : ¬AwaitsToken c (some text) now) :
    Ends (Credential.authorize (.anonymous c.userId text) now) ⟨c, n⟩
      (.error Credential.tokenNotValid) ⟨c, n⟩ := by
  have hinvalid : c.mfa.isValid text now = false := by
    rw [← Bool.not_eq_true]
    intro hvalid
    exact hstale ⟨text, rfl, isValid_iff.1 hvalid⟩
  have hrefused :
      c.unauthorized? (.anonymous c.userId text) now = some Credential.tokenNotValid := by
    simp [Credential.unauthorized?, MfaCaller.anonymous, hinvalid]
  have hcurrent : Ends Credential.current ⟨c, n⟩ (.ok c) ⟨c, n⟩ :=
    Credential.current_ok_iff.2 ⟨rfl, rfl⟩
  refine Ends.bind_iff.2 (Or.inl ⟨c, _, hcurrent, ?_⟩)
  rw [hrefused]
  exact Ends.throw_iff.2 ⟨rfl, rfl⟩

/-- Nobody may work on a credential with a token that it does not wait for. -/
theorem refuses_stale {c : Credential} {text : String} {operation : CredentialM α}
    {next : α × Credential → SignInM ω β} (hstale : ¬AwaitsToken c (some text) now) :
    Refuses (· = Credential.tokenNotValid)
      (work c (Credential.authorize (.anonymous c.userId text) now >>= fun _ => operation) >>=
        next) w := by
  refine Refuses.andThen fun r w' h => ⟨asks_work _ _ _ _ _ h, Credential.tokenNotValid, ?_, rfl⟩
  obtain ⟨reply, d', hreply, rfl, _⟩ := work_iff.1 h
  have hrefused :
      Ends (Credential.authorize (.anonymous c.userId text) now >>= fun _ => operation) ⟨c, w.draws⟩
        (.error Credential.tokenNotValid) ⟨c, w.draws⟩ :=
    Ends.bind_iff.2 (Or.inr ⟨_, authorize_stale hstale, rfl⟩)
  rw [(Ends.unique hreply hrefused).1]
  rfl

/-- An end user who is not known or not a person stands in the way. -/
theorem refuses_ensurePerson {user : UserId} {request : Request} {next : SignInM ω β}
    (hchecks : ∀ token, request ≠ .list token)
    (hnext : ∀ w₁, w₁.outside = (k.getUser caller user w.outside).2 →
      Refuses (fun fault => fault = Credential.tokenNotValid ∨
        Stumbles k caller user w.outside request fault) next w₁) :
    Refuses (fun fault => fault = Credential.tokenNotValid ∨
        Stumbles k caller user w.outside request fault)
      (ensurePerson k caller user >>= fun _ => next) w := by
  refine Refuses.bind (idle_ensurePerson user) (fun fault w₁ h => Or.inr ?_) fun _ w₁ h =>
    hnext w₁ ?_
  · rcases Ends.bind_iff.1 h with ⟨endUser, w₂, hask, hensure⟩ | ⟨fault, hask, hfault⟩
    · obtain ⟨hanswer, _⟩ := ask_iff.1 hask
      cases hperson : endUser.isPerson with
      | false =>
        rw [hperson] at hensure
        obtain ⟨hfault, _⟩ := Ends.throw_iff.1 hensure
        cases hfault
        exact .machine hchecks hanswer.symm hperson
      | true =>
        rw [hperson] at hensure
        exact absurd (Ends.pure_iff.1 hensure).1 nofun
    · cases hfault
      exact .unknown hchecks (ask_iff.1 hask).1.symm
  · simp only [ensurePerson, Ends.bind_ok_iff, ask_iff, Ends.ensure_ok_iff] at h
    obtain ⟨endUser, _, ⟨_, rfl⟩, _, rfl⟩ := h
    rfl

/-! ### Request by request -/

theorem liftExcept_error {x : Except Fault α} {fault : Fault}
    (h : Ends (liftExcept x : SignInM ω α) w (.error fault) w') : x = .error fault := by
  cases x with
  | error other => exact congrArg Except.error (Except.error.inj (Ends.throw_iff.1 h).1).symm
  | ok a => exact absurd (Ends.pure_iff.1 h).1 nofun

section Requests

variable {token : Option String}

/-- A request is rebuffed for its token, or because of the steps that follow the lookup. -/
theorem refuses_findByToken {request : Request} {next : Credential × MfaCaller → SignInM ω β}
    (hnext : ∀ text c w₁, shown k token w = .ok (some c) → token = some text →
      w₁.outside = (k.findByToken text w.outside).2 →
      Refuses (fun fault => fault = Credential.tokenNotValid ∨ Stumbles k caller c.userId w₁.outside
        request fault) (next (c, .anonymous c.userId text)) w₁) :
    Refuses (Rebuffs k caller token request w) (findByToken k token >>= next) w := by
  refine Refuses.bind (idle_findByToken token) (fun fault w₁ h => ?_) fun ⟨c, speaker⟩ w₁ h => ?_
  · rcases findByToken_ends h with ⟨_, _, _, _, hr, _⟩ | ⟨hnone, hr⟩ | ⟨refusal, hrefused, hr⟩ <;>
      cases hr
    · exact ⟨fun _ => rfl, fun _ hrefused => absurd (hnone.symm.trans hrefused) nofun,
        fun _ _ _ hfound => absurd (hnone.symm.trans hfound) nofun⟩
    · exact ⟨fun hnone => absurd (hrefused.symm.trans hnone) nofun,
        fun _ hother => Except.error.inj (hrefused.symm.trans hother),
        fun _ _ _ hfound => absurd (hrefused.symm.trans hfound) nofun⟩
  · rcases findByToken_ends h with
      ⟨text, c₁, htoken, hfound, hr, houtside⟩ | ⟨_, hr⟩ | ⟨_, _, hr⟩ <;> cases hr
    refine (hnext text c w₁ hfound htoken houtside).mono fun fault hfault => ?_
    refine ⟨fun hnone => absurd (hfound.symm.trans hnone) nofun,
      fun _ hrefused => absurd (hfound.symm.trans hrefused) nofun,
      fun text' c' htoken' hfound' => ?_⟩
    obtain rfl := Option.some.inj (htoken.symm.trans htoken')
    obtain rfl := Option.some.inj (Except.ok.inj (hfound.symm.trans hfound'))
    rwa [houtside] at hfault

/-- Someone who has not signed in and holds no valid token is refused, whatever the others answer.
Nothing is stored, sent or issued. -/
theorem stranger_refused {request : Request} (hcaller : caller.userId = none)
    (hpresents : request.Presents token) (hnone : ¬HoldsToken k token now w) :
    Idle w (run s k now caller request w).2 ∧
      ∃ fault, (run s k now caller request w).1 = .error fault ∧
      Rebuffs k caller token request w fault := by
  have hstale (text : String) (c : Credential) (hfound : shown k token w = .ok (some c))
      (htoken : token = some text) : ¬AwaitsToken c (some text) now :=
    fun hawaits => hnone ⟨c, hfound, htoken ▸ hawaits⟩
  have hresolve : resolve k caller token = findByToken k token := by
    rw [resolve, hcaller]
  suffices hrefuses :
    Refuses (Rebuffs k caller token request w) (handle s k now caller request) w from
    hrefuses _ _ rfl
  cases hpresents with
  | list =>
    refine Refuses.andThen ?_
    rw [listAuthenticators, hresolve]
    refine refuses_findByToken fun text c w₁ hfound htoken _ => ?_
    exact (refuses_stale (hstale text c hfound htoken)).mono fun _ => Or.inl
  | associate =>
    refine Refuses.andThen ?_
    rw [associate, hresolve]
    refine refuses_findByToken fun text c w₁ hfound htoken _ => ?_
    refine refuses_ensurePerson nofun fun w₂ houtside => ?_
    refine Refuses.bind (idle_getProfile _) (fun fault _ h => Or.inr ?_) fun profile w₃ _ => ?_
    · exact .profile (houtside ▸ (ask_iff.1 h).1.symm)
    refine Refuses.bind (moves_liftExcept _) (fun fault _ h => Or.inr (.number ?_))
      fun phone w₄ _ => ?_
    · exact liftExcept_error h
    exact (refuses_stale (hstale text c hfound htoken)).mono fun _ => Or.inl
  | confirm =>
    refine Refuses.andThen ?_
    rw [confirm, hresolve]
    refine refuses_findByToken fun text c w₁ hfound htoken _ => ?_
    refine refuses_ensurePerson nofun fun w₂ _ => ?_
    exact (refuses_stale (hstale text c hfound htoken)).mono fun _ => Or.inl
  | challenge =>
    refine Refuses.andThen ?_
    rw [challenge, hresolve]
    refine refuses_findByToken fun text c w₁ hfound htoken _ => ?_
    refine refuses_ensurePerson nofun fun w₂ _ => ?_
    exact (refuses_stale (hstale text c hfound htoken)).mono fun _ => Or.inl
  | verify =>
    refine Refuses.andThen ?_
    have hunsigned : (!caller.isAuthenticated) = true := by
      rw [Caller.isAuthenticated, hcaller]
      rfl
    rw [verify, hunsigned]
    refine Refuses.bind (moves_ensure _ _) (fun fault _ h => absurd (Ends.pure_iff.1 h).1 nofun)
      fun _ w₁ h => ?_
    obtain ⟨_, rfl⟩ := Ends.pure_iff.1 h
    refine refuses_findByToken fun text c w₂ hfound htoken _ => ?_
    refine refuses_ensurePerson nofun fun w₃ _ => ?_
    exact (refuses_stale (hstale text c hfound htoken)).mono fun _ => Or.inl

end Requests

/-- Collaborators that show some credential for every token. -/
def careless : Collaborators (List Credential) :=
  { Archive.collaborators with findByToken := fun _ versions => (.ok versions.head?, versions) }

/-- A credential whose sign-in token has expired. -/
def expired : Credential :=
    { Credential.sample with mfa := Credential.sample.mfa.bind "token" ⟨0, 0⟩ }

theorem stranger_refused_expired :
    (Caller.anonymous "call").userId = none ∧ Request.Presents (some "token")
      (.list (some "token")) ∧ ¬HoldsToken careless (some "token") ⟨1, 0⟩ ⟨[expired], .none, []⟩ ∧
      Idle ⟨[expired], .none, []⟩
        (run Script.sample.services careless ⟨1, 0⟩ (Caller.anonymous "call") (.list (some "token"))
          ⟨[expired], .none, []⟩).2 ∧
      ∃ fault,
        (run Script.sample.services careless ⟨1, 0⟩ (Caller.anonymous "call") (.list (some "token"))
          ⟨[expired], .none, []⟩).1 = .error fault ∧
        Rebuffs careless (Caller.anonymous "call") (some "token") (.list (some "token"))
          ⟨[expired], .none, []⟩ fault := by
  have hnone : ¬HoldsToken careless (some "token") ⟨1, 0⟩ ⟨[expired], .none, []⟩ := by
    rintro ⟨c, hshown, _, _, _, expiry, hexpiry, hbefore⟩
    obtain rfl : expired = c := Option.some.inj (Except.ok.inj hshown)
    obtain rfl : ⟨0, 0⟩ = expiry := Option.some.inj hexpiry
    exact absurd hbefore (by decide)
  exact ⟨rfl, .list, hnone, stranger_refused rfl .list hnone⟩

end TenantAuth.SignIn
