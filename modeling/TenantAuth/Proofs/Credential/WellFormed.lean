import TenantAuth.Proofs.Credential.Arranged
import TenantAuth.Proofs.Credential.Drawing
import TenantAuth.Proofs.Mfa.Rehearsal

/-!
What holds of every credential, whatever was done to it.

A credential starts with nothing and is changed by operations, of which the refused ones leave only
their draws behind. Its authenticators are none, or recovery codes followed by at least one more; no
two are of a kind, and no two have an identifier. What is used up of each fits its kind. Each
operation that succeeds keeps this, so every course of operations does.
-/

namespace TenantAuth

variable {s : Services} {now : Instant} {n n' : Draws}

namespace Credential

variable {c c' : Credential} {d d' : Desk}

/-- What holds of every credential. -/
structure WellFormed (s : Services) (c : Credential) : Prop where
  arranged : Arranged c.authenticators
  sound : ∀ a ∈ c.authenticators, a.Sound s
  token : c.mfa.tokenHash.isSome = c.mfa.tokenExpiry.isSome
  enforced : c.mfa.canBeDisabled = false → c.mfa.isEnabled = true
  verified : c.authenticators ≠ [] → c.isVerified = true
  named : c.registration ≠ .unverified → c.username.isSome = true
  password : ∀ hash, c.passwordHash = some hash →
    ∃ use password, leastPasswordLength ≤ password.length ∧ s.hashPassword use password = .ok hash

/-- A credential with as many authenticators, other ones or the same, that are arranged and fit as
well. -/
theorem WellFormed.listed {list : List Authenticator} (h : WellFormed s c)
    (harranged : Arranged list) (hsound : ∀ a ∈ list, a.Sound s)
    (hverified : list ≠ [] → c.isVerified = true) :
    WellFormed s { c with authenticators := list } :=
  ⟨harranged, hsound, h.token, h.enforced, hverified, h.named, h.password⟩

/-- An authenticator that is renewed in its place leaves a credential well-formed. -/
theorem WellFormed.renewed {condition : Authenticator → Bool} {a a' : Authenticator}
    (h : WellFormed s c) (hfind : c.authenticators.find? condition = some a) (hid : a'.id = a.id)
    (hkind : a'.kind = a.kind) (hsound : a'.Sound s) :
    WellFormed s { c with authenticators := replaceFirst condition a' c.authenticators } := by
  refine h.listed (h.arranged.renewed hfind hid hkind) ?_ fun _ => ?_
  · intro b hb
    rcases mem_replaceFirst hb with rfl | hb
    · exact hsound
    · exact h.sound b hb
  · exact h.verified (List.ne_nil_of_mem (List.mem_of_find?_eq_some hfind))

/-- Leaving no token outstanding leaves a credential well-formed. -/
theorem WellFormed.cleared (h : WellFormed s c) : WellFormed s { c with mfa := c.mfa.clearToken } :=
  ⟨h.arranged, h.sound, rfl, h.enforced, h.verified, h.named, h.password⟩

/-- What is kept: a credential is well-formed, and the identifiers in it were drawn. -/
def Kept (s : Services) (d : Desk) : Prop :=
  WellFormed s d.credential ∧ Drawn s d.draws.authenticatorIds d.credential.authenticators

/-- Adding an authenticator keeps a credential well-formed. -/
theorem kept_associate {caller : MfaCaller} {kind : AuthenticatorKind} {phone : Option PhoneNumber}
    {email profileEmail : Option EmailAddress} {outcome : Association}
    (hids : s.Distinct d'.draws.authenticatorIds) (hd : Kept s d)
    (h : Ends (associate s now caller kind phone email profileEmail) d (.ok outcome) d') :
    Kept s d' := by
  obtain ⟨_, hverified, _, hkind, hinactive, made, draw, hmade, hpending, hdraws, hd'⟩ :=
    associate_ok h
  rw [hdraws] at hids
  obtain ⟨hc, hdrawn⟩ := hd
  have hsub : (staying kind d.credential.authenticators).Sublist d.credential.authenticators :=
    List.filter_sublist
  have hothers : ∀ a ∈ staying kind d.credential.authenticators, a.kind ≠ kind := by
    intro a ha hsame
    obtain ⟨hmem, hstays⟩ := List.mem_filter.1 ha
    have hactive := List.find?_eq_none.1 hinactive a hmem
    simp [hsame] at hstays hactive
    cases hactive.symm.trans hstays
  -- in front of the new authenticator stand recovery codes, those that are there or those that were
  -- made
  have hfront : Headed (staying kind d.credential.authenticators ++ made) ∧
      Drawn s draw (staying kind d.credential.authenticators ++ made) ∧
      (∀ a ∈ staying kind d.credential.authenticators ++ made, a.Sound s ∧ a.kind ≠ kind) := by
    generalize outcome.recoveryCodes = shown at hmade
    cases hthere : d.credential.recoveryCodes? with
    | some codes =>
      rw [hthere] at hmade
      cases hmade
      rw [List.append_nil]
      refine ⟨hc.arranged.staying (List.ne_nil_of_mem (List.mem_of_find?_eq_some hthere)) hkind,
        hdrawn.sublist hsub, fun a ha => ⟨hc.sound a (hsub.subset ha), hothers a ha⟩⟩
    | none =>
      have hnil : d.credential.authenticators = [] := by
        rcases hc.arranged.codesFirst with hnil | ⟨_, _, hkinds⟩
        · exact hnil
        · obtain ⟨first, others, hlist, hfirst, _⟩ := List.map_eq_cons_iff.1 hkinds
          exact absurd hfirst (by simpa using List.find?_eq_none.1 hthere first (by simp [hlist]))
      rw [hthere] at hmade
      rw [hnil, staying, List.filter_nil, List.nil_append]
      cases hmade with
      | made hencrypted =>
        refine ⟨headed_singleton rfl, ?_, ?_⟩
        · intro a ha
          exact ⟨_, Nat.lt_succ_self _, by rw [List.mem_singleton.1 ha]⟩
        · intro a ha
          rw [List.mem_singleton.1 ha]
          exact ⟨Authenticator.sound_of_codes hencrypted, Ne.symm hkind⟩
  obtain ⟨hheaded, hfrontDrawn, hfront⟩ := hfront
  obtain ⟨harranged, hdrawn'⟩ := hheaded.added hids hfrontDrawn hpending.id_eq fun a ha => by
    rw [hpending.kind_eq]
    exact (hfront a ha).2
  rw [Kept, hd', hdraws]
  refine ⟨hc.listed harranged ?_ fun _ => hverified, hdrawn'⟩
  intro a ha
  rcases List.mem_append.1 ha with ha | ha
  · exact (hfront a ha).1
  · rw [List.mem_singleton.1 ha]
    exact Authenticator.sound_of_pending hpending hkind

/-- Renewing an authenticator in its place keeps a credential well-formed, as long as there were no
fewer draws. -/
theorem kept_renewed {condition : Authenticator → Bool} {a b : Authenticator} (hd : Kept s d)
    (hdraws : d.draws.authenticatorIds ≤ n.authenticatorIds)
    (hfind : d.credential.authenticators.find? condition = some a) (hfactor : b.factor = a.factor)
    (hsound : b.Sound s) :
    Kept s ⟨{ d.credential with
      authenticators := replaceFirst condition b d.credential.authenticators }, n⟩ := by
  have hid : b.id = a.id := congrArg Factor.id hfactor
  exact ⟨hd.1.renewed hfind hid (Authenticator.kind_eq_of_factor hfactor) hsound,
    (hd.2.renewed hfind hid).mono hdraws⟩

/-- Confirming an authenticator keeps a credential well-formed. -/
theorem kept_confirm {caller : MfaCaller} {kind : AuthenticatorKind} {oobCode : Option String}
    {typed : String} {u : Unit} (hd : Kept s d)
    (hdraws : d.draws.authenticatorIds ≤ d'.draws.authenticatorIds)
    (h : Ends (confirm s now caller kind oobCode typed) d (.ok u) d') : Kept s d' := by
  obtain ⟨_, _, _, a, proved, ha, hproved, hd'⟩ := confirm_ok h
  obtain ⟨hfactor, _⟩ := Authenticator.factor_of_proved hproved
  obtain ⟨hrenewed, hdrawn⟩ :=
    kept_renewed (b := { proved with isActive := true }) hd hdraws ha hfactor
      ((hd.1.sound a (List.mem_of_find?_eq_some ha)).proved hproved)
  rw [Kept, hd']
  refine ⟨?_, hdrawn⟩
  cases caller.isAnonymous with
  | true => exact hrenewed.cleared
  | false => exact hrenewed

/-- Verifying an authenticator keeps a credential well-formed. -/
theorem kept_verify {caller : MfaCaller} {kind : AuthenticatorKind} {oobCode : Option String}
    {typed : String} {u : Unit} (hs : s.Undoes) (hd : Kept s d)
    (hdraws : d.draws.authenticatorIds ≤ d'.draws.authenticatorIds)
    (h : Ends (verify s now caller kind oobCode typed) d (.ok u) d') : Kept s d' := by
  obtain ⟨_, _, a, proved, ha, hproved, hd'⟩ := verify_ok h
  have hsound := hd.1.sound a (List.mem_of_find?_eq_some ha)
  have hfactor : proved.factor = a.factor ∧ proved.Sound s := by
    split at hproved
    · obtain ⟨_, _, rfl⟩ := Authenticator.consumeRecoveryCode_ok hproved none
      exact ⟨rfl, hsound.consumed hs hproved⟩
    · obtain ⟨hfactor, hactive⟩ := Authenticator.factor_of_proved hproved
      have hstays : { proved with isActive := true } = proved := by
        rw [show true = proved.isActive from ?_]
        rw [hactive]
        have hfound := List.find?_some ha
        simp only [Bool.and_eq_true] at hfound
        exact hfound.2.symm
      exact ⟨hfactor, hstays ▸ hsound.proved hproved⟩
  obtain ⟨hrenewed, hdrawn⟩ := kept_renewed hd hdraws ha hfactor.1 hfactor.2
  rw [Kept, hd']
  exact ⟨hrenewed.cleared, hdrawn⟩

/-- Challenging an authenticator keeps a credential well-formed. -/
theorem kept_challenge {caller : MfaCaller} {id : AuthenticatorId} {outcome : ChallengeOutcome}
    (hd : Kept s d) (hdraws : d.draws.authenticatorIds ≤ d'.draws.authenticatorIds)
    (h : Ends (challenge s now caller id) d (.ok outcome) d') : Kept s d' := by
  obtain ⟨_, _, a, challenged, sent, ha, _, hchallenged, _, hd'⟩ := challenge_ok h
  have hrenewed := kept_renewed hd hdraws ha (Authenticator.factor_of_challenged hchallenged).1
    ((hd.1.sound a (List.mem_of_find?_eq_some ha)).challenged hchallenged)
  rw [Kept, hd']
  exact hrenewed

/-- Removing an authenticator keeps a credential well-formed. -/
theorem kept_disassociate {caller : MfaCaller} {id : AuthenticatorId} {u : Unit} (hd : Kept s d)
    (h : Ends (disassociate now caller id) d (.ok u) d') : Kept s d' := by
  obtain ⟨_, a, ha, hkind, rfl⟩ := disassociate_ok h
  obtain ⟨hc, hdrawn⟩ := hd
  have hsub := removed_sublist id d.credential.authenticators
  refine ⟨hc.listed (hc.arranged.removed ha hkind)
    (fun b hb => hc.sound b (hsub.subset hb)) fun _ => ?_, hdrawn.sublist hsub⟩
  exact hc.verified (List.ne_nil_of_mem (List.mem_of_find?_eq_some ha))

/-- What is kept is kept by every operation that succeeds. -/
theorem kept_perform {action : Action} {answer : Answer}
    (hids : s.Distinct d'.draws.authenticatorIds) (hs : s.Undoes) (hd : Kept s d)
    (h : Ends (perform s now action) d (.ok answer) d') : Kept s d' := by
  have hdraws : d.draws.authenticatorIds ≤ d'.draws.authenticatorIds :=
    drawing_perform action _ _ _ h
  have ⟨hc, hdrawn⟩ := hd
  cases action with
  | setPassword password =>
    obtain ⟨_, h⟩ := answered h
    obtain ⟨hlength, hash, hhash, hd'⟩ := setPassword_ok h
    rw [Kept, hd']
    refine ⟨⟨hc.arranged, hc.sound, hc.token, hc.enforced, hc.verified, hc.named, ?_⟩,
      hdrawn.mono hdraws⟩
    rintro _ ⟨⟩
    exact ⟨_, password, hlength, hhash⟩
  | hasPassword password =>
    obtain ⟨_, h⟩ := answered h
    obtain ⟨hash, _, _, hd'⟩ := hasPassword_ok h
    rw [Kept, hd']
    exact ⟨hc, hdrawn.mono hdraws⟩
  | setDetails email displayName =>
    obtain ⟨_, h⟩ := answered h
    rw [setDetails_ok_iff.1 h]
    exact ⟨⟨hc.arranged, hc.sound, hc.token, hc.enforced, hc.verified, fun _ => rfl, hc.password⟩,
      hdrawn⟩
  | initiateRegistration =>
    obtain ⟨_, h⟩ := answered h
    obtain ⟨husername, hopen, _, hd'⟩ := initiateRegistration_ok h
    -- there are no authenticators before a credential is verified, so it may await its verification
    -- again
    have hnone : d.credential.authenticators ≠ [] → false = true :=
      fun hne => hopen ▸ hc.verified hne
    rw [Kept, hd']
    exact ⟨⟨hc.arranged, hc.sound, hc.token, hc.enforced, hnone, fun _ => husername, hc.password⟩,
      hdrawn.mono hdraws⟩
  | verifyRegistration =>
    obtain ⟨_, h⟩ := answered h
    obtain ⟨hpending, hd'⟩ := verifyRegistration_ok h
    have hnamed : d.credential.username.isSome = true := by
      refine hc.named fun hunverified => ?_
      rw [hunverified] at hpending
      cases hpending
    rw [Kept, hd']
    exact ⟨⟨hc.arranged, hc.sound, hc.token, hc.enforced, fun _ => rfl, fun _ => hnamed,
      hc.password⟩, hdrawn.mono hdraws⟩
  | changeMfa caller isEnabled =>
    obtain ⟨_, h⟩ := answered h
    obtain ⟨_, hallowed, hd'⟩ := changeMfa_ok h
    rw [Kept, hd']
    refine ⟨⟨hc.arranged, hc.sound, hc.token, fun hforced => ?_, hc.verified, hc.named,
      hc.password⟩, hdrawn.mono hdraws⟩
    exact hallowed.resolve_right (by simpa using hforced)
  | enforceMfa caller =>
    obtain ⟨_, h⟩ := answered h
    obtain ⟨_, hd'⟩ := enforceMfa_ok h
    rw [Kept, hd']
    exact ⟨⟨hc.arranged, hc.sound, hc.token, fun _ => rfl, hc.verified, hc.named, hc.password⟩,
      hdrawn.mono hdraws⟩
  | resetMfa caller =>
    obtain ⟨_, h⟩ := answered h
    obtain ⟨_, hd'⟩ := resetMfa_ok h
    rw [Kept, hd']
    exact ⟨⟨arranged_nil, nofun, rfl, nofun, fun hne => absurd rfl hne, hc.named, hc.password⟩,
      nofun⟩
  | initiateMfa =>
    obtain ⟨_, h⟩ := answered h
    obtain ⟨_, _, expiry, _, hd'⟩ := initiateMfa_ok h
    rw [Kept, hd']
    exact ⟨⟨hc.arranged, hc.sound, rfl, hc.enforced, hc.verified, hc.named, hc.password⟩,
      hdrawn.mono hdraws⟩
  | authorize caller =>
    obtain ⟨_, h⟩ := answered h
    rw [(authorize_ok_iff.1 h).2]
    exact hd
  | viewAuthenticators caller =>
    obtain ⟨_, h⟩ := answered h
    rw [(viewAuthenticators_ok_iff.1 h).2.2]
    exact hd
  | associate caller kind phone email profileEmail =>
    obtain ⟨_, h⟩ := answered h
    exact kept_associate hids hd h
  | confirm caller kind oobCode typed =>
    obtain ⟨_, h⟩ := answered h
    exact kept_confirm hd hdraws h
  | challenge caller id =>
    obtain ⟨_, h⟩ := answered h
    exact kept_challenge hd hdraws h
  | verify caller kind oobCode typed =>
    obtain ⟨_, h⟩ := answered h
    exact kept_verify hs hd hdraws h
  | disassociate caller id =>
    obtain ⟨_, h⟩ := answered h
    exact kept_disassociate hd h

/-! ### Courses of operations -/

/-- The desk after an operation: one that is refused leaves its draws behind, and nothing else. -/
def step (s : Services) (d : Desk) (operation : Instant × Action) : Desk :=
  match run s operation.1 operation.2 d with
  | (.ok _, d') => d'
  | (.error _, d') => ⟨d.credential, d'.draws⟩

/-- The desk after one operation after the other. -/
def course (s : Services) (d : Desk) (operations : List (Instant × Action)) : Desk :=
    operations.foldl (step s) d

/-- There are no fewer draws after an operation. -/
theorem drawing_step (d : Desk) (operation : Instant × Action) :
    d.draws.authenticatorIds ≤ (step s d operation).draws.authenticatorIds := by
  have hdrawing :
      d.draws.authenticatorIds ≤ (run s operation.1 operation.2 d).2.draws.authenticatorIds :=
    drawing_perform operation.2 d _ _ rfl
  unfold step
  split <;> simp_all

theorem drawing_course (d : Desk) (operations : List (Instant × Action)) :
    d.draws.authenticatorIds ≤ (course s d operations).draws.authenticatorIds := by
  induction operations generalizing d with
  | nil => exact Nat.le_refl _
  | cons operation rest ih => exact Nat.le_trans (drawing_step d operation) (ih _)

/-- What is kept is kept by an operation, whether or not it is refused. -/
theorem kept_step {operation : Instant × Action} (hs : s.Undoes) (hd : Kept s d)
    (hids : s.Distinct (step s d operation).draws.authenticatorIds) :
    Kept s (step s d operation) := by
  have hdraws := drawing_step (s := s) d operation
  unfold step at hids hdraws ⊢
  split
  · rename_i answer d' h
    rw [h] at hids
    exact kept_perform hids hs hd h
  · rename_i fault d' h
    rw [h] at hdraws
    exact ⟨hd.1, hd.2.mono hdraws⟩

/-- What is kept is kept all along a course. -/
theorem kept_course {operations : List (Instant × Action)} (hs : s.Undoes) (hd : Kept s d)
    (hids : s.Distinct (course s d operations).draws.authenticatorIds) :
    Kept s (course s d operations) := by
  induction operations generalizing d with
  | nil => exact hd
  | cons operation rest ih => exact ih (kept_step hs hd (hids.mono (drawing_course _ rest))) hids

/-- Nothing is wrong with a new credential. -/
theorem kept_create (id : CredentialId) (user : UserId) (n : Draws) : Kept s ⟨create id user, n⟩ :=
  ⟨⟨arranged_nil, nofun, rfl, nofun, fun hne => absurd rfl hne, fun hne => absurd rfl hne, nofun⟩,
    nofun⟩

/-- Every credential that operations lead to is well-formed, whoever asks for them and whatever is
refused, if no identifier was drawn twice and what is decrypted is what was encrypted. -/
theorem wellFormed_course (id : CredentialId) (user : UserId) (n : Draws)
    (operations : List (Instant × Action))
    (hids : s.Distinct (course s ⟨create id user, n⟩ operations).draws.authenticatorIds)
    (hs : s.Undoes) :
    WellFormed s (course s ⟨create id user, n⟩ operations).credential :=
  (kept_course hs (kept_create id user n) hids).1

/-- A course to two authenticators: the registration is verified, an authenticator of time-based
codes is added and confirmed, and a recovery code is consumed. -/
def sampleCourse : List (Instant × Action) :=
  let user : UserId := ⟨⟨1#128⟩⟩
  [(⟨0, 0⟩, .setPassword "password"), (⟨0, 0⟩, .setDetails ⟨"ann@example.com"⟩ "Ann"),
    (⟨0, 0⟩, .initiateRegistration), (⟨1, 0⟩, .verifyRegistration),
    (⟨1, 0⟩, .changeMfa (.authenticated "call" user) true),
    (⟨2, 0⟩, .associate (.authenticated user) .totp none none none),
    (⟨3, 0⟩, .confirm (.authenticated user) .totp none "111111"),
    (⟨4, 0⟩, .verify (.authenticated user) .recoveryCodes none "aa-aa")]

/-- The credential at the end of this course. -/
def sample : Credential :=
  (course Script.sample.services ⟨create ⟨⟨2#128⟩⟩ ⟨⟨1#128⟩⟩, .none⟩ sampleCourse).credential

theorem wellFormed_sample :
    sample.authenticators.map Authenticator.usedUp = [some "AAAA", some "7"] ∧
      WellFormed Script.sample.services sample :=
  ⟨by decide +kernel, wellFormed_course _ _ _ _ (Script.distinct (by decide +kernel)) Script.undoes⟩

end Credential

end TenantAuth
