import TenantAuth.Proofs.Credential.Messages
import TenantAuth.Proofs.Credential.Turnover
import TenantAuth.Proofs.Mfa.Consuming

/-!
Answering out-of-band challenges.

A challenge is known in two parts: its code is given back to whoever asked for it, and its secret is
sent to the contact. Until the authenticator is proved, challenged again or removed, both parts
together are accepted and nothing else is; whatever else is tried is refused and changes nothing.
Once they were accepted, nothing is any more, until there is another challenge.

The secret is compared with what was typed without blanks around it, so it is accepted with blanks
around it as well.
-/

namespace TenantAuth

variable {s : Services} {n n' : Draws}

theorem AuthenticatorKind.ne_recoveryCodes {kind : AuthenticatorKind}
    (h : kind.isOutOfBand = true) : kind ≠ .recoveryCodes := by
  rintro rfl
  cases h

/-- A script that refuses no decryption restores whatever was encrypted. -/
theorem Script.restores {script : Script} (h : script.notDecrypted = []) :
    script.services.Restores := by
  intro use use' text stored hencrypted
  simp only [services, encrypt] at hencrypted
  split at hencrypted
  · cases hencrypted
  · obtain rfl := Except.ok.inj hencrypted
    simp [services, decrypt, unmarked?_marked, h]

namespace Authenticator

variable {a b : Authenticator} {message : Notification} {code : String} {oobCode : Option String}
  {typed : String}

/-- Where an authenticator is reached, if it is reached out-of-band. -/
def contact? (a : Authenticator) : Option Contact :=
  match a.material with
  | .outOfBand contact _ => some contact
  | _ => none

/-- The challenge of which a message carries the secret awaits its answer under a code. -/
def Awaits (s : Services) (a : Authenticator) (code : String) (message : Notification) : Prop :=
  a.IsSent s message ∧ a.oobCode? = some code

/-- What is given answers a challenge: its code, and its secret with or without blanks around it. -/
def Answers (code : String) (message : Notification) (oobCode : Option String)
    (typed : String) : Prop :=
  oobCode = some code ∧ Text.trimmed typed = message.secret

theorem Awaits.spec (h : a.Awaits s code message) :
    ∃ stored use, a.material = .outOfBand message.contact (some ⟨code, stored⟩) ∧
      s.encrypt use message.secret = .ok stored ∧ a.kind.isOutOfBand = true := by
  obtain ⟨⟨code', stored, use, hmade, hstored⟩, hcode⟩ := h
  rw [oobCode?, challenge?, hmade] at hcode
  obtain rfl : code' = code := Option.some.inj hcode
  refine ⟨stored, use, hmade, hstored, ?_⟩
  rw [kind, hmade]
  cases message.contact <;> rfl

/-- What answers the challenge proves possession. -/
theorem Awaits.accepts (hrestores : s.Restores) (h : a.Awaits s code message)
    (hanswers : Answers code message oobCode typed) (n : Draws) :
    ∃ b n', Ends (provePossession s oobCode typed) ⟨a, n⟩ (.ok ()) ⟨b, n'⟩ := by
  obtain ⟨stored, use, hmade, hstored, hkind⟩ := h.spec
  obtain ⟨rfl, htyped⟩ := hanswers
  refine ⟨{ a with material := .outOfBand message.contact none }, { n with uses := n.uses + 1 }, ?_⟩
  rw [provePossession, current_bind_iff, if_pos hkind, Ends.bind_of_ok
    (Ends.demand_ok_iff.2 ⟨rfl, rfl⟩)]
  refine proveContact_ok_iff.2 ⟨_, _, hmade, rfl, ?_, rfl, rfl⟩
  rw [htyped]
  exact hrestores _ _ _ _ hstored

/-- Whatever else is given does not, and this is told as a fault of what was given. -/
theorem Awaits.refuses (hrestores : s.Restores) (h : a.Awaits s code message)
    (hother : ¬Answers code message oobCode typed) (n : Draws) :
    ∃ field wording n', Ends (provePossession s oobCode typed) ⟨a, n⟩
      (.error (.validation field wording)) ⟨a, n'⟩ := by
  obtain ⟨stored, _, hmade, hstored, hkind⟩ := h.spec
  rw [provePossession]
  simp only [current_bind_iff, if_pos hkind]
  cases oobCode with
  | none => exact ⟨"oob_code", "is required", n, rfl⟩
  | some given =>
    refine ⟨"confirmation_code", "does not match the authenticator",
      { n with uses := n.uses + 1 }, ?_⟩
    have hopened : Ends (use (s.requestDecryption stored)) ⟨a, n⟩ (.ok message.secret)
        ⟨a, { n with uses := n.uses + 1 }⟩ :=
      use_iff.2 ⟨_, Services.requestDecryption_ok_iff.2 ⟨hrestores _ _ _ _ hstored, rfl⟩, rfl⟩
    rw [Ends.bind_of_ok (Ends.demand_ok_iff.2 ⟨rfl, rfl⟩), proveContact, current_bind_iff]
    simp only [hmade]
    rw [Ends.bind_of_ok hopened]
    refine Ends.bind_error_iff.2 (Or.inl (Ends.ensure_error_iff.2 ⟨?_, rfl, rfl⟩))
    rw [Bool.eq_false_iff]
    intro hmatches
    simp only [Bool.and_eq_true, decide_eq_true_eq] at hmatches
    exact hother ⟨congrArg some hmatches.1.symm, hmatches.2.symm⟩

theorem material_of_outOfBand (hkind : a.kind.isOutOfBand = true) :
    ∃ contact challenge, a.material = .outOfBand contact challenge := by
  unfold kind at hkind
  cases hmade : a.material with
  | outOfBand contact challenge => exact ⟨contact, challenge, rfl⟩
  | recoveryCodes | totp =>
    rw [hmade] at hkind
    cases hkind

/-- A proof out-of-band uses up the challenge. -/
theorem spent_of_proved (hkind : a.kind.isOutOfBand = true)
    (h : Ends (provePossession s oobCode typed) ⟨a, n⟩ (.ok ()) ⟨b, n'⟩) :
    b.challenge? = none ∧ b.kind = a.kind ∧ b.isActive = a.isActive := by
  refine ⟨?_, kind_eq_of_factor (factor_of_proved h).1, (factor_of_proved h).2⟩
  obtain ⟨contact, challenge, hmade⟩ := material_of_outOfBand hkind
  rcases (provePossession_ok h).2 with ⟨_, _, _, hother, _⟩ | ⟨_, _, _, rfl⟩
  · cases hmade.symm.trans hother
  · rfl

/-- Without a challenge there is no proof out-of-band. -/
theorem not_proved_of_spent (hkind : a.kind.isOutOfBand = true) (hspent : a.challenge? = none) :
    ¬Ends (provePossession s oobCode typed) ⟨a, n⟩ (.ok ()) ⟨b, n'⟩ := by
  intro h
  obtain ⟨contact, challenge, hmade⟩ := material_of_outOfBand hkind
  rcases (provePossession_ok h).2 with ⟨_, _, _, hother, _⟩ | ⟨_, _, hsome, _⟩
  · cases hmade.symm.trans hother
  · rw [challenge?, hsome] at hspent
    cases hspent

end Authenticator

namespace Credential

variable {now : Instant} {d d' d₁ : Desk} {c : Credential} {kind : AuthenticatorKind}
  {a b : Authenticator} {message : Notification} {code : String} {oobCode : Option String}
  {typed : String} {caller : MfaCaller}

/-! ### What is sent -/

/-- One message is sent to an authenticator that is added and reached out-of-band, to the contact it
is added for. -/
theorem one_message_of_associate {phone : Option PhoneNumber}
    {email profileEmail : Option EmailAddress} {outcome : Association}
    (hkind : kind.isOutOfBand = true)
    (h : Ends (associate s now caller kind phone email profileEmail) d (.ok outcome) d') :
    ∃ message, outcome.notifications = [message] ∧
      contactFor kind phone email profileEmail = .ok (some message.contact) := by
  rw [associate_eq] at h
  obtain ⟨contact, d₁, hadmitted, hadded⟩ := Ends.bind_ok_iff.1 h
  obtain ⟨rfl, _, _, hcontact⟩ := admitAdding_ok hadmitted
  rcases contactFor_ok hcontact (AuthenticatorKind.ne_recoveryCodes hkind) with
    ⟨_, rfl⟩ | ⟨contact, rfl, _⟩
  · cases hkind
  · simp only [addReachedAt, makeOutOfBand, Ends.bind_ok_iff, Ends.pure_iff,
      Except.ok.injEq] at hadded
    obtain ⟨_, _, _, _, _, _, association, _, ⟨_, _, _, secret, _, _, a, _, _, rfl, rfl⟩, _, _, _,
      rfl, rfl⟩ := hadded
    exact ⟨_, rfl, hcontact⟩

/-- One message is sent to an authenticator that is challenged and reached out-of-band, and its
challenge awaits the answer. -/
theorem awaits_of_rechallenge {sent : Option (String × Notification)} {n n' : Draws}
    (hkind : a.kind.isOutOfBand = true)
    (h : Ends (Authenticator.rechallenge s) ⟨a, n⟩ (.ok sent) ⟨b, n'⟩) :
    ∃ message code, sent = some (code, message) ∧ a.contact? = some message.contact ∧
      b.Awaits s code message := by
  rcases Authenticator.rechallenge_ok h with
    ⟨_, _, _, _, stored, _, hsame, hstored, rfl, rfl⟩ | ⟨hother, _⟩
  · exact ⟨_, _, rfl, by rw [Authenticator.contact?, hsame], ⟨_, stored, _, rfl, hstored⟩, rfl⟩
  · cases hkind.symm.trans hother

/-! ### What may be answered -/

/-- The authenticators of a kind, if there are any, are active and have no challenge outstanding. -/
def Spent (kind : AuthenticatorKind) (list : List Authenticator) : Prop :=
  ∀ a ∈ list, a.kind = kind → a.isActive = true ∧ a.challenge? = none

/-- An operation brings a new challenge for an authenticator of a kind. -/
def Action.Challenges (c : Credential) (kind : AuthenticatorKind) : Action → Prop
  | .associate _ kind' _ _ _ => kind' = kind
  | .challenge _ id => ∃ a, c.authenticator? id = some a ∧ a.kind = kind
  | _ => False

/-- A call brings no new challenge for an authenticator of a kind, since it is refused or is not to
bring one. -/
def Unchallenged (kind : AuthenticatorKind) (c : Credential) (action : Action)
    (r : Except Fault Answer) : Prop :=
  ∀ answer, r = .ok answer → ¬action.Challenges c kind

/-- What is answered stays answered through every turn that brings no new challenge. -/
theorem Turn.spent {action : Action} {r : Except Fault Answer} {list : List Authenticator}
    (h : Turn c action r list) (hcall : Unchallenged kind c action r)
    (hkind : kind ≠ .recoveryCodes) (hc : Spent kind c.authenticators) :
    Spent kind list := by
  have hrenewed {condition : Authenticator → Bool} {a b : Authenticator}
      (hfind : c.authenticators.find? condition = some a) (hab : Renewed a b) :
      Spent kind (replaceFirst condition b c.authenticators) := by
    intro e he hsame
    rcases mem_replaceFirst he with rfl | he
    · obtain ⟨_, hnone⟩ := hc a (List.mem_of_find?_eq_some hfind) (hab.kind_eq.symm.trans hsame)
      exact ⟨hab.active, hab.challenge.elim (fun h => h) fun h => h.trans hnone⟩
    · exact hc e he hsame
  have hadded {kind' : AuthenticatorKind} {made : List Authenticator} (hmade : MadeFor c made) :
      Spent kind (staying kind' c.authenticators ++ made) := by
    intro e he hsame
    rcases List.mem_append.1 he with he | he
    · exact hc e (List.mem_filter.1 he).1 hsame
    · rcases hmade with rfl | ⟨_, codes, rfl, hcodes⟩
      · cases he
      · rw [List.mem_singleton.1 he, hcodes] at hsame
        exact absurd hsame.symm hkind
  cases h with
  | same => exact hc
  | emptied => exact nofun
  | added inactive kind_ne made_for new_kind =>
    intro e he hsame
    rcases List.mem_append.1 he with he | he
    · exact hadded made_for e he hsame
    · rw [List.mem_singleton.1 he, new_kind] at hsame
      exact absurd hsame (hcall _ rfl)
  | left made_for => exact hadded made_for
  | confirmed found renewed => exact hrenewed found renewed
  | verified found renewed => exact hrenewed found renewed
  | challenged found kind_eq =>
    intro e he hsame
    rcases mem_replaceFirst he with rfl | he
    · exact absurd ⟨_, found, kind_eq.symm.trans hsame⟩ (hcall _ rfl)
    · exact hc e he hsame
  | removed found => exact fun e he hsame => hc e ((removed_sublist _ _).subset he) hsame

theorem Leads.spent (h : Leads s (Unchallenged kind) d d') (hkind : kind ≠ .recoveryCodes)
    (hd : Spent kind d.credential.authenticators) : Spent kind d'.credential.authenticators :=
  h.keeps (fun _ _ _ _ hcall hturn hc => hturn.spent hcall hkind hc) hd

/-- The only authenticator of a kind is spent if it is active and has no challenge. -/
theorem spent_of_mem {list : List Authenticator} (h : KindsDiffer list) (ha : a ∈ list)
    (hactive : a.isActive = true) (hnone : a.challenge? = none) : Spent a.kind list := by
  intro b hb hsame
  rw [List.inj_on_of_nodup_map h hb ha hsame]
  exact ⟨hactive, hnone⟩

/-- Nothing is confirmed where all of a kind is active. -/
theorem Spent.not_confirmed (h : Spent kind d.credential.authenticators) {answer : Answer} :
    ¬Goes s d (now, .confirm caller kind oobCode typed) answer := by
  intro hgoes
  obtain ⟨_, hdone⟩ := answered hgoes.run_eq
  obtain ⟨_, _, _, a, _, ha, _⟩ := confirm_ok hdone
  obtain ⟨hkind, hinactive⟩ := pending?_spec ha
  cases hinactive.symm.trans (h a (List.mem_of_find?_eq_some ha) hkind).1

/-- Nothing is verified where no challenge is outstanding. -/
theorem Spent.not_verified (h : Spent kind d.credential.authenticators)
    (hcontact : kind.isOutOfBand = true) {answer : Answer} :
    ¬Goes s d (now, .verify caller kind oobCode typed) answer := by
  intro hgoes
  obtain ⟨_, hdone⟩ := answered hgoes.run_eq
  obtain ⟨_, _, a, _, ha, hproved, _⟩ := verify_ok hdone
  obtain ⟨rfl, _⟩ := active?_spec ha
  rw [if_neg (AuthenticatorKind.ne_recoveryCodes hcontact)] at hproved
  exact Authenticator.not_proved_of_spent hcontact
    (h a (List.mem_of_find?_eq_some ha) rfl).2 hproved

/-! ### Answering -/

/-- Whoever is authorized while the second factor is asked for. -/
def Admits (d : Desk) (caller : MfaCaller) (now : Instant) : Prop :=
  d.credential.unauthorized? caller now = none ∧ d.credential.mfa.isEnabled = true

/-- Work on the authenticator that is found goes through, and so does a change after it. -/
theorem onFirst_update_ok {condition : Authenticator → Bool} {missing : Fault}
    {steps : AuthenticatorM Unit} {f : Credential → Credential} {n : Draws}
    (ha : d.credential.authenticators.find? condition = some a)
    (h : Ends steps ⟨a, d.draws⟩ (.ok ()) ⟨b, n⟩) :
    ∃ d', Ends (onFirst condition missing steps >>= fun _ => update f) d (.ok ()) d' :=
  ⟨_, (Ends.bind_of_ok ((onFirst_iff_of_find? ha).2 ⟨b, n, h, rfl⟩)).2 rfl⟩

/-- Work on it that is refused and leaves it as it was changes nothing. -/
theorem onFirst_update_refused {condition : Authenticator → Bool} {missing fault : Fault}
    {steps : AuthenticatorM Unit} {f : Credential → Credential} {n : Draws}
    (ha : d.credential.authenticators.find? condition = some a)
    (h : Ends steps ⟨a, d.draws⟩ (.error fault) ⟨a, n⟩) :
    Ends (onFirst condition missing steps >>= fun _ => update f) d (.error fault)
      ⟨d.credential, n⟩ := by
  refine Ends.bind_error_iff.2 (Or.inl ((onFirst_iff_of_find? ha).2 ⟨a, n, h, ?_⟩))
  rw [replaceFirst_self ha]

/-- Confirming is proving to hold the pending authenticator, which becomes active. -/
theorem confirm_iff {r : Except Fault Unit} (hadmits : Admits d caller now)
    (hkind : kind ≠ .recoveryCodes) : Ends (confirm s now caller kind oobCode typed) d r d' ↔
      Ends (onFirst (fun a => a.kind = kind && !a.isActive)
        (.preconditionViolation s!"No pending {kind.name} authenticator to confirm")
        (Authenticator.provePossession s oobCode typed >>= fun _ =>
          Authenticator.update fun a => { a with isActive := true }) >>= fun _ =>
        update fun c => { c with mfa := if caller.isAnonymous then c.mfa.clearToken else c.mfa })
        d r d' := by
  rw [confirm, Ends.bind_of_ok ((authorize_ok_iff (u := ())).2 ⟨hadmits.1, rfl⟩),
    Ends.bind_of_ok ((ensureMfaEnabled_ok_iff (u := ())).2 ⟨hadmits.2, rfl⟩),
    Ends.bind_of_ok ((Ends.ensure_ok_iff (u := ())).2 ⟨decide_eq_true hkind, rfl⟩)]

/-- Verifying is proving to hold the active authenticator. -/
theorem verify_iff {r : Except Fault Unit} (hadmits : Admits d caller now)
    (hkind : kind ≠ .recoveryCodes) : Ends (verify s now caller kind oobCode typed) d r d' ↔
      Ends (onFirst (fun a => a.kind = kind && a.isActive)
        (.preconditionViolation s!"No active {kind.name} authenticator")
        (Authenticator.provePossession s oobCode typed) >>= fun _ =>
        update fun c => { c with mfa := c.mfa.clearToken }) d r d' := by
  rw [verify, Ends.bind_of_ok ((authorize_ok_iff (u := ())).2 ⟨hadmits.1, rfl⟩),
    Ends.bind_of_ok ((ensureMfaEnabled_ok_iff (u := ())).2 ⟨hadmits.2, rfl⟩), if_neg hkind]

/-- An operation proves an authenticator that is reached out-of-band, on a desk: whoever is admitted
goes through with it where the authenticator is proved, and is refused without a change where it is
not; and afterwards the authenticator is active and its challenge is used up. -/
structure IsProofOf (s : Services) (a : Authenticator) (d : Desk)
    (prove : MfaCaller → Option String → String → Action) : Prop where
  accepted : ∀ {now caller oobCode typed b n}, Admits d caller now →
    Ends (Authenticator.provePossession s oobCode typed) ⟨a, d.draws⟩ (.ok ()) ⟨b, n⟩ →
      ∃ d', run s now (prove caller oobCode typed) d = (.ok .done, d')
  refused : ∀ {now caller oobCode typed fault n}, Admits d caller now →
    Ends (Authenticator.provePossession s oobCode typed) ⟨a, d.draws⟩ (.error fault) ⟨a, n⟩ →
      run s now (prove caller oobCode typed) d = (.error fault, ⟨d.credential, n⟩)
  used : ∀ {now caller oobCode typed answer d'}, run s now (prove caller oobCode typed) d =
    (.ok answer, d') →
      ∃ b ∈ d'.credential.authenticators, b.kind = a.kind ∧ b.isActive = true ∧ b.challenge? = none

theorem isProofOf_confirm (hkinds : KindsDiffer d.credential.authenticators)
    (ha : a ∈ d.credential.authenticators) (hcontact : a.kind.isOutOfBand = true)
    (hpending : a.isActive = false) :
    IsProofOf s a d (.confirm · a.kind) := by
  have hne := AuthenticatorKind.ne_recoveryCodes hcontact
  have hfound : d.credential.pending? a.kind = some a :=
    hkinds.find?_eq ha (by simp [hpending]) fun b hb => by simp_all
  refine ⟨@fun now caller oobCode typed b n hadmits hproved => ?_, fun hadmits hrefused => ?_,
    fun hrun => ?_⟩
  · have hactivated : Ends (Authenticator.provePossession s oobCode typed >>= fun _ =>
        Authenticator.update fun a => { a with isActive := true }) ⟨a, d.draws⟩ (.ok ())
        ⟨{ b with isActive := true }, n⟩ :=
      (Ends.bind_of_ok hproved).2 (Authenticator.update_iff.2 ⟨rfl, rfl⟩)
    obtain ⟨d', hends⟩ := onFirst_update_ok hfound hactivated
    exact ⟨d', Ends.bind_pure_iff.2 ⟨.ok (), (confirm_iff hadmits hne).2 hends, rfl⟩⟩
  · exact Ends.bind_pure_iff.2 ⟨_, (confirm_iff hadmits hne).2
      (onFirst_update_refused hfound (Ends.bind_error_iff.2 (Or.inl hrefused))), rfl⟩
  · obtain ⟨_, hdone⟩ := answered hrun
    obtain ⟨_, _, _, a', proved, ha', hproved, hd'⟩ := confirm_ok hdone
    obtain rfl := Option.some.inj (hfound.symm.trans ha')
    obtain ⟨hspent, hsame, _⟩ := Authenticator.spent_of_proved hcontact hproved
    rw [hd']
    exact ⟨_, mem_replaceFirst_of_find? ha', hsame, rfl, hspent⟩

theorem isProofOf_verify (hkinds : KindsDiffer d.credential.authenticators)
    (ha : a ∈ d.credential.authenticators) (hcontact : a.kind.isOutOfBand = true)
    (hactive : a.isActive = true) :
    IsProofOf s a d (.verify · a.kind) := by
  have hne := AuthenticatorKind.ne_recoveryCodes hcontact
  have hfound : d.credential.active? a.kind = some a :=
    hkinds.find?_eq ha (by simp [hactive]) fun b hb => by simp_all
  refine ⟨fun hadmits hproved => ?_, fun hadmits hrefused => ?_, fun hrun => ?_⟩
  · obtain ⟨d', hends⟩ := onFirst_update_ok hfound hproved
    exact ⟨d', Ends.bind_pure_iff.2 ⟨.ok (), (verify_iff hadmits hne).2 hends, rfl⟩⟩
  · exact Ends.bind_pure_iff.2
      ⟨_, (verify_iff hadmits hne).2 (onFirst_update_refused hfound hrefused), rfl⟩
  · obtain ⟨_, hdone⟩ := answered hrun
    obtain ⟨_, _, a', proved, ha', hproved, hd'⟩ := verify_ok hdone
    obtain rfl := Option.some.inj (hfound.symm.trans ha')
    rw [if_neg hne] at hproved
    obtain ⟨hspent, hsame, hstays⟩ := Authenticator.spent_of_proved hcontact hproved
    rw [hd']
    exact ⟨_, mem_replaceFirst_of_find? ha', hsame, hstays.trans hactive, hspent⟩

/-- A challenge may be answered on a desk by an operation, once. -/
structure Answerable (s : Services) (kind : AuthenticatorKind)
    (prove : MfaCaller → Option String → String → Action) (code : String) (message : Notification)
    (d : Desk) : Prop where
  /-- What answers the challenge is accepted, and nothing else is. -/
  accepts : ∀ now caller oobCode typed, Admits d caller now →
    ((∃ answer, Goes s d (now, prove caller oobCode typed) answer) ↔
      Authenticator.Answers code message oobCode typed)
  /-- Whatever else is given is refused as such, and changes nothing. -/
  refuses : ∀ now caller oobCode typed, Admits d caller now → ¬Authenticator.Answers code message
    oobCode typed → ∃ field wording d', run s now (prove caller oobCode typed) d =
      (.error (.validation field wording), d') ∧ d'.credential = d.credential
  /-- After it was answered, nothing is accepted for the kind, by whomever, until there is another
  challenge. -/
  once : ∀ now caller oobCode typed answer d₁ d₂, run s now (prove caller oobCode typed) d =
    (.ok answer, d₁) → Leads s (Unchallenged kind) d₁ d₂ → ∀ now' caller' oobCode' typed' answer',
      ¬Goes s d₂ (now', .confirm caller' kind oobCode' typed') answer' ∧
        ¬Goes s d₂ (now', .verify caller' kind oobCode' typed') answer'

/-- What a message carries may be answered once by proving the authenticator that awaits it. -/
theorem IsProofOf.answerable {prove : MfaCaller → Option String → String → Action}
    (hrestores : s.Restores) (hkinds : KindsDiffer d.credential.authenticators)
    (hproof : IsProofOf s a d prove) (hawaits : a.Awaits s code message) :
    Answerable s a.kind prove code message d := by
  obtain ⟨_, _, _, _, hcontact⟩ := hawaits.spec
  have hrefuses (now : Instant) (caller : MfaCaller) (oobCode : Option String) (typed : String)
      (hadmits : Admits d caller now) (hother : ¬Authenticator.Answers code message oobCode typed) :
      ∃ field wording d', run s now (prove caller oobCode typed) d =
        (.error (.validation field wording), d') ∧ d'.credential = d.credential := by
    obtain ⟨field, wording, n, hrefused⟩ := hawaits.refuses hrestores hother d.draws
    exact ⟨field, wording, _, hproof.refused hadmits hrefused, rfl⟩
  refine ⟨fun now caller oobCode typed hadmits => ⟨?_, ?_⟩, hrefuses, ?_⟩
  · rintro ⟨answer, hgoes⟩
    by_contra hother
    obtain ⟨_, _, _, hrefused, _⟩ := hrefuses now caller oobCode typed hadmits hother
    rw [Goes, hrefused] at hgoes
    cases hgoes
  · intro hanswers
    obtain ⟨b, n, hproved⟩ := hawaits.accepts hrestores hanswers d.draws
    obtain ⟨d', hrun⟩ := hproof.accepted hadmits hproved
    exact ⟨.done, congrArg Prod.fst hrun⟩
  · intro now caller oobCode typed answer d₁ d₂ hrun hleads now' caller' oobCode' typed' answer'
    obtain ⟨b, hb, hsame, hactive, hnone⟩ := hproof.used hrun
    have hspent := spent_of_mem ((turn_run hrun).kindsDiffer hkinds) hb hactive hnone
    rw [hsame] at hspent
    have hlater := hleads.spent (AuthenticatorKind.ne_recoveryCodes hcontact) hspent
    exact ⟨hlater.not_confirmed, hlater.not_verified hcontact⟩

/-- Whoever adds an authenticator that is reached out-of-band has a challenge that its confirmation
answers. -/
theorem answerable_of_associate {phone : Option PhoneNumber}
    {email profileEmail : Option EmailAddress} {answer : Answer} (hrestores : s.Restores)
    (hkinds : KindsDiffer d.credential.authenticators) (hcontact : kind.isOutOfBand = true)
    (hrun : run s now (.associate caller kind phone email profileEmail) d = (.ok answer, d₁)) :
    ∃ outcome message code, answer = .association outcome ∧ outcome.notifications = [message] ∧
      contactFor kind phone email profileEmail = .ok (some message.contact) ∧
      outcome.authenticator.contact? = some message.contact ∧
      outcome.authenticator.oobCode? = some code ∧
      ∀ d₂, Leads s (Spares kind) d₁ d₂ → Answerable s kind (.confirm · kind) code message d₂ := by
  have hkinds₁ := (turn_run hrun).kindsDiffer hkinds
  obtain ⟨outcome, hdone, rfl⟩ := answered_as hrun
  obtain ⟨message, hmessage, hasked⟩ := one_message_of_associate hcontact hdone
  have hsent := sent_of_associate hdone message (hmessage ▸ List.mem_singleton_self _)
  obtain ⟨_, _, _, hne, _, made, draw, _, hpending, _, hd₁⟩ := associate_ok hdone
  obtain ⟨code, stored, use, hmade, hstored⟩ := hsent
  have hawaits : outcome.authenticator.Awaits s code message :=
    ⟨⟨code, stored, use, hmade, hstored⟩, by
      rw [Authenticator.oobCode?, Authenticator.challenge?, hmade]; rfl⟩
  refine ⟨outcome, message, code, rfl, hmessage,
    hasked, by rw [Authenticator.contact?, hmade], hawaits.2,
    fun d₂ hleads => ?_⟩
  have hthere : outcome.authenticator ∈ d₁.credential.authenticators := by
    rw [hd₁]
    exact List.mem_append_right _ (List.mem_singleton_self _)
  have hstays := hleads.mem_of_spares hpending.kind_eq hne hthere
  have hkinds₂ := hleads.kindsDiffer hkinds₁
  obtain rfl := hpending.kind_eq
  exact (isProofOf_confirm hkinds₂ hstays hcontact hpending.inactive).answerable hrestores
    hkinds₂ hawaits

/-- Whoever challenges an authenticator that is reached out-of-band has a challenge that its
verification answers. -/
theorem answerable_of_challenge {id : AuthenticatorId} {answer : Answer} (hrestores : s.Restores)
    (hkinds : KindsDiffer d.credential.authenticators)
    (ha : d.credential.authenticator? id = some a) (hcontact : a.kind.isOutOfBand = true)
    (hrun : run s now (.challenge caller id) d = (.ok answer, d₁)) :
    ∃ outcome message code, answer = .challenge outcome ∧ outcome.notifications = [message] ∧
      a.contact? = some message.contact ∧ outcome.oobCode = some code ∧
      ∀ d₂, Leads s (Spares a.kind) d₁ d₂ →
        Answerable s a.kind (.verify · a.kind) code message d₂ := by
  have hkinds₁ := (turn_run hrun).kindsDiffer hkinds
  obtain ⟨outcome, hdone, rfl⟩ := answered_as hrun
  obtain ⟨_, _, a', b, sent, ha', hactive, hchallenged, rfl, hd₁⟩ := challenge_ok hdone
  obtain rfl := Option.some.inj (ha.symm.trans ha')
  obtain ⟨message, code, rfl, hreached, hawaits⟩ := awaits_of_rechallenge hcontact hchallenged
  have hfactor := Authenticator.factor_of_challenged hchallenged
  have hsame := Authenticator.kind_eq_of_factor hfactor.1
  refine ⟨_, message, code, rfl, rfl, hreached, rfl, fun d₂ hleads => ?_⟩
  have hthere : b ∈ d₁.credential.authenticators := by
    rw [hd₁]
    exact mem_replaceFirst_of_find? ha
  have hstays := hleads.mem_of_spares hsame (AuthenticatorKind.ne_recoveryCodes hcontact) hthere
  have hkinds₂ := hleads.kindsDiffer hkinds₁
  rw [← hsame] at hcontact ⊢
  exact (isProofOf_verify hkinds₂ hstays hcontact (hfactor.2.trans hactive)).answerable hrestores
    hkinds₂ hawaits

/-- Out-of-band challenges come back and are answered once. Whoever adds an authenticator that is
reached out-of-band, or challenges one, is given a code, and one message is sent to its contact; and
from then on, through all calls that spare this authenticator, its confirmation or verification is
accepted for this code and the secret of this message and for nothing else, and after that for
nothing at all. -/
theorem answered_once (hrestores : s.Restores) (hreached : Reached s d) :
    (∀ now caller kind phone email profileEmail answer d₁, kind.isOutOfBand = true →
      run s now (.associate caller kind phone email profileEmail) d = (.ok answer, d₁) →
        ∃ outcome message code, answer = .association outcome ∧ outcome.notifications = [message] ∧
          contactFor kind phone email profileEmail = .ok (some message.contact) ∧
          outcome.authenticator.contact? = some message.contact ∧
          outcome.authenticator.oobCode? = some code ∧
          ∀ d₂, Leads s (Spares kind) d₁ d₂ → Answerable s kind (.confirm · kind) code message d₂) ∧
      ∀ now caller id a answer d₁, d.credential.authenticator? id = some a →
        a.kind.isOutOfBand = true → run s now (.challenge caller id) d = (.ok answer, d₁) →
          ∃ outcome message code, answer = .challenge outcome ∧ outcome.notifications = [message] ∧
            a.contact? = some message.contact ∧ outcome.oobCode = some code ∧
            ∀ d₂, Leads s (Spares a.kind) d₁ d₂ →
              Answerable s a.kind (.verify · a.kind) code message d₂ := by
  have hkinds := hreached.kindsDiffer
  exact ⟨fun _ _ _ _ _ _ _ _ hcontact hrun => answerable_of_associate hrestores hkinds
    hcontact hrun, fun _ _ _ _ _ _ ha hcontact hrun => answerable_of_challenge hrestores hkinds ha
    hcontact hrun⟩

/-- A course to a credential for which the second factor is asked, to which a phone is added and
confirmed. -/
def sampleContactCourse : List (Instant × Action) :=
  let owner : MfaCaller := .authenticated ⟨⟨1#128⟩⟩
  sampleCourse.take 5 ++ [(⟨2, 0⟩, .associate owner .oobSms (some ⟨"+6498876986"⟩) none none),
    (⟨3, 0⟩, .confirm owner .oobSms (some "oobcode1") " oobsecret1 ")]

/-- The phone is challenged once more, and the message is answered once. -/
theorem answered_once_sample :
    Script.sample.services.Restores ∧ ∃ d d₁, Reached Script.sample.services d ∧
      run Script.sample.services ⟨4, 0⟩
        (.challenge (.authenticated ⟨⟨1#128⟩⟩) (Script.sample.services.authenticatorId 1)) d =
          (.ok (.challenge ⟨Script.sample.services.authenticatorId 1, .oobSms, some "oobcode2",
            [⟨.sms ⟨"+6498876986"⟩, "oobsecret2", none⟩]⟩), d₁) ∧
      Answerable Script.sample.services .oobSms (.verify · .oobSms) "oobcode2"
        ⟨.sms ⟨"+6498876986"⟩, "oobsecret2", none⟩ d₁ := by
  obtain ⟨d, hreached, hfound, hanswer⟩ : ∃ d, Reached Script.sample.services d ∧
      (d.credential.authenticator? (Script.sample.services.authenticatorId 1)).map
        Authenticator.kind = some .oobSms ∧
      (run Script.sample.services ⟨4, 0⟩
        (.challenge (.authenticated ⟨⟨1#128⟩⟩) (Script.sample.services.authenticatorId 1)) d).1 =
          .ok (.challenge ⟨Script.sample.services.authenticatorId 1, .oobSms, some "oobcode2",
            [⟨.sms ⟨"+6498876986"⟩, "oobsecret2", none⟩]⟩) :=
    ⟨_, reached_course ⟨⟨2#128⟩⟩
      ⟨⟨1#128⟩⟩ .none sampleContactCourse, by decide +kernel, by decide +kernel⟩
  obtain ⟨a, ha, hkind⟩ := Option.map_eq_some_iff.1 hfound
  generalize hrun : run Script.sample.services ⟨4, 0⟩
    (.challenge (.authenticated ⟨⟨1#128⟩⟩) (Script.sample.services.authenticatorId 1)) d =
    ended at hanswer
  obtain ⟨r, d₁⟩ := ended
  obtain rfl := hanswer
  have hrestores : Script.sample.services.Restores := Script.restores rfl
  obtain ⟨outcome, message, code, hsame, hmessage, _, hcode, hlater⟩ :=
    (answered_once hrestores hreached).2 _ _ _ _ _ _ ha (hkind ▸ rfl) hrun
  obtain rfl := Answer.challenge.inj hsame
  obtain rfl := Option.some.inj hcode
  obtain rfl := List.head_eq_of_cons_eq hmessage
  exact ⟨hrestores, d, d₁, hreached, hrun, hkind ▸ hlater d₁ .here⟩

end Credential

end TenantAuth
