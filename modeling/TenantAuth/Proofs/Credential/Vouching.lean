import TenantAuth.Proofs.Credential.Turnover

/-!
Which address a verified registration vouches for.

Whoever asks for the token that verifies a registration has an address to sign in with at that
moment. The address can be changed later, while the token is outstanding and after the verification,
and the registration stays as it is. So what a verified registration has to do with the address to
sign in with is this: it is the one for which the token was issued, unless another one was set
since, and then it is the latest of these.

There is one statement of what a call makes of the address and of the registration, and the history
of a registration is read off it, call by call.
-/

namespace TenantAuth.Credential

variable {s : Services} {now : Instant} {d d' start : Desk}

/-! ### What a call makes of the address and the registration -/

/-- A call that was made, with its outcome. -/
structure Call where
  now : Instant
  action : Action
  outcome : Except Fault Answer

namespace Call

variable {call : Call} {token : String}

/-- The address that a call set, if it set one. -/
def address? : Call → Option EmailAddress
  | ⟨_, .setDetails email _, .ok _⟩ => some email
  | _ => none

/-- A call issued a token to verify the registration by. -/
def Issues (call : Call) (token : String) : Prop :=
  call.action = .initiateRegistration ∧ call.outcome = .ok (.token token)

/-- A call verified the registration. -/
def Verifies (call : Call) : Prop := call.action = .verifyRegistration ∧ call.outcome = .ok .done

theorem Issues.address?_eq (h : call.Issues token) : call.address? = none := by
  obtain ⟨now, action, r⟩ := call
  obtain rfl : action = .initiateRegistration := h.1
  rfl

theorem Verifies.address?_eq (h : call.Verifies) : call.address? = none := by
  obtain ⟨now, action, r⟩ := call
  obtain rfl : action = .verifyRegistration := h.1
  rfl

/-- A call did neither. -/
structure IsBeside (call : Call) : Prop where
  not_issues : ∀ token, ¬call.Issues token
  not_verifies : ¬call.Verifies

theorem isBeside_of_refused {fault : Fault} (h : call.outcome = .error fault) : call.IsBeside := by
  refine ⟨fun token hissues => ?_, fun hverifies => ?_⟩
  · cases h.symm.trans hissues.2
  · cases h.symm.trans hverifies.2

theorem isBeside_of_action (hissues : call.action ≠ .initiateRegistration)
    (hverifies : call.action ≠ .verifyRegistration) : call.IsBeside :=
  ⟨fun _ h => hissues h.1, fun h => hverifies h.1⟩

end Call

/-- What a call makes of the address and of the registration of a credential. -/
inductive Registers (c : Credential) (call : Call) (c' : Credential) : Prop
  | issued (token : String) (issues : call.Issues token) (address_set : c.username.isSome = true)
      (username_eq : c'.username = c.username) (registration_eq : c'.registration = .pending token)
  | verified (verifies : call.Verifies) (was_pending : c.registration.isPending = true)
      (username_eq : c'.username = c.username)
      (registration_eq : c'.registration = .verified call.now)
  | beside (is_beside : call.IsBeside) (username_eq : c'.username = call.address?.or c.username)
      (registration_eq : c'.registration = c.registration)

/-- The address and the registration. -/
abbrev account (c : Credential) : Option EmailAddress × Registration := (c.username, c.registration)

/-- Operations that are about the address or the registration. -/
def Action.IsAccount : Action → Prop
  | .setDetails _ _ => True
  | .initiateRegistration => True
  | .verifyRegistration => True
  | _ => False

theorem sameAccount_associate (caller : MfaCaller) (kind : AuthenticatorKind)
    (phone : Option PhoneNumber) (email profileEmail : Option EmailAddress) :
    Moves (SamePart account) (associate s now caller kind phone email profileEmail) := by
  have hcodes : Moves (SamePart account) (makeRecoveryCodes s) := by
    refine moves_bind (by simp) fun c => moves_ite (by simp) ?_
    refine moves_bind (by simp) fun codes => moves_bind (by simp) fun a => ?_
    simp
  have hlooks {m : CredentialM Association} (hm : Looks Desk.credential m) :
      Moves (SamePart account) m :=
    fun d r d' h => congrArg account (hm d r d' h)
  simp only [associate, ensureMfaEnabled]
  repeat refine moves_bind (by simp) fun _ => ?_
  refine moves_bind hcodes fun codes => ?_
  split
  · refine moves_bind (by simp) fun c => moves_bind (hlooks (looks_makeTotp _ _))
      fun association => ?_
    simp
  · refine moves_bind (hlooks (looks_makeOutOfBand _ _)) fun association => ?_
    simp

/-- The others leave both as they are, whether or not they are refused. -/
theorem sameAccount_perform {action : Action} (h : ¬action.IsAccount) :
    Moves (SamePart account) (perform s now action) := by
  cases action with
  | setDetails | initiateRegistration | verifyRegistration => exact absurd trivial h
  | authorize => simp [perform]
  | associate => exact moves_bind (sameAccount_associate _ _ _ _ _) fun _ => moves_pure _
  | _ =>
    refine moves_bind ?_ fun _ => moves_pure _
    simp only [setPassword, hasPassword, changeMfa, enforceMfa, resetMfa, initiateMfa,
      viewAuthenticators, confirm, challenge, verify, disassociate, ensureMfaEnabled]
    repeat refine moves_bind (by simp) fun _ => ?_
    simp

/-- What is refused and put back is as it was. -/
theorem registers_refused (now : Instant) (action : Action) (fault : Fault) (c : Credential) :
    Registers c ⟨now, action, .error fault⟩ c := by
  refine .beside (Call.isBeside_of_refused rfl) ?_ rfl
  cases action <;> rfl

/-- What a call makes of the address and the registration, whether or not it is refused. -/
theorem registers_run {action : Action} {r : Except Fault Answer}
    (h : run s now action d = (r, d')) : Registers d.credential ⟨now, action, r⟩ d'.credential := by
  by_cases haccount : action.IsAccount
  · cases r with
    | error fault =>
      have hsame : d'.credential = d.credential :=
        allOrNothing_perform
          (fun hadds => by cases action <;> first | exact hadds | exact haccount) _ _ _ h
      rw [hsame]
      exact registers_refused now action fault d.credential
    | ok answer =>
      cases action with
      | setDetails email displayName =>
        obtain ⟨_, hdone⟩ := answered h
        rw [setDetails_ok_iff.1 hdone]
        exact .beside (Call.isBeside_of_action nofun nofun) rfl rfl
      | initiateRegistration =>
        obtain ⟨token, hdone, rfl⟩ := answered_as h
        obtain ⟨hset, _, _, hcredential⟩ := initiateRegistration_ok hdone
        rw [hcredential]
        exact .issued token ⟨rfl, rfl⟩ hset rfl rfl
      | verifyRegistration =>
        obtain ⟨_, hdone, rfl⟩ := answered_as h
        obtain ⟨hpending, hcredential⟩ := verifyRegistration_ok hdone
        rw [hcredential]
        exact .verified ⟨rfl, rfl⟩ hpending rfl rfl
      | _ => exact haccount.elim
  · have hsame : d'.credential.account = d.credential.account :=
      sameAccount_perform haccount _ _ _ h
    obtain ⟨husername, hregistration⟩ := Prod.mk.inj hsame
    refine .beside (Call.isBeside_of_action ?_ ?_) ?_ hregistration
    · rintro rfl
      exact haccount trivial
    · rintro rfl
      exact haccount trivial
    · rw [husername]
      cases action <;> first | rfl | exact absurd trivial haccount

/-! ### The history of a registration -/

/-- A call takes one desk to another. Of a call that is refused, what it did stays, or the
credential is put back as it was. -/
inductive Call.Takes (s : Services) (d : Desk) : Call → Desk → Prop
  | run {now : Instant} {action : Action} {r : Except Fault Answer} {d' : Desk}
      (run_eq : Credential.run s now action d = (r, d')) : Takes s d ⟨now, action, r⟩ d'
  | putBack {now : Instant} {action : Action} {fault : Fault} {d' : Desk}
      (run_eq : Credential.run s now action d = (.error fault, d')) :
      Takes s d ⟨now, action, .error fault⟩ ⟨d.credential, d'.draws⟩

/-- Calls that were made one after the other take one desk to another. -/
inductive Made (s : Services) (d : Desk) : List Call → Desk → Prop
  | start : Made s d [] d
  | next {calls : List Call} {call : Call} {d₁ d₂ : Desk} (before : Made s d calls d₁)
      (takes : call.Takes s d₁ d₂) : Made s d (calls ++ [call]) d₂

/-- Operations carried out one after the other: the calls with their outcomes, and the desk
afterwards. -/
def carryOut (s : Services) (d : Desk) (operations : List (Instant × Action)) : List Call × Desk :=
  operations.foldl (fun (calls, d) (now, action) =>
    (calls ++ [⟨now, action, (run s now action d).1⟩], (run s now action d).2)) ([], d)

/-- Any operations can be carried out. -/
theorem made_carryOut (operations : List (Instant × Action)) :
    Made s d (carryOut s d operations).1 (carryOut s d operations).2 := by
  induction operations using List.reverseRecOn with
  | nil => exact .start
  | append_singleton before operation ih =>
    rw [carryOut, List.foldl_append]
    exact ih.next (.run rfl)

/-- The last address that calls set, if they set one. -/
def latestAddress? (calls : List Call) : Option EmailAddress :=
    (calls.filterMap Call.address?).getLast?

variable {calls since : List Call} {call : Call} {address : EmailAddress}

theorem latestAddress?_append (calls calls' : List Call) :
    latestAddress? (calls ++ calls') = (latestAddress? calls').or (latestAddress? calls) := by
  rw [latestAddress?, List.filterMap_append, List.getLast?_append]
  rfl

theorem latestAddress?_singleton (call : Call) : latestAddress? [call] = call.address? := by
  rw [latestAddress?, List.filterMap_cons]
  cases call.address? <;> rfl

theorem latestAddress?_cons (h : call.address? = none) :
    latestAddress? (call :: calls) = latestAddress? calls := by
  rw [latestAddress?, List.filterMap_cons_none h]
  rfl

theorem Call.Takes.registers (h : call.Takes s d d') :
    Registers d.credential call d'.credential := by
  cases h with
  | run run_eq => exact registers_run run_eq
  | putBack _ => exact registers_refused _ _ _ _

/-- Only what sets an address changes it. -/
theorem Registers.username_eq {c c' : Credential} (h : Registers c call c') :
    c'.username = call.address?.or c.username := by
  cases h with
  | issued token issues _ username_eq _ => rw [username_eq, issues.address?_eq, Option.none_or]
  | verified verifies _ username_eq _ => rw [username_eq, verifies.address?_eq, Option.none_or]
  | beside _ username_eq _ => exact username_eq

/-- The address to sign in with is the last one that was set. -/
theorem Made.username_eq (h : Made s d calls d') :
    d'.credential.username = (latestAddress? calls).or d.credential.username := by
  induction h with
  | start => rfl
  | next _ takes ih =>
    rw [takes.registers.username_eq, ih, latestAddress?_append, latestAddress?_singleton,
      Option.or_assoc]

/-- A token was issued when this was the address to sign in with, and none of the calls since issued
another one or verified the registration. -/
inductive Issued (s : Services) (start : Desk) (calls : List Call) (d : Desk)
    (address : EmailAddress) (since : List Call) : Prop
  | mk {before : List Call} {issue : Call} {token : String} {d₀ : Desk}
      (calls_eq : calls = before ++ issue :: since) (made_before : Made s start before d₀)
      (address_eq : d₀.credential.username = some address) (issues : issue.Issues token)
      (made_since : Made s d₀ (issue :: since) d) (beside : ∀ call ∈ since, call.IsBeside)

/-- The registration was verified by a token that was issued when this was the address to sign in
with, and none of the calls since then, other than the verification, issued another token or
verified the registration. -/
inductive Vouched (s : Services) (start : Desk) (calls : List Call) (d : Desk)
    (address : EmailAddress) (since : List Call) : Prop
  | mk {earlier between after : List Call} {verification : Call} {d₁ : Desk}
      (calls_eq : calls = earlier ++ verification :: after) (since_eq : since = between ++ after)
      (issued : Issued s start earlier d₁ address between) (verifies : verification.Verifies)
      (made_after : Made s d₁ (verification :: after) d) (beside : ∀ call ∈ after, call.IsBeside)

theorem Issued.next (h : Issued s start calls d address since) (htakes : call.Takes s d d')
    (hbeside : call.IsBeside) : Issued s start (calls ++ [call]) d' address (since ++ [call]) := by
  obtain ⟨rfl, made_before, address_eq, issues, made_since, beside⟩ := h
  exact ⟨by simp, made_before, address_eq, issues, made_since.next htakes,
    List.forall_mem_append.2 ⟨beside, List.forall_mem_singleton.2 hbeside⟩⟩

theorem Vouched.next (h : Vouched s start calls d address since) (htakes : call.Takes s d d')
    (hbeside : call.IsBeside) : Vouched s start (calls ++ [call]) d' address (since ++ [call]) := by
  obtain ⟨rfl, rfl, issued, verifies, made_after, beside⟩ := h
  exact ⟨by simp, by simp, issued, verifies, made_after.next htakes,
    List.forall_mem_append.2 ⟨beside, List.forall_mem_singleton.2 hbeside⟩⟩

/-- The address to sign in with after a token was issued. -/
theorem Issued.username_eq (h : Issued s start calls d address since) :
    d.credential.username = some ((latestAddress? since).getD address) := by
  obtain ⟨-, -, address_eq, issues, made_since, -⟩ := h
  rw [made_since.username_eq, latestAddress?_cons issues.address?_eq, address_eq]
  cases latestAddress? since <;> rfl

theorem Vouched.username_eq (h : Vouched s start calls d address since) :
    d.credential.username = some ((latestAddress? since).getD address) := by
  obtain ⟨-, rfl, issued, verifies, made_after, -⟩ := h
  rw [made_after.username_eq, latestAddress?_cons verifies.address?_eq, issued.username_eq,
    latestAddress?_append]
  cases latestAddress? _ <;> rfl

/-- How a registration came to stand where it does. -/
def History (s : Services) (start : Desk) (calls : List Call) (d : Desk) : Registration → Prop
  | .unverified => True
  | .pending _ => ∃ address since, Issued s start calls d address since
  | .verified _ => ∃ address since, Vouched s start calls d address since

/-- A call adds to the history of a registration. -/
theorem History.next (h : History s start calls d d.credential.registration)
    (hmade : Made s start calls d) (htakes : call.Takes s d d') :
    History s start (calls ++ [call]) d' d'.credential.registration := by
  cases htakes.registers with
  | issued token issues address_set username_eq registration_eq =>
    obtain ⟨address, haddress⟩ := Option.isSome_iff_exists.1 address_set
    rw [registration_eq]
    exact ⟨address, [], rfl, hmade, haddress, issues, Made.start.next htakes, List.forall_mem_nil _⟩
  | verified verifies was_pending username_eq registration_eq =>
    cases hpending : d.credential.registration with
    | pending token =>
      rw [hpending] at h
      obtain ⟨address, since, issued⟩ := h
      rw [registration_eq]
      exact ⟨address, since, rfl, (List.append_nil _).symm, issued, verifies,
        Made.start.next htakes, List.forall_mem_nil _⟩
    | _ =>
      rw [hpending] at was_pending
      cases was_pending
  | beside is_beside username_eq registration_eq =>
    rw [registration_eq]
    cases hstands : d.credential.registration with
    | unverified => trivial
    | pending _ =>
      rw [hstands] at h
      obtain ⟨address, since, issued⟩ := h
      exact ⟨address, _, issued.next htakes is_beside⟩
    | verified _ =>
      rw [hstands] at h
      obtain ⟨address, since, vouched⟩ := h
      exact ⟨address, _, vouched.next htakes is_beside⟩

/-- The history of every registration, from a new credential on. -/
theorem history_of_made {id : CredentialId} {user : UserId} {n : Draws}
    (h : Made s ⟨create id user, n⟩ calls d) :
    History s ⟨create id user, n⟩ calls d d.credential.registration := by
  induction h with
  | start => trivial
  | next before takes ih => exact ih.next before takes

/-- Whatever calls are made of a new credential, and whatever is refused: if its registration is
verified, there is an address to sign in with. It is the one for which the token was issued by which
the registration was verified, unless another one was set since; then it is the latest of these. -/
theorem verified_vouches {id : CredentialId} {user : UserId} {n : Draws}
    (h : Made s ⟨create id user, n⟩ calls d) (hverified : d.credential.isVerified = true) :
    ∃ address since, Vouched s ⟨create id user, n⟩ calls d address since ∧
      d.credential.username = some ((latestAddress? since).getD address) := by
  have hhistory := history_of_made h
  cases hstands : d.credential.registration with
  | verified _ =>
    rw [hstands] at hhistory
    obtain ⟨address, since, vouched⟩ := hhistory
    exact ⟨address, since, vouched, vouched.username_eq⟩
  | _ =>
    rw [isVerified, hstands] at hverified
    cases hverified

/-- Bob's address takes the place of Ann's while the token for hers is outstanding. -/
def sampleReplacement : List (Instant × Action) :=
  [(⟨0, 0⟩, .setDetails ⟨"ann@example.com"⟩ "Ann"), (⟨0, 0⟩, .initiateRegistration),
    (⟨0, 0⟩, .setDetails ⟨"bob@example.com"⟩ "Bob"), (⟨1, 0⟩, .verifyRegistration)]

theorem verified_vouches_sample : ∃ calls d,
    Made Script.sample.services ⟨create ⟨⟨2#128⟩⟩ ⟨⟨1#128⟩⟩, .none⟩ calls d ∧
      calls.map Call.action = sampleReplacement.map Prod.snd ∧
      d.credential.isVerified = true ∧ d.credential.username = some ⟨"bob@example.com"⟩ ∧
      ∃ address since, Vouched Script.sample.services ⟨create ⟨⟨2#128⟩⟩ ⟨⟨1#128⟩⟩, .none⟩ calls d
        address since ∧ d.credential.username = some ((latestAddress? since).getD address) := by
  have hmade :=
    made_carryOut (s := Script.sample.services) (d := ⟨create ⟨⟨2#128⟩⟩ ⟨⟨1#128⟩⟩, .none⟩)
      sampleReplacement
  have hverified : (carryOut Script.sample.services ⟨create ⟨⟨2#128⟩⟩ ⟨⟨1#128⟩⟩, .none⟩
      sampleReplacement).2.credential.isVerified = true := by decide +kernel
  exact ⟨_, _,
    hmade, by decide +kernel, hverified, by decide +kernel, verified_vouches hmade hverified⟩

end TenantAuth.Credential
