import Mathlib.Data.List.Induction
import Mathlib.Data.List.Nodup
import TenantAuth.Proofs.Credential.Refusals

/-!
What becomes of the authenticators, call by call.

Every call takes the list of authenticators one turn further, whether or not it is refused: the list
stays as it is, or one is added behind those that stay, or one is renewed in its place or removed,
or nothing is left. There is a case for each operation that can do so, and whatever is to be shown
of all credentials is shown for these cases only.

No list ever has two authenticators of a kind. So what holds of one of a kind holds of the kind, and
it stays in the list as long as no call concerns its kind.
-/

namespace TenantAuth.Credential

variable {s : Services} {now : Instant} {d d' : Desk} {c : Credential} {α β : Type}

theorem pending?_spec {kind : AuthenticatorKind} {a : Authenticator}
    (h : c.pending? kind = some a) : a.kind = kind ∧ a.isActive = false := by
  have hfound := List.find?_some h
  simpa using hfound

theorem active?_spec {kind : AuthenticatorKind} {a : Authenticator} (h : c.active? kind = some a) :
    a.kind = kind ∧ a.isActive = true := by
  have hfound := List.find?_some h
  simpa using hfound

/-! ### The turns of a list -/

/-- What is made of an authenticator by a proof: it is active, and a challenge it has outstanding it
had before. -/
structure Renewed (a b : Authenticator) : Prop where
  kind_eq : b.kind = a.kind
  active : b.isActive = true
  challenge : b.challenge? = none ∨ b.challenge? = a.challenge?

/-- Recovery codes that were made for a credential: none, or those that it did not have. -/
def MadeFor (c : Credential) (made : List Authenticator) : Prop :=
  made = [] ∨ c.recoveryCodes? = none ∧ ∃ codes, made = [codes] ∧ codes.kind = .recoveryCodes

/-- What may become of the authenticators of a credential by an operation, with its outcome. -/
inductive Turn (c : Credential) : Action → Except Fault Answer → List Authenticator → Prop
  | same {action : Action} {r : Except Fault Answer} : Turn c action r c.authenticators
  | emptied {caller : Caller} {answer : Answer} : Turn c (.resetMfa caller) (.ok answer) []
  | added {caller : MfaCaller} {kind : AuthenticatorKind} {phone : Option PhoneNumber}
      {email profileEmail : Option EmailAddress} {answer : Answer} {made : List Authenticator}
      {new : Authenticator} (inactive : c.active? kind = none) (kind_ne : kind ≠ .recoveryCodes)
      (made_for : MadeFor c made) (new_kind : new.kind = kind) :
      Turn c (.associate caller kind phone email profileEmail) (.ok answer)
        (staying kind c.authenticators ++ made ++ [new])
  | left {caller : MfaCaller} {kind : AuthenticatorKind} {phone : Option PhoneNumber}
      {email profileEmail : Option EmailAddress} {cause : String} {made : List Authenticator}
      (made_for : MadeFor c made) :
      Turn c (.associate caller kind phone email profileEmail) (.error (.unexpected cause))
        (staying kind c.authenticators ++ made)
  | confirmed {caller : MfaCaller} {kind : AuthenticatorKind} {oobCode : Option String}
      {typed : String} {answer : Answer} {a b : Authenticator} (found : c.pending? kind = some a)
      (renewed : Renewed a b) :
      Turn c (.confirm caller kind oobCode typed) (.ok answer)
        (replaceFirst (fun a => a.kind = kind && !a.isActive) b c.authenticators)
  | verified {caller : MfaCaller} {kind : AuthenticatorKind} {oobCode : Option String}
      {typed : String} {answer : Answer} {a b : Authenticator} (found : c.active? kind = some a)
      (renewed : Renewed a b) :
      Turn c (.verify caller kind oobCode typed) (.ok answer)
        (replaceFirst (fun a => a.kind = kind && a.isActive) b c.authenticators)
  | challenged {caller : MfaCaller} {id : AuthenticatorId} {answer : Answer} {a b : Authenticator}
      (found : c.authenticator? id = some a) (kind_eq : b.kind = a.kind) :
      Turn c (.challenge caller id) (.ok answer)
        (replaceFirst (fun a => a.id = id) b c.authenticators)
  | removed {caller : MfaCaller} {id : AuthenticatorId} {answer : Answer} {a : Authenticator}
      (found : c.authenticator? id = some a) :
      Turn c (.disassociate caller id) (.ok answer) (removed id c.authenticators)

/-! ### Each call is a turn -/

/-- A part of the credential is the same on two desks. -/
abbrev SamePart (part : Credential → β) : Desk → Desk → Prop := Same fun d => part d.credential

section SamePart

variable {part : Credential → β}

@[simp] theorem samePart_current : Moves (SamePart part) current :=
  fun d r d' h => congrArg part (looks_current d r d' h)

@[simp] theorem samePart_use (step : ServiceM α) : Moves (SamePart part) (use step) :=
  fun d r d' h => congrArg part (looks_use step d r d' h)

@[simp] theorem samePart_authorize (caller : MfaCaller) :
    Moves (SamePart part) (authorize caller now) :=
  fun d r d' h => congrArg part (looks_authorize caller d r d' h)

@[simp] theorem samePart_update {f : Credential → Credential} (h : ∀ c, part (f c) = part c) :
    Moves (SamePart part) (update f) := by
  intro d r d' hrun
  obtain ⟨_, rfl⟩ := Prod.mk.inj hrun
  exact h d.credential

@[simp] theorem samePart_onFirst {condition : Authenticator → Bool} {missing : Fault}
    {steps : AuthenticatorM α} (h : ∀ c list, part { c with authenticators := list } = part c) :
    Moves (SamePart part) (onFirst condition missing steps) := by
  intro d r d' hrun
  cases ha : d.credential.authenticators.find? condition with
  | none => exact congrArg (fun d => part d.credential) ((onFirst_iff_of_none ha).1 hrun).2
  | some a =>
    obtain ⟨b, n, _, rfl⟩ := (onFirst_iff_of_find? ha).1 hrun
    exact h _ _

end SamePart

/-- The authenticators are the same on two desks. -/
abbrev SameList : Desk → Desk → Prop := SamePart Credential.authenticators

/-- Operations that may change which authenticators there are, or what they are like. -/
def Action.Rearranges : Action → Prop
  | .resetMfa _ => True
  | .associate _ _ _ _ _ => True
  | .confirm _ _ _ _ => True
  | .challenge _ _ => True
  | .verify _ _ _ _ => True
  | .disassociate _ _ => True
  | _ => False

/-- The others leave them as they are. -/
theorem sameList_perform {action : Action} (h : ¬action.Rearranges) :
    Moves SameList (perform s now action) := by
  cases action with
  | resetMfa | associate | confirm | challenge | verify | disassociate => exact absurd trivial h
  | authorize => simp [perform]
  | _ =>
    refine moves_bind ?_ fun _ => moves_pure _
    simp only [setPassword, hasPassword, setDetails, initiateRegistration,
      verifyRegistration, changeMfa, enforceMfa, initiateMfa, viewAuthenticators]
    repeat refine moves_bind (by simp) fun _ => ?_
    simp

theorem CodesMade.madeFor {n : Draws} {made : List Authenticator} {shown : Option (List String)}
    {draw : Nat} (h : CodesMade s n c.recoveryCodes?.isSome made shown draw) : MadeFor c made := by
  generalize hthere : c.recoveryCodes?.isSome = there at h
  cases h with
  | there => exact Or.inl rfl
  | made _ => exact Or.inr ⟨by simpa using hthere, _, rfl, rfl⟩

theorem madeFor_codesBefore : MadeFor d.credential (codesBefore s d) := by
  by_cases hmade : codesBefore s d = []
  · exact Or.inl hmade
  · obtain ⟨codes, hcodes⟩ := List.exists_mem_of_ne_nil _ hmade
    obtain ⟨hnone, honly, hkind⟩ := codesBefore_spec hcodes
    exact Or.inr ⟨hnone, codes, honly, hkind⟩

theorem renewed_of_proved {a b : Authenticator} {n n' : Draws} {oobCode : Option String}
    {typed : String} (h : Ends (Authenticator.provePossession s oobCode typed) ⟨a, n⟩
      (.ok ()) ⟨b, n'⟩) :
    Renewed a { b with isActive := true } := by
  refine ⟨Authenticator.kind_eq_of_factor (Authenticator.factor_of_proved h).1, rfl, ?_⟩
  rcases (Authenticator.provePossession_ok h).2 with ⟨_, _, _, _, rfl⟩ | ⟨_, _, _, rfl⟩
  · exact Or.inr rfl
  · exact Or.inl rfl

theorem renewed_of_verified {kind : AuthenticatorKind} {a b : Authenticator} {n n' : Draws}
    {oobCode : Option String} {typed : String} (hactive : a.isActive = true)
    (h : Ends (if kind = .recoveryCodes then Authenticator.consumeRecoveryCode s typed
      else Authenticator.provePossession s oobCode typed) ⟨a, n⟩ (.ok ()) ⟨b, n'⟩) :
      Renewed a b := by
  split at h
  · obtain ⟨_, _, rfl⟩ := Authenticator.consumeRecoveryCode_ok h oobCode
    exact ⟨rfl, hactive, Or.inr rfl⟩
  · have hsame : { b with isActive := true } = b := by
      rw [← (Authenticator.factor_of_proved h).2.trans hactive]
    exact hsame ▸ renewed_of_proved h

/-- What an operation that goes through makes of the authenticators. -/
theorem turn_of_ok {action : Action} {answer : Answer}
    (h : Ends (perform s now action) d (.ok answer) d') :
    Turn d.credential action (.ok answer) d'.credential.authenticators := by
  by_cases hrearranges : action.Rearranges
  · cases action with
    | resetMfa caller =>
      obtain ⟨_, hdone⟩ := answered h
      rw [(resetMfa_ok hdone).2]
      exact .emptied
    | associate caller kind phone email profileEmail =>
      obtain ⟨_, hdone⟩ := answered h
      obtain ⟨_, _, _, hkind, hinactive, made, draw, hmade, hpending, _, hd'⟩ := associate_ok hdone
      rw [hd']
      exact .added hinactive hkind hmade.madeFor hpending.kind_eq
    | confirm caller kind oobCode typed =>
      obtain ⟨_, hdone⟩ := answered h
      obtain ⟨_, _, _, a, proved, ha, hproved, hd'⟩ := confirm_ok hdone
      rw [hd']
      exact .confirmed ha (renewed_of_proved hproved)
    | challenge caller id =>
      obtain ⟨_, hdone⟩ := answered h
      obtain ⟨_, _, a, challenged, sent, ha, _, hchallenged, _, hd'⟩ := challenge_ok hdone
      rw [hd']
      exact .challenged ha
        (Authenticator.kind_eq_of_factor (Authenticator.factor_of_challenged hchallenged).1)
    | verify caller kind oobCode typed =>
      obtain ⟨_, hdone⟩ := answered h
      obtain ⟨_, _, a, proved, ha, hproved, hd'⟩ := verify_ok hdone
      rw [hd']
      exact .verified ha (renewed_of_verified (active?_spec ha).2 hproved)
    | disassociate caller id =>
      obtain ⟨_, hdone⟩ := answered h
      obtain ⟨_, a, ha, _, rfl⟩ := disassociate_ok hdone
      exact .removed ha
    | _ => exact hrearranges.elim
  · rw [show d'.credential.authenticators = d.credential.authenticators from
      sameList_perform hrearranges _ _ _ h]
    exact .same

/-- Every call takes the authenticators one turn further, whether or not it is refused. -/
theorem turn_run {action : Action} {r : Except Fault Answer} (h : run s now action d = (r, d')) :
    Turn d.credential action r d'.credential.authenticators := by
  cases r with
  | ok answer => exact turn_of_ok h
  | error fault =>
    by_cases hadds : action.Adds
    · cases action with
      | associate caller kind phone email profileEmail =>
        obtain ⟨e | outcome, hends, hr⟩ := Ends.bind_pure_iff.1 h
        · obtain rfl := Except.error.inj hr
          cases associate_refused hends with
          | nothing _ desk_eq =>
            rw [desk_eq]
            exact .same
          | halfway cause fault_eq _ _ credential_eq =>
            rw [fault_eq, credential_eq]
            exact .left madeFor_codesBefore
        · cases hr
      | _ => exact hadds.elim
    · rw [show d'.credential = d.credential from allOrNothing_perform hadds _ _ _ h]
      exact .same

/-! ### Calls one after the other -/

/-- Calls lead from one desk to another, each with an outcome that is allowed. Of a call that is
refused, what it did stays, or the credential is put back as it was. -/
inductive Leads (s : Services) (allowed : Credential → Action → Except Fault Answer → Prop)
    (d : Desk) : Desk → Prop
  | here : Leads s allowed d d
  | call {d₁ d₂ : Desk} {now : Instant} {action : Action} {r : Except Fault Answer}
      (before : Leads s allowed d d₁) (run_eq : run s now action d₁ = (r, d₂))
      (ok : allowed d₁.credential action r) : Leads s allowed d d₂
  | putBack {d₁ d₂ : Desk} {now : Instant} {action : Action} {fault : Fault}
      (before : Leads s allowed d d₁) (run_eq : run s now action d₁ = (.error fault, d₂)) :
      Leads s allowed d ⟨d₁.credential, d₂.draws⟩

variable {allowed : Credential → Action → Except Fault Answer → Prop}

/-- What is kept by each turn is kept by calls one after the other. -/
theorem Leads.keeps {P : List Authenticator → Prop}
    (hturn : ∀ c action r list, allowed c action r → Turn c action r list →
      P c.authenticators → P list)
    (h : Leads s allowed d d') (hd : P d.credential.authenticators) :
        P d'.credential.authenticators := by
  induction h with
  | here => exact hd
  | call _ run_eq ok ih => exact hturn _ _ _ _ ok (turn_run run_eq) ih
  | putBack _ _ ih => exact ih

/-- A desk that calls lead to from that of a new credential. -/
def Reached (s : Services) (d : Desk) : Prop :=
  ∃ id user n, Leads s (fun _ _ _ => True) ⟨create id user, n⟩ d

/-- Operations of which the refused ones leave their draws behind lead on. -/
theorem leads_course (d : Desk) (operations : List (Instant × Action)) :
    Leads s (fun _ _ _ => True) d (course s d operations) := by
  induction operations using List.reverseRecOn with
  | nil => exact .here
  | append_singleton before operation ih =>
    rw [course, List.foldl_append, List.foldl_cons, List.foldl_nil, step]
    split
    · rename_i answer d' hrun
      exact .call ih hrun trivial
    · rename_i fault d' hrun
      exact .putBack ih hrun

theorem reached_course (id : CredentialId) (user : UserId) (n : Draws)
    (operations : List (Instant × Action)) : Reached s (course s ⟨create id user, n⟩ operations) :=
  ⟨id, user, n, leads_course _ operations⟩

/-! ### One of a kind -/

/-- No two authenticators are of a kind. -/
abbrev KindsDiffer (list : List Authenticator) : Prop := (list.map Authenticator.kind).Nodup

/-- Those that stay when an authenticator is added are of other kinds. -/
theorem kind_ne_of_staying {kind : AuthenticatorKind} (hinactive : c.active? kind = none)
    {a : Authenticator} (ha : a ∈ staying kind c.authenticators) : a.kind ≠ kind := by
  intro hsame
  obtain ⟨hmem, hstays⟩ := List.mem_filter.1 ha
  have hactive := List.find?_eq_none.1 hinactive a hmem
  simp only [hsame, decide_true, Bool.true_and, Bool.not_not, Bool.not_eq_true] at hstays hactive
  cases hactive.symm.trans hstays

theorem KindsDiffer.staying_append {kind : AuthenticatorKind} {made : List Authenticator}
    (h : KindsDiffer c.authenticators) (hmade : MadeFor c made) :
    KindsDiffer (staying kind c.authenticators ++ made) := by
  have hsub : (staying kind c.authenticators).Sublist c.authenticators := List.filter_sublist
  have hstaying : KindsDiffer (staying kind c.authenticators) := h.sublist (hsub.map _)
  rcases hmade with rfl | ⟨hnone, codes, rfl, hkind⟩
  · rwa [List.append_nil]
  · rw [KindsDiffer, List.map_append, List.map_singleton, ← List.concat_eq_append]
    refine List.Nodup.concat (fun hthere => ?_) hstaying
    obtain ⟨a, ha, hsame⟩ := List.mem_map.1 hthere
    exact List.find?_eq_none.1 hnone a (hsub.subset ha) (by simpa using hsame.trans hkind)

/-- No turn brings a second authenticator of a kind. -/
theorem Turn.kindsDiffer {action : Action} {r : Except Fault Answer} {list : List Authenticator}
    (h : Turn c action r list) (hc : KindsDiffer c.authenticators) : KindsDiffer list := by
  cases h with
  | same => exact hc
  | emptied => exact List.nodup_nil
  | @added _ kind _ _ _ _ made new inactive kind_ne made_for new_kind =>
    rw [KindsDiffer, List.map_append, List.map_singleton, ← List.concat_eq_append]
    refine List.Nodup.concat (fun hthere => ?_) (hc.staying_append made_for)
    obtain ⟨a, ha, hsame⟩ := List.mem_map.1 hthere
    rw [new_kind] at hsame
    rcases List.mem_append.1 ha with ha | ha
    · exact kind_ne_of_staying inactive ha hsame
    · rcases made_for with rfl | ⟨_, codes, rfl, hkind⟩
      · cases ha
      · rw [List.mem_singleton.1 ha, hkind] at hsame
        exact kind_ne hsame.symm
  | left made_for => exact hc.staying_append made_for
  | confirmed found renewed =>
    rw [KindsDiffer, map_replaceFirst found renewed.kind_eq]
    exact hc
  | verified found renewed =>
    rw [KindsDiffer, map_replaceFirst found renewed.kind_eq]
    exact hc
  | challenged found kind_eq =>
    rw [KindsDiffer, map_replaceFirst found kind_eq]
    exact hc
  | removed found => exact hc.sublist ((removed_sublist _ _).map _)

theorem Leads.kindsDiffer (h : Leads s allowed d d')
    (hd : KindsDiffer d.credential.authenticators) : KindsDiffer d'.credential.authenticators :=
  h.keeps (fun _ _ _ _ _ hturn hc => hturn.kindsDiffer hc) hd

theorem Reached.kindsDiffer (h : Reached s d) : KindsDiffer d.credential.authenticators := by
  obtain ⟨id, user, n, hleads⟩ := h
  exact hleads.kindsDiffer List.nodup_nil

/-- Whatever is found by its kind is the one that is there. -/
theorem KindsDiffer.find?_eq {list : List Authenticator} {a : Authenticator}
    {condition : Authenticator → Bool} (h : KindsDiffer list) (ha : a ∈ list)
    (hcondition : condition a = true) (hkind : ∀ b, condition b = true → b.kind = a.kind) :
    list.find? condition = some a := by
  cases hfind : list.find? condition with
  | none => exact absurd hcondition (List.find?_eq_none.1 hfind a ha)
  | some b =>
    rw [List.inj_on_of_nodup_map h (List.mem_of_find?_eq_some hfind) ha
      (hkind b (List.find?_some hfind))]

/-! ### Calls that concern a kind -/

/-- An operation adds, proves, challenges or removes the authenticator of a kind, or removes all. -/
def Action.Concerns (c : Credential) (kind : AuthenticatorKind) : Action → Prop
  | .resetMfa _ => True
  | .associate _ kind' _ _ _ => kind' = kind
  | .confirm _ kind' _ _ => kind' = kind
  | .verify _ kind' _ _ => kind' = kind
  | .challenge _ id => ∃ a, c.authenticator? id = some a ∧ a.kind = kind
  | .disassociate _ id => ∃ a, c.authenticator? id = some a ∧ a.kind = kind
  | _ => False

/-- An operation adds an authenticator of a kind. -/
def Action.AddsOf (kind : AuthenticatorKind) : Action → Prop
  | .associate _ kind' _ _ _ => kind' = kind
  | _ => False

/-- A call spares the authenticator of a kind: it goes through and does not concern the kind, or it
is refused, but not half-way through the adding of an authenticator of this kind. -/
def Spares (kind : AuthenticatorKind) (c : Credential) (action : Action) :
    Except Fault Answer → Prop
  | .ok _ => ¬action.Concerns c kind
  | .error (.unexpected _) => ¬action.AddsOf kind
  | .error _ => True

/-- What stands in the place of another leaves those that are not that other. -/
theorem mem_replaceFirst_of_ne {α : Type} {condition : α → Bool} {old new b : α} {list : List α}
    (hfind : list.find? condition = some old) (hb : b ∈ list) (hne : b ≠ old) :
    b ∈ replaceFirst condition new list := by
  induction list with
  | nil => cases hb
  | cons a rest ih =>
    rw [List.find?_cons] at hfind
    rw [replaceFirst]
    cases hcondition : condition a with
    | true =>
      rw [hcondition] at hfind
      obtain rfl := Option.some.inj hfind
      exact List.mem_cons_of_mem _ ((List.mem_cons.1 hb).resolve_left hne)
    | false =>
      rw [hcondition] at hfind
      rcases List.mem_cons.1 hb with rfl | hb
      · exact List.mem_cons_self
      · exact List.mem_cons_of_mem _ (ih hfind hb)

/-- What is taken out leaves those that are not it. -/
theorem mem_eraseP_of_ne {α : Type} {condition : α → Bool} {old b : α} {list : List α}
    (hfind : list.find? condition = some old) (hb : b ∈ list) (hne : b ≠ old) :
    b ∈ list.eraseP condition := by
  induction list with
  | nil => cases hb
  | cons a rest ih =>
    rw [List.find?_cons] at hfind
    cases hcondition : condition a with
    | true =>
      rw [hcondition] at hfind
      obtain rfl := Option.some.inj hfind
      rw [List.eraseP_cons_of_pos hcondition]
      exact (List.mem_cons.1 hb).resolve_left hne
    | false =>
      rw [hcondition] at hfind
      rw [List.eraseP_cons_of_neg (by simp [hcondition])]
      rcases List.mem_cons.1 hb with rfl | hb
      · exact List.mem_cons_self
      · exact List.mem_cons_of_mem _ (ih hfind hb)

theorem mem_staying {kind : AuthenticatorKind} {list : List Authenticator} {a : Authenticator}
    (ha : a ∈ list) (hkind : a.kind ≠ kind) : a ∈ staying kind list :=
  List.mem_filter.2 ⟨ha, by simp [hkind]⟩

/-- An authenticator stays as it is through every call that spares its kind, unless it is that of
the recovery codes. -/
theorem Turn.mem_of_spares {action : Action} {r : Except Fault Answer} {list : List Authenticator}
    {a : Authenticator} (h : Turn c action r list) (hspares : Spares a.kind c action r)
    (hkind : a.kind ≠ .recoveryCodes) (ha : a ∈ c.authenticators) : a ∈ list := by
  cases h with
  | same => exact ha
  | emptied => exact absurd trivial hspares
  | added =>
    exact List.mem_append_left _ (List.mem_append_left _ (mem_staying ha (Ne.symm hspares)))
  | left => exact List.mem_append_left _ (mem_staying ha (Ne.symm hspares))
  | confirmed found _ =>
    exact mem_replaceFirst_of_ne found ha fun hsame =>
      hspares (hsame ▸ (pending?_spec found).1.symm)
  | verified found _ =>
    exact mem_replaceFirst_of_ne found ha fun hsame => hspares (hsame ▸ (active?_spec found).1.symm)
  | challenged found _ =>
    exact mem_replaceFirst_of_ne found ha fun hsame => hspares ⟨_, found, by rw [hsame]⟩
  | removed found =>
    have hstays := mem_eraseP_of_ne found ha fun hsame => hspares ⟨_, found, by rw [hsame]⟩
    rw [Credential.removed, if_neg]
    · exact hstays
    · intro hall
      exact hkind (of_decide_eq_true (List.all_eq_true.1 hall a hstays))

theorem Leads.mem_of_spares {kind : AuthenticatorKind} {a : Authenticator}
    (h : Leads s (Spares kind) d d') (hkind : a.kind = kind) (hne : kind ≠ .recoveryCodes)
    (ha : a ∈ d.credential.authenticators) :
    a ∈ d'.credential.authenticators := by
  subst hkind
  exact h.keeps (P := (a ∈ ·))
    (fun _ _ _ _ hspares hturn hc => hturn.mem_of_spares hspares hne hc) ha

end TenantAuth.Credential
