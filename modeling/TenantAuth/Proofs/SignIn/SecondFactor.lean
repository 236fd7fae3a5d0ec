import TenantAuth.Proofs.Credential.Arranged
import TenantAuth.Proofs.SignIn.Issuance

/-!
What whoever holds a password and a sign-in token has to prove besides.

Whoever ends a sign-in proves to hold an authenticator of the credential. It was there when the
sign-in token was handed out, or was added since, either by the user, signed in, or by someone who
presents that very token. The last is open to whoever knows the password, for a kind of which no
authenticator is active: an authenticator that is added and confirmed in the middle of a sign-in
ends it. Only an authenticator that was active already, or that the user confirmed since, can be
verified, recovery codes apart.
-/

namespace TenantAuth.SignIn

variable {ω : Type} {s : Services} {k : Collaborators ω} {kept : ω → Kept}
  {w : World ω} {t : Turn ω}

/-! ### Where authenticators come from -/

/-- Where an authenticator comes from that a credential has after a request that leaves its sign-in
token outstanding. -/
inductive Stems (now : Instant) (caller : Caller) (c : Credential) (a : Authenticator) :
    Request → Prop
  | stays {request : Request} {old : Authenticator} (there : old ∈ c.authenticators)
      (same : old.factor = a.factor) (active : a.isActive = true → old.isActive = true) :
      Stems now caller c a request
  | added {token phone : Option String} {kind : AuthenticatorKind}
      (speaks : caller.userId = some c.userId ∨
        caller.userId = none ∧ ∃ presented, token = some presented ∧
        c.mfa.isValid presented now = true)
      (pending : a.isActive = true → a.kind = .recoveryCodes) :
      Stems now caller c a (.associate token kind phone)
  | activated {token oobCode : Option String} {kind : AuthenticatorKind} {typed : String}
      {old : Authenticator} (owner : caller.userId = some c.userId) (there : old ∈ c.authenticators)
      (same : old.factor = a.factor) :
      Stems now caller c a (.confirm token kind oobCode typed)

/-- Whoever is authorized is the user, signed in, or presents a valid token. -/
theorem authorized_of_speaks {caller : Caller} {c : Credential} {token : Option String}
    {speaker : MfaCaller} {now : Instant} (hspeaks : Speaks caller c token speaker)
    (h : c.unauthorized? speaker now = none) :
    caller.userId = some c.userId ∨
      caller.userId = none ∧ ∃ presented, token = some presented ∧
      c.mfa.isValid presented now = true := by
  obtain ⟨howner, hvalid⟩ := Credential.unauthorized?_eq_none.1 h
  cases hspeaks with
  | owner signedIn => exact Or.inl (howner ▸ signedIn)
  | bearer anonymous => exact Or.inr ⟨anonymous, _, rfl, hvalid _ rfl⟩

/-- An authenticator in a list where one was renewed stems from one of the same factor. -/
theorem stems_of_renewed {now : Instant} {caller : Caller} {request : Request} {c : Credential}
    {condition : Authenticator → Bool} {old new a : Authenticator}
    (hold : c.authenticators.find? condition = some old) (hfactor : new.factor = old.factor)
    (hactive : new.isActive = old.isActive) (ha : a ∈ replaceFirst condition new c.authenticators) :
    Stems now caller c a request := by
  rcases mem_replaceFirst ha with rfl | ha
  · exact .stays (List.mem_of_find?_eq_some hold) hfactor.symm fun h => hactive ▸ h
  · exact .stays ha rfl id

/-- Authenticators stay, are added, or are confirmed by the user. -/
theorem stems_of_done {now : Instant} {caller : Caller} {request : Request}
    {action : Credential.Action} {answer : Credential.Answer} {c c' : Credential} {n n' : Draws}
    {a : Authenticator} (hacts : Acts caller c request action)
    (hdone : Ends (Credential.perform s now action) ⟨c, n⟩ (.ok answer) ⟨c', n'⟩)
    (hkept : ¬action.ReplacesToken) (ha : a ∈ c'.authenticators) :
    Stems now caller c a request := by
  cases hacts with
  | changeMfa =>
    obtain ⟨_, hdone⟩ := Credential.answered hdone
    obtain ⟨_, _, hc'⟩ := Credential.changeMfa_ok hdone
    rw [show c' = _ from hc'] at ha
    exact .stays ha rfl id
  | resetMfa => exact absurd trivial hkept
  | associate speaks =>
    obtain ⟨outcome, hdone⟩ := Credential.answered hdone
    obtain ⟨hauthorized, _, _, _, _, made, draw, hmade, hpending, _, hc'⟩ :=
      Credential.associate_ok hdone
    have hspeaks := authorized_of_speaks speaks hauthorized
    rw [show c' = _ from hc'] at ha
    rcases List.mem_append.1 ha with ha | ha
    · rcases List.mem_append.1 ha with ha | ha
      · exact .stays (List.mem_filter.1 ha).1 rfl id
      · exact .added hspeaks fun _ => hmade.kind_eq a ha
    · refine .added hspeaks fun hactive => ?_
      rw [List.mem_singleton.1 ha, hpending.inactive] at hactive
      cases hactive
  | confirm speaks =>
    obtain ⟨_, hdone⟩ := Credential.answered hdone
    obtain ⟨hauthorized, _, _, old, proved, hold, hproved, hc'⟩ := Credential.confirm_ok hdone
    have howner : caller.userId = some c.userId := by
      cases speaks with
      | owner signedIn => exact (Credential.unauthorized?_eq_none.1 hauthorized).1 ▸ signedIn
      | bearer _ => exact absurd rfl hkept
    rw [show c' = _ from hc'] at ha
    rcases mem_replaceFirst ha with rfl | ha
    · exact .activated howner (List.mem_of_find?_eq_some hold)
        (Authenticator.factor_of_proved hproved).1.symm
    · exact .stays ha rfl id
  | challenge speaks =>
    obtain ⟨_, hdone⟩ := Credential.answered hdone
    obtain ⟨_, _, old, challenged, _, hold, _, hchallenged, _, hc'⟩ := Credential.challenge_ok hdone
    rw [show c' = _ from hc'] at ha
    obtain ⟨hfactor, hactive⟩ := Authenticator.factor_of_challenged hchallenged
    exact stems_of_renewed hold hfactor hactive ha
  | verify => exact absurd trivial hkept
  | disassociate =>
    obtain ⟨_, hdone⟩ := Credential.answered hdone
    obtain ⟨_, _, _, _, hd'⟩ := Credential.disassociate_ok hdone
    rw [show c' = _ from congrArg Desk.credential hd'] at ha
    exact .stays ((removed_sublist _ _).subset ha) rfl id

/-! ### What becomes of a credential while a sign-in waits -/

/-- A turn that stores a credential of a user. -/
def Turn.Stores (t : Turn ω) (user : UserId) (c : Credential) : Prop :=
    c.userId = user ∧ ⟨.save c, none⟩ ∈ t.asked

/-- How a factor came to the credential of a user, for whom a sign-in token was handed out at a
position: it was there, or it was added since, by the user, signed in, or by someone who presents
the token. -/
inductive Origin (kept : ω → Kept) (all : List (Turn ω)) (p i : Nat) (user : UserId) (hash : String)
    (factor : Factor) : Prop
  | there {t : Turn ω} {c : Credential} {a : Authenticator} (turn : all[p]? = some t)
      (kept_eq : kept t.after.outside user = some c) (mem : a ∈ c.authenticators)
      (same : a.factor = factor) :
      Origin kept all p i user hash factor
  | added {j : Nat} {t : Turn ω} {shown phone : Option String} {kind : AuthenticatorKind}
      {c : Credential} {a : Authenticator} (after : p < j) (before : j < i)
      (turn : all[j]? = some t) (request : t.request = .associate shown kind phone)
      (stores : t.Stores user c) (mem : a ∈ c.authenticators) (same : a.factor = factor)
      (speaks : t.caller.userId = some user ∨
        t.caller.userId = none ∧ ∃ presented, shown = some presented ∧
        Token.hash presented = hash) :
      Origin kept all p i user hash factor

/-- How a factor came to be active: it was when the token was handed out, or the user, signed in,
confirmed it since. -/
inductive Activated (kept : ω → Kept) (all : List (Turn ω)) (p i : Nat) (user : UserId)
    (factor : Factor) : Prop
  | there {t : Turn ω} {c : Credential} {a : Authenticator} (turn : all[p]? = some t)
      (kept_eq : kept t.after.outside user = some c) (mem : a ∈ c.authenticators)
      (same : a.factor = factor) (active : a.isActive = true) : Activated kept all p i user factor
  | confirmed {j : Nat} {t : Turn ω} {shown oobCode : Option String} {kind : AuthenticatorKind}
      {typed : String} {c : Credential} {a : Authenticator} (after : p < j) (before : j < i)
      (turn : all[j]? = some t) (request : t.request = .confirm shown kind oobCode typed)
      (stores : t.Stores user c) (mem : a ∈ c.authenticators) (same : a.factor = factor)
      (active : a.isActive = true) (owner : t.caller.userId = some user) :
      Activated kept all p i user factor

theorem Origin.mono {all : List (Turn ω)} {p i j : Nat} {user : UserId} {hash : String}
    {factor : Factor} (h : Origin kept all p i user hash factor) (hij : i ≤ j) :
    Origin kept all p j user hash factor := by
  cases h with
  | there turn kept_eq mem same => exact .there turn kept_eq mem same
  | added after before turn request stores mem same speaks =>
    exact .added after (Nat.lt_of_lt_of_le before hij) turn request stores mem same speaks

theorem Activated.mono {all : List (Turn ω)} {p i j : Nat} {user : UserId} {factor : Factor}
    (h : Activated kept all p i user factor) (hij : i ≤ j) :
    Activated kept all p j user factor := by
  cases h with
  | there turn kept_eq mem same active => exact .there turn kept_eq mem same active
  | confirmed after before turn request stores mem same active owner =>
    exact .confirmed after (Nat.lt_of_lt_of_le before hij) turn request stores mem same active owner

/-- What holds of the credential of a user while a sign-in waits: its token is outstanding, every
authenticator has its origin, and those that are active were activated, recovery codes apart. -/
structure Waits (kept : ω → Kept) (all : List (Turn ω)) (p i : Nat) (user : UserId) (hash : String)
    (c : Credential) : Prop where
  userId_eq : c.userId = user
  bound : c.mfa.tokenHash = some hash
  origin : ∀ a ∈ c.authenticators, Origin kept all p i user hash a.factor
  activated : ∀ a ∈ c.authenticators, a.isActive = true → a.kind ≠ .recoveryCodes →
    Activated kept all p i user a.factor

/-- A turn that does not settle the token of a user leaves their credential as it was, or stores
what an operation made of it that replaces no token. -/
theorem changed_of_not_settles {user : UserId} {c : Credential} (ht : t.Comes s k kept)
    (hc : kept t.before.outside user = some c) (hunsettled : ¬t.Settles user) :
    kept t.after.outside user = some c ∨
      ∃ action answer c' n n', kept t.after.outside user = some c' ∧ t.Stores user c' ∧
        Acts t.caller c t.request action ∧ ¬action.ReplacesToken ∧
        Ends (Credential.perform s t.now action) ⟨c, n⟩ (.ok answer) ⟨c', n'⟩ := by
  unfold Turn.Comes at ht
  generalize hrequest : t.request = request at ht ⊢
  generalize hreply : t.reply = reply at ht
  cases ht with
  | idle hquiet =>
    left
    rw [hquiet.1, hc]
  | admits _ _ hquiet hadmitted =>
    left
    rw [hadmitted.kept_eq, hquiet.1, hc]
  | @pays _ _ _ _ c' _ _ _ _ _ hquiet hstored =>
    obtain ⟨earlier, hasked, _⟩ := asked_of_stored hquiet hstored (List.append_nil _).symm
    left
    rw [hstored.kept_eq, hquiet.1]
    by_cases huser : user = c'.userId
    · refine absurd ⟨?_, c', huser.symm, ?_⟩ hunsettled
      · rw [hrequest]
        trivial
      · rw [hasked]
        simp
    · rw [Function.update_of_ne huser, hc]
  | @stores _ action answer c₀ c' n n' w₁ w₂ _ loaded acts done hquiet hstored rest =>
    obtain ⟨hkept, earlier, more, hasked, _, _⟩ := rests_of_stored hquiet hstored rest
    rw [hkept]
    by_cases huser : user = c'.userId
    · have hsave : ⟨.save c', none⟩ ∈ t.asked := by
        rw [hasked]
        simp
      rw [← (Credential.holds_perform done).userId_eq, ← huser, hc] at loaded
      obtain rfl := Option.some.inj loaded
      refine Or.inr
        ⟨action, answer, c', n, n', by rw [huser, Function.update_self], ⟨huser.symm, hsave⟩, acts,
        fun hreplaces => hunsettled ⟨?_, c', huser.symm, hsave⟩, done⟩
      rw [hrequest]
      exact (replacesToken_iff acts).1 hreplaces
    · left
      rw [Function.update_of_ne huser, hc]

theorem Waits.mono {all : List (Turn ω)} {p i j : Nat} {user : UserId} {hash : String}
    {c : Credential} (h : Waits kept all p i user hash c) (hij : i ≤ j) :
    Waits kept all p j user hash c :=
  ⟨h.userId_eq, h.bound, fun a ha => (h.origin a ha).mono hij,
    fun a ha hactive hkind => (h.activated a ha hactive hkind).mono hij⟩

/-- What holds while a sign-in waits is kept by a turn that does not settle its token. -/
theorem waits_step {all : List (Turn ω)} {p i : Nat} {user : UserId} {hash : String}
    {c : Credential} (hp : p < i) (hturn : all[i]? = some t) (ht : t.Comes s k kept)
    (hunsettled : ¬t.Settles user) (hc : kept t.before.outside user = some c)
    (hwaits : Waits kept all p i user hash c) :
    ∃ c', kept t.after.outside user = some c' ∧ Waits kept all p (i + 1) user hash c' := by
  rcases changed_of_not_settles ht hc hunsettled with
    hsame | ⟨action, answer, c', n, n', hc', hstores, hacts, hkept, hdone⟩
  · exact ⟨c, hsame, hwaits.mono (Nat.le_succ i)⟩
  have hbound := ((Credential.holds_perform hdone).kept hkept).1.trans hwaits.bound
  refine ⟨c', hc', hstores.1, hbound, fun a ha => ?_, fun a ha hactive hkind => ?_⟩
  · have hstems : Stems t.now t.caller c a t.request := stems_of_done hacts hdone hkept ha
    generalize hrequest : t.request = request at hstems
    cases hstems with
    | stays there same _ => exact same ▸ (hwaits.origin _ there).mono (Nat.le_succ i)
    | added speaks _ =>
      refine .added hp (Nat.lt_succ_self i) hturn hrequest hstores ha rfl ?_
      rw [hwaits.userId_eq] at speaks
      refine speaks.imp id fun ⟨hanonymous, presented, hshown, hvalid⟩ =>
        ⟨hanonymous, presented, hshown, ?_⟩
      exact Option.some.inj ((isValid_iff.1 hvalid).1.symm.trans hwaits.bound)
    | activated _ there same => exact same ▸ (hwaits.origin _ there).mono (Nat.le_succ i)
  · have hstems : Stems t.now t.caller c a t.request := stems_of_done hacts hdone hkept ha
    generalize hrequest : t.request = request at hstems
    cases hstems with
    | stays there same active =>
      rw [← same]
      refine (hwaits.activated _ there (active hactive) ?_).mono (Nat.le_succ i)
      rwa [Authenticator.kind_eq_of_factor same]
    | added _ pending => exact absurd (pending hactive) hkind
    | activated owner there same =>
      exact .confirmed hp (Nat.lt_succ_self i) hturn hrequest hstores ha rfl hactive
        (hwaits.userId_eq ▸ owner)

/-- From the turn that handed out a sign-in token up to the one that it pays for, the sign-in
waits. -/
theorem waits_of_pays (hk : Keeps k kept) {calls : List Call} {p i : Nat} {user : UserId}
    {paying : Turn ω} {token : String} {expiry : Instant}
    (hpaying : (turns s k w calls)[p]? = some paying)
    (hhanded : HandedOut s k kept paying user token expiry)
    (hunsettled : Unsettled (turns s k w calls) user p i) (m : Nat) (hm : p + 1 + m ≤ i)
    (t : Turn ω) (ht : (turns s k w calls)[p + 1 + m]? = some t) :
    ∃ c, kept t.before.outside user = some c ∧
      Waits kept (turns s k w calls) p (p + 1 + m) user (Token.hash token) c := by
  induction m generalizing t with
  | zero =>
    obtain ⟨c, hc, howner, hbound, _⟩ := hhanded.bound
    rw [before_eq_after hpaying ht]
    exact ⟨c, hc, howner, hbound, fun a ha => .there hpaying hc ha rfl,
      fun a ha hactive _ => .there hpaying hc ha rfl hactive⟩
  | succ m ih =>
    have hlast : p + 1 + m < (turns s k w calls).length := by
      have := (List.getElem?_eq_some_iff.1 ht).1
      omega
    have hlast' : (turns s k w calls)[p + 1 + m]? = some (turns s k w calls)[p + 1 + m] :=
      List.getElem?_eq_getElem hlast
    obtain ⟨c, hc, hwaits⟩ := ih (by omega) _ hlast'
    rw [before_eq_after hlast' ht]
    exact waits_step (i := p + 1 + m) (by omega) hlast' (comes_of_getElem? hk hlast')
      (hunsettled (p + 1 + m) _ (by omega) (by omega) hlast') hc hwaits

/-! ### What ends a sign-in -/

/-- A turn ends a sign-in by a proof for an authenticator of a credential: one that is verified is
active, and one that is confirmed was pending. -/
structure Proof (s : Services) (t : Turn ω) (presented : String) (c : Credential)
    (a : Authenticator) : Prop where
  mem : a ∈ c.authenticators
  proves : ∃ kind oobCode typed, a.kind = kind ∧ a.Proves s oobCode typed ∧
    ((t.request = .verify (some presented) kind oobCode typed ∧ a.isActive = true) ∨
      t.request = .confirm (some presented) kind oobCode typed ∧ a.isActive = false)

/-- Whoever ends a sign-in gives a proof for an authenticator of the credential. -/
theorem proof_of_done {action : Credential.Action} {answer : Credential.Answer}
    {c : Credential} {n : Draws} {d' : Desk} {presented : String} (hpresents : t.Presents presented)
    (hacts : Acts t.caller c t.request action)
    (hdone : Ends (Credential.perform s t.now action) ⟨c, n⟩ (.ok answer) d') :
    ∃ a, Proof s t presented c a := by
  obtain ⟨hanonymous, ⟨kind, oobCode, typed, hrequest⟩ | ⟨kind, oobCode, typed, hrequest⟩⟩ :=
    hpresents
  · rw [hrequest] at hacts
    cases hacts
    obtain ⟨_, hdone⟩ := Credential.answered hdone
    obtain ⟨_, _, a, proved, ha, hproved, _⟩ := Credential.verify_ok hdone
    have hfound := List.find?_some ha
    simp only [Bool.and_eq_true, decide_eq_true_eq] at hfound
    refine ⟨a, List.mem_of_find?_eq_some ha, kind, oobCode, typed, hfound.1, ?_,
      Or.inl ⟨hrequest, hfound.2⟩⟩
    split at hproved
    · exact (Authenticator.consumeRecoveryCode_ok hproved oobCode).1
    · exact (Authenticator.provePossession_ok hproved).1
  · rw [hrequest] at hacts
    cases hacts
    obtain ⟨_, hdone⟩ := Credential.answered hdone
    obtain ⟨_, _, _, a, proved, ha, hproved, _⟩ := Credential.confirm_ok hdone
    have hfound := List.find?_some ha
    simp only [Bool.and_eq_true, decide_eq_true_eq, Bool.not_eq_true'] at hfound
    exact ⟨a, List.mem_of_find?_eq_some ha, kind, oobCode, typed, hfound.1,
      (Authenticator.provePossession_ok hproved).1, Or.inr ⟨hrequest, hfound.2⟩⟩

/-- A turn that presents a token and has tokens issued worked on the credential of the user they are
for. -/
theorem done_of_presented {presented : String} {user : UserId} {member : Member}
    {refusal : Option Fault} (ht : t.Comes s k kept) (hpresents : t.Presents presented)
    (honce : t.AdmitsOnce user member refusal) :
    ∃ c action answer n d', kept t.before.outside user = some c ∧ Acts t.caller c t.request action ∧
      Ends (Credential.perform s t.now action) ⟨c, n⟩ (.ok answer) d' := by
  obtain ⟨earlier, hasked, _⟩ := honce
  unfold Turn.Comes at ht
  generalize hrequest : t.request = request at ht ⊢
  generalize hreply : t.reply = reply at ht
  cases ht with
  | idle hquiet =>
    exact absurd (harmless_of_quiet hquiet ⟨.issueTokens member, refusal⟩ (by simp [hasked])) id
  | admits => rcases hpresents.2 with ⟨_, _, _, h⟩ | ⟨_, _, _, h⟩ <;> cases hrequest.symm.trans h
  | pays => rcases hpresents.2 with ⟨_, _, _, h⟩ | ⟨_, _, _, h⟩ <;> cases hrequest.symm.trans h
  | @stores _ action answer c c' n n' w₁ w₂ _ loaded acts done hquiet hstored rest =>
    obtain ⟨_, before, more, hstores, hbefore, hmore⟩ := rests_of_stored hquiet hstored rest
    rw [List.append_cons] at hstores
    rcases hmore with hmore | ⟨_, member', refusal', rfl⟩
    · have hissue : ⟨.issueTokens member, refusal⟩ ∈ (before ++ [⟨.save c', none⟩]) ++ more := by
        rw [← hstores, hasked]
        simp
      rcases List.mem_append.1 hissue with hissue | hissue
      · rcases List.mem_append.1 hissue with hissue | hissue
        · exact absurd (hbefore _ hissue) id
        · simp at hissue
      · exact absurd (hmore _ hissue) id
    · have hlast := List.append_inj_right' (hasked.symm.trans hstores) rfl
      obtain rfl : user = c.userId :=
        Question.getMember.inj (congrArg Exchange.question (List.cons.inj hlast).1)
      exact ⟨c, action, answer, n, _, loaded, acts, done⟩

/-- There is one token that a turn presents. -/
theorem presented_unique {presented presented' : String} (h : t.Presents presented)
    (h' : t.Presents presented') : presented = presented' := by
  rcases h.2 with ⟨_, _, _, h⟩ | ⟨_, _, _, h⟩ <;> rcases h'.2 with ⟨_, _, _, h'⟩ | ⟨_, _, _, h'⟩ <;>
    cases h.symm.trans h' <;> rfl

/-- Whenever someone presents a sign-in token and tokens are issued to its user, they prove to hold
an authenticator that was there when the sign-in token was handed out, or was added since, by the
user or by someone who presents it as well. One that is verified was active by then, or the user
confirmed it since, recovery codes apart. -/
theorem possession_proved (hk : Keeps k kept)
    (hnone : ∀ user c, kept w.outside user = some c → c.mfa.tokenHash = none)
    (calls : List Call) (i : Nat) (t : Turn ω) (presented : String) (member : Member)
    (refusal : Option Fault) (ht : (turns s k w calls)[i]? = some t)
    (hpresents : t.Presents presented) (hissue : ⟨.issueTokens member, refusal⟩ ∈ t.asked) :
    ∃ p user c a, Pays s k kept (turns s k w calls) p i user ∧ kept t.before.outside user = some c ∧
      Proof s t presented c a ∧
      Origin kept (turns s k w calls) p i user (Token.hash presented) a.factor ∧
      (a.isActive = true → a.kind ≠ .recoveryCodes →
        Activated kept (turns s k w calls) p i user a.factor) := by
  have hcomes := comes_of_getElem? hk ht
  obtain ⟨user, honce, ⟨_, _, _, hrequest, _⟩ | ⟨p, hpays⟩⟩ :=
    admitted_of_getElem? hk hnone ht hissue
  · rcases hpresents.2 with ⟨_, _, _, h⟩ | ⟨_, _, _, h⟩ <;> cases hrequest.symm.trans h
  obtain ⟨c, action, answer, n, d', hc, hacts, hdone⟩ := done_of_presented hcomes hpresents honce
  obtain ⟨a, hproof⟩ := proof_of_done hpresents hacts hdone
  obtain ⟨hp, ⟨paying, t', token, presented', expiry, hpaying, ht', hhanded, hpresents', hhash, _,
      _⟩, hunsettled⟩ :=
    id hpays
  obtain rfl := Option.some.inj (ht.symm.trans ht')
  obtain rfl := presented_unique hpresents hpresents'
  obtain ⟨m, rfl⟩ := Nat.exists_eq_add_of_le (Nat.succ_le_of_lt hp)
  obtain ⟨c', hc', hwaits⟩ := waits_of_pays hk hpaying hhanded hunsettled m (Nat.le_refl _) t ht
  obtain rfl := Option.some.inj (hc.symm.trans hc')
  rw [hhash]
  exact ⟨p, user, c, a, hpays, hc, hproof, hwaits.origin a hproof.mem,
    hwaits.activated a hproof.mem⟩

theorem possession_proved_sampleCalls :
    ∃ t, (sampleTurns sampleCalls)[1]? = some t ∧ t.Presents "mfatoken1" ∧
      ⟨.issueTokens ⟨⟨⟨1#128⟩⟩, .person, []⟩, none⟩ ∈ t.asked ∧
      ∃ p user c a, Pays Script.sample.services Archive.collaborators Archive.latest
          (sampleTurns sampleCalls) p 1 user ∧
        Archive.latest t.before.outside user = some c ∧
          Proof Script.sample.services t "mfatoken1" c a ∧
        Origin Archive.latest (sampleTurns sampleCalls) p 1 user (Token.hash "mfatoken1") a.factor ∧
        (a.isActive = true → a.kind ≠ .recoveryCodes →
          Activated Archive.latest (sampleTurns sampleCalls) p 1 user a.factor) :=
  ⟨_, rfl, ⟨rfl, Or.inl ⟨_, _, _, rfl⟩⟩, by decide +kernel,
    possession_proved Archive.keeps tokenHash_sample sampleCalls 1 _ _
      ⟨⟨⟨1#128⟩⟩, .person, []⟩ none rfl ⟨rfl, Or.inl ⟨_, _, _, rfl⟩⟩ (by decide +kernel)⟩

theorem eq_ok_of_toOption {ε α : Type} {x : Except ε α} {a : α} (h : x.toOption = some a) :
    x = .ok a := by
  cases x with
  | error e => cases h
  | ok b => rw [Option.some.inj h]

/-- Someone who knows the password adds a number of their own in the middle of the sign-in, and
confirms it. -/
def intruderCalls : List Call :=
  [⟨⟨10, 0⟩, .anonymous "call", .authenticate "ann@example.com" "password"⟩,
    ⟨⟨20, 0⟩, .anonymous "call", .associate (some "mfatoken1") .oobSms (some "+6498765432")⟩,
    ⟨⟨30, 0⟩, .anonymous "call", .confirm (some "mfatoken1") .oobSms
      (some "oobcode1") "oobsecret1"⟩]

/-- An authenticator that is active does not keep whoever knows the password from signing in by one
of their own: it was not there when the sign-in token was handed out, and nobody has signed in
since. -/
theorem added_factor_ends_sign_in :
    ∃ paying t, (sampleTurns intruderCalls)[0]? = some paying ∧
      (sampleTurns intruderCalls)[2]? = some t ∧ paying.reply = .ok
      (.outcome (.mfaRequired "mfatoken1")) ∧
      (∃ c, Archive.latest paying.after.outside ⟨⟨1#128⟩⟩ = some c ∧
        (∃ a ∈ c.authenticators, a.isActive = true ∧ a.kind ≠ .recoveryCodes) ∧
        ∀ c' a', Proof Script.sample.services t "mfatoken1" c' a' →
          ∀ a ∈ c.authenticators, a.factor ≠ a'.factor) ∧
      t.Presents "mfatoken1" ∧ ⟨.issueTokens ⟨⟨⟨1#128⟩⟩, .person, []⟩, none⟩ ∈ t.asked ∧
      ∀ call ∈ intruderCalls, call.caller.userId = none := by
  refine ⟨_, _, rfl, rfl, eq_ok_of_toOption (by decide +kernel), ?_, ⟨rfl, Or.inr ⟨_, _, _, rfl⟩⟩,
    by decide +kernel, by decide +kernel⟩
  refine ⟨_, (Option.some_get (by decide +kernel)).symm, by decide +kernel, ?_⟩
  intro c' a' hproof a ha
  have hother : a.kind ≠ .oobSms := by
    revert a
    decide +kernel
  intro hsame
  obtain ⟨kind, oobCode, typed, hkind, _, ⟨hrequest, _⟩ | ⟨hrequest, _⟩⟩ := hproof.proves
  · cases hrequest
  · cases hrequest
    exact hother ((Authenticator.kind_eq_of_factor hsame).trans hkind)

end TenantAuth.SignIn
