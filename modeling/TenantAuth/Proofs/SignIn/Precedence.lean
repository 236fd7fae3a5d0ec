import TenantAuth.Proofs.Credential.Messages
import TenantAuth.Proofs.Credential.WellFormed
import TenantAuth.Proofs.SignIn.Asking
import TenantAuth.Proofs.SignIn.Archive
import TenantAuth.Proofs.SignIn.Turns

/-!
Storing comes before telling.

A request first looks things up. Then it stores the credential that came of them, once, and only
when that is stored it sends messages about it and has tokens issued. Whoever refuses to answer ends
the request with that very refusal, so what is left undone can be read off from where the questions
end. Only someone who signs in with nothing but a password gets tokens without anything being
stored.

The questions in order are a grammar, and each operation follows it step by step.
-/

namespace TenantAuth

/-- An authenticator of a credential has a challenge outstanding at the contact of a message, which
is answered by the secret of the message and by nothing else. -/
def Credential.Awaits (s : Services) (c : Credential) (message : Notification) : Prop :=
  ∃ a ∈ c.authenticators, ∃ code stored, a.material = .outOfBand message.contact
    (some ⟨code, stored⟩) ∧ (∃ use, s.encrypt use message.secret = .ok stored) ∧
    ∀ use text, s.decrypt use stored = .ok text → text = message.secret

/-- Whoever is sent the secret of a challenge is awaited to answer it. -/
theorem Credential.awaits_of_sent {s : Services} (hundo : s.Undoes) {c : Credential}
    {a : Authenticator} {message : Notification} (ha : a ∈ c.authenticators)
    (hsent : a.IsSent s message) : c.Awaits s message := by
  obtain ⟨code, stored, use, hmade, hstored⟩ := hsent
  exact ⟨a, ha, code, stored, hmade, ⟨use, hstored⟩, fun use' text => hundo use use' _ _
    text hstored⟩

namespace SignIn

variable {ω κ α β : Type}

/-- What is kept changes only where a credential is stored; a refusal to store it changes
nothing. -/
structure ChangesByStoring (k : Collaborators ω) (content : ω → κ) : Prop where
  findByUser : ∀ user outside, content (k.findByUser user outside).2 = content outside
  findByToken : ∀ token outside, content (k.findByToken token outside).2 = content outside
  findByUsername : ∀ username outside, content (k.findByUsername username outside).2 =
    content outside
  unsaved : ∀ c outside fault, (k.save c outside).1 = .error fault →
    content (k.save c outside).2 = content outside
  getUser : ∀ caller user outside, content (k.getUser caller user outside).2 = content outside
  getMember : ∀ caller user outside, content (k.getMember caller user outside).2 = content outside
  getProfile : ∀ caller user outside, content (k.getProfile caller user outside).2 = content outside
  notify : ∀ caller message outside, content (k.notify caller message outside).2 = content outside
  issueTokens : ∀ caller member outside, content (k.issueTokens caller member outside).2 =
    content outside
  registerMachine : ∀ caller name timezone country outside,
    content (k.registerMachine caller name timezone country outside).2 = content outside
  createApiKey : ∀ caller user description expiresOn outside,
    content (k.createApiKey caller user description expiresOn outside).2 = content outside

/-! ### Questions in order -/

/-- A question by which nothing is stored, nobody is told anything, and nobody is let in. -/
def Question.LooksUp : Question → Prop
  | .save _ => False
  | .notify _ => False
  | .getMember _ => False
  | .issueTokens _ => False
  | _ => True

/-- A question that may be asked once a credential is stored. -/
inductive Question.Tells (s : Services) (c : Credential) : Question → Prop
  | notify {message : Notification} (awaited : c.Awaits s message) : Tells s c (.notify message)
  | getMember {user : UserId} : Tells s c (.getMember user)
  | issueTokens {member : Member} : Tells s c (.issueTokens member)

/-- A question by which someone is let in. -/
inductive Question.Admits : Question → Prop
  | getMember {user : UserId} : Admits (.getMember user)
  | issueTokens {member : Member} : Admits (.issueTokens member)

/-- The credential that is to be stored. -/
def Question.credential? : Question → Option Credential
  | .save c => some c
  | _ => none

/-- Questions that follow the storing of a credential. Only a refusal ends them early, and they end
with it. -/
inductive Sequel (s : Services) (c : Credential) : List Exchange → Option Fault → Prop
  | done : Sequel s c [] none
  | answered {question : Question} {rest : List Exchange} {fault? : Option Fault}
      (tells : question.Tells s c) (sequel : Sequel s c rest fault?) :
      Sequel s c (⟨question, none⟩ :: rest) fault?
  | refused {question : Question} {fault : Fault} (tells : question.Tells s c) :
      Sequel s c [⟨question, some fault⟩] (some fault)

/-- Questions in order, with the fault in which they end. Looking things up may end in a fault that
nobody answered; if it is for signing in, tokens may be issued then, and otherwise only after a
credential is stored. -/
inductive Orderly (s : Services) (signsIn : Prop) : List Exchange → Option Fault → Prop
  | done {fault? : Option Fault} : Orderly s signsIn [] fault?
  | lookedUp {question : Question} {rest : List Exchange} {fault? : Option Fault}
      (looksUp : question.LooksUp) (orderly : Orderly s signsIn rest fault?) :
      Orderly s signsIn (⟨question, none⟩ :: rest) fault?
  | refused {question : Question} {fault : Fault} (looksUp : question.LooksUp) :
      Orderly s signsIn [⟨question, some fault⟩] (some fault)
  | unsaved {c : Credential} {fault : Fault} :
      Orderly s signsIn [⟨.save c, some fault⟩] (some fault)
  | saved {c : Credential} {rest : List Exchange} {fault? : Option Fault}
      (sequel : Sequel s c rest fault?) : Orderly s signsIn (⟨.save c, none⟩ :: rest) fault?
  | unknown {user : UserId} {fault : Fault} (signing : signsIn) :
      Orderly s signsIn [⟨.getMember user, some fault⟩] (some fault)
  | admitted {user : UserId} {member : Member} {fault? : Option Fault} (signing : signsIn) :
      Orderly s signsIn [⟨.getMember user, none⟩, ⟨.issueTokens member, fault?⟩] fault?

/-! ### Steps in order -/

/-- The questions that steps ask are as the rules have it, by how the steps end. What is kept
changes only if a credential was stored. -/
def Follows (content : ω → κ) (rules : List Exchange → Option Fault → Prop)
    (m : SignInM ω α) : Prop :=
  ∀ ⦃w r w'⦄, Ends m w r w' → ∃ more, w'.journal = w.journal ++ more ∧ rules more (refusal? r) ∧
    (content w'.outside = content w.outside ∨ ∃ c, ⟨.save c, none⟩ ∈ more)

variable {s : Services} {k : Collaborators ω} {content : ω → κ} {now : Instant} {caller : Caller}
  {signsIn : Prop}

@[simp] theorem refusal?_map (f : α → β) (r : Except Fault α) :
    refusal? (r.map f) = refusal? r := by
  cases r <;> rfl

/-- What is made of an answer does not matter to the rules. -/
theorem Follows.map {rules : List Exchange → Option Fault → Prop} {m : SignInM ω α}
    (hm : Follows content rules m) (f : α → β) :
    Follows content rules (m >>= fun a => pure (f a)) := by
  intro w r w' h
  obtain ⟨r₁, hfirst, rfl⟩ := Ends.bind_pure_iff.1 h
  rw [refusal?_map]
  exact hm hfirst

/-- A question that changes nothing is the first of those that are asked, and the last if it is
refused. -/
theorem Follows.ask {rules rules' : List Exchange → Option Fault → Prop} {question : Question}
    {answer : ω → Except Fault α × ω} {next : α → SignInM ω β}
    (hcontent : ∀ outside, content (answer outside).2 = content outside)
    (hrefused : ∀ fault, rules [⟨question, some fault⟩] (some fault))
    (hanswered : ∀ {more fault?}, rules' more fault? → rules (⟨question, none⟩ :: more) fault?)
    (hnext : ∀ a, Follows content rules' (next a)) :
    Follows content rules (ask question answer >>= next) := by
  intro w r w' h
  rcases Ends.bind_iff.1 h with ⟨a, w₁, hask, hrest⟩ | ⟨fault, hask, rfl⟩
  · obtain ⟨_, rfl⟩ := ask_iff.1 hask
    obtain ⟨more, hjournal, hmore, hsame⟩ := hnext a hrest
    refine ⟨_, hjournal.trans (List.append_assoc _ _ _), hanswered hmore, ?_⟩
    rcases hsame with hsame | ⟨c, hc⟩
    · exact Or.inl (hsame.trans (hcontent _))
    · exact Or.inr ⟨c, List.mem_cons_of_mem _ hc⟩
  · obtain ⟨_, rfl⟩ := ask_iff.1 hask
    exact ⟨_, rfl, hrefused fault, Or.inl (hcontent _)⟩

/-- Steps in order, as the operations on credentials are. -/
abbrev Careful (s : Services) (content : ω → κ) (signsIn : Prop) (m : SignInM ω α) : Prop :=
  Follows content (Orderly s signsIn) m

/-- Nobody is asked anything. -/
abbrev Silent (w w' : World ω) : Prop := w'.outside = w.outside ∧ w'.journal = w.journal

instance : Std.Refl (Silent (ω := ω)) := ⟨fun _ => ⟨rfl, rfl⟩⟩

namespace Careful

/-- Silent steps may stand alone, whatever they come to. -/
theorem of_silent {m : SignInM ω α} (hm : Moves Silent m) : Careful s content signsIn m := by
  intro w r w' h
  obtain ⟨houtside, hjournal⟩ := hm _ _ _ h
  exact ⟨[], hjournal.trans (List.append_nil _).symm, .done, Or.inl (congrArg content houtside)⟩

/-- Silent steps may come first. -/
theorem silent {m : SignInM ω α} {next : α → SignInM ω β} (hm : Moves Silent m)
    (hnext : ∀ a, Careful s content signsIn (next a)) : Careful s content signsIn (m >>= next) := by
  intro w r w' h
  rcases Ends.bind_iff.1 h with ⟨a, w₁, hfirst, hrest⟩ | ⟨fault, hfirst, rfl⟩
  · obtain ⟨houtside, hjournal⟩ := hm _ _ _ hfirst
    obtain ⟨more, hmore⟩ := hnext a hrest
    rw [houtside, hjournal] at hmore
    exact ⟨more, hmore⟩
  · exact of_silent hm hfirst

/-- What is looked up comes before all else. -/
theorem lookUp {question : Question} {answer : ω → Except Fault α × ω} {next : α → SignInM ω β}
    (hquestion : question.LooksUp)
    (hcontent : ∀ outside, content (answer outside).2 = content outside)
    (hnext : ∀ a, Careful s content signsIn (next a)) :
    Careful s content signsIn (ask question answer >>= next) :=
  Follows.ask hcontent (fun _ => .refused hquestion) (.lookedUp hquestion) hnext

/-- Working on a credential is silent, and what comes of it is known to what follows. -/
theorem work {c : Credential} {operation : CredentialM α} {next : α × Credential → SignInM ω β}
    (hnext : ∀ a n c' n',
      Ends operation ⟨c, n⟩ (.ok a) ⟨c', n'⟩ → Careful s content signsIn (next (a, c'))) :
    Careful s content signsIn (SignIn.work c operation >>= next) := by
  intro w r w' h
  rcases Ends.bind_iff.1 h with ⟨⟨a, c'⟩, w₁, hwork, hrest⟩ | ⟨fault, hwork, rfl⟩
  · obtain ⟨n', hdone, rfl⟩ := work_ok_iff.1 hwork
    obtain ⟨more, hmore⟩ := hnext _ _ _ _ hdone hrest
    exact ⟨more, hmore⟩
  · obtain ⟨_, _, _, _, rfl⟩ := work_iff.1 hwork
    exact ⟨[], (List.append_nil _).symm, .done, Or.inl rfl⟩

end Careful

/-- Once a credential is stored, questions may follow. -/
abbrev Telling (s : Services) (content : ω → κ) (c : Credential) (m : SignInM ω α) : Prop :=
  Follows content (Sequel s c) m

theorem telling_pure {c : Credential} (a : α) : Telling s content c (pure a : SignInM ω α) := by
  intro w r w' h
  obtain ⟨rfl, rfl⟩ := Ends.pure_iff.1 h
  exact ⟨[], (List.append_nil _).symm, .done, Or.inl rfl⟩

theorem telling_ask {c : Credential} {question : Question} {answer : ω → Except Fault α × ω}
    {next : α → SignInM ω β} (hquestion : question.Tells s c)
    (hcontent : ∀ outside, content (answer outside).2 = content outside)
    (hnext : ∀ a, Telling s content c (next a)) :
    Telling s content c (ask question answer >>= next) :=
  Follows.ask hcontent (fun _ => .refused hquestion) (.answered hquestion) hnext

section Keeping

variable (hk : ChangesByStoring k content)
include hk

/-- Storing is followed by what may be told of what is stored. -/
theorem careful_save {c : Credential} {next : Credential → SignInM ω β}
    (hnext : ∀ saved, Telling s content c (next saved)) :
    Careful s content signsIn (save k c >>= next) := by
  intro w r w' h
  rcases Ends.bind_iff.1 h with ⟨saved, w₁, hsave, hrest⟩ | ⟨fault, hsave, rfl⟩
  · obtain ⟨_, rfl⟩ := ask_iff.1 hsave
    obtain ⟨more, hjournal, hmore, _⟩ := hnext saved hrest
    exact ⟨_, hjournal.trans (List.append_assoc _ _ _), .saved hmore,
      Or.inr ⟨c, List.mem_cons_self⟩⟩
  · obtain ⟨hrefused, rfl⟩ := ask_iff.1 hsave
    exact ⟨_, rfl, .unsaved, Or.inl (hk.unsaved _ _ _ hrefused.symm)⟩

theorem telling_send {c : Credential} {messages : List Notification}
    (hmessages : ∀ message ∈ messages, c.Awaits s message) :
    Telling s content c (send k caller messages) := by
  induction messages with
  | nil => exact telling_pure ()
  | cons message rest ih =>
    exact telling_ask (.notify (hmessages message List.mem_cons_self)) (hk.notify caller message)
      fun _ => ih fun other hother => hmessages other (List.mem_cons_of_mem _ hother)

theorem telling_issueTokens {c : Credential} (user : UserId) :
    Telling s content c (issueTokens k caller user) :=
  telling_ask .getMember (hk.getMember caller user) fun member =>
    telling_ask .issueTokens (hk.issueTokens caller member) fun _ => telling_pure _

/-- Whoever signs in may get tokens without anything being stored. -/
theorem careful_issueTokens (hsigns : signsIn) (user : UserId) :
    Careful s content signsIn (issueTokens k caller user) := by
  intro w r w' h
  rcases Ends.bind_iff.1 h with ⟨member, w₁, hmember, hrest⟩ | ⟨fault, hmember, rfl⟩
  · obtain ⟨r₁, hissue, rfl⟩ := Ends.bind_pure_iff.1 hrest
    obtain ⟨_, rfl⟩ := ask_iff.1 hmember
    obtain ⟨_, rfl⟩ := ask_iff.1 hissue
    rw [refusal?_map]
    exact ⟨_, List.append_assoc _ _ _, .admitted hsigns,
      Or.inl ((hk.issueTokens caller member _).trans (hk.getMember caller user _))⟩
  · obtain ⟨_, rfl⟩ := ask_iff.1 hmember
    exact ⟨_, rfl, .unknown hsigns, Or.inl (hk.getMember caller user _)⟩

/-! ### Operation by operation -/

theorem careful_ensurePerson {user : UserId} {next : Unit → SignInM ω β}
    (hnext : ∀ u, Careful s content signsIn (next u)) :
    Careful s content signsIn (ensurePerson k caller user >>= next) := by
  rw [ensurePerson, bind_assoc]
  exact Careful.lookUp trivial (hk.getUser caller user) fun _ => .silent (moves_ensure _ _) hnext

theorem careful_findByUser {user : UserId} {next : Credential → SignInM ω β}
    (hnext : ∀ c, Careful s content signsIn (next c)) :
    Careful s content signsIn (findByUser k user >>= next) := by
  rw [findByUser, bind_assoc]
  exact Careful.lookUp trivial (hk.findByUser user) fun _ => .silent (moves_demand _ _) hnext

theorem careful_findByToken {token : Option String} {next : Credential × MfaCaller → SignInM ω β}
    (hnext : ∀ found, Careful s content signsIn (next found)) :
    Careful s content signsIn (findByToken k token >>= next) := by
  simp only [findByToken, bind_assoc, pure_bind]
  exact Careful.silent (moves_demand _ _) fun text => .lookUp trivial (hk.findByToken text) fun _ =>
    .silent (moves_demand _ _) fun _ => hnext _

theorem careful_resolve {token : Option String} {next : Credential × MfaCaller → SignInM ω β}
    (hnext : ∀ found, Careful s content signsIn (next found)) :
    Careful s content signsIn (resolve k caller token >>= next) := by
  unfold resolve
  split
  · rw [bind_assoc]
    refine careful_findByUser hk fun c => ?_
    rw [pure_bind]
    exact hnext _
  · exact careful_findByToken hk hnext

theorem careful_authenticate (hsigns : signsIn) {username password : String} :
    Careful s content signsIn (authenticate s k now caller username password) := by
  refine Careful.lookUp trivial (hk.findByUsername username) fun _ =>
    .silent (moves_demand _ _) fun c => ?_
  refine careful_ensurePerson hk fun _ => .work fun isRight _ c' _ _ => ?_
  refine .silent (moves_ensure _ _) fun _ => .silent (moves_ensure _ _) fun _ => ?_
  split
  · exact .work fun token _ c' _ _ => careful_save hk fun _ => telling_pure _
  · exact (careful_issueTokens hk hsigns _).map _

theorem careful_changeMfa {isEnabled : Bool} :
    Careful s content signsIn (changeMfa k caller isEnabled) :=
  Careful.silent (moves_demand _ _) fun _ => careful_findByUser hk fun _ =>
    careful_ensurePerson hk fun _ =>
    .work fun _ _ _ _ _ => careful_save hk fun _ => telling_pure _

theorem careful_resetMfa {user : UserId} : Careful s content signsIn (resetMfa k caller user) :=
  careful_findByUser hk fun _ => careful_ensurePerson hk fun _ =>
    .work fun _ _ _ _ _ => careful_save hk fun _ => telling_pure _

theorem careful_listAuthenticators {token : Option String} :
    Careful s content signsIn (listAuthenticators k now caller token) :=
  careful_resolve hk fun ⟨_, _⟩ => .work fun _ _ _ _ _ => .of_silent (moves_pure _)

theorem careful_associate (hundo : s.Undoes) {token phone : Option String}
    {kind : AuthenticatorKind} :
    Careful s content signsIn (associate s k now caller token kind phone) := by
  refine careful_resolve hk fun ⟨c, speaker⟩ => careful_ensurePerson hk fun _ => ?_
  refine .lookUp trivial (hk.getProfile caller c.userId) fun profile =>
    .silent (moves_liftExcept _) fun number => ?_
  refine .work fun association n c' n' hdone => careful_save hk fun _ => (telling_send hk ?_).map _
  obtain ⟨_, _, _, _, _, _, _, _, _, _, hc'⟩ := Credential.associate_ok hdone
  have hadded : association.authenticator ∈ c'.authenticators := by
    rw [show c' = _ from hc']
    exact List.mem_append_right _ List.mem_cons_self
  exact fun message hmessage =>
    Credential.awaits_of_sent hundo hadded (Credential.sent_of_associate hdone message hmessage)

theorem careful_confirm {token oobCode : Option String} {kind : AuthenticatorKind}
    {typed : String} :
    Careful s content signsIn (confirm s k now caller token kind oobCode typed) := by
  refine careful_resolve hk fun ⟨c, speaker⟩ => careful_ensurePerson hk fun _ => ?_
  refine .work fun _ n c' n' _ => careful_save hk fun saved => ?_
  split
  · exact (telling_issueTokens hk _).map _
  · exact telling_pure _

theorem careful_challenge (hundo : s.Undoes) {token : Option String} {id : AuthenticatorId} :
    Careful s content signsIn (challenge s k now caller token id) := by
  refine careful_resolve hk fun ⟨c, speaker⟩ => careful_ensurePerson hk fun _ => ?_
  refine .work fun outcome n c' n' hdone => careful_save hk fun _ => (telling_send hk ?_).map _
  obtain ⟨_, _, a, challenged, sent, ha, _, hrechallenge, rfl, hc'⟩ := Credential.challenge_ok hdone
  have hthere : challenged ∈ c'.authenticators := by
    rw [show c' = _ from hc']
    exact mem_replaceFirst_of_find? ha
  obtain ⟨_, _, hsent⟩ := Authenticator.sent_of_rechallenge hrechallenge
  exact fun message hmessage => Credential.awaits_of_sent hundo hthere (hsent message hmessage)

theorem careful_verify {token oobCode : Option String} {kind : AuthenticatorKind} {typed : String} :
    Careful s content signsIn (verify s k now caller token kind oobCode typed) :=
  Careful.silent (moves_ensure _ _) fun _ => careful_findByToken hk fun ⟨_, _⟩ =>
    careful_ensurePerson hk fun _ =>
    .work fun _ _ _ _ _ => careful_save hk fun _ => telling_issueTokens hk _

theorem careful_disassociate {id : AuthenticatorId} :
    Careful s content signsIn (disassociate k now caller id) :=
  Careful.silent (moves_demand _ _) fun _ => careful_findByUser hk fun _ =>
    careful_ensurePerson hk fun _ =>
    .work fun _ _ _ _ _ => careful_save hk fun _ => telling_pure _

theorem careful_registerMachine {name : String} {timezone country : Option String}
    {expiresOn : Option Instant} :
    Careful s content signsIn (registerMachine k caller name timezone country expiresOn) :=
  Careful.lookUp trivial (hk.registerMachine caller name timezone country) fun _ =>
    .lookUp trivial (hk.createApiKey caller _ name expiresOn) fun _ => .of_silent (moves_pure _)

/-- A request to sign in with a password. -/
def Request.SignsIn (request : Request) : Prop :=
    ∃ username password, request = .authenticate username password

/-- Every request is handled in order. -/
theorem careful_handle (hundo : s.Undoes) (request : Request) :
    Careful s content request.SignsIn (handle s k now caller request) := by
  cases request with
  | authenticate username password =>
    exact (careful_authenticate hk ⟨username, password, rfl⟩).map _
  | changeMfa => exact (careful_changeMfa hk).map _
  | resetMfa => exact (careful_resetMfa hk).map _
  | list => exact (careful_listAuthenticators hk).map _
  | associate => exact (careful_associate hk hundo).map _
  | confirm => exact (careful_confirm hk).map _
  | challenge => exact (careful_challenge hk hundo).map _
  | verify => exact (careful_verify hk).map _
  | disassociate => exact (careful_disassociate hk).map _
  | registerMachine => exact (careful_registerMachine hk).map _

end Keeping

/-! ### What the order comes to -/

section Order

variable {c : Credential} {asked rest : List Exchange} {e : Exchange} {question : Question}
  {fault : Fault} {fault? : Option Fault}

theorem Question.Tells.credential?_eq (h : question.Tells s c) : question.credential? = none := by
  cases h <;> rfl

theorem Question.LooksUp.credential?_eq (h : question.LooksUp) : question.credential? = none := by
  cases question <;> first | rfl | exact h.elim

/-- Whatever follows the storing of a credential may be told of it. -/
theorem Sequel.tells (h : Sequel s c rest fault?) (he : e ∈ rest) : e.question.Tells s c := by
  induction h with
  | done => cases he
  | answered tells _ ih => exact (List.mem_cons.1 he).elim (fun heq => heq ▸ tells) ih
  | refused tells => exact List.mem_singleton.1 he ▸ tells

theorem Sequel.fault_eq (h : Sequel s c rest fault?) (he : ⟨question, some fault⟩ ∈ rest) :
    fault? = some fault := by
  induction h with
  | done => cases he
  | answered _ _ ih => exact ih ((List.mem_cons.1 he).resolve_left nofun)
  | refused _ => cases List.mem_singleton.1 he; rfl

/-- A fault that ends what follows the storing is the refusal of the last question. -/
theorem Sequel.last (h : Sequel s c rest (some fault)) :
    ∃ question, question.Tells s c ∧ rest.getLast? = some ⟨question, some fault⟩ := by
  generalize hfault : some fault = fault? at h
  induction h with
  | done => cases hfault
  | answered _ _ ih =>
    obtain ⟨question, htells, hlast⟩ := ih hfault
    exact ⟨question, htells, by rw [List.getLast?_cons, hlast]; rfl⟩
  | refused tells =>
    cases hfault
    exact ⟨_, tells, rfl⟩

namespace Orderly

/-- At most one credential is to be stored. -/
theorem once (h : Orderly s signsIn asked fault?) :
    (asked.filterMap fun e => e.question.credential?).length ≤ 1 := by
  induction h with
  | lookedUp looksUp _ ih => simpa [List.filterMap_cons, looksUp.credential?_eq] using ih
  | refused looksUp => simp [looksUp.credential?_eq]
  | @saved c rest _ sequel =>
    have hnone : rest.filterMap (fun e => e.question.credential?) = [] :=
      List.filterMap_eq_nil_iff.2 fun e he => (sequel.tells he).credential?_eq
    change (c :: rest.filterMap fun e => e.question.credential?).length ≤ 1
    rw [hnone]
    exact Nat.le_refl 1
  | _ => simp [Question.credential?]

/-- Whatever is neither looked up nor stored comes after a credential that is stored, unless it is
for signing in. -/
theorem precedes (h : Orderly s signsIn asked fault?) {earlier later : List Exchange}
    (hasked : asked = earlier ++ e :: later) :
    e.question.LooksUp ∨ (∃ c, e.question = .save c) ∨
      (∃ c, ⟨.save c, none⟩ ∈ earlier ∧ e.question.Tells s c) ∨ signsIn ∧ e.question.Admits := by
  have he : e ∈ asked := hasked ▸ List.mem_append_right _ List.mem_cons_self
  induction h generalizing earlier with
  | done => cases he
  | lookedUp looksUp _ ih =>
    cases earlier with
    | nil => exact Or.inl ((List.cons.inj hasked).1 ▸ looksUp)
    | cons first earlier =>
      have hrest := (List.cons.inj hasked).2
      have he : e ∈ earlier ++ e :: later := List.mem_append_right _ List.mem_cons_self
      rcases ih hrest (hrest ▸ he) with hlook | hsave | ⟨c, hc, htells⟩ | hsigns
      · exact Or.inl hlook
      · exact Or.inr (Or.inl hsave)
      · exact Or.inr (Or.inr (Or.inl ⟨c, List.mem_cons_of_mem _ hc, htells⟩))
      · exact Or.inr (Or.inr (Or.inr hsigns))
  | refused looksUp => exact Or.inl (List.mem_singleton.1 he ▸ looksUp)
  | unsaved => exact Or.inr (Or.inl ⟨_, congrArg Exchange.question (List.mem_singleton.1 he)⟩)
  | saved sequel =>
    cases earlier with
    | nil => exact Or.inr (Or.inl ⟨_, congrArg Exchange.question (List.cons.inj hasked).1.symm⟩)
    | cons first earlier =>
      obtain ⟨rfl, hrest⟩ := List.cons.inj hasked
      exact Or.inr (Or.inr (Or.inl ⟨_, List.mem_cons_self,
        sequel.tells (hrest ▸ List.mem_append_right _ List.mem_cons_self)⟩))
  | unknown signing =>
    cases List.mem_singleton.1 he
    exact Or.inr (Or.inr (Or.inr ⟨signing, .getMember⟩))
  | admitted signing =>
    rcases List.mem_cons.1 he with rfl | he
    · exact Or.inr (Or.inr (Or.inr ⟨signing, .getMember⟩))
    · cases List.mem_singleton.1 he
      exact Or.inr (Or.inr (Or.inr ⟨signing, .issueTokens⟩))

/-- Tokens that are issued in a request that fails are issued after a credential is stored. -/
theorem saved_of_issued (h : Orderly s signsIn asked (some fault)) {member : Member}
    (he : ⟨.issueTokens member, none⟩ ∈ asked) : ∃ c, ⟨.save c, none⟩ ∈ asked := by
  generalize hfault : some fault = fault? at h
  induction h with
  | lookedUp looksUp _ ih =>
    rcases List.mem_cons.1 he with heq | he
    · cases heq
      exact looksUp.elim
    · obtain ⟨c, hc⟩ := ih he hfault
      exact ⟨c, List.mem_cons_of_mem _ hc⟩
  | saved _ => exact ⟨_, List.mem_cons_self⟩
  | admitted _ =>
    subst hfault
    simp at he
  | done => cases he
  | refused _ => cases List.mem_singleton.1 he
  | unsaved => cases List.mem_singleton.1 he
  | unknown _ => cases List.mem_singleton.1 he

/-- Whoever refuses an answer gives the fault in which the request ends. -/
theorem fault_eq (h : Orderly s signsIn asked fault?) (he : ⟨question, some fault⟩ ∈ asked) :
    fault? = some fault := by
  induction h with
  | done => cases he
  | lookedUp _ _ ih => exact ih ((List.mem_cons.1 he).resolve_left nofun)
  | saved sequel => exact sequel.fault_eq ((List.mem_cons.1 he).resolve_left nofun)
  | refused _ => cases List.mem_singleton.1 he; rfl
  | unsaved => cases List.mem_singleton.1 he; rfl
  | unknown _ => cases List.mem_singleton.1 he; rfl
  | admitted _ =>
    cases List.mem_singleton.1 ((List.mem_cons.1 he).resolve_left nofun)
    rfl

/-- A request that fails after a credential is stored fails with the refusal of its last
question. -/
theorem last (h : Orderly s signsIn asked (some fault)) (he : ⟨.save c, none⟩ ∈ asked) :
    ∃ question, question.Tells s c ∧ asked.getLast? = some ⟨question, some fault⟩ := by
  generalize hfault : some fault = fault? at h
  induction h with
  | lookedUp looksUp _ ih =>
    rcases List.mem_cons.1 he with heq | he
    · cases heq
      exact looksUp.elim
    · obtain ⟨question, htells, hlast⟩ := ih he hfault
      exact ⟨question, htells, by rw [List.getLast?_cons, hlast]; rfl⟩
  | saved sequel =>
    subst hfault
    rcases List.mem_cons.1 he with heq | he
    · cases heq
      obtain ⟨question, htells, hlast⟩ := sequel.last
      exact ⟨question, htells, by rw [List.getLast?_cons, hlast]; rfl⟩
    · exact absurd (sequel.tells he).credential?_eq nofun
  | admitted _ => simp at he
  | done => cases he
  | refused _ => cases List.mem_singleton.1 he
  | unsaved => cases List.mem_singleton.1 he
  | unknown _ => cases List.mem_singleton.1 he

end Orderly

end Order

/-- A turn stores before it tells: it stores once; messages are sent, and tokens issued to those who
do not just sign in, after a credential is stored, and the messages carry what that credential
awaits. Whatever the turn fails in, what was left undone is known: all of it if nothing was stored,
and otherwise what the last question met with. Nobody's refusal is passed over. -/
structure Turn.StoresFirst (s : Services) (content : ω → κ) (t : Turn ω) : Prop where
  once : (t.asked.filterMap fun e => e.question.credential?).length ≤ 1
  notified :
    ∀ earlier message refusal later, t.asked = earlier ++ ⟨.notify message, refusal⟩ :: later → ∃ c,
      ⟨.save c, none⟩ ∈ earlier ∧ c.Awaits s message
  admitted : ¬t.request.SignsIn → ∀ earlier e later, t.asked = earlier ++ e :: later →
    e.question.Admits → ∃ c, ⟨.save c, none⟩ ∈ earlier
  unsaved : ∀ fault, t.reply = .error fault → (∀ c, ⟨.save c, none⟩ ∉ t.asked) →
    content t.after.outside = content t.before.outside ∧
      (∀ message refusal, ⟨.notify message, refusal⟩ ∉ t.asked) ∧ ∀ member,
      ⟨.issueTokens member, none⟩ ∉ t.asked
  saved : ∀ fault c, t.reply = .error fault → ⟨.save c, none⟩ ∈ t.asked →
    ∃ question, question.Tells s c ∧ t.asked.getLast? = some ⟨question, some fault⟩
  passed : ∀ question fault, ⟨question, some fault⟩ ∈ t.asked → t.reply = .error fault

/-- A fault is that of a refusal. -/
theorem refusal?_eq_some {r : Except Fault α} {fault : Fault} :
    refusal? r = some fault ↔ r = .error fault := by
  cases r <;> simp [refusal?]

/-- Whatever is requested, and whoever refuses to answer, storing comes before telling. -/
theorem stores_first (hk : ChangesByStoring k content) (hundo : s.Undoes) (w : World ω)
    (call : Call) : (turn s k w call).StoresFirst s content := by
  have hends : Ends (handle s k call.now call.caller call.request) w (turn s k w call).reply
      (turn s k w call).after := rfl
  obtain ⟨more, hjournal, horder, hcontent⟩ := careful_handle hk hundo call.request hends
  have hasked : (turn s k w call).asked = more := asked_eq hjournal
  refine ⟨?_, ?_, ?_, ?_, ?_, ?_⟩ <;> rw [hasked]
  · exact horder.once
  · intro earlier message refusal later hsplit
    rcases horder.precedes hsplit with hlook | ⟨c, hsave⟩ | ⟨c, hc, htells⟩ | ⟨_, hadmits⟩
    · exact hlook.elim
    · cases hsave
    · cases htells with
      | notify awaited => exact ⟨c, hc, awaited⟩
    · cases hadmits
  · rintro hsigns earlier ⟨question, refusal⟩ later hsplit hadmits
    rcases horder.precedes hsplit with hlook | ⟨c, hsave⟩ | ⟨c, hc, _⟩ | ⟨hsigning, _⟩
    · cases hadmits <;> exact hlook.elim
    · cases hadmits <;> cases hsave
    · exact ⟨c, hc⟩
    · exact absurd hsigning hsigns
  · intro fault hreply hunsaved
    have horder' : Orderly s call.request.SignsIn more (some fault) :=
      refusal?_eq_some.2 hreply ▸ horder
    refine ⟨hcontent.resolve_right fun ⟨c, hc⟩ => hunsaved c hc, fun message refusal hsent => ?_,
      fun member hissued => ?_⟩
    · obtain ⟨earlier, later, hsplit⟩ := List.append_of_mem hsent
      rcases horder.precedes hsplit with hlook | ⟨c, hsave⟩ | ⟨c, hc, _⟩ | ⟨_, hadmits⟩
      · exact hlook.elim
      · cases hsave
      · exact hunsaved c (hsplit ▸ List.mem_append_left _ hc)
      · cases hadmits
    · obtain ⟨c, hc⟩ := horder'.saved_of_issued hissued
      exact hunsaved c hc
  · intro fault c hreply hsaved
    exact (refusal?_eq_some.2 hreply ▸ horder : Orderly s call.request.SignsIn more
      (some fault)).last hsaved
  · exact fun question fault hrefused => refusal?_eq_some.1 (horder.fault_eq hrefused)

/-- Collaborators that keep every version of a credential and cannot send messages. -/
def mute : Collaborators (List Credential) :=
  { Archive.collaborators with
    notify := fun _ _ versions => (.error (.unexpected "messages unavailable"), versions) }

/-- Versions are added by storing only. -/
theorem changesByStoring_mute : ChangesByStoring mute id where
  findByUser _ _ := rfl
  findByToken _ _ := rfl
  findByUsername _ _ := rfl
  unsaved := by
    intro c versions fault hrefused
    have hsaved : Except.ok c = .error fault := hrefused
    cases hsaved
  getUser _ _ _ := rfl
  getMember _ _ _ := rfl
  getProfile _ _ _ := rfl
  notify _ _ _ := rfl
  issueTokens _ _ _ := rfl
  registerMachine _ _ _ _ _ := rfl
  createApiKey _ _ _ _ _ := rfl

/-- The turn of someone who adds a phone that no message gets through to. -/
def unheard : Turn (List Credential) :=
  turn Script.sample.services mute ⟨[Credential.sample], .none, []⟩
    ⟨⟨5, 0⟩, .authenticated "call" ⟨⟨1#128⟩⟩, .associate none .oobSms (some "+6498876986")⟩

theorem stores_first_unheard :
    ChangesByStoring mute id ∧ Script.sample.services.Undoes ∧
      refusal? unheard.reply = some (.unexpected "messages unavailable") ∧
      unheard.after.outside.length = 2 ∧
      unheard.StoresFirst Script.sample.services id :=
  ⟨changesByStoring_mute, Script.undoes, by decide +kernel, by decide +kernel,
    stores_first changesByStoring_mute Script.undoes _ _⟩

end SignIn

end TenantAuth
