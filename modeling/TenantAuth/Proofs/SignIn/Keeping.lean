import Mathlib.Logic.Function.Basic
import TenantAuth.Proofs.Credential.Effects
import TenantAuth.SignIn.Request

/-!
What is asked of those who keep credentials, and what a sign-in does before it stores one.

For every user at most one credential is kept. Finding shows only what is kept, storing replaces
what is kept for the user, and whatever is refused changes nothing. Steps that store nothing and
have no tokens issued are quiet: they leave what is kept as it is, and they leave neither mark in
the journal.
-/

namespace TenantAuth.SignIn

variable {ω α β : Type}

/-- What is kept: at most one credential for each user. -/
abbrev Kept := UserId → Option Credential

/-- An answer shows only credentials that are kept, and changes none. -/
def Shows (kept : ω → Kept) (answer : ω → Except Fault (Option Credential) × ω) : Prop :=
  ∀ outside, kept (answer outside).2 = kept outside ∧
    ∀ c, (answer outside).1 = .ok (some c) → kept outside c.userId = some c

/-- An answer about something else changes no credential. -/
def Leaves (kept : ω → Kept) (answer : ω → Except Fault α × ω) : Prop :=
  ∀ outside, kept (answer outside).2 = kept outside

/-- Collaborators keep credentials, whatever else they do and refuse. -/
structure Keeps (k : Collaborators ω) (kept : ω → Kept) : Prop where
  findByUser : ∀ user, Shows kept (k.findByUser user)
  findByToken : ∀ token, Shows kept (k.findByToken token)
  findByUsername : ∀ username, Shows kept (k.findByUsername username)
  saved : ∀ c outside c', (k.save c outside).1 = .ok c' →
    kept (k.save c outside).2 = Function.update (kept outside) c.userId (some c)
  unsaved : ∀ c outside fault, (k.save c outside).1 = .error fault →
    kept (k.save c outside).2 = kept outside
  getUser : ∀ caller user, Leaves kept (k.getUser caller user)
  getMember : ∀ caller user, Leaves kept (k.getMember caller user)
  getProfile : ∀ caller user, Leaves kept (k.getProfile caller user)
  notify : ∀ caller message, Leaves kept (k.notify caller message)
  issueTokens : ∀ caller member, Leaves kept (k.issueTokens caller member)
  registerMachine :
    ∀ caller name timezone country, Leaves kept (k.registerMachine caller name timezone country)
  createApiKey : ∀ caller user description expiresOn,
    Leaves kept (k.createApiKey caller user description expiresOn)

/-! ### Quiet steps -/

/-- An exchange by which neither a credential was stored nor tokens were issued. -/
def Exchange.Harmless : Exchange → Prop
  | ⟨.issueTokens _, _⟩ => False
  | ⟨.save _, none⟩ => False
  | _ => True

/-- What is kept stays as it is, and neither storing nor issuing is entered into the journal. -/
def Quiet (kept : ω → Kept) (w w' : World ω) : Prop :=
  kept w'.outside = kept w.outside ∧ ∃ more, w'.journal = w.journal ++ more ∧ ∀ e ∈ more, e.Harmless

variable {kept : ω → Kept} {w w' : World ω}

instance : Std.Refl (Quiet kept) :=
  ⟨fun _ => ⟨rfl, [], (List.append_nil _).symm, fun _ he => absurd he List.not_mem_nil⟩⟩

theorem Quiet.refl (w : World ω) : Quiet kept w w := Std.Refl.refl w

theorem Quiet.trans {w₁ w₂ w₃ : World ω} (h₁ : Quiet kept w₁ w₂) (h₂ : Quiet kept w₂ w₃) :
    Quiet kept w₁ w₃ := by
  obtain ⟨hsame₁, more₁, hjournal₁, hharmless₁⟩ := h₁
  obtain ⟨hsame₂, more₂, hjournal₂, hharmless₂⟩ := h₂
  refine ⟨hsame₂.trans hsame₁, more₁ ++ more₂, by rw [hjournal₂, hjournal₁, List.append_assoc], ?_⟩
  intro e he
  exact (List.mem_append.1 he).elim (hharmless₁ e) (hharmless₂ e)

instance : IsTrans (World ω) (Quiet kept) := ⟨fun _ _ _ => Quiet.trans⟩

theorem ask_iff {question : Question} {answer : ω → Except Fault α × ω} {r : Except Fault α} :
    Ends (ask question answer) w r w' ↔ r = (answer w.outside).1 ∧
      w' = ⟨(answer w.outside).2, w.draws, w.journal ++ [⟨question, refusal? r⟩]⟩ := by
  change ((answer w.outside).1, World.mk _ _ _) = (r, w') ↔ _
  rw [Prod.mk.injEq]
  constructor
  · rintro ⟨rfl, rfl⟩
    exact ⟨rfl, rfl⟩
  · rintro ⟨rfl, rfl⟩
    exact ⟨rfl, rfl⟩

theorem work_ok_iff {c c' : Credential} {operation : CredentialM α} {a : α} :
    Ends (work c operation) w (.ok (a, c')) w' ↔
      ∃ n, Ends operation ⟨c, w.draws⟩ (.ok a) ⟨c', n⟩ ∧ w' = { w with draws := n } := by
  have hwork : (work c operation).run.run w =
      ((operation.run.run ⟨c, w.draws⟩).1.map fun a =>
        (a, (operation.run.run ⟨c, w.draws⟩).2.credential),
          { w with draws := (operation.run.run ⟨c, w.draws⟩).2.draws }) := rfl
  constructor
  · intro h
    rw [Ends, hwork] at h
    rcases hrun : operation.run.run ⟨c, w.draws⟩ with ⟨reply, c₁, n₁⟩
    rw [hrun] at h
    obtain ⟨hreply, rfl⟩ := Prod.mk.inj h
    cases reply with
    | error fault => cases hreply
    | ok a₁ =>
      obtain ⟨rfl, rfl⟩ := Prod.mk.inj (Except.ok.inj hreply)
      exact ⟨n₁, hrun, rfl⟩
  · rintro ⟨n, h, rfl⟩
    rw [Ends] at h
    rw [Ends, hwork, h]
    rfl

/-- A question about something else than issuing and storing is quiet. -/
theorem quiet_ask {question : Question} {answer : ω → Except Fault α × ω}
    (hanswer : Leaves kept answer) (hquestion : ∀ refusal, Exchange.Harmless ⟨question, refusal⟩) :
    Moves (Quiet kept) (ask question answer) := by
  intro w r w' h
  obtain ⟨rfl, rfl⟩ := ask_iff.1 h
  refine ⟨hanswer _, _, rfl, fun e he => ?_⟩
  rw [List.mem_singleton.1 he]
  exact hquestion _

theorem quiet_find {question : Question} {answer : ω → Except Fault (Option Credential) × ω}
    (hanswer : Shows kept answer) (hquestion : ∀ refusal, Exchange.Harmless ⟨question, refusal⟩) :
    Moves (Quiet kept) (ask question answer) :=
  quiet_ask (fun outside => (hanswer outside).1) hquestion

@[simp] theorem quiet_work (c : Credential) (operation : CredentialM α) :
    Moves (Quiet kept) (work c operation : SignInM ω (α × Credential)) := by
  intro w r w' h
  have hw' : w' = { w with draws := (operation.run.run ⟨c, w.draws⟩).2.draws } :=
    (congrArg Prod.snd h).symm
  rw [hw']
  exact ⟨rfl, [], (List.append_nil _).symm, fun _ he => absurd he List.not_mem_nil⟩

/-! ### Finding and checking -/

variable {s : Services} {k : Collaborators ω} {caller : Caller} {now : Instant}

/-- Whoever acts on a credential: someone who has signed in, or whoever presents a token. -/
inductive Speaks (caller : Caller) (c : Credential) : Option String → MfaCaller → Prop
  | owner {user : UserId} {token : Option String} (signedIn : caller.userId = some user) :
      Speaks caller c token (.authenticated user)
  | bearer {token : String} (anonymous : caller.userId = none) :
      Speaks caller c (some token) (.anonymous c.userId token)

/-- A token is valid if its hash is the one that is stored, and its expiry lies ahead. -/
theorem isValid_iff {o : MfaOptions} {token : String} {now : Instant} :
    o.isValid token now = true ↔
      o.tokenHash = some (Token.hash token) ∧ ∃ expiry, o.tokenExpiry = some expiry ∧
      now.isBefore expiry = true := by
  simp only [MfaOptions.isValid, MfaOptions.isBoundTo, Token.hasHash, Bool.and_eq_true,
    Option.any_eq_true, decide_eq_true_eq]
  constructor
  · rintro ⟨⟨hash, hhash, rfl⟩, hexpiry⟩
    exact ⟨hhash, hexpiry⟩
  · rintro ⟨hhash, hexpiry⟩
    exact ⟨⟨_, hhash, rfl⟩, hexpiry⟩

/-- A credential that a question shows is kept. -/
theorem found {question : Question} {answer : ω → Except Fault (Option Credential) × ω}
    {fault : Fault} {c : Credential} (hanswer : Shows kept answer)
    (h : Ends (do demand (← ask question answer) fault) w (.ok c) w') :
    (answer w.outside).1 = .ok (some c) ∧ w'.outside = (answer w.outside).2 ∧ w'.draws = w.draws ∧
      kept w.outside c.userId = some c := by
  simp only [Ends.bind_ok_iff, ask_iff, Ends.demand_ok_iff] at h
  obtain ⟨_, _, ⟨hfound, rfl⟩, rfl, rfl⟩ := h
  exact ⟨hfound.symm, rfl, rfl, (hanswer _).2 c hfound.symm⟩

section Keeps

variable (hk : Keeps k kept)
include hk

theorem quiet_ensurePerson (user : UserId) : Moves (Quiet kept) (ensurePerson k caller user) :=
  moves_bind (quiet_ask (hk.getUser caller user) fun _ => trivial) fun _ => moves_ensure _ _

theorem quiet_findByUsername (username : String) :
    Moves (Quiet kept) (ask (.findByUsername username) (k.findByUsername username)) :=
  quiet_find (hk.findByUsername username) fun _ => trivial

theorem quiet_getProfile (user : UserId) :
    Moves (Quiet kept) (ask (.getProfile user) (k.getProfile caller user)) :=
  quiet_ask (hk.getProfile caller user) fun _ => trivial

theorem quiet_findByUser (user : UserId) : Moves (Quiet kept) (findByUser k user) :=
  moves_bind (quiet_find (hk.findByUser user) fun _ => trivial) fun _ => moves_demand _ _

theorem quiet_findByToken (token : Option String) : Moves (Quiet kept) (findByToken k token) :=
  moves_bind (moves_demand _ _) fun token =>
    moves_bind (quiet_find (hk.findByToken token) fun _ => trivial) fun _ =>
      moves_bind (moves_demand _ _) fun _ => moves_pure _

theorem quiet_resolve (token : Option String) : Moves (Quiet kept) (resolve k caller token) := by
  unfold resolve
  split
  · exact moves_bind (quiet_findByUser hk _) fun _ => moves_pure _
  · exact quiet_findByToken hk token

theorem quiet_send (messages : List Notification) :
    Moves (Quiet kept) (send k caller messages) := by
  induction messages with
  | nil => exact moves_pure _
  | cons message rest ih =>
    exact moves_bind (quiet_ask (hk.notify caller message) fun _ => trivial) fun _ => ih

theorem quiet_registerMachine (name : String) (timezone country : Option String)
    (expiresOn : Option Instant) :
    Moves (Quiet kept) (registerMachine k caller name timezone country expiresOn) :=
  moves_bind (quiet_ask (hk.registerMachine caller name timezone country) fun _ => trivial) fun _ =>
    moves_bind (quiet_ask (hk.createApiKey caller _ name expiresOn) fun _ => trivial) fun _ =>
      moves_pure _

omit hk in
theorem ensurePerson_ok {user : UserId} {u : Unit}
    (h : Ends (ensurePerson k caller user) w (.ok u) w') :
    (∃ endUser, (k.getUser caller user w.outside).1 = .ok endUser ∧ endUser.isPerson = true) ∧
      w'.draws = w.draws := by
  simp only [ensurePerson, Ends.bind_ok_iff, ask_iff, Ends.ensure_ok_iff] at h
  obtain ⟨endUser, _, ⟨hanswer, rfl⟩, hperson, rfl⟩ := h
  exact ⟨⟨endUser, hanswer.symm, hperson⟩, rfl⟩

theorem findByUser_ok {user : UserId} {c : Credential} (h : Ends (findByUser k user) w (.ok c) w') :
    kept w.outside c.userId = some c :=
  (found (hk.findByUser user) h).2.2.2

theorem findByToken_ok {token : Option String} {c : Credential} {mfaCaller : MfaCaller}
    (h : Ends (findByToken k token) w (.ok (c, mfaCaller)) w') :
    kept w.outside c.userId = some c ∧ ∃ text, token = some text ∧
      mfaCaller = .anonymous c.userId text := by
  obtain ⟨text, w₁, hdemand, hrest⟩ := Ends.bind_ok_iff.1 h
  obtain ⟨hfilter, rfl⟩ := Ends.demand_ok_iff.1 hdemand
  obtain ⟨htext, _⟩ := Option.filter_eq_some_iff.1 hfilter
  rw [← bind_assoc] at hrest
  obtain ⟨c₁, w₂, hfound, hpure⟩ := Ends.bind_ok_iff.1 hrest
  obtain ⟨hsame, rfl⟩ := Ends.pure_iff.1 hpure
  obtain ⟨rfl, rfl⟩ := Prod.mk.inj (Except.ok.inj hsame)
  exact ⟨(found (hk.findByToken text) hfound).2.2.2, text, htext, rfl⟩

theorem resolve_ok {token : Option String} {c : Credential} {mfaCaller : MfaCaller}
    (h : Ends (resolve k caller token) w (.ok (c, mfaCaller)) w') :
    kept w.outside c.userId = some c ∧ Speaks caller c token mfaCaller := by
  unfold resolve at h
  split at h
  · rename_i user hcaller
    obtain ⟨c₁, w₁, hfound, hpure⟩ := Ends.bind_ok_iff.1 h
    obtain ⟨hsame, rfl⟩ := Ends.pure_iff.1 hpure
    obtain ⟨rfl, rfl⟩ := Prod.mk.inj (Except.ok.inj hsame)
    exact ⟨findByUser_ok hk hfound, .owner hcaller⟩
  · rename_i hcaller
    obtain ⟨hkept, text, rfl, rfl⟩ := findByToken_ok hk h
    exact ⟨hkept, .bearer hcaller⟩

end Keeps

/-! ### Storing and issuing -/

/-- A credential was stored. -/
structure Stored (kept : ω → Kept) (c : Credential) (w w' : World ω) : Prop where
  kept_eq : kept w'.outside = Function.update (kept w.outside) c.userId (some c)
  journal_eq : w'.journal = w.journal ++ [⟨.save c, none⟩]

/-- Tokens were asked for, for a member as which a user is known. -/
structure Admitted (kept : ω → Kept) (user : UserId) (w w' : World ω) : Prop where
  kept_eq : kept w'.outside = kept w.outside
  journal_eq : ∃ member refusal,
    w'.journal = w.journal ++ [⟨.getMember user, none⟩, ⟨.issueTokens member, refusal⟩]

theorem save_ends (hk : Keeps k kept) {c : Credential} {r : Except Fault Credential}
    (h : Ends (save k c) w r w') :
    (∃ saved, r = .ok saved ∧ Stored kept c w w') ∨
      (∃ fault, r = .error fault) ∧ Quiet kept w w' := by
  obtain ⟨rfl, rfl⟩ := ask_iff.1 h
  cases hanswer : (k.save c w.outside).1 with
  | ok saved => exact Or.inl ⟨saved, rfl, hk.saved _ _ _ hanswer, rfl⟩
  | error fault =>
    refine Or.inr ⟨⟨fault, rfl⟩, hk.unsaved _ _ _ hanswer, _, rfl, fun e he => ?_⟩
    rw [List.mem_singleton.1 he]
    trivial

theorem issueTokens_ends (hk : Keeps k kept) {user : UserId} {r : Except Fault SignInTokens}
    (h : Ends (issueTokens k caller user) w r w') : Quiet kept w w' ∨ Admitted kept user w w' := by
  rcases Ends.bind_iff.1 h with ⟨member, w₁, hmember, h⟩ | ⟨fault, hmember, rfl⟩
  · obtain ⟨r₁, hissue, rfl⟩ := Ends.bind_pure_iff.1 h
    obtain ⟨_, rfl⟩ := ask_iff.1 hmember
    obtain ⟨_, rfl⟩ := ask_iff.1 hissue
    exact Or.inr ⟨(hk.issueTokens caller member _).trans (hk.getMember caller user _), member,
        refusal? r₁, by
      rw [List.append_assoc]; rfl⟩
  · refine Or.inl (quiet_ask (hk.getMember caller user) ?_ _ _ _ hmember)
    exact fun _ => trivial

/-- Working on a credential and storing it is quiet up to the storing, and stays so if it does not
come to it. -/
theorem stored_of_work (hk : Keeps k kept) {w₀ : World ω} {c : Credential}
    {operation : CredentialM α} {next : α × Credential → SignInM ω β}
    {rest : α → Credential → SignInM ω β} {r : Except Fault β} (hquiet : Quiet kept w₀ w)
    (h : Ends (work c operation >>= next) w r w')
    (hnext : ∀ a c', next (a, c') = save k c' >>= rest a) :
    Quiet kept w₀ w' ∨ ∃ a c' n n' saved w₁ w₂, Ends operation ⟨c, n⟩ (.ok a) ⟨c', n'⟩ ∧
      Quiet kept w₀ w₁ ∧ Stored kept c' w₁ w₂ ∧ Ends (rest a saved) w₂ r w' := by
  rcases (quiet_work c operation).after hquiet h with hidle | ⟨⟨a, c'⟩, w₁, hwork, hquiet₁, hrest⟩
  · exact Or.inl hidle
  obtain ⟨n', hdone, _⟩ := work_ok_iff.1 hwork
  rw [hnext] at hrest
  rcases Ends.bind_iff.1 hrest with ⟨saved, w₂, hsave, hlast⟩ | ⟨fault, hsave, rfl⟩
  · rcases save_ends hk hsave with ⟨_, hsaved, hstored⟩ | ⟨⟨_, hrefused⟩, _⟩
    · exact Or.inr ⟨a, c', _, n', saved, w₁, w₂, hdone, hquiet₁, hstored, hlast⟩
    · cases hrefused
  · rcases save_ends hk hsave with ⟨_, hsaved, _⟩ | ⟨_, hrefused⟩
    · cases hsaved
    · exact Or.inl (hquiet₁.trans hrefused)

end TenantAuth.SignIn
