import TenantAuth.Proofs.SignIn.Keeping

/-!
What the others are asked, whoever they are.

Nothing is expected of the others here: they may answer a question as they like, and show any
credential for any user and any token. What a request asks of them is read off the journal. It stays
idle, that is, it stores nothing, sends nothing and has no tokens issued, up to the one place where
a credential is stored.
-/

namespace TenantAuth.SignIn

variable {ω α β : Type} {s : Services} {k : Collaborators ω} {caller : Caller} {w w' : World ω}

/-- The others were asked questions of one sort only. -/
def Asks (sort : Question → Prop) (w w' : World ω) : Prop :=
  ∃ more, w'.journal = w.journal ++ more ∧ ∀ e ∈ more, sort e.question

/-- A question by which nothing is stored, sent or issued, whatever the answer. -/
def Question.Idle : Question → Prop
  | .save _ => False
  | .notify _ => False
  | .issueTokens _ => False
  | _ => True

/-- Nobody was asked to store, send or issue anything. -/
abbrev Idle (w w' : World ω) : Prop := Asks Question.Idle w w'

section Asks

variable {sort sort' : Question → Prop}

/-- As long as the journal stays as it is, nothing was asked. -/
theorem Asks.of_eq (h : w'.journal = w.journal) : Asks sort w w' :=
  ⟨[], h.trans (List.append_nil _).symm, fun _ he => absurd he List.not_mem_nil⟩

theorem Asks.refl (w : World ω) : Asks sort w w := .of_eq rfl

instance : Std.Refl (Asks (ω := ω) sort) := ⟨Asks.refl⟩

theorem Asks.trans {w₁ w₂ w₃ : World ω} (h₁ : Asks sort w₁ w₂) (h₂ : Asks sort w₂ w₃) :
    Asks sort w₁ w₃ := by
  obtain ⟨more₁, hjournal₁, hsort₁⟩ := h₁
  obtain ⟨more₂, hjournal₂, hsort₂⟩ := h₂
  refine ⟨more₁ ++ more₂, by rw [hjournal₂, hjournal₁, List.append_assoc], fun e he => ?_⟩
  exact (List.mem_append.1 he).elim (hsort₁ e) (hsort₂ e)

instance : IsTrans (World ω) (Asks sort) := ⟨fun _ _ _ => Asks.trans⟩

theorem Asks.mono (h : Asks sort w w') (hsort : ∀ question, sort question → sort' question) :
    Asks sort' w w' := by
  obtain ⟨more, hjournal, hmore⟩ := h
  exact ⟨more, hjournal, fun e he => hsort _ (hmore e he)⟩

theorem asks_ask {question : Question} {answer : ω → Except Fault α × ω}
    (hquestion : sort question) : Moves (Asks sort) (ask question answer) := by
  intro w r w' h
  obtain ⟨rfl, rfl⟩ := ask_iff.1 h
  exact ⟨_, rfl, fun e he => by rwa [List.mem_singleton.1 he]⟩

theorem asks_work (c : Credential) (operation : CredentialM α) :
    Moves (Asks sort) (work c operation : SignInM ω (α × Credential)) := by
  intro w r w' h
  have hw' : w' = { w with draws := (operation.run.run ⟨c, w.draws⟩).2.draws } :=
    (congrArg Prod.snd h).symm
  rw [hw']
  exact .of_eq rfl

end Asks

/-- What working on a credential comes to. -/
theorem work_iff {c : Credential} {operation : CredentialM α} {r : Except Fault (α × Credential)} :
    Ends (work c operation) w r w' ↔ ∃ reply d', Ends operation ⟨c, w.draws⟩ reply d' ∧
      r = reply.map (fun a => (a, d'.credential)) ∧ w' = { w with draws := d'.draws } := by
  constructor
  · intro h
    obtain ⟨rfl, rfl⟩ := Prod.mk.inj h
    exact ⟨_, _, rfl, rfl, rfl⟩
  · rintro ⟨reply, d', h, rfl, rfl⟩
    change ((operation.run.run ⟨c, w.draws⟩).1.map fun a =>
      (a, (operation.run.run ⟨c, w.draws⟩).2.credential),
        { w with draws := (operation.run.run ⟨c, w.draws⟩).2.draws }) = _
    rw [h]

/-! ### Looking up and checking -/

theorem idle_ensurePerson (user : UserId) : Moves Idle (ensurePerson k caller user) :=
  moves_bind (asks_ask trivial) fun _ => moves_ensure _ _

theorem idle_getProfile (user : UserId) :
    Moves Idle (ask (.getProfile user) (k.getProfile caller user)) :=
  asks_ask trivial

theorem idle_findByUser (user : UserId) : Moves Idle (findByUser k user) :=
  moves_bind (asks_ask trivial) fun _ => moves_demand _ _

theorem idle_findByToken (token : Option String) : Moves Idle (findByToken k token) :=
  moves_bind (moves_demand _ _) fun _ => moves_bind (asks_ask trivial) fun _ =>
    moves_bind (moves_demand _ _) fun _ => moves_pure _

/-- Only messages that are given are sent. -/
theorem asks_send (messages : List Notification) :
    Moves (Asks fun question => ∃ message ∈ messages, question = .notify message)
      (send k caller messages) := by
  induction messages with
  | nil => exact moves_pure _
  | cons message rest ih =>
    refine moves_bind (asks_ask ⟨message, List.mem_cons_self, rfl⟩) fun _ w r w' h => ?_
    exact (ih w r w' h).mono fun question ⟨other, hother, hquestion⟩ =>
      ⟨other, List.mem_cons_of_mem _ hother, hquestion⟩

/-- Whatever follows idle steps starts idle, and idle steps that are refused end everything. -/
theorem Idle.after {w₀ : World ω} {m : SignInM ω α} {next : α → SignInM ω β} {r : Except Fault β}
    (hm : Moves Idle m) (hidle : Idle w₀ w) (h : Ends (m >>= next) w r w') :
    ((∃ fault, r = .error fault) ∧ Idle w₀ w') ∨
      ∃ a w₁, Ends m w (.ok a) w₁ ∧ Idle w₀ w₁ ∧ Ends (next a) w₁ r w' := by
  rcases Ends.bind_iff.1 h with ⟨a, w₁, hfirst, hrest⟩ | ⟨fault, hfirst, rfl⟩
  · exact Or.inr ⟨a, w₁, hfirst, hidle.trans (hm _ _ _ hfirst), hrest⟩
  · exact Or.inl ⟨⟨fault, rfl⟩, hidle.trans (hm _ _ _ hfirst)⟩

/-! ### Storing -/

/-- Someone was asked to store a credential. -/
def Saves (k : Collaborators ω) (c : Credential) (w w' : World ω) : Prop :=
  w'.journal = w.journal ++ [⟨.save c, refusal? (k.save c w.outside).1⟩]

/-- Whoever works on a credential and then stores it is idle up to there. The rest follows only if
it could be stored. -/
theorem saves_of_work {w₀ : World ω} {c : Credential} {operation : CredentialM α}
    {next : α × Credential → SignInM ω β} {rest : α → Credential → SignInM ω β} {r : Except Fault β}
    (hidle : Idle w₀ w) (h : Ends (work c operation >>= next) w r w')
    (hnext : ∀ a c', next (a, c') = save k c' >>= rest a) :
    ((∃ fault, r = .error fault) ∧ Idle w₀ w') ∨
      ∃ a c' n' w₁ w₂, Ends operation ⟨c, w.draws⟩ (.ok a) ⟨c', n'⟩ ∧ Idle w₀ w₁ ∧
        Saves k c' w₁ w₂ ∧ ((∃ fault, r = .error fault ∧ w' = w₂) ∨
          ∃ saved, (k.save c' w₁.outside).1 = .ok saved ∧ Ends (rest a saved) w₂ r w') := by
  rcases Ends.bind_iff.1 h with ⟨⟨a, c'⟩, w₁, hwork, hlater⟩ | ⟨fault, hwork, rfl⟩
  · obtain ⟨n', hdone, _⟩ := work_ok_iff.1 hwork
    have hidle₁ : Idle w₀ w₁ := hidle.trans (asks_work c operation _ _ _ hwork)
    rw [hnext] at hlater
    refine Or.inr ⟨a, c', n', w₁, ?_⟩
    rcases Ends.bind_iff.1 hlater with ⟨saved, w₂, hsave, hlast⟩ | ⟨fault, hsave, rfl⟩
    · obtain ⟨hsaved, rfl⟩ := ask_iff.1 hsave
      exact ⟨_, hdone, hidle₁, by rw [Saves, hsaved], Or.inr ⟨saved, hsaved.symm, hlast⟩⟩
    · obtain ⟨hsaved, rfl⟩ := ask_iff.1 hsave
      exact ⟨_, hdone, hidle₁, by rw [Saves, hsaved], Or.inl ⟨fault, rfl, rfl⟩⟩
  · exact Or.inl ⟨⟨fault, rfl⟩, hidle.trans (asks_work c operation _ _ _ hwork)⟩

end TenantAuth.SignIn
