import TenantAuth.Proofs.SignIn.Strangers
import TenantAuth.SignIn.Directory

/-!
Signing in with a password that is not the accepted one.

Nobody gets in, and nothing is stored, sent or issued. What someone is told who tries depends on
little: whether a credential has the name, whether its user is a person, and whether a password was
set for it. In particular it does not depend on the registration or on the second factor, and a name
that nobody has is refused in the same words as a wrong password of a person.
-/

namespace TenantAuth

variable {ω α β : Type} {s : Services}

namespace Credential

variable {d : Desk} {password hash : String} {isRight : Bool}

/-- Without a password that was set there is none to compare with. -/
theorem hasPassword_unset (h : d.credential.passwordHash = none) :
    Ends (hasPassword s password) d
      (.error (.preconditionViolation "Credential has no password")) d := by
  refine Ends.bind_iff.2
    (Or.inl ⟨d.credential, d, current_ok_iff.2 ⟨rfl, rfl⟩, Ends.bind_iff.2 (Or.inr ⟨_, ?_, rfl⟩)⟩)
  rw [h]
  exact Ends.throw_iff.2 ⟨rfl, rfl⟩

/-- With one, it is compared. -/
theorem hasPassword_set (h : d.credential.passwordHash = some hash)
    (hanswer : s.verifyPassword d.draws.uses password hash = .ok isRight) :
    Ends (hasPassword s password) d (.ok isRight)
      ⟨d.credential, { d.draws with uses := d.draws.uses + 1 }⟩ := by
  simp only [hasPassword, Ends.bind_ok_iff, current_ok_iff, Ends.demand_ok_iff, use_ok_iff,
    Services.requestMatch_ok_iff]
  exact ⟨_, _, ⟨rfl, rfl⟩, hash, _, ⟨h, rfl⟩, _, ⟨hanswer, rfl⟩, rfl⟩

end Credential

namespace SignIn

variable {k : Collaborators ω} {caller : Caller} {now : Instant} {username password : String}
  {w w' : World ω} {fault : Fault}

/-- Those who are asked when someone signs in answer. -/
structure Unfailing (k : Collaborators ω) : Prop where
  findByUsername : ∀ username outside, ∃ found, (k.findByUsername username outside).1 = .ok found
  getUser : ∀ caller user outside, ∃ endUser, (k.getUser caller user outside).1 = .ok endUser
  save : ∀ c outside, ∃ saved, (k.save c outside).1 = .ok saved
  getMember : ∀ caller user outside, ∃ member, (k.getMember caller user outside).1 = .ok member
  issueTokens :
    ∀ caller member outside, ∃ tokens, (k.issueTokens caller member outside).1 = .ok tokens

/-- A password is not the accepted one of a name: no credential has the name, no password was set
for it, or another one. -/
inductive Unaccepted (s : Services) (k : Collaborators ω) (username password : String)
    (w : World ω) : Prop
  | nobody (found : (k.findByUsername username w.outside).1 = .ok none)
  | unset {c : Credential} (found : (k.findByUsername username w.outside).1 = .ok (some c))
      (unset : c.passwordHash = none)
  | wrong {c : Credential} {hash : String}
      (found : (k.findByUsername username w.outside).1 = .ok (some c))
      (set : c.passwordHash = some hash)
      (wrong : s.verifyPassword w.draws.uses password hash = .ok false)

/-- What is known of the user of a credential that was found for a name. -/
def knownUser (k : Collaborators ω) (caller : Caller) (username : String) (c : Credential)
    (w : World ω) :
    Except Fault EndUser :=
  (k.getUser caller c.userId (k.findByUsername username w.outside).2).1

/-- What someone is told whose password is not the accepted one. -/
inductive Told (s : Services) (k : Collaborators ω) (caller : Caller) (username password : String)
    (w : World ω) : Fault → Prop
  | nobody (found : (k.findByUsername username w.outside).1 = .ok none) :
      Told s k caller username password w (.notAuthenticated none)
  | wrong {c : Credential} {endUser : EndUser} {hash : String}
      (found : (k.findByUsername username w.outside).1 = .ok (some c))
      (known : knownUser k caller username c w = .ok endUser) (person : endUser.isPerson = true)
      (set : c.passwordHash = some hash)
      (wrong : s.verifyPassword w.draws.uses password hash = .ok false) :
      Told s k caller username password w (.notAuthenticated none)
  | machine {c : Credential} {endUser : EndUser}
      (found : (k.findByUsername username w.outside).1 = .ok (some c))
      (known : knownUser k caller username c w = .ok endUser) (other : endUser.isPerson = false) :
      Told s k caller username password w
        (.preconditionViolation "Only a person can have password credentials")
  | unset {c : Credential} {endUser : EndUser}
      (found : (k.findByUsername username w.outside).1 = .ok (some c))
      (known : knownUser k caller username c w = .ok endUser) (person : endUser.isPerson = true)
      (unset : c.passwordHash = none) :
      Told s k caller username password w (.preconditionViolation "Credential has no password")

/-! ### Steps whose end is known -/

section Refuses

variable {sort : Fault → Prop} {m : SignInM ω α} {next : α → SignInM ω β} {a : α}

/-- Steps are refused if those before them get through and they are refused then. -/
theorem Refuses.after (hidle : Moves Idle m) (h : Ends m w (.ok a) w')
    (hnext : Refuses sort (next a) w') : Refuses sort (m >>= next) w := by
  refine Refuses.bind hidle (fun fault w₁ hrefused => ?_) fun b w₁ hanswered => ?_
  · cases (h.unique hrefused).1
  · obtain ⟨hsame, rfl⟩ := h.unique hanswered
    exact Except.ok.inj hsame ▸ hnext

/-- Steps that end in a refusal end in no other. -/
theorem Refuses.of_ends (hidle : Moves Idle m) (h : Ends m w (.error fault) w') :
    Refuses (· = fault) m w := by
  intro r w₁ hends
  obtain ⟨rfl, _⟩ := h.unique hends
  exact ⟨hidle _ _ _ hends, fault, rfl, rfl⟩

/-- Someone who answers is asked. -/
theorem answered_ask {question : Question} {answer : ω → Except Fault α × ω}
    (h : (answer w.outside).1 = .ok a) : Ends (ask question answer) w (.ok a)
      ⟨(answer w.outside).2, w.draws, w.journal ++ [⟨question, none⟩]⟩ :=
  ask_iff.2 ⟨h.symm, rfl⟩

end Refuses

/-! ### Step by step -/

section Steps

variable {c : Credential} {endUser : EndUser}

/-- The world after an end user was asked for. -/
def afterUser (k : Collaborators ω) (caller : Caller) (user : UserId) (w : World ω) : World ω :=
  ⟨(k.getUser caller user w.outside).2, w.draws, w.journal ++ [⟨.getUser user, none⟩]⟩

theorem ensurePerson_person {user : UserId}
    (hknown : (k.getUser caller user w.outside).1 = .ok endUser)
    (hperson : endUser.isPerson = true) :
    Ends (ensurePerson k caller user) w (.ok ()) (afterUser k caller user w) :=
  Ends.bind_ok_iff.2 ⟨endUser, _, answered_ask hknown, Ends.ensure_ok_iff.2 ⟨hperson, rfl⟩⟩

theorem ensurePerson_other {user : UserId}
    (hknown : (k.getUser caller user w.outside).1 = .ok endUser)
    (hother : endUser.isPerson = false) : Ends (ensurePerson k caller user) w
      (.error (.preconditionViolation "Only a person can have password credentials"))
      (afterUser k caller user w) := by
  refine Ends.bind_iff.2 (Or.inl ⟨endUser, _, answered_ask hknown, ?_⟩)
  rw [hother]
  exact Ends.throw_iff.2 ⟨rfl, rfl⟩

/-- Once a credential is found for a name, it is the user that is looked at next. -/
theorem refuses_found {sort : Fault → Prop} {next : Credential → SignInM ω β}
    (hfound : (k.findByUsername username w.outside).1 = .ok (some c))
    (hnext : ∀ w₁, w₁.outside = (k.findByUsername username w.outside).2 → w₁.draws = w.draws →
      Refuses sort (next c) w₁) :
    Refuses sort (do
      let shown ← ask (.findByUsername username) (k.findByUsername username)
      let c ← demand shown (.notAuthenticated none)
      next c) w :=
  Refuses.after (asks_ask trivial) (answered_ask hfound)
    (Refuses.after (moves_demand _ _) (Ends.demand_ok_iff.2 ⟨rfl, rfl⟩) (hnext _ rfl rfl))

end Steps

/-- Whoever is not let in is told why, and nothing else happens. -/
theorem refuses_authenticate (h : Told s k caller username password w fault) :
    Refuses (· = fault) (authenticate s k now caller username password) w := by
  cases h with
  | nobody hfound =>
    refine Refuses.after (asks_ask trivial) (answered_ask hfound) (Refuses.andThen ?_)
    exact Refuses.of_ends (moves_demand _ _) (Ends.throw_iff.2 ⟨rfl, rfl⟩)
  | machine hfound hknown hother =>
    refine refuses_found hfound fun w₁ houtside _ => Refuses.andThen ?_
    exact Refuses.of_ends (idle_ensurePerson _) (ensurePerson_other (houtside ▸ hknown) hother)
  | unset hfound hknown hperson hunset =>
    refine refuses_found hfound fun w₁ houtside _ => ?_
    refine Refuses.after (idle_ensurePerson _) (ensurePerson_person (houtside ▸ hknown) hperson)
      (Refuses.andThen ?_)
    exact Refuses.of_ends (asks_work _ _)
      (work_iff.2 ⟨_, _, Credential.hasPassword_unset hunset, rfl, rfl⟩)
  | wrong hfound hknown hperson hset hwrong =>
    refine refuses_found hfound fun w₁ houtside hdraws => ?_
    refine Refuses.after (idle_ensurePerson _) (ensurePerson_person (houtside ▸ hknown) hperson) ?_
    have hcompared : s.verifyPassword w₁.draws.uses password _ = .ok false := hdraws ▸ hwrong
    refine Refuses.after (asks_work _ _)
      (work_iff.2 ⟨_, _, Credential.hasPassword_set hset hcompared, rfl, rfl⟩) (Refuses.andThen ?_)
    exact Refuses.of_ends (moves_ensure _ _) (Ends.throw_iff.2 ⟨rfl, rfl⟩)

/-- Where everyone answers, a machine that is found for a name is told so, and a person what is to
be told to one. -/
theorem told_of_found {c : Credential} (hk : Unfailing k)
    (hfound : (k.findByUsername username w.outside).1 = .ok (some c))
    (hperson : ∀ endUser, knownUser k caller username c w = .ok endUser → endUser.isPerson = true →
      ∃ fault, Told s k caller username password w fault) : ∃ fault,
      Told s k caller username password w fault := by
  obtain ⟨endUser, hknown⟩ := hk.getUser caller c.userId (k.findByUsername username w.outside).2
  cases hkind : endUser.isPerson with
  | true => exact hperson endUser hknown hkind
  | false => exact ⟨_, .machine hfound hknown hkind⟩

/-- Where everyone answers, a password that is not the accepted one leads to a refusal. -/
theorem told_of_unaccepted (hk : Unfailing k) (h : Unaccepted s k username password w)
    (caller : Caller) : ∃ fault, Told s k caller username password w fault := by
  cases h with
  | nobody hfound => exact ⟨_, .nobody hfound⟩
  | unset hfound hunset =>
    exact told_of_found hk hfound fun _ hknown hperson => ⟨_, .unset hfound hknown hperson hunset⟩
  | wrong hfound hset hwrong =>
    exact told_of_found hk hfound fun _ hknown hperson =>
      ⟨_, .wrong hfound hknown hperson hset hwrong⟩

/-- Whoever has a name, if anyone does, is a person with a password. -/
def Ordinary (k : Collaborators ω) (caller : Caller) (username : String) (w : World ω) : Prop :=
  ∀ c, (k.findByUsername username w.outside).1 = .ok (some c) → c.passwordHash.isSome = true ∧
    ∀ endUser, knownUser k caller username c w = .ok endUser → endUser.isPerson = true

/-- Of a person with a password nothing is told but that the caller is not authenticated. -/
theorem Told.eq_of_ordinary (h : Told s k caller username password w fault)
    (hordinary : Ordinary k caller username w) : fault = .notAuthenticated none := by
  cases h with
  | nobody => rfl
  | wrong => rfl
  | machine hfound hknown hother =>
    exact absurd ((hordinary _ hfound).2 _ hknown) (by simp [hother])
  | unset hfound _ _ hunset => exact absurd (hordinary _ hfound).1 (by simp [hunset])

/-- Someone who signs in is refused, and nothing is stored, sent or issued. -/
def TurnsAway (s : Services) (k : Collaborators ω) (now : Instant) (caller : Caller)
    (username password : String) (w : World ω) (fault : Fault) : Prop :=
  (run s k now caller (.authenticate username password) w).1 = .error fault ∧
    Idle w (run s k now caller (.authenticate username password) w).2

theorem Told.turnsAway (h : Told s k caller username password w fault) :
    TurnsAway s k now caller username password w fault := by
  have hrefuses : Refuses (· = fault) (handle s k now caller (.authenticate username password)) w :=
    Refuses.andThen (refuses_authenticate h)
  obtain ⟨hidle, told, hrefused, htold⟩ := hrefuses _ _ rfl
  exact ⟨htold ▸ hrefused, hidle⟩

/-- Whoever signs in without the accepted password is turned away, in every world in which those who
are asked answer, and is told no more than whether nobody has the name or the password of a person
is another one, or the user is no person, or no password was set. So in two worlds in which whoever
has the name is a person with a password, if anyone has it, the answer is the same. -/
theorem turned_away_alike {ω₁ ω₂ : Type} {k₁ : Collaborators ω₁} {k₂ : Collaborators ω₂}
    {w₁ : World ω₁} {w₂ : World ω₂} (hk₁ : Unfailing k₁) (hk₂ : Unfailing k₂)
    (hnot₁ : Unaccepted s k₁ username password w₁) (hnot₂ : Unaccepted s k₂ username password w₂) :
    (∃ fault, Told s k₁ caller username password w₁ fault ∧ TurnsAway s k₁ now caller username
      password w₁ fault) ∧ (∃ fault, Told s k₂ caller username password w₂ fault ∧
        TurnsAway s k₂ now caller username password w₂ fault) ∧
      (Ordinary k₁ caller username w₁ → Ordinary k₂ caller username w₂ →
        TurnsAway s k₁ now caller username password w₁ (.notAuthenticated none) ∧
          TurnsAway s k₂ now caller username password w₂ (.notAuthenticated none)) := by
  obtain ⟨fault₁, htold₁⟩ := told_of_unaccepted hk₁ hnot₁ caller
  obtain ⟨fault₂, htold₂⟩ := told_of_unaccepted hk₂ hnot₂ caller
  refine ⟨⟨fault₁, htold₁, htold₁.turnsAway⟩, ⟨fault₂, htold₂, htold₂.turnsAway⟩,
    fun hordinary₁ hordinary₂ => ?_⟩
  exact ⟨htold₁.eq_of_ordinary hordinary₁ ▸ htold₁.turnsAway, htold₂.eq_of_ordinary hordinary₂ ▸
    htold₂.turnsAway⟩

/-! ### Two worlds -/

/-- Surroundings in which everyone answers and all users are of one kind. -/
def Surroundings.all (classification : Classification) : Surroundings where
  classification _ := some classification
  emailAddress _ := none
  machine := ⟨⟨9#128⟩⟩
  accessExpiresOn := ⟨0, 0⟩
  refreshExpiresOn := ⟨0, 0⟩
  isUnavailable _ := false

theorem Surroundings.unfailing_all (classification : Classification) :
    Unfailing (Surroundings.all classification).collaborators where
  findByUsername _ _ := ⟨_, rfl⟩
  getUser _ _ _ := ⟨_, rfl⟩
  save _ _ := ⟨_, rfl⟩
  getMember _ _ _ := ⟨_, rfl⟩
  issueTokens _ _ _ := ⟨_, rfl⟩

/-- The world in which credentials are kept and nothing was asked yet. -/
def holding (credentials : List Credential) : World Directory := ⟨⟨credentials, 0, 0⟩, .none, []⟩

/-- The only credential there is is found by its name. -/
theorem Surroundings.all_finds {classification : Classification} {c : Credential} {e : EmailAddress}
    (h : c.username = some e) :
    ((Surroundings.all classification).collaborators.findByUsername e.text
      (holding [c]).outside).1 = .ok (some c) := by
  have hfound : [c].find? (fun c => c.username.any fun other => other.text = e.text) =
    some c := by simp [h]
  exact congrArg Except.ok hfound

theorem named_sample : Credential.sample.username = some ⟨"ann@example.com"⟩ := by decide +kernel

/-- The password of the sample is another one. -/
theorem unaccepted_sample (classification : Classification) :
    Unaccepted Script.sample.services (Surroundings.all classification).collaborators
      "ann@example.com" "guess" (holding [Credential.sample]) :=
  .wrong (Surroundings.all_finds named_sample) (by decide +kernel : _ = some "hash:drowssap")
    (congrArg Except.ok
      (by decide +kernel : decide ("hash:drowssap" = Script.backwards "guess") = false))

/-- A credential with a name and without a password. -/
def withoutPassword : Credential := { Credential.sample with passwordHash := none }

theorem turned_away_alike_sample :
    Unfailing (Surroundings.all .machine).collaborators ∧
      Unfailing (Surroundings.all .person).collaborators ∧
      Unaccepted Script.sample.services (Surroundings.all .machine).collaborators
        "ann@example.com" "guess" (holding []) ∧
      Unaccepted Script.sample.services (Surroundings.all .person).collaborators
        "ann@example.com" "guess" (holding [Credential.sample]) ∧
      TurnsAway Script.sample.services (Surroundings.all .machine).collaborators ⟨10, 0⟩
        (.anonymous "call") "ann@example.com" "guess" (holding []) (.notAuthenticated none) ∧
      TurnsAway Script.sample.services (Surroundings.all .person).collaborators ⟨10, 0⟩
        (.anonymous "call") "ann@example.com" "guess" (holding [Credential.sample])
        (.notAuthenticated none) := by
  have hnobody :
      Unaccepted Script.sample.services (Surroundings.all .machine).collaborators "ann@example.com"
        "guess" (holding []) := .nobody rfl
  have hwrong := unaccepted_sample .person
  have hordinary :
      Ordinary (Surroundings.all .person).collaborators (.anonymous "call") "ann@example.com"
        (holding [Credential.sample]) := by
    rintro c hc
    obtain rfl :=
      Option.some.inj (Except.ok.inj ((Surroundings.all_finds named_sample).symm.trans hc))
    exact ⟨by decide +kernel, fun endUser hknown => Except.ok.inj hknown ▸ rfl⟩
  refine ⟨Surroundings.unfailing_all .machine, Surroundings.unfailing_all .person,
    hnobody, hwrong, ?_⟩
  exact (turned_away_alike (Surroundings.unfailing_all .machine)
    (Surroundings.unfailing_all .person) hnobody hwrong).2.2
    (fun c hc => nomatch Except.ok.inj hc) hordinary

/-- Someone who knows only a name can tell a person without a password, and a machine, from
nobody. -/
theorem refusals_tell_apart :
    let tries (kind : Classification) (credentials : List Credential) (fault : Fault) : Prop :=
      Unfailing (Surroundings.all kind).collaborators ∧
        Unaccepted Script.sample.services (Surroundings.all kind).collaborators
          "ann@example.com" "guess" (holding credentials) ∧
        (run Script.sample.services (Surroundings.all kind).collaborators ⟨10, 0⟩
          (.anonymous "call") (.authenticate "ann@example.com" "guess") (holding credentials)).1 =
          .error fault
    tries .person [] (.notAuthenticated none) ∧
      tries .person [withoutPassword] (.preconditionViolation "Credential has no password") ∧
      tries .machine [Credential.sample]
        (.preconditionViolation "Only a person can have password credentials") := by
  have hunset : ((Surroundings.all .person).collaborators.findByUsername "ann@example.com"
      (holding [withoutPassword]).outside).1 = .ok (some withoutPassword) :=
      Surroundings.all_finds named_sample
  refine ⟨⟨Surroundings.unfailing_all _, .nobody rfl, ?_⟩,
    ⟨Surroundings.unfailing_all _, .unset hunset rfl, ?_⟩,
    ⟨Surroundings.unfailing_all _, unaccepted_sample _, ?_⟩⟩
  · exact (Told.nobody rfl).turnsAway.1
  · exact (Told.unset hunset rfl rfl rfl).turnsAway.1
  · exact (Told.machine (Surroundings.all_finds named_sample) rfl rfl).turnsAway.1

end SignIn

end TenantAuth
