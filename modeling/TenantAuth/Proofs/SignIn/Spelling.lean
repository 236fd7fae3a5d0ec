import TenantAuth.Proofs.Contact.Canonical
import TenantAuth.Proofs.SignIn.Lifetime
import TenantAuth.Proofs.SignIn.TurnedAway

/-!
In which spelling of their address someone can sign in.

A credential is registered under an address in the one spelling that is kept of it, whereas the name
with which someone signs in is looked up as it was typed. So the spelling that is kept gets in, and
every other spelling of the same address is refused as a name that nobody has.
-/

namespace TenantAuth

variable {ω : Type} {s : Services}

/-- A password is accepted for each of its hashes. -/
def Services.AcceptsOwn (s : Services) : Prop :=
  ∀ use use' password hash, s.hashPassword use password = .ok hash →
    s.verifyPassword use' password hash = .ok true

namespace Credential

variable {password displayName : String} {address : EmailAddress} {now : Instant} {c : Credential}

/-- A credential that was registered under an address, with a password. -/
structure Registered (s : Services) (address : EmailAddress) (password : String)
    (c : Credential) : Prop where
  named : c.username = some address
  hashed : ∃ use hash, s.hashPassword use password = .ok hash ∧ c.passwordHash = some hash
  verified : c.isVerified = true

/-- This is what registering comes to. -/
theorem registered_of_steps {d d₁ d₂ d₃ d₄ : Desk} {token : String}
    (hpassword : Ends (setPassword s password) d (.ok ()) d₁)
    (hdetails : Ends (setDetails address displayName) d₁ (.ok ()) d₂)
    (hinitiated : Ends (initiateRegistration s) d₂ (.ok token) d₃)
    (hverified : Ends (verifyRegistration now) d₃ (.ok ()) d₄) :
    Registered s address password d₄.credential := by
  obtain ⟨_, hash, hhash, heq₁⟩ := setPassword_ok hpassword
  obtain rfl := setDetails_ok_iff.1 hdetails
  obtain ⟨_, _, _, heq₃⟩ := initiateRegistration_ok hinitiated
  obtain ⟨_, heq₄⟩ := verifyRegistration_ok hverified
  rw [heq₄, heq₃, heq₁]
  exact ⟨rfl, ⟨_, hash, hhash, rfl⟩, rfl⟩

end Credential

/-- What is kept of an address is its text without surrounding blanks, in lower case. -/
theorem EmailAddress.text_of_parse {text : String} {address : EmailAddress}
    (h : parse text = .ok address) : address.text = Text.lowercase (Text.trimmed text) := by
  obtain ⟨_, htext⟩ := parse_ok_iff.1 h
  rw [htext, Text.lowercase, Text.trimmed, String.toList_ofList]

namespace SignIn

variable {α β : Type} {k : Collaborators ω} {caller : Caller} {now : Instant}
  {username password : String} {w w' : World ω} {c : Credential} {address : EmailAddress}

/-! ### Getting in -/

/-- Steps end in an answer of some sort. -/
def Answers (sort : α → Prop) (m : SignInM ω α) (w : World ω) : Prop :=
    ∃ a w', Ends m w (.ok a) w' ∧ sort a

section Answers

variable {sort : α → Prop} {sort' : β → Prop} {m : SignInM ω α} {next : α → SignInM ω β} {a : α}

/-- Steps come to an answer if those before them get through and they come to one then. -/
theorem Answers.after (h : Ends m w (.ok a) w') (hnext : Answers sort' (next a) w') :
    Answers sort' (m >>= next) w := by
  obtain ⟨b, w₂, hlater, hsort⟩ := hnext
  exact ⟨b, w₂, Ends.bind_ok_iff.2 ⟨a, w', h, hlater⟩, hsort⟩

/-- Steps come to an answer that is made of the one of those before them. -/
theorem Answers.bind_pure {f : α → β} (h : Answers sort m w) (hsort : ∀ a, sort a → sort' (f a)) :
    Answers sort' (m >>= fun a => pure (f a)) w := by
  obtain ⟨a, w₁, hfirst, ha⟩ := h
  exact .after hfirst ⟨f a, w₁, Ends.pure_iff.2 ⟨rfl, rfl⟩, hsort a ha⟩

end Answers

/-- Where everyone answers, tokens are issued. -/
theorem answers_issueTokens (hk : Unfailing k) (user : UserId) :
    Answers (fun _ => True) (issueTokens k caller user) w := by
  obtain ⟨member, hmember⟩ := hk.getMember caller user w.outside
  obtain ⟨tokens, htokens⟩ := hk.issueTokens caller member (k.getMember caller user w.outside).2
  exact .after (answered_ask hmember)
    (.after (answered_ask htokens) ⟨_, _, Ends.pure_iff.2 ⟨rfl, rfl⟩, trivial⟩)

/-- What someone who gets in is given: a token for the second factor if the credential asks for one,
and tokens of the session if not. -/
def Welcomes (c : Credential) : SignInOutcome → Prop
  | .mfaRequired _ => c.mfa.isEnabled = true
  | .authenticated _ => c.mfa.isEnabled = false

/-- Once the password is accepted, there are tokens of one kind or the other, where everyone answers
and a token for the second factor can be given a deadline. -/
theorem answers_accepted (hk : Unfailing k)
    (hdeadline : c.mfa.isEnabled = true → (now.add? s.tokenLifetime).isSome = true) :
    Answers (Welcomes c) (if c.mfa.isEnabled then do
        let (token, credential) ← work c (Credential.initiateMfa s now)
        let _ ← save k credential
        return .mfaRequired token
      else return .authenticated (← issueTokens k caller c.userId)) w := by
  cases henabled : c.mfa.isEnabled with
  | true =>
    obtain ⟨expiry, hexpiry⟩ := Option.isSome_iff_exists.1 (hdeadline henabled)
    rw [if_pos rfl]
    refine .after (work_iff.2 ⟨_, _, Credential.initiateMfa_bound henabled hexpiry, rfl, rfl⟩) ?_
    obtain ⟨saved, hsaved⟩ := hk.save _ _
    exact .after (answered_ask hsaved) ⟨_, _, Ends.pure_iff.2 ⟨rfl, rfl⟩, henabled⟩
  | false =>
    rw [if_neg Bool.false_ne_true]
    exact (answers_issueTokens hk c.userId).bind_pure fun _ _ => henabled

/-- Whoever has the password of a verified credential of a person gets in. -/
theorem answers_authenticate {hash : String} (hk : Unfailing k)
    (hfound : (k.findByUsername username w.outside).1 = .ok (some c))
    (hperson : ∀ outside endUser, (k.getUser caller c.userId outside).1 = .ok endUser →
      endUser.isPerson = true)
    (hset : c.passwordHash = some hash)
      (hright : ∀ use, s.verifyPassword use password hash = .ok true)
    (hverified : c.isVerified = true)
    (hdeadline : c.mfa.isEnabled = true → (now.add? s.tokenLifetime).isSome = true) :
    Answers (Welcomes c) (authenticate s k now caller username password) w := by
  refine .after (answered_ask hfound) (.after (Ends.demand_ok_iff.2 ⟨rfl, rfl⟩) ?_)
  obtain ⟨endUser, hknown⟩ := hk.getUser caller c.userId (k.findByUsername username w.outside).2
  refine .after (ensurePerson_person hknown (hperson _ _ hknown)) ?_
  refine .after (work_iff.2 ⟨_, _, Credential.hasPassword_set hset (hright _), rfl, rfl⟩) ?_
  refine .after (a := ()) (Ends.ensure_ok_iff.2 ⟨rfl, rfl⟩) ?_
  exact .after (a := ()) (Ends.ensure_ok_iff.2 ⟨hverified, rfl⟩) (answers_accepted hk hdeadline)

/-! ### Looking up a name -/

/-- Credentials are kept outside in a list, and found by exactly the name. -/
def FindsExactly (k : Collaborators ω) (kept : ω → List Credential) : Prop :=
  ∀ username outside, (k.findByUsername username outside).1 =
    .ok ((kept outside).find? fun c => c.username.any fun e => e.text = username)

/-- A credential is among others and has an address of its own, and all have addresses in the
spelling that is kept. -/
structure StandsOut (c : Credential) (credentials : List Credential) : Prop where
  mem : c ∈ credentials
  alone : ∀ other ∈ credentials, other.username = c.username → other = c
  addresses : ∀ other ∈ credentials, ∀ e, other.username = some e → ∃ text,
    EmailAddress.parse text = .ok e

section StandsOut

variable {credentials : List Credential}

theorem StandsOut.find_eq_some (h : StandsOut c credentials) (hnamed : c.username = some address) :
    credentials.find? (fun c => c.username.any fun e => e.text = address.text) = some c := by
  have hname : (c.username.any fun e => e.text = address.text) = true := by simp [hnamed]
  cases hfound : credentials.find? fun c => c.username.any fun e => e.text = address.text with
  | none => exact absurd hname (List.find?_eq_none.1 hfound c h.mem)
  | some other =>
    have hother := List.find?_some hfound
    simp only [Option.any_eq_true, decide_eq_true_eq] at hother
    obtain ⟨e, he, htext⟩ := hother
    obtain rfl : e = address := by
      cases e; cases address; exact congrArg EmailAddress.mk htext
    rw [h.alone other (List.mem_of_find?_eq_some hfound) (he.trans hnamed.symm)]

/-- Under another spelling of an address nothing is found, as it is the spelling of no address that
is kept. -/
theorem StandsOut.find_eq_none {typed : String} (h : StandsOut c credentials)
    (htyped : EmailAddress.parse typed = .ok address) (hne : typed ≠ address.text) :
    credentials.find? (fun c => c.username.any fun e => e.text = typed) = none := by
  refine List.find?_eq_none.2 fun other hother hnamed => ?_
  simp only [Option.any_eq_true, decide_eq_true_eq] at hnamed
  obtain ⟨e, he, rfl⟩ := hnamed
  obtain ⟨text, htext⟩ := h.addresses other hother e he
  -- A text that is kept is read as itself, so that two of them that are read alike are the same.
  exact hne
    (congrArg EmailAddress.text (Except.ok.inj ((EmailAddress.parse_text htext).symm.trans htyped)))

end StandsOut

/-- Someone who registered under an address and types some spelling of it together with the password
gets in if it is the spelling that is kept, that is, without blanks around it and in lower case.
With every other spelling they are refused as someone whose name nobody has. -/
theorem kept_spelling_gets_in {kept : ω → List Credential} {registered typed : String}
    (hk : Unfailing k) (hs : s.AcceptsOwn) (hfinds : FindsExactly k kept)
    (hperson : ∀ outside endUser, (k.getUser caller c.userId outside).1 = .ok endUser →
      endUser.isPerson = true)
    (hdeadline : c.mfa.isEnabled = true → (now.add? s.tokenLifetime).isSome = true)
    (haddress : EmailAddress.parse registered = .ok address)
      (hregistered : c.Registered s address password)
    (hkept : StandsOut c (kept w.outside)) (htyped : EmailAddress.parse typed = .ok address) :
    (typed = Text.lowercase (Text.trimmed registered) → ∃ outcome,
        (run s k now caller (.authenticate typed password) w).1 = .ok (.outcome outcome) ∧
        Welcomes c outcome) ∧
      (typed ≠ Text.lowercase (Text.trimmed registered) →
        TurnsAway s k now caller typed password w (.notAuthenticated none)) := by
  rw [← EmailAddress.text_of_parse haddress]
  constructor
  · rintro rfl
    have hfound : (k.findByUsername address.text w.outside).1 = .ok (some c) := by
      rw [hfinds, hkept.find_eq_some hregistered.named]
    obtain ⟨use, hash, hhash, hset⟩ := hregistered.hashed
    have hright (use' : Nat) : s.verifyPassword use' password hash = .ok true :=
      hs use use' password hash hhash
    have hanswers : Answers (fun reply => ∃ outcome, reply = .outcome outcome ∧ Welcomes c outcome)
        (handle s k now caller (.authenticate address.text password)) w :=
      (answers_authenticate hk hfound hperson hset hright hregistered.verified hdeadline).bind_pure
        fun outcome houtcome => ⟨outcome, rfl, houtcome⟩
    obtain ⟨_, w', hends, outcome, rfl, houtcome⟩ := hanswers
    exact ⟨outcome, congrArg Prod.fst hends, houtcome⟩
  · intro hne
    have hnobody : (k.findByUsername typed w.outside).1 = .ok none := by
      rw [hfinds, hkept.find_eq_none htyped hne]
    exact (Told.nobody hnobody).turnsAway

/-! ### Two spellings of one address -/

theorem acceptsOwn_sample : Script.sample.services.AcceptsOwn := by
  rintro use use' password hash hhash
  obtain rfl := Except.ok.inj hhash
  exact congrArg Except.ok (decide_eq_true rfl)

theorem registered_sample :
    Credential.sample.Registered Script.sample.services ⟨"ann@example.com"⟩ "password" :=
  ⟨named_sample, ⟨0, _, rfl, by decide +kernel⟩, by decide +kernel⟩

theorem standsOut_sample : StandsOut Credential.sample [Credential.sample] where
  mem := List.mem_singleton_self _
  alone _ hother _ := List.mem_singleton.1 hother
  addresses other hother e he := by
    rw [List.mem_singleton.1 hother, named_sample] at he
    exact ⟨"ann@example.com", Option.some.inj he ▸ by rfl⟩

theorem kept_spelling_gets_in_sample :
    EmailAddress.parse "Ann@Example.com" = .ok ⟨"ann@example.com"⟩ ∧
      Credential.sample.Registered Script.sample.services ⟨"ann@example.com"⟩ "password" ∧
      StandsOut Credential.sample [Credential.sample] ∧
      (∃ outcome, (run Script.sample.services (Surroundings.all .person).collaborators ⟨10, 0⟩
        (.anonymous "call") (.authenticate "ann@example.com" "password")
        (holding [Credential.sample])).1 = .ok (.outcome outcome) ∧
          Welcomes Credential.sample outcome) ∧
      TurnsAway Script.sample.services (Surroundings.all .person).collaborators ⟨10, 0⟩
        (.anonymous "call") "Ann@Example.com" "password" (holding [Credential.sample])
        (.notAuthenticated none) := by
  have hregistered : EmailAddress.parse "Ann@Example.com" = .ok ⟨"ann@example.com"⟩ := rfl
  have hkept : Text.lowercase (Text.trimmed "Ann@Example.com") = "ann@example.com" := by
    decide +kernel
  have hfinds : FindsExactly (Surroundings.all .person).collaborators Directory.credentials :=
    fun _ _ => rfl
  have hperson (outside : Directory) (endUser : EndUser)
      (hknown : ((Surroundings.all .person).collaborators.getUser (.anonymous "call")
        Credential.sample.userId outside).1 = .ok endUser) : endUser.isPerson = true :=
    Except.ok.inj hknown ▸ rfl
  have hdeadline : Credential.sample.mfa.isEnabled = true →
      ((⟨10, 0⟩ : Instant).add? Script.sample.services.tokenLifetime).isSome = true :=
      fun _ => by decide
  have hstands : StandsOut Credential.sample (holding [Credential.sample]).outside.credentials :=
    standsOut_sample
  have hspelling {typed : String} (htyped : EmailAddress.parse typed = .ok ⟨"ann@example.com"⟩) :=
    kept_spelling_gets_in (Surroundings.unfailing_all .person) acceptsOwn_sample hfinds hperson
      hdeadline hregistered registered_sample hstands htyped
  refine ⟨hregistered, registered_sample, standsOut_sample, ?_, ?_⟩
  · exact (hspelling (EmailAddress.parse_text hregistered)).1 hkept.symm
  · exact (hspelling hregistered).2 (by rw [hkept]; decide)

end SignIn

end TenantAuth
