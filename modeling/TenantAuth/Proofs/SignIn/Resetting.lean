import TenantAuth.Proofs.SignIn.TurnedAway

/-!
Resetting the second factor of someone else, without being an operator.

Nobody but an operator gets through: nothing is stored, sent or issued, whoever calls and whatever
is kept. But the caller is looked at last, after the credential of the target was looked up and its
user found to be a person. So what someone is told who may not reset anything depends on the target,
and on nothing else: whether there is a credential, and whether it is a person's.
-/

namespace TenantAuth

variable {ω : Type} {s : Services} {caller : Caller} {user : UserId}

namespace Credential

variable {d : Desk}

/-- Whoever is no operator may not reset the second factor of a credential. -/
theorem resetMfa_forbidden (hcaller : caller.isOperator = false) :
    Ends (resetMfa caller) d
      (.error (.forbiddenAccess (some "Only operators may reset MFA"))) d := by
  refine Ends.bind_iff.2 (Or.inr ⟨_, ?_, rfl⟩)
  rw [hcaller]
  exact Ends.throw_iff.2 ⟨rfl, rfl⟩

end Credential

namespace SignIn

variable {k : Collaborators ω} {now : Instant} {w : World ω}

/-- Those who are asked about the target of a reset answer. -/
structure Informed (k : Collaborators ω) : Prop where
  findByUser : ∀ user outside, ∃ found, (k.findByUser user outside).1 = .ok found
  getUser : ∀ caller user outside, ∃ endUser, (k.getUser caller user outside).1 = .ok endUser

/-- What the target of a reset turns out to be. -/
inductive Target
  | nobody
  | machine
  | person
  deriving DecidableEq

/-- With what someone is refused who is no operator. -/
def Target.refusal : Target → Fault
  | .nobody => .entityNotFound "PersonCredential" none
  | .machine => .preconditionViolation "Only a person can have password credentials"
  | .person => .forbiddenAccess (some "Only operators may reset MFA")

/-- The refusal tells what the target is. -/
theorem Target.refusal_injective {t₁ t₂ : Target} : t₁.refusal = t₂.refusal ↔ t₁ = t₂ := by
  cases t₁ <;> cases t₂ <;> simp [refusal]

/-- What a user is to those who are asked: nobody if no credential is kept, and otherwise a person
or a machine. -/
inductive Target.Is (k : Collaborators ω) (caller : Caller) (user : UserId) (w : World ω) :
    Target → Prop
  | nobody (found : (k.findByUser user w.outside).1 = .ok none) : Target.Is k caller user w .nobody
  | machine {c : Credential} {endUser : EndUser}
      (found : (k.findByUser user w.outside).1 = .ok (some c))
      (known : (k.getUser caller user (k.findByUser user w.outside).2).1 = .ok endUser)
      (other : endUser.isPerson = false) : Target.Is k caller user w .machine
  | person {c : Credential} {endUser : EndUser}
      (found : (k.findByUser user w.outside).1 = .ok (some c))
      (known : (k.getUser caller user (k.findByUser user w.outside).2).1 = .ok endUser)
      (person : endUser.isPerson = true) : Target.Is k caller user w .person

/-- Where those who are asked answer, every user is one of these. -/
theorem Informed.exists_target (hk : Informed k) (caller : Caller) (user : UserId) (w : World ω) :
    ∃ target, Target.Is k caller user w target := by
  obtain ⟨found, hfound⟩ := hk.findByUser user w.outside
  obtain ⟨endUser, hknown⟩ := hk.getUser caller user (k.findByUser user w.outside).2
  cases found with
  | none => exact ⟨_, .nobody hfound⟩
  | some c =>
    cases hkind : endUser.isPerson with
    | true => exact ⟨_, .person hfound hknown hkind⟩
    | false => exact ⟨_, .machine hfound hknown hkind⟩

/-- A credential that is kept for a user is found. -/
theorem findByUser_found {c : Credential}
    (hfound : (k.findByUser user w.outside).1 = .ok (some c)) : Ends (findByUser k user) w (.ok c)
      ⟨(k.findByUser user w.outside).2, w.draws, w.journal ++ [⟨.findByUser user, none⟩]⟩ :=
  Ends.bind_ok_iff.2 ⟨some c, _, answered_ask hfound, Ends.demand_ok_iff.2 ⟨rfl, rfl⟩⟩

/-- Whoever is no operator is refused with what the target is, and nothing else happens. -/
theorem refuses_resetMfa {target : Target} (hcaller : caller.isOperator = false)
    (h : Target.Is k caller user w target) :
    Refuses (· = target.refusal) (resetMfa k caller user) w := by
  cases h with
  | nobody hfound =>
    refine Refuses.andThen (Refuses.after (asks_ask trivial) (answered_ask hfound) ?_)
    exact Refuses.of_ends (moves_demand _ _) (Ends.throw_iff.2 ⟨rfl, rfl⟩)
  | machine hfound hknown hother =>
    refine Refuses.after (idle_findByUser user) (findByUser_found hfound) (Refuses.andThen ?_)
    exact Refuses.of_ends (idle_ensurePerson _) (ensurePerson_other hknown hother)
  | person hfound hknown hperson =>
    refine Refuses.after (idle_findByUser user) (findByUser_found hfound) ?_
    refine Refuses.after (idle_ensurePerson _) (ensurePerson_person hknown hperson)
      (Refuses.andThen ?_)
    exact Refuses.of_ends (asks_work _ _)
      (work_iff.2 ⟨_, _, Credential.resetMfa_forbidden hcaller, rfl, rfl⟩)

/-- Someone who wants to reset a second factor is refused, and nothing is stored, sent or issued. -/
def RefusesReset (s : Services) (k : Collaborators ω) (now : Instant) (caller : Caller)
    (user : UserId) (w : World ω) (fault : Fault) : Prop :=
  (run s k now caller (.resetMfa user) w).1 = .error fault ∧
    Idle w (run s k now caller (.resetMfa user) w).2

theorem Target.Is.refusesReset {target : Target} (hcaller : caller.isOperator = false)
    (h : Target.Is k caller user w target) : RefusesReset s k now caller user w target.refusal := by
  have hrefuses : Refuses (· = target.refusal) (handle s k now caller (.resetMfa user)) w :=
    Refuses.andThen (refuses_resetMfa hcaller h)
  obtain ⟨hidle, fault, hrefused, hfault⟩ := hrefuses _ _ rfl
  exact ⟨hfault ▸ hrefused, hidle⟩

/-- Whoever is no operator is refused, for every target and in every world in which those who are
asked answer, and nothing is stored, sent or issued. A person with a credential is refused as
forbidden; in two worlds the answers are the same exactly if the targets are both persons with a
credential, both machines with one, or both without one. -/
theorem reset_tells_target {ω₁ ω₂ : Type} {k₁ : Collaborators ω₁} {k₂ : Collaborators ω₂}
    (hcaller : caller.isOperator = false) (hk₁ : Informed k₁) (hk₂ : Informed k₂) (s : Services)
    (now : Instant) (user₁ user₂ : UserId) (w₁ : World ω₁) (w₂ : World ω₂) :
    ∃ t₁ t₂ : Target, Target.Is k₁ caller user₁ w₁ t₁ ∧ Target.Is k₂ caller user₂ w₂ t₂ ∧
      RefusesReset s k₁ now caller user₁ w₁ t₁.refusal ∧
        RefusesReset s k₂ now caller user₂ w₂ t₂.refusal ∧
      (t₁.refusal = t₂.refusal ↔ t₁ = t₂) := by
  obtain ⟨t₁, h₁⟩ := hk₁.exists_target caller user₁ w₁
  obtain ⟨t₂, h₂⟩ := hk₂.exists_target caller user₂ w₂
  exact ⟨t₁, t₂, h₁, h₂, h₁.refusesReset hcaller, h₂.refusesReset hcaller, Target.refusal_injective⟩

/-- In surroundings in which everyone answers, those who are asked about the target of a reset
do. -/
theorem Surroundings.informed_all (classification : Classification) :
    Informed (Surroundings.all classification).collaborators where
  findByUser _ _ := ⟨_, rfl⟩
  getUser _ _ _ := ⟨_, rfl⟩

/-- Someone who has not signed in can tell a person with a credential from a user without one. -/
theorem reset_tells_target_anonymous :
    let k := (Surroundings.all .person).collaborators
    let user := Credential.sample.userId
    (Caller.anonymous "call").isOperator = false ∧ Informed k ∧
      RefusesReset Script.sample.services k ⟨10, 0⟩ (.anonymous "call") user (holding [])
        (.entityNotFound "PersonCredential" none) ∧
      RefusesReset Script.sample.services k ⟨10, 0⟩ (.anonymous "call") user
        (holding [Credential.sample]) (.forbiddenAccess (some "Only operators may reset MFA")) := by
  intro k user
  have hcaller : (Caller.anonymous "call").isOperator = false := by decide
  have hinformed : Informed k := Surroundings.informed_all .person
  obtain ⟨t₁, t₂, h₁, h₂, hrefused₁, hrefused₂, -⟩ :=
    reset_tells_target hcaller hinformed hinformed Script.sample.services ⟨10, 0⟩ user user
      (holding []) (holding [Credential.sample])
  have hsample : (k.findByUser user (holding [Credential.sample]).outside).1 =
      .ok (some Credential.sample) := by
    have hfound :
        [Credential.sample].find? (fun c => c.userId = user) = some Credential.sample := by
      simp [user]
    exact congrArg Except.ok hfound
  refine ⟨hcaller, hinformed, ?_, ?_⟩
  · cases h₁ with
    | nobody => exact hrefused₁
    | machine hfound => exact nomatch Except.ok.inj hfound
    | person hfound => exact nomatch Except.ok.inj hfound
  · cases h₂ with
    | nobody hfound => exact nomatch Except.ok.inj (hsample.symm.trans hfound)
    | machine _ hknown hother =>
      rw [← Except.ok.inj hknown] at hother
      exact absurd hother (by decide)
    | person => exact hrefused₂

end SignIn

end TenantAuth
