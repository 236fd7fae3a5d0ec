import TenantAuth.Proofs.Credential.WellFormed

/-!
How recovery codes come and go.

They are made with the first authenticator that is added, and shown then and never again. From then
on they stand in front of the others, whatever comes and goes behind them: they keep their
identifier and what they are made of, and those that are consumed stay consumed. They go when an
operator resets everything, or with the last of the others, and then nothing is left.

This is said of how the list of authenticators passes from one operation to the next. It does not
matter whether identifiers are drawn twice.
-/

namespace TenantAuth

variable {s : Services} {now : Instant}

/-- Every recovery code that is drawn is a text that keeps its bounds in a list of codes. -/
def Services.DrawsCodes (s : Services) : Prop :=
  ∀ draw, ∀ code ∈ s.recoveryCodes draw, code ≠ "" ∧ RecoveryCode.separator ∉ code.toList

namespace Authenticator

variable {a a' : Authenticator} {codes : List String}

/-- An authenticator of recovery codes gives out certain codes whenever it is decrypted, unless it
is the decryption that is refused. -/
def Opens (s : Services) (a : Authenticator) (codes : List String) : Prop :=
  ∃ stored, a.material = .recoveryCodes stored ∧
    ∀ n, (∃ fault, s.decrypt n.uses stored = .error fault) ∨
      ∃ n', Ends (a.decryptRecoveryCodes s) n (.ok codes) n'

/-- What may become of an authenticator of recovery codes: more of its codes are consumed. -/
structure Lasts (a a' : Authenticator) : Prop where
  id_eq : a'.id = a.id
  material_eq : a'.material = a.material
  isActive_eq : a'.isActive = a.isActive
  consumed : a.consumedCodes <+: a'.consumedCodes

theorem Lasts.refl (a : Authenticator) : a.Lasts a := ⟨rfl, rfl, rfl, List.prefix_refl _⟩

theorem Lasts.trans {a'' : Authenticator} (h : a.Lasts a') (h' : a'.Lasts a'') : a.Lasts a'' :=
  ⟨h'.id_eq.trans h.id_eq, h'.material_eq.trans h.material_eq, h'.isActive_eq.trans h.isActive_eq,
    h.consumed.trans h'.consumed⟩

theorem Lasts.kind_eq (h : a.Lasts a') : a'.kind = a.kind := congrArg Material.kind h.material_eq

theorem opens_of_encrypted (hundo : s.Undoes)
    (hcodes : ∀ code ∈ codes, code ≠ "" ∧ RecoveryCode.separator ∉ code.toList) {use : Nat}
    {stored : String} (hmade : a.material = .recoveryCodes stored)
    (hstored : s.encrypt use (RecoveryCode.join codes) = .ok stored) : a.Opens s codes := by
  refine ⟨stored, hmade, fun n => ?_⟩
  cases hopened : s.decrypt n.uses stored with
  | error fault => exact Or.inl ⟨fault, rfl⟩
  | ok text =>
    obtain rfl := hundo _ _ _ _ _ hstored hopened
    refine Or.inr ⟨{ n with uses := n.uses + 1 }, ?_⟩
    unfold decryptRecoveryCodes
    rw [hmade]
    simp only [Ends.bind_ok_iff, Services.requestDecryption_ok_iff, Ends.pure_iff]
    exact ⟨_, _, ⟨hopened, rfl⟩, by rw [RecoveryCode.split_join hcodes], rfl⟩

/-- Consuming a recovery code leaves the codes that were consumed before consumed. -/
theorem lasts_of_consumed {n n' : Draws} {typed : String} (ha : a.Sound s)
    (h : Ends (consumeRecoveryCode s typed) ⟨a, n⟩ (.ok ()) ⟨a', n'⟩) : a.Lasts a' := by
  obtain ⟨hproves, ⟨stored, hmade⟩, rfl⟩ := consumeRecoveryCode_ok h none
  refine ⟨rfl, rfl, rfl, ?_⟩
  rcases hproves with ⟨hother, _, _⟩ | ⟨hother, _, _⟩ | ⟨hsame, hopened, hlisted, _⟩
  · cases hmade.symm.trans hother
  · cases hmade.symm.trans hother
  · obtain ⟨_, _, _, _, hused⟩ := ha.codes _ hsame
    simp only [consumedCodes, Option.map_some, Option.getD_some]
    rw [pieces_withConsumed (hused _ _ hopened) (RecoveryCode.pieces_of_mem_split hlisted).1]
    exact List.prefix_append _ _

/-- A challenge to recovery codes changes nothing. -/
theorem eq_of_challenged {n n' : Draws} {sent : Option (String × Notification)}
    (ha : a.kind = .recoveryCodes) (h : Ends (rechallenge s) ⟨a, n⟩ (.ok sent) ⟨a', n'⟩) :
    a' = a := by
  rcases rechallenge_ok h with ⟨contact, _, _, _, _, _, hmade, _⟩ | ⟨_, hsame, _⟩
  · rw [kind, hmade] at ha
    cases contact <;> cases ha
  · exact hsame

end Authenticator

namespace Credential

variable {d d' : Desk} {list list' : List Authenticator} {action : Action} {answer : Answer}

/-! ### From one operation to the next -/

/-- The recovery codes that an answer shows. -/
def Answer.recoveryCodes? : Answer → Option (List String)
  | .association outcome => outcome.recoveryCodes
  | _ => none

/-- An operation by which recovery codes go: a reset, or the removal of the only authenticator
behind them. -/
inductive Action.RemovesCodes (list : List Authenticator) : Action → Prop
  | reset {caller : Caller} : RemovesCodes list (.resetMfa caller)
  | last {caller : MfaCaller} {codes other : Authenticator} (alone : list = [codes, other]) :
      RemovesCodes list (.disassociate caller other.id)

/-- Recovery codes stand in front of others, or there is nothing. -/
inductive Stocked (s : Services) : List Authenticator → Prop
  | empty : Stocked s []
  | codes {codes : Authenticator} {others : List Authenticator}
      (kind_eq : codes.kind = .recoveryCodes) (sound : codes.Sound s) (others_ne : others ≠ [])
      (others_kind : ∀ a ∈ others, a.kind ≠ .recoveryCodes) :
      Stocked s (codes :: others)

/-- What is used up of the recovery codes fits them. -/
theorem Stocked.sound {a : Authenticator} (h : Stocked s list) (ha : a ∈ list)
    (hkind : a.kind = .recoveryCodes) : a.Sound s := by
  cases h with
  | empty => cases ha
  | codes _ sound _ others_kind =>
    rcases List.mem_cons.1 ha with rfl | ha
    · exact sound
    · exact absurd hkind (others_kind a ha)

/-- How the list of authenticators may pass to another by an operation. -/
inductive Passage (s : Services) (action : Action) (answer : Answer) :
    List Authenticator → List Authenticator → Prop
  | without (adds : ∀ outcome, answer ≠ .association outcome) : Passage s action answer [] []
  | issued {codes other : Authenticator} {shown : List String}
      (told : answer.recoveryCodes? = some shown) (kind_eq : codes.kind = .recoveryCodes)
      (active : codes.isActive = true) (unused : codes.usedUp = none) (opens : codes.Opens s shown)
      (sound : codes.Sound s) (other_kind : other.kind ≠ .recoveryCodes) :
      Passage s action answer [] [codes, other]
  | lasting {codes codes' : Authenticator} {others others' : List Authenticator}
      (told : answer.recoveryCodes? = none) (stays : ¬action.RemovesCodes (codes :: others))
      (lasts : codes.Lasts codes') (sound : codes'.Sound s) (others_ne : others' ≠ [])
      (others_kind : ∀ a ∈ others', a.kind ≠ .recoveryCodes) :
      Passage s action answer (codes :: others) (codes' :: others')
  | removed {codes : Authenticator} {others : List Authenticator}
      (told : answer.recoveryCodes? = none) (removes : action.RemovesCodes (codes :: others)) :
      Passage s action answer (codes :: others) []

/-- Nothing that passes takes the recovery codes from the front. -/
theorem Passage.stocked (h : Passage s action answer list list') (hlist : Stocked s list) :
    Stocked s list' := by
  cases h with
  | without _ => exact .empty
  | issued _ kind_eq _ _ _ sound other_kind =>
    exact .codes kind_eq sound (by simp) fun a ha => List.mem_singleton.1 ha ▸ other_kind
  | lasting _ _ lasts sound others_ne others_kind =>
    cases hlist with
    | codes kind_eq _ _ _ => exact .codes (lasts.kind_eq.trans kind_eq) sound others_ne others_kind
  | removed _ _ => exact .empty

/-- A list that stays as it is passes, if the operation neither adds an authenticator nor removes
the codes. -/
theorem Stocked.same (h : Stocked s list) (hadds : ∀ outcome, answer ≠ .association outcome)
    (hstays : ¬action.RemovesCodes list) : Passage s action answer list list := by
  cases h with
  | empty => exact .without hadds
  | codes kind_eq sound others_ne others_kind =>
    refine .lasting ?_ hstays (.refl _) sound others_ne others_kind
    cases answer with
    | association outcome => exact absurd rfl (hadds outcome)
    | _ => rfl

/-- A list in which one authenticator is renewed passes; if it is that of the recovery codes, it
lasts. -/
theorem Stocked.renewed {condition : Authenticator → Bool} {a b : Authenticator}
    (h : Stocked s list) (hfind : list.find? condition = some a) (hkind : b.kind = a.kind)
    (hcodes : a.kind = .recoveryCodes → a.Lasts b ∧ b.Sound s)
    (htold : answer.recoveryCodes? = none) (hstays : ¬action.RemovesCodes list) :
    Passage s action answer list (replaceFirst condition b list) := by
  cases h with
  | empty => cases hfind
  | @codes codes others kind_eq sound others_ne others_kind =>
    rw [replaceFirst]
    split
    · rename_i hfirst
      rw [List.find?_cons_of_pos hfirst] at hfind
      obtain rfl := Option.some.inj hfind
      obtain ⟨hlasts, hsound⟩ := hcodes kind_eq
      exact .lasting htold hstays hlasts hsound others_ne others_kind
    · rename_i hfirst
      rw [List.find?_cons_of_neg hfirst] at hfind
      have hkinds := map_replaceFirst hfind hkind
      refine .lasting htold hstays (.refl _) sound ?_ fun c hc => ?_
      · intro hnone
        rw [hnone, List.map_nil, eq_comm, List.map_eq_nil_iff] at hkinds
        exact others_ne hkinds
      · obtain ⟨c', hc', hsame⟩ := List.mem_map.1 (hkinds ▸ List.mem_map_of_mem hc)
        exact hsame ▸ others_kind c' hc'

/-! ### Operation by operation -/

/-- The first authenticator comes with recovery codes, and further ones come behind them. -/
theorem passage_associate (hundo : s.Undoes) (hcodes : s.DrawsCodes) {caller : MfaCaller}
    {kind : AuthenticatorKind} {phone : Option PhoneNumber}
    {email profileEmail : Option EmailAddress} {outcome : Association}
    (hlist : Stocked s d.credential.authenticators)
    (h : Ends (associate s now caller kind phone email profileEmail) d (.ok outcome) d') :
    Passage s (.associate caller kind phone email profileEmail) (.association outcome)
      d.credential.authenticators d'.credential.authenticators := by
  obtain ⟨_, _, _, hkind, _, made, draw, hmade, hpending, _, hd'⟩ := associate_ok h
  have hother : outcome.authenticator.kind ≠ .recoveryCodes := hpending.kind_eq ▸ hkind
  rw [hd']
  unfold recoveryCodes? at hmade
  dsimp only
  generalize d.credential.authenticators = list at hlist hmade
  generalize hshown : outcome.recoveryCodes = shown at hmade
  cases hlist with
  | empty =>
    cases hmade with
    | made hstored =>
      exact .issued hshown rfl rfl rfl
        (Authenticator.opens_of_encrypted hundo (hcodes _) rfl hstored)
        (Authenticator.sound_of_codes hstored) hother
  | @codes codes others kind_eq sound others_ne others_kind =>
    rw [List.find?_cons_of_pos (by simpa using kind_eq)] at hmade
    cases hmade
    have hfirst : staying kind (codes :: others) = codes :: staying kind others :=
      List.filter_cons_of_pos (by simp [kind_eq, Ne.symm hkind])
    rw [List.append_nil, hfirst, List.cons_append]
    refine .lasting hshown nofun (.refl _) sound (by simp) fun a ha => ?_
    rcases List.mem_append.1 ha with ha | ha
    · exact others_kind a (List.mem_filter.1 ha).1
    · exact List.mem_singleton.1 ha ▸ hother

theorem passage_confirm {caller : MfaCaller} {kind : AuthenticatorKind} {oobCode : Option String}
    {typed : String} {u : Unit} (hlist : Stocked s d.credential.authenticators)
    (h : Ends (confirm s now caller kind oobCode typed) d (.ok u) d') :
    Passage s (.confirm caller kind oobCode typed) .done d.credential.authenticators
      d'.credential.authenticators := by
  obtain ⟨_, _, hkind, a, proved, ha, hproved, hd'⟩ := confirm_ok h
  have hfound := List.find?_some ha
  simp only [Bool.and_eq_true, decide_eq_true_eq] at hfound
  have hsame := Authenticator.kind_eq_of_factor (Authenticator.factor_of_proved hproved).1
  rw [hd']
  exact hlist.renewed ha hsame (fun hcodes => absurd (hfound.1.symm.trans hcodes) hkind) rfl nofun

theorem passage_challenge {caller : MfaCaller} {id : AuthenticatorId} {outcome : ChallengeOutcome}
    (hlist : Stocked s d.credential.authenticators)
    (h : Ends (challenge s now caller id) d (.ok outcome) d') :
    Passage s (.challenge caller id) (.challenge outcome) d.credential.authenticators
      d'.credential.authenticators := by
  obtain ⟨_, _, a, challenged, sent, ha, _, hchallenged, _, hd'⟩ := challenge_ok h
  rw [hd']
  refine hlist.renewed ha
    (Authenticator.kind_eq_of_factor (Authenticator.factor_of_challenged hchallenged).1)
    (fun hcodes => ?_) rfl nofun
  obtain rfl := Authenticator.eq_of_challenged hcodes hchallenged
  exact ⟨.refl _, hlist.sound (List.mem_of_find?_eq_some ha) hcodes⟩

theorem passage_verify (hundo : s.Undoes) {caller : MfaCaller} {kind : AuthenticatorKind}
    {oobCode : Option String} {typed : String} {u : Unit}
    (hlist : Stocked s d.credential.authenticators)
    (h : Ends (verify s now caller kind oobCode typed) d (.ok u) d') :
    Passage s (.verify caller kind oobCode typed) .done d.credential.authenticators
      d'.credential.authenticators := by
  obtain ⟨_, _, a, proved, ha, hproved, hd'⟩ := verify_ok h
  have hfound := List.find?_some ha
  simp only [Bool.and_eq_true, decide_eq_true_eq] at hfound
  rw [hd']
  split at hproved
  · rename_i hkind
    have hsound := hlist.sound (List.mem_of_find?_eq_some ha) (hfound.1.trans hkind)
    have hlasts := Authenticator.lasts_of_consumed hsound hproved
    exact hlist.renewed ha hlasts.kind_eq (fun _ => ⟨hlasts, hsound.consumed hundo hproved⟩)
      rfl nofun
  · rename_i hkind
    exact hlist.renewed ha
      (Authenticator.kind_eq_of_factor (Authenticator.factor_of_proved hproved).1)
      (fun hcodes => absurd (hfound.1.symm.trans hcodes) hkind) rfl nofun

/-- Removing an authenticator leaves the recovery codes in front, or removes them with the last of
the others. -/
theorem passage_disassociate {caller : MfaCaller} {id : AuthenticatorId} {u : Unit}
    (hlist : Stocked s d.credential.authenticators)
    (h : Ends (disassociate now caller id) d (.ok u) d') :
    Passage s (.disassociate caller id) .done d.credential.authenticators
      d'.credential.authenticators := by
  obtain ⟨_, a, ha, hkind, rfl⟩ := disassociate_ok h
  unfold authenticator? at ha
  dsimp only
  generalize d.credential.authenticators = list at hlist ha
  cases hlist with
  | empty => cases ha
  | @codes codes others kind_eq sound others_ne others_kind =>
    have hfirst : ¬codes.id = id := by
      intro hid
      rw [List.find?_cons_of_pos (by simpa using hid)] at ha
      exact hkind (Option.some.inj ha ▸ kind_eq)
    have hrest : ∀ b ∈ others.eraseP (fun b => b.id = id), b.kind ≠ .recoveryCodes :=
      fun b hb => others_kind b (List.eraseP_subset hb)
    rw [removed, List.eraseP_cons_of_neg (by simpa using hfirst)]
    split
    · rename_i hall
      -- behind the recovery codes nothing is left, so there was one authenticator only, the one
      -- that is removed
      have hnone : others.eraseP (fun b => b.id = id) = [] := by
        refine List.eq_nil_iff_forall_not_mem.2 fun b hb => hrest b hb ?_
        exact of_decide_eq_true (List.all_eq_true.1 hall b (List.mem_cons_of_mem _ hb))
      rcases List.eraseP_eq_nil_iff.1 hnone with hnil | ⟨other, hid, rfl⟩
      · exact absurd hnil others_ne
      · obtain rfl := of_decide_eq_true hid
        exact .removed rfl (.last rfl)
    · rename_i hothers
      refine .lasting rfl ?_ (.refl _) sound (fun hnone => hothers (by simp [hnone, kind_eq])) hrest
      intro hremoves
      cases hremoves with
      | last alone =>
        obtain ⟨rfl, rfl⟩ := List.cons.inj alone
        exact hothers (by simp [kind_eq])

/-- Every operation that succeeds takes the list of authenticators one passage further. -/
theorem passage_perform (hundo : s.Undoes) (hcodes : s.DrawsCodes)
    (hlist : Stocked s d.credential.authenticators)
    (h : Ends (perform s now action) d (.ok answer) d') :
    Passage s action answer d.credential.authenticators d'.credential.authenticators := by
  cases action with
  | setPassword password =>
    obtain ⟨_, hdone, rfl⟩ := answered_as h
    obtain ⟨_, _, _, hd'⟩ := setPassword_ok hdone
    rw [hd']
    exact hlist.same (by simp) (fun h => by cases h)
  | hasPassword password =>
    obtain ⟨_, hdone, rfl⟩ := answered_as h
    obtain ⟨_, _, _, hd'⟩ := hasPassword_ok hdone
    rw [hd']
    exact hlist.same (by simp) (fun h => by cases h)
  | setDetails email displayName =>
    obtain ⟨_, hdone, rfl⟩ := answered_as h
    rw [setDetails_ok_iff.1 hdone]
    exact hlist.same (by simp) (fun h => by cases h)
  | initiateRegistration =>
    obtain ⟨_, hdone, rfl⟩ := answered_as h
    obtain ⟨_, _, _, hd'⟩ := initiateRegistration_ok hdone
    rw [hd']
    exact hlist.same (by simp) (fun h => by cases h)
  | verifyRegistration =>
    obtain ⟨_, hdone, rfl⟩ := answered_as h
    obtain ⟨_, hd'⟩ := verifyRegistration_ok hdone
    rw [hd']
    exact hlist.same (by simp) (fun h => by cases h)
  | changeMfa caller isEnabled =>
    obtain ⟨_, hdone, rfl⟩ := answered_as h
    obtain ⟨_, _, hd'⟩ := changeMfa_ok hdone
    rw [hd']
    exact hlist.same (by simp) (fun h => by cases h)
  | enforceMfa caller =>
    obtain ⟨_, hdone, rfl⟩ := answered_as h
    obtain ⟨_, hd'⟩ := enforceMfa_ok hdone
    rw [hd']
    exact hlist.same (by simp) (fun h => by cases h)
  | resetMfa caller =>
    obtain ⟨_, hdone, rfl⟩ := answered_as h
    obtain ⟨_, hd'⟩ := resetMfa_ok hdone
    rw [hd']
    dsimp only
    generalize d.credential.authenticators = list at hlist
    cases hlist with
    | empty => exact .without (by simp)
    | codes _ _ _ _ => exact .removed rfl .reset
  | initiateMfa =>
    obtain ⟨_, hdone, rfl⟩ := answered_as h
    obtain ⟨_, _, _, _, hd'⟩ := initiateMfa_ok hdone
    rw [hd']
    exact hlist.same (by simp) (fun h => by cases h)
  | authorize caller =>
    obtain ⟨_, hdone, rfl⟩ := answered_as h
    rw [(authorize_ok_iff.1 hdone).2]
    exact hlist.same (by simp) (fun h => by cases h)
  | viewAuthenticators caller =>
    obtain ⟨_, hdone, rfl⟩ := answered_as h
    rw [(viewAuthenticators_ok_iff.1 hdone).2.2]
    exact hlist.same (by simp) (fun h => by cases h)
  | associate caller kind phone email profileEmail =>
    obtain ⟨_, hdone, rfl⟩ := answered_as h
    exact passage_associate hundo hcodes hlist hdone
  | confirm caller kind oobCode typed =>
    obtain ⟨_, hdone, rfl⟩ := answered_as h
    exact passage_confirm hlist hdone
  | challenge caller id =>
    obtain ⟨_, hdone, rfl⟩ := answered_as h
    exact passage_challenge hlist hdone
  | verify caller kind oobCode typed =>
    obtain ⟨_, hdone, rfl⟩ := answered_as h
    exact passage_verify hundo hlist hdone
  | disassociate caller id =>
    obtain ⟨_, hdone, rfl⟩ := answered_as h
    exact passage_disassociate hlist hdone

/-! ### Courses of operations -/

/-- An operation goes through on a desk, with an answer. -/
def Goes (s : Services) (d : Desk) (operation : Instant × Action) (answer : Answer) : Prop :=
  (run s operation.1 operation.2 d).1 = .ok answer

/-- An operation that goes through takes the list one passage further. -/
theorem passage_step {operation : Instant × Action} (hundo : s.Undoes) (hcodes : s.DrawsCodes)
    (hlist : Stocked s d.credential.authenticators) (h : Goes s d operation answer) :
    Passage s operation.2 answer d.credential.authenticators
      (step s d operation).credential.authenticators := by
  have hrun : run s operation.1 operation.2 d = (.ok answer, (run s operation.1 operation.2 d).2) :=
    Prod.ext h rfl
  rw [step, hrun]
  exact passage_perform hundo hcodes hlist hrun

/-- An operation that is refused leaves the credential as it is. -/
theorem step_of_refused {operation : Instant × Action} (h : ∀ answer, ¬Goes s d operation answer) :
    (step s d operation).credential = d.credential := by
  unfold step
  split
  · rename_i answer d' hrun
    exact absurd (congrArg Prod.fst hrun) (h answer)
  · rfl

theorem stocked_step {operation : Instant × Action} (hundo : s.Undoes) (hcodes : s.DrawsCodes)
    (hlist : Stocked s d.credential.authenticators) :
    Stocked s (step s d operation).credential.authenticators := by
  by_cases hgoes : ∃ answer, Goes s d operation answer
  · obtain ⟨answer, hgoes⟩ := hgoes
    exact (passage_step hundo hcodes hlist hgoes).stocked hlist
  · rw [step_of_refused fun answer h => hgoes ⟨answer, h⟩]
    exact hlist

theorem stocked_course {operations : List (Instant × Action)} (hundo : s.Undoes)
    (hcodes : s.DrawsCodes) (hlist : Stocked s d.credential.authenticators) :
    Stocked s (course s d operations).credential.authenticators := by
  induction operations generalizing d with
  | nil => exact hlist
  | cons operation rest ih => exact ih (stocked_step hundo hcodes hlist)

/-- The recovery codes of a credential are there, with as many of them consumed as before or
more. -/
def Keeps (codes : Authenticator) (c : Credential) : Prop :=
  ∃ codes', c.recoveryCodes? = some codes' ∧ codes.Lasts codes'

/-- In a course of operations there is one that goes through and removes recovery codes that lasted
up to it, and nothing is left. -/
def RemovedIn (s : Services) (d : Desk) (codes : Authenticator)
    (operations : List (Instant × Action)) : Prop :=
  ∃ before operation after answer, operations = before ++ operation :: after ∧
    Keeps codes (course s d before).credential ∧ Goes s (course s d before) operation answer ∧
    operation.2.RemovesCodes (course s d before).credential.authenticators ∧
    (step s (course s d before) operation).credential.authenticators = []

/-- How recovery codes come and go from a desk on. -/
structure Lifecycle (s : Services) (d : Desk) : Prop where
  only : ∀ a ∈ d.credential.authenticators, a.kind = .recoveryCodes →
    d.credential.recoveryCodes? = some a
  shown : ∀ operation outcome, Goes s d operation (.association outcome) →
    (outcome.recoveryCodes.isSome = true ↔ d.credential.authenticators = [])
  issued : ∀ operation outcome codes, Goes s d operation (.association outcome) →
    outcome.recoveryCodes = some codes →
      ∃ a, (step s d operation).credential.recoveryCodes? = some a ∧ a.isActive = true ∧
        a.consumedCodes = [] ∧ a.Opens s codes
  removed : ∀ operation answer codes, Goes s d operation answer →
    d.credential.recoveryCodes? = some codes →
    operation.2.RemovesCodes d.credential.authenticators →
    (step s d operation).credential.authenticators = []
  lasting : ∀ operations codes, d.credential.recoveryCodes? = some codes →
    Keeps codes (course s d operations).credential ∨ RemovedIn s d codes operations

/-- In front of a list stand the recovery codes. -/
theorem recoveryCodes?_of_front {c : Credential} {codes : Authenticator}
    {others : List Authenticator} (hlist : c.authenticators = codes :: others)
    (hkind : codes.kind = .recoveryCodes) :
    c.recoveryCodes? = some codes := by
  rw [recoveryCodes?, hlist, List.find?_cons_of_pos (by simpa using hkind)]

/-- The recovery codes that are there stand in front. -/
theorem Stocked.front {c : Credential} {codes : Authenticator} (h : Stocked s c.authenticators)
    (hcodes : c.recoveryCodes? = some codes) :
    ∃ others, c.authenticators = codes :: others ∧ codes.kind = .recoveryCodes := by
  generalize hlist : c.authenticators = list at h
  cases h with
  | empty =>
    rw [recoveryCodes?, hlist] at hcodes
    cases hcodes
  | @codes first others kind_eq _ _ _ =>
    obtain rfl := Option.some.inj ((recoveryCodes?_of_front hlist kind_eq).symm.trans hcodes)
    exact ⟨others, rfl, kind_eq⟩

/-- Recovery codes stay in one step, or the operation removes them and leaves nothing. -/
theorem keeps_or_removes {operation : Instant × Action} {codes : Authenticator} (hundo : s.Undoes)
    (hcodes : s.DrawsCodes) (hlist : Stocked s d.credential.authenticators)
    (hgoes : Goes s d operation answer) (hthere : d.credential.recoveryCodes? = some codes) :
    Keeps codes (step s d operation).credential ∧
      ¬operation.2.RemovesCodes d.credential.authenticators ∨
      operation.2.RemovesCodes d.credential.authenticators ∧
      (step s d operation).credential.authenticators = [] := by
  obtain ⟨others, hfront, hkind⟩ := hlist.front hthere
  have hpassage := passage_step hundo hcodes hlist hgoes
  rw [hfront] at hpassage ⊢
  generalize hlist' : (step s d operation).credential.authenticators = list' at hpassage
  cases hpassage with
  | lasting _ stays lasts _ _ _ =>
    exact Or.inl ⟨⟨_, recoveryCodes?_of_front hlist' (lasts.kind_eq.trans hkind), lasts⟩, stays⟩
  | removed _ removes => exact Or.inr ⟨removes, rfl⟩

/-- Recovery codes last along a course until an operation removes them. -/
theorem keeps_course (hundo : s.Undoes) (hcodes : s.DrawsCodes)
    (hlist : Stocked s d.credential.authenticators) {codes : Authenticator}
    (hkeeps : Keeps codes d.credential) (operations : List (Instant × Action)) :
    Keeps codes (course s d operations).credential ∨ RemovedIn s d codes operations := by
  induction operations generalizing d with
  | nil => exact Or.inl hkeeps
  | cons operation rest ih =>
    have hnext : Stocked s (step s d operation).credential.authenticators :=
      stocked_step hundo hcodes hlist
    -- either it is this operation by which the codes go, or they are there for those that follow
    have hstep : Keeps codes (step s d operation).credential ∨
        ∃ answer, Goes s d operation answer ∧ operation.2.RemovesCodes d.credential.authenticators ∧
          (step s d operation).credential.authenticators = [] := by
      by_cases hgoes : ∃ answer, Goes s d operation answer
      · obtain ⟨answer, hgoes⟩ := hgoes
        obtain ⟨codes', hthere, hlasts⟩ := hkeeps
        rcases keeps_or_removes hundo hcodes hlist hgoes hthere with
          ⟨⟨codes'', hthere', hlasts'⟩, _⟩ | hremoves
        · exact Or.inl ⟨codes'', hthere', hlasts.trans hlasts'⟩
        · exact Or.inr ⟨answer, hgoes, hremoves⟩
      · rw [step_of_refused fun answer h => hgoes ⟨answer, h⟩]
        exact Or.inl hkeeps
    rcases hstep with hkeeps' | ⟨answer, hgoes, hremoves⟩
    · rcases ih hnext hkeeps' with
        hend | ⟨before, removing, after, answer, rfl, hbefore, hgoes, hremoves⟩
      · exact Or.inl hend
      · exact Or.inr ⟨operation :: before, removing, after, answer, rfl, hbefore, hgoes, hremoves⟩
    · exact Or.inr ⟨[], operation, rest, answer, rfl, hkeeps, hgoes, hremoves⟩

/-- Recovery codes come and go in this way wherever the authenticators are stocked. -/
theorem lifecycle_of_stocked (hundo : s.Undoes) (hcodes : s.DrawsCodes)
    (hlist : Stocked s d.credential.authenticators) : Lifecycle s d where
  only := by
    intro a ha hkind
    generalize hfront : d.credential.authenticators = list at hlist ha
    cases hlist with
    | empty => cases ha
    | codes kind_eq _ _ others_kind =>
      rcases List.mem_cons.1 ha with rfl | ha
      · exact recoveryCodes?_of_front hfront kind_eq
      · exact absurd hkind (others_kind a ha)
  shown := by
    intro operation outcome hgoes
    have hpassage := passage_step hundo hcodes hlist hgoes
    generalize (step s d operation).credential.authenticators = list' at hpassage
    generalize d.credential.authenticators = list at hpassage
    cases hpassage with
    | without adds => exact absurd rfl (adds outcome)
    | issued told _ _ _ _ _ _ => exact iff_of_true (Option.isSome_iff_exists.2 ⟨_, told⟩) rfl
    | lasting told _ _ _ _ _ =>
      have hnone : outcome.recoveryCodes = none := told
      exact iff_of_false (by simp [hnone]) nofun
    | removed told _ =>
      have hnone : outcome.recoveryCodes = none := told
      exact iff_of_false (by simp [hnone]) nofun
  issued := by
    intro operation outcome codes hgoes hshown
    have hpassage := passage_step hundo hcodes hlist hgoes
    generalize hlist' : (step s d operation).credential.authenticators = list' at hpassage
    generalize d.credential.authenticators = list at hpassage
    cases hpassage with
    | without adds => exact absurd rfl (adds outcome)
    | issued told kind_eq active unused opens _ _ =>
      obtain rfl := Option.some.inj (hshown.symm.trans told)
      refine ⟨_, recoveryCodes?_of_front hlist' kind_eq, active, ?_, opens⟩
      rw [Authenticator.consumedCodes, unused]
      rfl
    | lasting told _ _ _ _ _ => cases hshown.symm.trans told
    | removed told _ => cases hshown.symm.trans told
  removed := by
    intro operation answer codes hgoes hthere hremoves
    rcases keeps_or_removes hundo hcodes hlist hgoes hthere with ⟨_, hstays⟩ | ⟨_, hnone⟩
    · exact absurd hremoves hstays
    · exact hnone
  lasting :=
    fun operations codes hthere => keeps_course hundo hcodes hlist
      ⟨codes, hthere, .refl codes⟩ operations

/-- Recovery codes come and go in this way after every course of operations on a new credential,
whoever asks for them and whatever is refused, if what is decrypted is what was encrypted and each
code is one. -/
theorem lifecycle_course (hundo : s.Undoes) (hcodes : s.DrawsCodes) (id : CredentialId)
    (user : UserId) (n : Draws) (operations : List (Instant × Action)) :
    Lifecycle s (course s ⟨create id user, n⟩ operations) :=
  lifecycle_of_stocked hundo hcodes (stocked_course hundo hcodes .empty)

/-- The codes of the script are codes. -/
theorem drawsCodes_sample : Script.sample.services.DrawsCodes := by
  have hlisted :
    ∀ code ∈ ["AAAA", "BBBB"], code ≠ "" ∧ RecoveryCode.separator ∉ code.toList := by decide
  exact fun _ => hlisted

theorem lifecycle_sample :
    Script.sample.services.Undoes ∧ Script.sample.services.DrawsCodes ∧
      (sample.recoveryCodes?.map Authenticator.consumedCodes) = some ["AAAA"] ∧
      Lifecycle Script.sample.services
        (course Script.sample.services ⟨create ⟨⟨2#128⟩⟩ ⟨⟨1#128⟩⟩, .none⟩ sampleCourse) :=
  ⟨Script.undoes, drawsCodes_sample, by decide +kernel,
    lifecycle_course Script.undoes drawsCodes_sample _ _ _ _⟩

end Credential

end TenantAuth
