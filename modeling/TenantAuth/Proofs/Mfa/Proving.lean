import TenantAuth.Mfa.Possession
import TenantAuth.Proofs.Steps

/-!
What making, proving and challenging an authenticator comes to, once it succeeds.

A proof is said without the steps that check it: a code whose step is accepted for the secret, the
code and the secret of the outstanding challenge, or a recovery code that was not consumed. A proof
leaves the identifier and the contents of an authenticator as they were; it changes only what is
used up.
-/

namespace TenantAuth

variable {s : Services} {n n' : Draws} {α ε : Type}

namespace Services

/-- No identifier was drawn twice, among the first draws. -/
def Distinct (s : Services) (count : Nat) : Prop :=
  ∀ draw < count, ∀ draw' < count, s.authenticatorId draw = s.authenticatorId draw' → draw = draw'

theorem Distinct.mono {count count' : Nat} (h : s.Distinct count') (hle : count ≤ count') :
    s.Distinct count :=
  fun draw hdraw draw' hdraw' => h draw (Nat.lt_of_lt_of_le hdraw hle) draw'
    (Nat.lt_of_lt_of_le hdraw' hle)

/-- Whatever is decrypted is what was encrypted. -/
def Undoes (s : Services) : Prop :=
  ∀ use use' text stored opened,
    s.encrypt use text = .ok stored → s.decrypt use' stored = .ok opened → opened = text

/-- A use of a service answers what the service answers at its number. -/
theorem request_ok_iff {wording : ε → String} {answer : Nat → Except ε α} {a : α} :
    Ends (nextUse >>= fun use => unexpected wording (answer use)) n (.ok a) n' ↔
      answer n.uses = .ok a ∧ n' = { n with uses := n.uses + 1 } := by
  simp [nextUse, and_assoc]

@[simp] theorem requestBarcodeUri_ok_iff {secret account uri : String} :
    Ends (s.requestBarcodeUri secret account) n (.ok uri) n' ↔
      s.barcodeUri n.uses secret account = .ok uri ∧ n' = { n with uses := n.uses + 1 } :=
  request_ok_iff

@[simp] theorem requestVerdict_ok_iff {secret typed : String} {recent : List Nat}
    {verdict : Totp.Verdict} : Ends (s.requestVerdict secret recent typed) n (.ok verdict) n' ↔
      s.verifyTotp n.uses secret recent typed = .ok verdict ∧
      n' = { n with uses := n.uses + 1 } := by
  have hanswer {answer : Except Totp.Fault Totp.Verdict} :
      answer.mapError Totp.Fault.toFault = .ok verdict ↔ answer = .ok verdict := by
    cases answer with
    | ok given =>
      change (.ok given : Except Fault Totp.Verdict) = .ok verdict ↔ _
      rw [Except.ok.injEq, Except.ok.injEq]
    | error _ => exact ⟨nofun, nofun⟩
  simp [requestVerdict, nextUse, hanswer, and_assoc]

@[simp] theorem requestEncryption_ok_iff {text stored : String} :
    Ends (s.requestEncryption text) n (.ok stored) n' ↔
      s.encrypt n.uses text = .ok stored ∧ n' = { n with uses := n.uses + 1 } :=
  request_ok_iff

@[simp] theorem requestDecryption_ok_iff {stored text : String} :
    Ends (s.requestDecryption stored) n (.ok text) n' ↔
      s.decrypt n.uses stored = .ok text ∧ n' = { n with uses := n.uses + 1 } :=
  request_ok_iff

@[simp] theorem requestHash_ok_iff {password hash : String} :
    Ends (s.requestHash password) n (.ok hash) n' ↔
      s.hashPassword n.uses password = .ok hash ∧ n' = { n with uses := n.uses + 1 } :=
  request_ok_iff

@[simp] theorem requestMatch_ok_iff {password stored : String} {isRight : Bool} :
    Ends (s.requestMatch password stored) n (.ok isRight) n' ↔
      s.verifyPassword n.uses password stored = .ok isRight ∧ n' = { n with uses := n.uses + 1 } :=
  request_ok_iff

end Services

/-- What identifies an authenticator for good: all but whether it is active, what is used up of it,
and the challenge that awaits an answer. -/
structure Factor where
  id : AuthenticatorId
  material : Material
  deriving DecidableEq

/-- A material without the challenge that awaits an answer. -/
def Material.lasting : Material → Material
  | .outOfBand contact _ => .outOfBand contact none
  | material => material

namespace Authenticator

variable {a a' : Authenticator}

/-- What stays of an authenticator as long as it is there. -/
def factor (a : Authenticator) : Factor := ⟨a.id, a.material.lasting⟩

/-- The kind of an authenticator is part of what stays. -/
theorem kind_eq_of_factor (h : a'.factor = a.factor) : a'.kind = a.kind := by
  have hm : a'.material.lasting = a.material.lasting := congrArg Factor.material h
  have hk (m : Material) : m.lasting.kind = m.kind := by cases m <;> rfl
  rw [kind, kind, ← hk, ← hk a.material, hm]

/-- What is typed proves that someone holds an authenticator. -/
inductive Proves (s : Services) (a : Authenticator) (oobCode : Option String)
    (typed : String) : Prop
  | totp {stored uri secret : String} {use use' step : Nat} (made : a.material = .totp stored uri)
      (opened : s.decrypt use stored = .ok secret)
      (accepted : s.verifyTotp use' secret (Totp.Memory.read a.usedUp) typed = .ok (.valid step))
  | outOfBand {contact : Contact} {challenge : Challenge} {use : Nat}
      (made : a.material = .outOfBand contact (some challenge))
      (named : oobCode = some challenge.code)
      (opened : s.decrypt use challenge.secret = .ok (Text.trimmed typed))
  | recoveryCode {stored text : String} {use : Nat} (made : a.material = .recoveryCodes stored)
      (opened : s.decrypt use stored = .ok text)
      (listed : RecoveryCode.normalize typed ∈ RecoveryCode.split text)
      (unused : RecoveryCode.normalize typed ∉ a.consumedCodes)

/-! ### Making -/

@[simp] theorem create_ok_iff {isActive : Bool} {material : Material} :
    Ends (create s isActive material) n (.ok a) n' ↔
      a = ⟨s.authenticatorId n.authenticatorIds, isActive, none, material⟩ ∧
        n' = { n with authenticatorIds := n.authenticatorIds + 1 } := by
  simp [create, Services.drawAuthenticatorId, and_comm]

/-- Recovery codes are made active, and under an identifier that is drawn for them. -/
theorem ofRecoveryCodes_ok {codes : List String} (h : Ends (ofRecoveryCodes s codes) n (.ok a) n') :
    ∃ stored, s.encrypt n.uses (RecoveryCode.join codes) = .ok stored ∧
      a = ⟨s.authenticatorId n.authenticatorIds, true, none, .recoveryCodes stored⟩ ∧
      n'.authenticatorIds = n.authenticatorIds + 1 := by
  simp only [ofRecoveryCodes, Ends.bind_ok_iff, Services.requestEncryption_ok_iff,
    create_ok_iff] at h
  obtain ⟨stored, _, ⟨hstored, rfl⟩, rfl, rfl⟩ := h
  exact ⟨stored, hstored, rfl, rfl⟩

/-- An authenticator of time-based codes is made pending. -/
theorem ofSecret_ok {secret uri : String} (h : Ends (ofSecret s secret uri) n (.ok a) n') :
    ∃ stored, s.encrypt n.uses secret = .ok stored ∧
      a = ⟨s.authenticatorId n.authenticatorIds, false, none, .totp stored uri⟩ ∧
      n'.authenticatorIds = n.authenticatorIds + 1 := by
  simp only [ofSecret, Ends.bind_ok_iff, Services.requestEncryption_ok_iff, create_ok_iff] at h
  obtain ⟨stored, _, ⟨hstored, rfl⟩, rfl, rfl⟩ := h
  exact ⟨stored, hstored, rfl, rfl⟩

/-- An authenticator that is reached out-of-band is made pending, with a challenge. -/
theorem ofContact_ok {contact : Contact} {code secret : String}
    (h : Ends (ofContact s contact code secret) n (.ok a) n') :
    ∃ stored, s.encrypt n.uses secret = .ok stored ∧
      a = ⟨s.authenticatorId n.authenticatorIds, false, none, .outOfBand contact
        (some ⟨code, stored⟩)⟩ ∧
      n'.authenticatorIds = n.authenticatorIds + 1 := by
  simp only [ofContact, Ends.bind_ok_iff, Services.requestEncryption_ok_iff, create_ok_iff] at h
  obtain ⟨stored, _, ⟨hstored, rfl⟩, rfl, rfl⟩ := h
  exact ⟨stored, hstored, rfl, rfl⟩

/-! ### In hand -/

section Held

variable {h h' : Held} {β : Type}

@[simp] theorem current_ok_iff {a : Authenticator} :
    Ends current h (.ok a) h' ↔ a = h.authenticator ∧ h' = h := by
  change (Except.ok h.authenticator, h) = (.ok a, h') ↔ _
  rw [Prod.mk.injEq, Except.ok.injEq, eq_comm, eq_comm (b := h')]

theorem current_bind_iff {k : Authenticator → AuthenticatorM β} {r : Except Fault β} :
    Ends (current >>= k) h r h' ↔ Ends (k h.authenticator) h r h' :=
  Iff.rfl

@[simp] theorem update_iff {f : Authenticator → Authenticator} {r : Except Fault Unit} :
    Ends (update f) h r h' ↔ r = .ok () ∧ h' = { h with authenticator := f h.authenticator } := by
  change (Except.ok (), { h with authenticator := f h.authenticator }) = (r, h') ↔ _
  rw [Prod.mk.injEq, eq_comm, eq_comm (a := h')]

/-- Using a service does not touch the authenticator, whatever comes of it. -/
theorem use_iff {step : ServiceM α} {r : Except Fault α} :
    Ends (use step) h r h' ↔ ∃ n, Ends step h.draws r n ∧ h' = ⟨h.authenticator, n⟩ := by
  constructor
  · intro hused
    obtain ⟨rfl, rfl⟩ := Prod.mk.inj hused
    exact ⟨_, rfl, rfl⟩
  · rintro ⟨n, hstep, rfl⟩
    change ((step.run.run h.draws).1, Held.mk h.authenticator (step.run.run h.draws).2) = _
    rw [hstep]

@[simp] theorem looks_current : Looks Held.authenticator current := by
  intro h r h' hends
  rw [show h' = h from (congrArg Prod.snd hends).symm]
  exact rfl

@[simp] theorem looks_use (step : ServiceM α) : Looks Held.authenticator (use step) := by
  intro h r h' hends
  obtain ⟨n, _, rfl⟩ := use_iff.1 hends
  exact rfl

@[simp] theorem refusedOnly_update {reason : Fault → Prop} (f : Authenticator → Authenticator) :
    RefusedOnly reason (update f) :=
  fun _ _ _ hends => nomatch (update_iff.1 hends).1

theorem allOrNothing_update (f : Authenticator → Authenticator) :
    AllOrNothing Held.authenticator (update f) :=
  NeverRefused.allOrNothing (refusedOnly_update f)

end Held

/-! ### Proving and challenging -/

/-- The authenticator with one more step remembered. -/
def remembering (s : Services) (step : Nat) (a : Authenticator) : Authenticator :=
  { a with usedUp := some (Totp.Memory.toText
    (Totp.Memory.record (Totp.Memory.read a.usedUp) step s.rememberedSteps)) }

@[simp] theorem remembering_material {step : Nat} :
    (a.remembering s step).material = a.material := rfl

/-- A code is proved if a step is accepted for it, which is remembered then. -/
theorem proveTotp_ok_iff {typed : String} :
    Ends (proveTotp s typed) ⟨a, n⟩ (.ok ()) ⟨a', n'⟩ ↔
      ∃ stored uri secret step, a.material = .totp stored uri ∧
        s.decrypt n.uses stored = .ok secret ∧ s.verifyTotp (n.uses + 1) secret
        (Totp.Memory.read a.usedUp) typed = .ok (.valid step) ∧
        a' = a.remembering s step ∧ n' = { n with uses := n.uses + 2 } := by
  rw [proveTotp, current_bind_iff]
  cases hmade : a.material with
  | totp stored uri =>
    simp only [Ends.bind_ok_iff, use_iff, Services.requestDecryption_ok_iff,
      Services.requestVerdict_ok_iff, Material.totp.injEq]
    constructor
    · rintro ⟨secret, _, ⟨_, ⟨hopened, rfl⟩, rfl⟩, verdict, _, ⟨_, ⟨hverdict, rfl⟩, rfl⟩, hend⟩
      cases verdict with
      | valid step =>
        obtain ⟨_, hend⟩ := update_iff.1 hend
        obtain ⟨rfl, rfl⟩ := Held.mk.inj hend
        exact ⟨stored, uri, secret, step, ⟨rfl, rfl⟩, hopened, hverdict, rfl, rfl⟩
      | invalid => cases (Ends.throw_iff.1 hend).1
    · rintro ⟨_, _, secret, step, ⟨rfl, rfl⟩, hopened, hverdict, rfl, rfl⟩
      exact ⟨secret, _, ⟨_, ⟨hopened, rfl⟩, rfl⟩, .valid step, _, ⟨_, ⟨hverdict, rfl⟩, rfl⟩,
        update_iff.2 ⟨rfl, rfl⟩⟩
  | recoveryCodes | outOfBand => simp

/-- An out-of-band proof names the outstanding challenge and gives its secret, and uses it up. -/
theorem proveContact_ok_iff {code typed : String} :
    Ends (proveContact s code typed) ⟨a, n⟩ (.ok ()) ⟨a', n'⟩ ↔
      ∃ contact challenge, a.material = .outOfBand contact (some challenge) ∧
        challenge.code = code ∧ s.decrypt n.uses challenge.secret = .ok (Text.trimmed typed) ∧
        a' = { a with material := .outOfBand contact none } ∧
        n' = { n with uses := n.uses + 1 } := by
  rw [proveContact, current_bind_iff]
  rcases hmade : a.material with stored | ⟨stored, uri⟩ | ⟨contact, _ | challenge⟩
  · simp
  · simp
  · simp
  · simp only [Ends.bind_ok_iff, use_iff, Services.requestDecryption_ok_iff, Ends.ensure_ok_iff,
      Bool.and_eq_true, decide_eq_true_eq, update_iff, Held.mk.injEq, Material.outOfBand.injEq,
      Option.some.injEq]
    constructor
    · rintro ⟨secret, _, ⟨_, ⟨hopened, rfl⟩, rfl⟩, _, _, ⟨⟨hcode, rfl⟩, rfl⟩, _, rfl, rfl⟩
      exact ⟨contact, challenge, ⟨rfl, rfl⟩, hcode, hopened, rfl, rfl⟩
    · rintro ⟨_, _, ⟨rfl, rfl⟩, hcode, hopened, rfl, rfl⟩
      exact ⟨_, _, ⟨_, ⟨hopened, rfl⟩, rfl⟩, (), _, ⟨⟨hcode, rfl⟩, rfl⟩, trivial, rfl, rfl⟩

/-- Possession is proved by what the authenticator is made of, and this uses up the step or the
challenge. -/
theorem provePossession_ok {oobCode : Option String} {typed : String}
    (h : Ends (provePossession s oobCode typed) ⟨a, n⟩ (.ok ()) ⟨a', n'⟩) :
    Proves s a oobCode typed ∧
      ((∃ stored uri step, a.material = .totp stored uri ∧ a' = a.remembering s step) ∨
        ∃ contact challenge, a.material = .outOfBand contact (some challenge) ∧
          a' = { a with material := .outOfBand contact none }) := by
  rw [provePossession, current_bind_iff] at h
  split at h
  · obtain ⟨code, _, hcode, h⟩ := Ends.bind_ok_iff.1 h
    obtain ⟨rfl, rfl⟩ := Ends.demand_ok_iff.1 hcode
    obtain ⟨contact, challenge, hmade, rfl, hopened, rfl, _⟩ := proveContact_ok_iff.1 h
    exact ⟨.outOfBand hmade rfl hopened, Or.inr ⟨contact, challenge, hmade, rfl⟩⟩
  · obtain ⟨stored, uri, secret, step, hmade, hopened, haccepted, rfl, _⟩ := proveTotp_ok_iff.1 h
    exact ⟨.totp hmade hopened haccepted, Or.inl ⟨stored, uri, step, hmade, rfl⟩⟩

/-- A recovery code that is accepted is consumed. -/
theorem consumeRecoveryCode_ok {typed : String}
    (h : Ends (consumeRecoveryCode s typed) ⟨a, n⟩ (.ok ()) ⟨a', n'⟩) (oobCode : Option String) :
    Proves s a oobCode typed ∧ (∃ stored, a.material = .recoveryCodes stored) ∧
      a' = { a with usedUp := some (withConsumed a.usedUp (RecoveryCode.normalize typed)) } := by
  rw [consumeRecoveryCode, current_bind_iff] at h
  unfold decryptRecoveryCodes at h
  split at h
  · rename_i stored hmade
    simp only [Ends.bind_ok_iff, use_iff, Services.requestDecryption_ok_iff, Ends.ensure_ok_iff,
      Ends.pure_iff, update_iff, Bool.and_eq_true, Bool.not_eq_true', List.contains_eq_mem,
      decide_eq_true_eq,
      decide_eq_false_iff_not, Except.ok.injEq, Held.mk.injEq] at h
    obtain ⟨codes, _, ⟨_, ⟨text, _, ⟨hopened, rfl⟩, rfl, rfl⟩, rfl⟩, _, _,
      ⟨⟨hlisted, hunused⟩, rfl⟩, _, rfl, _⟩ := h
    exact ⟨.recoveryCode hmade hopened hlisted hunused, ⟨stored, hmade⟩, rfl⟩
  · simp [use_iff] at h

/-- A challenge replaces the one before and is sent to the contact; other kinds stay as they are. -/
theorem rechallenge_ok {sent : Option (String × Notification)}
    (h : Ends (rechallenge s) ⟨a, n⟩ (.ok sent) ⟨a', n'⟩) :
    (∃ contact old code secret stored use, a.material = .outOfBand contact old ∧
      s.encrypt use secret = .ok stored ∧
      a' = { a with material := .outOfBand contact (some ⟨code, stored⟩) } ∧
      sent = some (code, ⟨contact, secret, none⟩)) ∨
      a.kind.isOutOfBand = false ∧ a' = a ∧ sent = none := by
  rw [rechallenge, current_bind_iff] at h
  cases hmade : a.material with
  | outOfBand contact old =>
    simp only [hmade, Services.drawOobCode, Services.drawOobSecret, Ends.bind_ok_iff, use_iff,
      Ends.modifyGet_iff, Services.requestEncryption_ok_iff, update_iff, Ends.pure_iff,
      Except.ok.injEq] at h
    obtain ⟨code, _, ⟨_, ⟨rfl, rfl⟩, rfl⟩, secret, _, ⟨_, ⟨rfl, rfl⟩, rfl⟩, stored, _,
      ⟨_, ⟨hstored, rfl⟩, rfl⟩, _, _, ⟨_, rfl⟩, rfl, rfl, _⟩ := h
    exact Or.inl ⟨contact, old, _, _, stored, _, rfl, hstored, rfl, rfl⟩
  | recoveryCodes | totp =>
    simp only [hmade, Ends.pure_iff, Except.ok.injEq, Held.mk.injEq] at h
    exact Or.inr ⟨by rw [kind, hmade]; rfl, h.2.1, h.1⟩

/-- What stays of an authenticator stays through a proof. -/
theorem factor_of_proved {oobCode : Option String} {typed : String}
    (h : Ends (provePossession s oobCode typed) ⟨a, n⟩ (.ok ()) ⟨a', n'⟩) :
    a'.factor = a.factor ∧ a'.isActive = a.isActive := by
  rcases (provePossession_ok h).2 with ⟨_, _, _, hmade, rfl⟩ | ⟨_, _, hmade, rfl⟩
  · exact ⟨rfl, rfl⟩
  · exact ⟨by simp [factor, hmade, Material.lasting], rfl⟩

/-- What stays of an authenticator stays through a challenge. -/
theorem factor_of_challenged {sent : Option (String × Notification)}
    (h : Ends (rechallenge s) ⟨a, n⟩ (.ok sent) ⟨a', n'⟩) :
    a'.factor = a.factor ∧ a'.isActive = a.isActive := by
  rcases rechallenge_ok h with ⟨_, _, _, _, _, _, hmade, _, rfl, _⟩ | ⟨_, rfl, _⟩
  · exact ⟨by simp [factor, hmade, Material.lasting], rfl⟩
  · exact ⟨rfl, rfl⟩

/-! ### Refusals -/

/-- A proof that is refused leaves the authenticator as it was. -/
theorem allOrNothing_proveTotp (typed : String) :
    AllOrNothing Held.authenticator (proveTotp s typed) := by
  refine Looks.then looks_current fun a => ?_
  split
  · refine Looks.then (looks_use _) fun secret => Looks.then (looks_use _) fun verdict => ?_
    cases verdict with
    | valid step => exact allOrNothing_update _
    | invalid => exact Looks.allOrNothing (moves_throw _)
  · exact Looks.allOrNothing (moves_throw _)

theorem allOrNothing_proveContact (code typed : String) :
    AllOrNothing Held.authenticator (proveContact s code typed) := by
  refine Looks.then looks_current fun a => ?_
  split
  · refine Looks.then (looks_use _) fun secret => Looks.then (moves_ensure _ _) fun _ => ?_
    exact allOrNothing_update _
  · exact Looks.allOrNothing (moves_throw _)
  · exact Looks.allOrNothing (moves_throw _)

theorem allOrNothing_provePossession (oobCode : Option String) (typed : String) :
    AllOrNothing Held.authenticator (provePossession s oobCode typed) := by
  refine Looks.then looks_current fun a => allOrNothing_ite ?_ (allOrNothing_proveTotp typed)
  exact Looks.then (moves_demand _ _) fun code => allOrNothing_proveContact code typed

theorem allOrNothing_consumeRecoveryCode (typed : String) :
    AllOrNothing Held.authenticator (consumeRecoveryCode s typed) := by
  refine Looks.then looks_current fun a => Looks.then (looks_use _) fun codes => ?_
  exact Looks.then (moves_ensure _ _) fun _ => allOrNothing_update _

/-- A challenge that is refused leaves the authenticator as it was. -/
theorem allOrNothing_rechallenge : AllOrNothing Held.authenticator (rechallenge s) := by
  refine Looks.then looks_current fun a => ?_
  split
  · refine Looks.then (looks_use _) fun code => Looks.then (looks_use _) fun secret =>
      Looks.then (looks_use _) fun stored => ?_
    exact (allOrNothing_update _).answer _
  · exact Looks.allOrNothing (moves_pure _)

end Authenticator

end TenantAuth
