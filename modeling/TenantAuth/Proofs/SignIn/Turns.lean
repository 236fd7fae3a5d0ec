import TenantAuth.Proofs.SignIn.Conduct

/-!
Courses of requests.

Requests are handled one after the other, each in the world that the one before left. Every turn
keeps the world before and after it, so that what was asked of others in its course can be read off
the journal. A turn settles the sign-in token of a user when it stores a credential of theirs with
another token, or with none.
-/

namespace TenantAuth.SignIn

variable {ω : Type}

/-- A request with who makes it and when. -/
structure Call where
  now : Instant
  caller : Caller
  request : Request
  deriving DecidableEq

/-- A call with the world before it, the reply, and the world afterwards. -/
structure Turn (ω : Type) extends Call where
  before : World ω
  reply : Except Fault Reply
  after : World ω

/-- The turn of a call in a world. -/
def turn (s : Services) (k : Collaborators ω) (w : World ω) (call : Call) : Turn ω :=
  ⟨call, w, (run s k call.now call.caller call.request w).1,
    (run s k call.now call.caller call.request w).2⟩

/-- The turns of calls, one after the other. -/
def turns (s : Services) (k : Collaborators ω) (w : World ω) : List Call → List (Turn ω)
  | [] => []
  | call :: rest => turn s k w call :: turns s k (turn s k w call).after rest

/-- The world after calls. -/
def final (s : Services) (k : Collaborators ω) (w : World ω) (calls : List Call) : World ω :=
  calls.foldl (fun w call => (turn s k w call).after) w

/-- What was asked of others in a turn. -/
def Turn.asked (t : Turn ω) : List Exchange := t.after.journal.drop t.before.journal.length

/-- Whether a request leaves another sign-in token outstanding, or none, when it succeeds. -/
def Request.ReplacesToken (caller : Caller) : Request → Prop
  | .authenticate _ _ => True
  | .resetMfa _ => True
  | .confirm _ _ _ _ => caller.userId = none
  | .verify _ _ _ _ => True
  | _ => False

/-- A turn stores a credential of a user, and replaces its sign-in token. -/
def Turn.Settles (t : Turn ω) (user : UserId) : Prop :=
  t.request.ReplacesToken t.caller ∧ ∃ c, c.userId = user ∧ ⟨.save c, none⟩ ∈ t.asked

variable {s : Services} {k : Collaborators ω} {w : World ω}

/-- A turn is that of a call in the world after the calls before. -/
theorem turns_getElem? {calls : List Call} {i : Nat} {t : Turn ω}
    (h : (turns s k w calls)[i]? = some t) :
    ∃ call, t = turn s k (final s k w (calls.take i)) call := by
  induction calls generalizing w i with
  | nil => cases h
  | cons call rest ih =>
    cases i with
    | zero => exact ⟨call, (Option.some.inj h).symm⟩
    | succ i => exact ih h

/-- A turn starts where the one before ended. -/
theorem before_eq_after {calls : List Call} {i : Nat} {t t' : Turn ω}
    (h : (turns s k w calls)[i]? = some t) (h' : (turns s k w calls)[i + 1]? = some t') :
    t'.before = t.after := by
  induction calls generalizing w i with
  | nil => cases h
  | cons call rest ih =>
    cases i with
    | zero =>
      cases rest with
      | nil => cases h'
      | cons next rest =>
        obtain rfl := Option.some.inj h
        obtain rfl := Option.some.inj h'
        rfl
    | succ i => exact ih h h'

/-- The first turns are those of the first calls. -/
theorem take_turns (calls : List Call) (i : Nat) :
    (turns s k w calls).take i = turns s k w (calls.take i) := by
  induction calls generalizing w i with
  | nil => rw [turns, List.take_nil, List.take_nil, turns]
  | cons call rest ih =>
    cases i with
    | zero => rfl
    | succ i => rw [turns, List.take_succ_cons, ih, List.take_succ_cons, turns]

/-- What was asked is what the journal grew by. -/
theorem asked_eq {t : Turn ω} {more : List Exchange}
    (h : t.after.journal = t.before.journal ++ more) : t.asked = more := by
  rw [Turn.asked, h, List.drop_left]

/-- What a turn came to. -/
abbrev Turn.Comes (s : Services) (k : Collaborators ω) (kept : ω → Kept) (t : Turn ω) : Prop :=
  Conduct s k kept t.now t.caller t.before t.after t.request t.reply

/-- Every turn comes to what the handling of its request can come to. -/
theorem comes_turn {kept : ω → Kept} (hk : Keeps k kept) (w : World ω) (call : Call) :
    (turn s k w call).Comes s k kept :=
  conduct_handle hk rfl

theorem comes_of_getElem? {kept : ω → Kept} (hk : Keeps k kept) {calls : List Call}
    {i : Nat} {t : Turn ω} (h : (turns s k w calls)[i]? = some t) : t.Comes s k kept := by
  obtain ⟨call, rfl⟩ := turns_getElem? h
  exact comes_turn hk _ call

/-- An operation replaces a token where its request does. -/
theorem replacesToken_iff {caller : Caller} {c : Credential} {request : Request}
    {action : Credential.Action} (h : Acts caller c request action) :
    action.ReplacesToken ↔ request.ReplacesToken caller := by
  cases h with
  | confirm speaks =>
    cases speaks with
    | owner signedIn =>
      simp [Credential.Action.ReplacesToken, Request.ReplacesToken, MfaCaller.authenticated,
        MfaCaller.isAnonymous, signedIn]
    | bearer anonymous =>
      simp [Credential.Action.ReplacesToken, Request.ReplacesToken, MfaCaller.anonymous,
        MfaCaller.isAnonymous, anonymous]
  | _ => exact Iff.rfl

/-- A request that ends a sign-in replaces the token. -/
theorem Request.EndsSignIn.replacesToken {caller : Caller} {request : Request}
    (h : request.EndsSignIn caller) : request.ReplacesToken caller := by
  cases request with
  | confirm => exact h
  | verify => trivial
  | _ => exact False.elim h

end TenantAuth.SignIn
