import Mathlib.Data.List.ReduceOption
import Mathlib.Order.Monotone.Defs
import Mathlib.Order.Nat
import TenantAuth.Mfa.Standard
import TenantAuth.Proofs.Mfa.Deciding
import TenantAuth.Proofs.Mfa.Recording
import TenantAuth.Proofs.Mfa.Rehearsal

/-!
Using the code of a time step more than once.

An authenticator remembers the steps whose codes were used, in the order of their use, and only the
latest of them. A step is forgotten when enough others were used after it, and while its code is in
the window it may then be used once more. So a step is used again only after as many neighbours of
it as are remembered. Three are too few for that never to happen: the step of a time and the ones
before and after it make room for one another, as soon as the next step comes into the window.
-/

namespace TenantAuth

namespace Totp

variable {codes : (time : Nat) → String} {recent : List Nat} {step other before time after : Nat}

/-- A step in the window of a time of sixty-four bits has sixty-four bits. -/
theorem Near.bounded (hnear : Near step time) (htime : time ≤ Text.maxUnsigned) :
    step ≤ Text.maxUnsigned := by
  have hstep : stepOf time ≤ Text.maxUnsigned / stepSeconds := Nat.div_le_div_right htime
  have hbound : Text.maxUnsigned / stepSeconds + 1 ≤ Text.maxUnsigned := by decide
  exact Nat.le_trans hnear.1 (Nat.le_trans (Nat.succ_le_succ hstep) hbound)

/-- What is accepted between two uses of a step is two steps away from it at most. -/
theorem Near.neighbour (hbefore : Near step before) (hother : Near other time)
    (hafter : Near step after) (h₁ : before ≤ time) (h₂ : time ≤ after) :
    other ≤ step + 2 ∧ step ≤ other + 2 := by
  have hfirst : stepOf before ≤ stepOf time := Nat.div_le_div_right h₁
  have hsecond : stepOf time ≤ stepOf after := Nat.div_le_div_right h₂
  unfold Near at hbefore hother hafter
  omega

/-- The code of a step in the window is accepted, if no other step of the window has it and the step
was not used recently. -/
theorem check_code (hfits : Fits (stepOf time + 1))
    (htyped : Text.trimmed (stepCode codes step) = stepCode codes step) (hnear : Near step time)
    (hcodes : ∀ other, Near other time → stepCode codes other = stepCode codes step → other = step)
    (hnew : step ∉ recent) :
    check codes recent (stepCode codes step) (window time) = .ok (.valid step) := by
  have htime : time < Nat.pow 2 64 :=
    Nat.lt_trans (Nat.lt_mul_of_div_lt (Nat.lt_succ_self _) (by decide)) hfits
  obtain ⟨found, hdecides⟩ := exists_decides hnear htyped.symm
  obtain rfl : found = step := hcodes found hdecides.near (hdecides.isCode.trans htyped)
  have hfound : Fits found := Nat.lt_of_le_of_lt (Nat.mul_le_mul_right _ hnear.1) hfits
  rw [check_of_decides htime hdecides hfound, verdictOn, if_neg hnew]

end Totp

/-- A step stays remembered as long as there is room for it and for those that were used after
it. -/
theorem Totp.Memory.record_keeps {recent front others : List Nat} {step latest limit : Nat}
    (hrecent : recent = front ++ step :: others) (hlatest : latest ∉ recent)
    (hroom : others.length + 1 < max limit 1) :
    ∃ front', record recent latest limit = front' ++ step :: (others ++ [latest]) := by
  have hsplit : recent ++ [latest] = front ++ step :: (others ++ [latest]) := by simp [hrecent]
  have hlength : (front ++ step :: (others ++ [latest])).length =
      front.length + (others.length + 2) := by simp
  rw [record_of_notMem hlatest, hsplit, List.rtake, List.drop_append_of_le_length (by omega)]
  exact ⟨_, rfl⟩

namespace Services

variable {s : Services} {clock : Nat → Nat}

/-- The steps that services accept codes of have sixty-four bits. -/
def AcceptsFitting (s : Services) : Prop :=
  ∀ use secret recent typed step,
    s.verifyTotp use secret recent typed = .ok (.valid step) → step ≤ Text.maxUnsigned

/-- Services accept the code of a step only while it is in the window of the clock, and only if the
step was not used recently. -/
def ChecksBy (s : Services) (clock : Nat → Nat) : Prop :=
  ∀ use secret recent typed step, s.verifyTotp use secret recent typed = .ok (.valid step) →
    step ∉ recent ∧ Totp.Near step (clock use)

theorem ChecksBy.acceptsFitting (hs : s.ChecksBy clock)
    (hclock : ∀ use, clock use ≤ Text.maxUnsigned) : s.AcceptsFitting :=
  fun use _ _ _ _ h => (hs _ _ _ _ _ h).2.bounded (hclock use)

/-- The services that are used in earnest do. -/
theorem checksBy_standard (config : MfaConfig) (key : Cipher.Key) (lifetime : Span)
    (random : RandomSource) (clock : Nat → Nat) :
    (standard config key lifetime random clock).ChecksBy clock := by
  intro use secret recent typed step h
  simp only [standard, Totp.verify] at h
  cases hbytes : Totp.secretBytes secret with
  | error fault => simp [hbytes, bind, Except.bind] at h
  | ok bytes =>
    rw [hbytes] at h
    exact Totp.near_of_check h

end Services

namespace Authenticator

variable {s : Services} {clock : Nat → Nat} {a : Authenticator} {h h' : Held} {n : Draws}
  {typed : String} {step time : Nat}

/-- A try to prove the authenticator in hand by the code of a step: the step that is accepted, which
is remembered last, and what is left in hand. -/
def tryCode (s : Services) (typed : String) (h : Held) : Option Nat × Held :=
  match (proveTotp s typed).run.run h with
  | (.ok (), h') => ((Totp.Memory.read h'.authenticator.usedUp).getLast?, h')
  | (.error _, h') => (none, h')

/-- The steps that are accepted in one try after another, and none for a try that is refused. -/
def acceptedSteps (s : Services) : List String → Held → List (Option Nat)
  | [], _ => []
  | typed :: rest, h =>
    let (accepted, h') := tryCode s typed h
    accepted :: acceptedSteps s rest h'

/-- Services accept a step for what is typed: it is valid under the secret of the authenticator. -/
def Accepts (s : Services) (typed : String) (h : Held) (step : Nat) : Prop :=
  ∃ stored uri secret, h.authenticator.material = .totp stored uri ∧
    s.decrypt h.draws.uses stored = .ok secret ∧
    s.verifyTotp (h.draws.uses + 1) secret (Totp.Memory.read h.authenticator.usedUp) typed =
      .ok (.valid step)

/-- What is in hand after a step was accepted: the authenticator remembers it, and services were
used twice. -/
def heldAfter (s : Services) (step : Nat) (h : Held) : Held :=
  ⟨h.authenticator.remembering s step, { h.draws with uses := h.draws.uses + 2 }⟩

/-- A proof succeeds by a step that services accept. -/
theorem proveTotp_ok_iff_accepts :
    Ends (proveTotp s typed) h (.ok ()) h' ↔
      ∃ step, Accepts s typed h step ∧ h' = heldAfter s step h := by
  obtain ⟨a, n⟩ := h
  obtain ⟨a', n'⟩ := h'
  rw [proveTotp_ok_iff]
  constructor
  · rintro ⟨stored, uri, secret, step, hmade, hopened, haccepted, rfl, rfl⟩
    exact ⟨step, ⟨stored, uri, secret, hmade, hopened, haccepted⟩, rfl⟩
  · rintro ⟨step, ⟨stored, uri, secret, hmade, hopened, haccepted⟩, hleft⟩
    obtain ⟨rfl, rfl⟩ := Held.mk.inj hleft
    exact ⟨stored, uri, secret, step, hmade, hopened, haccepted, rfl, rfl⟩

/-- A try takes up uses of services, even where it is refused. -/
theorem uses_le_of_proveTotp {r : Except Fault Unit} (hends : Ends (proveTotp s typed) h r h') :
    h.draws.uses ≤ h'.draws.uses := by
  have hrequest {α ε : Type} {wording : ε → String} {answer : Nat → Except ε α} :
      Moves (Grows Draws.uses)
        (Services.nextUse >>= fun use => unexpected wording (answer use)) :=
    moves_bind (moves_modifyGet fun _ => Nat.le_succ _) fun _ => moves_unexpected _ _
  have hverdict (secret : String) (recent : List Nat) :
      Moves (Grows Draws.uses) (s.requestVerdict secret recent typed) :=
    moves_bind (moves_modifyGet fun _ => Nat.le_succ _) fun _ => moves_liftExcept _
  have hused {α : Type} {step : ServiceM α} (hstep : Moves (Grows Draws.uses) step) :
      Moves (Grows fun h : Held => h.draws.uses) (use step) := by
    intro h r h' hends
    obtain ⟨n, hused, rfl⟩ := use_iff.1 hends
    exact hstep _ _ _ hused
  have hupdate (f : Authenticator → Authenticator) :
      Moves (Grows fun h : Held => h.draws.uses) (update f) := by
    intro h r h' hends
    obtain ⟨_, rfl⟩ := update_iff.1 hends
    exact Nat.le_refl _
  have hmoves : Moves (Grows fun h : Held => h.draws.uses) (proveTotp s typed) := by
    intro h r h' hends
    rw [proveTotp, current_bind_iff] at hends
    revert hends
    split
    · refine moves_bind (hused hrequest) (fun secret => moves_bind (hused (hverdict _ _)) ?_) _ _ _
      intro verdict
      cases verdict with
      | valid step => exact hupdate _
      | invalid => exact moves_throw _
    · exact moves_throw _ _ _ _
  exact hmoves _ _ _ hends

/-- Whatever is remembered, the step is recorded in it. -/
theorem read_remembering (a : Authenticator) (hstep : step ≤ Text.maxUnsigned) :
    Totp.Memory.read (a.remembering s step).usedUp =
      Totp.Memory.record (Totp.Memory.read a.usedUp) step s.rememberedSteps :=
  Totp.Memory.read_record (fun _ => Totp.Memory.fits_of_mem_read) hstep

/-- What a try comes to: it is refused and leaves the authenticator as it was, or services accept a
step, which is remembered. -/
inductive Tried (s : Services) (typed : String) (h : Held) : (accepted : Option Nat) → Held → Prop
  | refused {fault : Fault} {h' : Held} (ends : Ends (proveTotp s typed) h (.error fault) h')
      (kept : h'.authenticator = h.authenticator) (later : h.draws.uses ≤ h'.draws.uses) :
      Tried s typed h none h'
  | accepted {step : Nat} (ends : Ends (proveTotp s typed) h (.ok ()) (heldAfter s step h))
      (accepts : Accepts s typed h step) (fits : step ≤ Text.maxUnsigned) :
      Tried s typed h (some step) (heldAfter s step h)

theorem tryCode_spec (hs : s.AcceptsFitting) (typed : String) (h : Held) :
    ∃ accepted h', tryCode s typed h = (accepted, h') ∧ Tried s typed h accepted h' := by
  rcases hrun : (proveTotp s typed).run.run h with ⟨fault | _, h'⟩
  · exact ⟨none, h', by simp only [tryCode, hrun],
      .refused hrun (allOrNothing_proveTotp typed _ _ _ hrun) (uses_le_of_proveTotp hrun)⟩
  · obtain ⟨step, haccepts, rfl⟩ := proveTotp_ok_iff_accepts.1 hrun
    have hfits : step ≤ Text.maxUnsigned :=
      let ⟨_, _, _, _, _, hvalid⟩ := haccepts
      hs _ _ _ _ _ hvalid
    have hlast :
        (Totp.Memory.read (h.authenticator.remembering s step).usedUp).getLast? = some step := by
      rw [read_remembering _ hfits, Totp.Memory.record_eq_rtake_concat, List.getLast?_concat]
    exact ⟨some step, _, by simp only [tryCode, hrun, heldAfter, hlast],
      .accepted hrun haccepts hfits⟩

/-- A step that is accepted is in the window and was not remembered. -/
theorem Accepts.near (hs : s.ChecksBy clock) (haccepts : Accepts s typed h step) :
    step ∉ Totp.Memory.read h.authenticator.usedUp ∧
      Totp.Near step (clock (h.draws.uses + 1)) :=
  let ⟨_, _, _, _, _, hvalid⟩ := haccepts
  hs _ _ _ _ _ hvalid

/-! ### One try after another -/

variable {tries : List String} {before between after : List (Option Nat)}

/-- The clock of a step that is accepted in some later try. -/
theorem near_of_mem_acceptedSteps (hs : s.ChecksBy clock)
    (hclock : ∀ use, clock use ≤ Text.maxUnsigned)
    (haccepted : some step ∈ acceptedSteps s tries h) :
    ∃ use, h.draws.uses ≤ use ∧ Totp.Near step (clock use) := by
  induction tries generalizing h with
  | nil => cases haccepted
  | cons typed tries ih =>
    obtain ⟨_, h₁, htry, htried⟩ := tryCode_spec (hs.acceptsFitting hclock) typed h
    simp only [acceptedSteps, htry, List.mem_cons] at haccepted
    cases htried with
    | refused _ _ hlater =>
      obtain ⟨use, huse, hnear⟩ := ih (haccepted.resolve_left nofun)
      exact ⟨use, Nat.le_trans hlater huse, hnear⟩
    | accepted _ haccepts _ =>
      rcases haccepted with haccepted | haccepted
      · cases haccepted
        exact ⟨_, Nat.le_succ _, (haccepts.near hs).2⟩
      · obtain ⟨use, huse, hnear⟩ := ih haccepted
        exact ⟨use, Nat.le_trans (Nat.le_add_right _ 2) huse, hnear⟩

/-- While a step is remembered, with others after it, it is not accepted again before as many others
are as are remembered. -/
theorem others_of_remembered (hs : s.ChecksBy clock) (hmono : Monotone clock)
    (hclock : ∀ use, clock use ≤ Text.maxUnsigned) {front others : List Nat}
    (hread : Totp.Memory.read h.authenticator.usedUp = front ++ step :: others)
    (hnodup : (step :: others).Nodup) (hroom : others.length < max s.rememberedSteps 1)
    (hstep : Totp.Near step time) (htime : ∀ use, h.draws.uses ≤ use → time ≤ clock use)
    (hagain : acceptedSteps s tries h = between ++ some step :: after) :
    ∃ more, more <+: between.reduceOption ∧ (step :: others ++ more).Nodup ∧
      (others ++ more).length = max s.rememberedSteps 1 ∧
      ∀ other ∈ more, other ≤ step + 2 ∧ step ≤ other + 2 := by
  induction tries generalizing h front others between with
  | nil => cases between <;> cases hagain
  | cons typed tries ih =>
    obtain ⟨_, h₁, htry, htried⟩ := tryCode_spec (hs.acceptsFitting hclock) typed h
    simp only [acceptedSteps, htry] at hagain
    cases htried with
    | refused _ hkept hlater =>
      cases between with
      | nil => cases hagain
      | cons outcome between =>
        rw [List.cons_append, List.cons.injEq] at hagain
        obtain ⟨rfl, hagain⟩ := hagain
        rw [List.reduceOption_cons_of_none]
        exact ih (hkept ▸ hread) hnodup hroom
          (fun use huse => htime use (Nat.le_trans hlater huse)) hagain
    | @accepted accepted _ haccepts hfits =>
      obtain ⟨hnew, hnear⟩ := haccepts.near hs
      have hother : accepted ∉ step :: others :=
        fun hmem => hnew (hread ▸ List.mem_append_right _ hmem)
      cases between with
      | nil =>
        rw [List.nil_append, List.cons.injEq, Option.some.injEq] at hagain
        exact absurd (hagain.1 ▸ List.mem_cons_self) hother
      | cons outcome between =>
        rw [List.cons_append, List.cons.injEq] at hagain
        obtain ⟨rfl, hagain⟩ := hagain
        have hlater : h.draws.uses ≤ (heldAfter s accepted h).draws.uses := Nat.le_add_right _ 2
        have hneighbour : accepted ≤ step + 2 ∧ step ≤ accepted + 2 := by
          have hmem : some step ∈ acceptedSteps s tries (heldAfter s accepted h) :=
            hagain ▸ by simp
          obtain ⟨use, huse, hsecond⟩ := near_of_mem_acceptedSteps hs hclock hmem
          exact hstep.neighbour hnear hsecond (htime _ (Nat.le_succ _))
            (hmono (Nat.le_trans (Nat.le_succ _) huse))
        have hnodup₁ : (step :: (others ++ [accepted])).Nodup := by
          rw [← List.cons_append, ← List.concat_eq_append]
          exact List.Nodup.concat hother hnodup
        rw [List.reduceOption_cons_of_some]
        rcases Nat.lt_or_ge (others.length + 1) (max s.rememberedSteps 1) with hmore | hfull
        · -- the step still stays, and what is accepted next comes after one more
          obtain ⟨front₁, hkept⟩ := Totp.Memory.record_keeps hread hnew hmore
          have hread₁ : Totp.Memory.read (heldAfter s accepted h).authenticator.usedUp =
              front₁ ++ step :: (others ++ [accepted]) :=
            (read_remembering _ hfits).trans hkept
          obtain ⟨more, hprefix, hdistinct, hcount, hnear⟩ :=
            ih hread₁ hnodup₁ (by simpa using hmore)
              (fun use huse => htime use (Nat.le_trans hlater huse)) hagain
          exact ⟨accepted :: more, (List.prefix_cons_inj _).2 hprefix, by simpa using hdistinct,
            by simpa using hcount, List.forall_mem_cons.2 ⟨hneighbour, hnear⟩⟩
        · refine ⟨[accepted], (List.prefix_cons_inj _).2 (List.nil_prefix), hnodup₁, ?_, ?_⟩
          · rw [List.length_append, List.length_singleton]
            omega
          · simpa using hneighbour

/-- Between two uses of the code of a step, as many other steps are accepted as are remembered, all
of them within two steps of it. The clock does not go back. -/
theorem others_before_replay (hs : s.ChecksBy clock) (hmono : Monotone clock)
    (hclock : ∀ use, clock use ≤ Text.maxUnsigned)
    (hagain : acceptedSteps s tries h = before ++ some step :: (between ++ some step :: after)) :
    ∃ others, others <+: between.reduceOption ∧ (step :: others).Nodup ∧
      others.length = max s.rememberedSteps 1 ∧
      ∀ other ∈ others, other ≤ step + 2 ∧ step ≤ other + 2 := by
  induction tries generalizing h before with
  | nil => cases before <;> cases hagain
  | cons typed tries ih =>
    obtain ⟨_, h₁, htry, htried⟩ := tryCode_spec (hs.acceptsFitting hclock) typed h
    simp only [acceptedSteps, htry] at hagain
    cases before with
    | cons outcome before =>
      rw [List.cons_append] at hagain
      exact ih (List.cons.inj hagain).2
    | nil =>
      rw [List.nil_append] at hagain
      cases htried with
      | refused => cases hagain
      | accepted _ haccepts hfits =>
        rw [List.cons.injEq, Option.some.injEq] at hagain
        obtain ⟨rfl, hagain⟩ := hagain
        obtain ⟨others, hprefix, hnodup, hcount, hnear⟩ :=
          others_of_remembered hs hmono hclock
            ((read_remembering _ hfits).trans (Totp.Memory.record_eq_rtake_concat _ _ _))
            (List.nodup_singleton _) (Nat.lt_of_lt_of_le Nat.one_pos (Nat.le_max_right _ _))
            (haccepts.near hs).2
            (fun use huse => hmono (Nat.le_trans (Nat.le_succ _) huse)) hagain
        exact ⟨others, hprefix, hnodup, hcount, hnear⟩

/-- A clock for examples, which passes from one step to the next after three tries. -/
def sampleClock (use : Nat) : Nat := if use < 6 then 60 else 90

theorem monotone_sampleClock : Monotone sampleClock := by
  intro use later h
  unfold sampleClock
  split <;> split <;> omega

/-- Codes for examples: the code of a step is its number. -/
def sampleCode (time : Nat) : String := Totp.codeText (Totp.stepOf time)

/-- Services for examples. -/
def sampleTimed : Services :=
  { Script.sample.services with
    verifyTotp := fun use _ recent typed =>
      Totp.check sampleCode recent typed (Totp.window (sampleClock use)) }

theorem checksBy_sampleTimed : sampleTimed.ChecksBy sampleClock :=
  fun _ _ _ _ _ hvalid => Totp.near_of_check hvalid

/-- An authenticator for examples. -/
def sampleTotp : Authenticator := ⟨⟨⟨1⟩⟩, true, none, .totp (Script.marked "SECRET") ""⟩

theorem others_before_replay_sampleTotp :
    acceptedSteps sampleTimed ["000003", "000002", "000001", "000004", "000003"]
        ⟨sampleTotp, .none⟩ =
        [] ++ some 3 :: ([some 2, some 1, some 4] ++ some 3 :: []) ∧
      ∃ others, others <+: [some 2, some 1, some 4].reduceOption ∧ (3 :: others).Nodup ∧
        others.length = max sampleTimed.rememberedSteps 1 ∧
        ∀ other ∈ others, other ≤ 3 + 2 ∧ 3 ≤ other + 2 := by
  have hcourse : acceptedSteps sampleTimed ["000003", "000002", "000001", "000004", "000003"]
      ⟨sampleTotp, .none⟩ = [] ++ some 3 :: ([some 2, some 1, some 4] ++ some 3 :: []) := by
    decide +kernel
  exact ⟨hcourse, others_before_replay checksBy_sampleTimed monotone_sampleClock
    (fun use => by unfold sampleClock; split <;> decide) hcourse⟩

/-! ### Three remembered steps -/

variable {codes : (time : Nat) → String} {recent : List Nat} {stored uri secret : String}

/-- The code of a step that is not remembered is accepted in its window, and the step is
remembered. -/
theorem tryCode_code {memory : List Nat} (hopened : ∀ use, s.decrypt use stored = .ok secret)
    (hchecks : ∀ use recent typed, s.verifyTotp use secret recent typed =
      Totp.check codes recent typed (Totp.window (clock use)))
    (htyped : Text.trimmed (Totp.stepCode codes step) = Totp.stepCode codes step)
    (hmade : a.material = .totp stored uri) (hnew : step ∉ Totp.Memory.read a.usedUp)
    (hnear : Totp.Near step (clock (n.uses + 1)))
    (hfits : Totp.Fits (Totp.stepOf (clock (n.uses + 1)) + 1))
    (hcodes : ∀ other, Totp.Near other (clock (n.uses + 1)) →
      Totp.stepCode codes other = Totp.stepCode codes step → other = step)
    (hmemory : Totp.Memory.record (Totp.Memory.read a.usedUp) step s.rememberedSteps = memory)
    (hmem : ∀ other ∈ memory, other ≤ Text.maxUnsigned) :
    ∃ a', tryCode s (Totp.stepCode codes step) ⟨a, n⟩ =
        (some step, ⟨a', { n with uses := n.uses + 2 }⟩) ∧
      a'.material = .totp stored uri ∧ Totp.Memory.read a'.usedUp = memory := by
  have haccepts : Accepts s (Totp.stepCode codes step) ⟨a, n⟩ step :=
    ⟨stored, uri, secret, hmade, hopened _,
      (hchecks _ _ _).trans (Totp.check_code hfits htyped hnear hcodes hnew)⟩
  have hproved : Ends (proveTotp s (Totp.stepCode codes step)) ⟨a, n⟩ (.ok ())
      (heldAfter s step ⟨a, n⟩) :=
    proveTotp_ok_iff_accepts.2 ⟨step, haccepts, rfl⟩
  have hread : Totp.Memory.read (a.remembering s step).usedUp = memory := by
    rw [remembering, hmemory]
    exact Totp.Memory.read_toText hmem
  have hlast : memory.getLast? = some step := by
    rw [← hmemory, Totp.Memory.record_eq_rtake_concat, List.getLast?_concat]
  refine ⟨a.remembering s step, ?_, hmade, hread⟩
  unfold tryCode
  rw [hproved]
  simp only [heldAfter, hread, hlast]

/-- With three remembered steps, the code of a step is accepted again after the codes of the two
steps before it and of the one after it. -/
theorem replay_of_neighbours (hopened : ∀ use, s.decrypt use stored = .ok secret)
    (hchecks : ∀ use recent typed, s.verifyTotp use secret recent typed =
      Totp.check codes recent typed (Totp.window (clock use)))
    (hlimit : s.rememberedSteps = 3) (hmade : a.material = .totp stored uri)
    (hunused : a.usedUp = none)
    (hfirst : ∀ use, use < n.uses + 6 → Totp.stepOf (clock use) = step + 1)
    (hthen : ∀ use, n.uses + 6 ≤ use → Totp.stepOf (clock use) = step + 2)
    (htyped : ∀ step, Text.trimmed (Totp.stepCode codes step) = Totp.stepCode codes step)
    (hcodes : ∀ i < 4, ∀ j < 4,
      Totp.stepCode codes (step + i) = Totp.stepCode codes (step + j) → i = j)
    (hfits : Totp.Fits (step + 3)) :
    acceptedSteps s ([step + 2, step + 1, step, step + 3, step + 2].map (Totp.stepCode codes))
        ⟨a, n⟩ =
      [some (step + 2), some (step + 1), some step, some (step + 3), some (step + 2)] := by
  have hbound : step + 3 ≤ Text.maxUnsigned := by
    have hend : Nat.pow 2 64 = Text.maxUnsigned + 1 := rfl
    unfold Totp.Fits Totp.stepSeconds at hfits
    omega
  have haccept {a : Authenticator} {recent : List Nat} (n : Draws) (k : Nat) (memory : List Nat)
      (hread : Totp.Memory.read a.usedUp = recent) (hmade : a.material = .totp stored uri)
      (htime : Totp.stepOf (clock (n.uses + 1)) = step + 1 ∧ k < 3 ∨
        Totp.stepOf (clock (n.uses + 1)) = step + 2 ∧ 0 < k ∧ k < 4)
      (hnew : step + k ∉ recent) (hmemory : Totp.Memory.record recent (step + k) 3 = memory)
      (hmem : ∀ other ∈ memory, other ≤ step + 3) :
      ∃ a' n', tryCode s (Totp.stepCode codes (step + k)) ⟨a, n⟩ = (some (step + k), ⟨a', n'⟩) ∧
        n'.uses = n.uses + 2 ∧ Totp.Memory.read a'.usedUp = memory ∧
        a'.material = .totp stored uri := by
    subst hread
    have hafter : Totp.Fits (Totp.stepOf (clock (n.uses + 1)) + 1) :=
      Nat.lt_of_le_of_lt (Nat.mul_le_mul_right _ (by omega)) hfits
    obtain ⟨a', htry, hmade', hread'⟩ := tryCode_code (n := n) hopened hchecks (htyped (step + k))
      hmade hnew (by unfold Totp.Near; omega) hafter
      (fun other hother hsame => by
        unfold Totp.Near at hother
        obtain ⟨i, rfl⟩ : ∃ i, other = step + i := ⟨other - step, by omega⟩
        rw [hcodes i (by omega) k (by omega) hsame])
      (hlimit ▸ hmemory) (fun other hother => Nat.le_trans (hmem other hother) hbound)
    exact ⟨a', _, htry, rfl, hread', hmade'⟩
  have hunread : Totp.Memory.read a.usedUp = [] := by rw [hunused]; rfl
  obtain ⟨a₁, n₁, htry₁, huses₁, hread₁, hmade₁⟩ := haccept n 2 [step + 2]
    hunread hmade (Or.inl ⟨hfirst _ (by omega), by decide⟩) (by simp)
    (by simp [Totp.Memory.record]) (by simp)
  obtain ⟨a₂, n₂, htry₂, huses₂, hread₂, hmade₂⟩ := haccept n₁ 1 [step + 2, step + 1]
    hread₁ hmade₁ (Or.inl ⟨hfirst _ (by omega), by decide⟩) (by simp)
    (by simp [Totp.Memory.record]) (by simp)
  obtain ⟨a₃, n₃, htry₃, huses₃, hread₃, hmade₃⟩ := haccept n₂ 0 [step + 2, step + 1, step]
    hread₂ hmade₂ (Or.inl ⟨hfirst _ (by omega), by decide⟩) (by simp)
    (by simp [Totp.Memory.record]) (by simp)
  obtain ⟨a₄, n₄, htry₄, huses₄, hread₄, hmade₄⟩ := haccept n₃ 3 [step + 1, step, step + 3]
    hread₃ hmade₃ (Or.inr ⟨hthen _ (by omega), by decide⟩) (by simp)
    (by simp [Totp.Memory.record]) (by simp)
  obtain ⟨a₅, n₅, htry₅, _⟩ := haccept n₄ 2 [step, step + 3, step + 2]
    hread₄ hmade₄ (Or.inr ⟨hthen _ (by omega), by decide⟩) (by simp)
    (by simp [Totp.Memory.record]) (by simp)
  rw [Nat.add_zero] at htry₃
  simp only [List.map_cons, List.map_nil, acceptedSteps, htry₁, htry₂, htry₃, htry₄, htry₅]

end Authenticator

end TenantAuth
