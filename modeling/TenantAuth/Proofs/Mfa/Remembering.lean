import Mathlib.Data.List.Perm.Subperm
import TenantAuth.Proofs.Mfa.Replay

/-!
Remembering enough steps for none to be used twice.

Whatever is tried, an authenticator remembers the distinct steps that were accepted latest. While
the code of a step is in the window, only four other steps can be accepted: the two before it and
the two after it. So an authenticator that remembers five steps or more remembers a step for as long
as its code may be typed, and whoever types it once more is refused. What it remembers then are the
latest steps that were ever accepted, in their order, and no step is among them twice.
-/

namespace TenantAuth

namespace Totp

/-- A step whose code was accepted, and the time of that. -/
structure Use where
  step : Nat
  time : Nat

variable {uses : List Use} {step time limit : Nat}

/-- Uses one after the other, each of a step in the window of its time, and of no step twice. -/
structure Orderly (uses : List Use) : Prop where
  near : ∀ use ∈ uses, Near use.step use.time
  later : uses.Pairwise fun use next => use.time ≤ next.time
  once : (uses.map Use.step).Nodup

theorem orderly_nil : Orderly [] := ⟨nofun, .nil, .nil⟩

/-- There are five steps within two steps of one. -/
theorem length_le_of_near {steps : List Nat} (hdistinct : steps.Nodup)
    (hnear : ∀ other ∈ steps, other ≤ step + 2 ∧ step ≤ other + 2) : steps.length ≤ 5 := by
  have hsubset : steps ⊆ List.range' (step - 2) 5 := by
    intro other hother
    have hother := hnear other hother
    rw [List.mem_range'_1]
    omega
  simpa using (List.subperm_of_subset hdistinct hsubset).length_le

/-- A step of the window that is not among the latest five was never used before. -/
theorem Orderly.new (h : Orderly uses) (hlater : ∀ use ∈ uses, use.time ≤ time)
    (hnear : Near step time) (hlimit : 5 ≤ limit)
    (hforgotten : step ∉ (uses.map Use.step).rtake limit) : step ∉ uses.map Use.step := by
  intro hused
  obtain ⟨use, huse, rfl⟩ := List.mem_map.1 hused
  obtain ⟨earlier, others, rfl⟩ := List.append_of_mem huse
  have hmany : limit ≤ others.length := by
    refine Nat.le_of_not_lt fun hfew => hforgotten ?_
    rw [List.map_append, List.rtake, List.drop_append_of_le_length (by simp; omega)]
    simp
  have hdistinct : ((use :: others).map Use.step).Nodup :=
    (List.nodup_append.1 (List.map_append ▸ h.once)).2.1
  have hneighbours : ∀ step ∈ (use :: others).map Use.step, step ≤ use.step + 2 ∧
      use.step ≤ step + 2 := by
    have hafter := (List.pairwise_append.1 h.later).2.1
    intro step hstep
    obtain ⟨other, hother, rfl⟩ := List.mem_map.1 hstep
    have hmem : other ∈ earlier ++ use :: others := List.mem_append_right _ hother
    have hbefore : use.time ≤ other.time := by
      rcases List.mem_cons.1 hother with rfl | hother
      · exact Nat.le_refl _
      · exact (List.pairwise_cons.1 hafter).1 other hother
    exact (h.near use huse).neighbour (h.near other hmem) hnear hbefore (hlater other hmem)
  have hfive := length_le_of_near hdistinct hneighbours
  rw [List.length_map, List.length_cons] at hfive
  omega

/-- One more use, of a step that was not used before. -/
theorem Orderly.concat (h : Orderly uses) (hlater : ∀ use ∈ uses, use.time ≤ time)
    (hnear : Near step time) (hnew : step ∉ uses.map Use.step) :
    Orderly (uses ++ [⟨step, time⟩]) where
  near := List.forall_mem_append.2 ⟨h.near, List.forall_mem_singleton.2 hnear⟩
  later := List.pairwise_append.2
    ⟨h.later, List.pairwise_singleton _ _, fun use huse _ hlast => List.mem_singleton.1 hlast ▸
      hlater use huse⟩
  once := by
    rw [List.map_append, List.map_singleton, ← List.concat_eq_append]
    exact h.once.concat hnew

/-- What is kept of steps when only the latest are remembered, and nothing when there are none. -/
def Memory.latest (limit : Nat) (steps : List Nat) : Option String :=
  if steps = [] then none else some (toText (steps.rtake limit))

theorem Memory.latest_concat {steps : List Nat} :
    latest limit (steps ++ [step]) = some (toText ((steps ++ [step]).rtake limit)) :=
  if_neg (List.concat_ne_nil _ _)

theorem Memory.read_latest {steps : List Nat} (h : ∀ step ∈ steps, step ≤ Text.maxUnsigned) :
    read (latest limit steps) = steps.rtake limit := by
  unfold latest
  split
  · rename_i hnone
    rw [hnone, List.rtake_nil]
    rfl
  · exact read_toText fun step hstep => h step (List.mem_of_mem_drop hstep)

/-- When the latest steps are remembered and one more is used, the latest steps are remembered
again. -/
theorem Memory.record_rtake {steps : List Nat} (hlimit : 1 ≤ limit)
    (hnew : step ∉ steps.rtake limit) :
    record (steps.rtake limit) step limit = (steps ++ [step]).rtake limit := by
  obtain ⟨room, rfl⟩ : ∃ room, limit = room + 1 := ⟨limit - 1, by omega⟩
  rw [record_of_notMem hnew, Nat.max_eq_left hlimit, List.rtake_concat_succ, List.rtake_concat_succ,
    List.rtake, List.rtake, List.rtake, List.drop_drop, List.length_drop]
  congr 2
  omega

end Totp

namespace Services

variable {s : Services} {codeOf : String → Nat → String} {clock : Nat → Nat}

/-- A verdict of services on what is typed is that of checking it in the window of the clock,
against the codes that a secret has at each time. -/
def ChecksCodes (s : Services) (codeOf : (secret : String) → (time : Nat) → String)
    (clock : Nat → Nat) : Prop :=
  ∀ use secret recent typed verdict, s.verifyTotp use secret recent typed = .ok verdict →
    Totp.check (codeOf secret) recent typed (Totp.window (clock use)) = .ok verdict

theorem ChecksCodes.checksBy (hs : s.ChecksCodes codeOf clock) : s.ChecksBy clock :=
  fun _ _ _ _ _ h => Totp.near_of_check (hs _ _ _ _ _ h)

/-- The codes of a secret in earnest. -/
def standardCode (secret : String) (time : Nat) : String :=
  match Totp.secretBytes secret with
  | .ok bytes => Totp.codeAt bytes time
  | .error _ => ""

/-- The services that are used in earnest check codes. -/
theorem checksCodes_standard (config : MfaConfig) (key : Cipher.Key) (lifetime : Span)
    (random : RandomSource) (clock : Nat → Nat) :
    (standard config key lifetime random clock).ChecksCodes standardCode clock := by
  intro use secret recent typed verdict h
  simp only [standard, Totp.verify] at h
  cases hbytes : Totp.secretBytes secret with
  | error fault => simp [hbytes, bind, Except.bind] at h
  | ok bytes =>
    have hcodes : standardCode secret = Totp.codeAt bytes := by
      funext time
      rw [standardCode, hbytes]
    rw [hcodes]
    rwa [hbytes] at h

end Services

namespace Authenticator

variable {s : Services} {codeOf : String → Nat → String} {clock : Nat → Nat} {h h' : Held}
  {typed : String} {tries : List String} {step : Nat}

/-! ### One try after another -/

/-- As many tries succeed as steps are accepted. -/
theorem successes_eq_length (hs : s.AcceptsFitting) (tries : List String) (h : Held) :
    (attempts (tries.map (proveTotp s)) h).1.countP Except.isOk =
      (acceptedSteps s tries h).reduceOption.length := by
  induction tries generalizing h with
  | nil => rfl
  | cons typed rest ih =>
    obtain ⟨_, h', htry, htried⟩ := tryCode_spec hs typed h
    simp only [acceptedSteps, htry, List.map_cons]
    cases htried with
    | refused hends =>
      rw [attempts_cons hends, List.reduceOption_cons_of_none, ← ih h']
      exact List.countP_cons_of_neg Bool.false_ne_true
    | @accepted step hends =>
      rw [attempts_cons hends, List.reduceOption_cons_of_some, List.length_cons, ← ih]
      exact List.countP_cons_of_pos rfl

/-- One try after another brings the steps that are accepted behind those that were used before. -/
theorem read_attempts {used : List Nat} (hs : s.AcceptsFitting)
    (hread : Totp.Memory.read h.authenticator.usedUp =
      used.dedup.rtake (max s.rememberedSteps 1)) :
    Totp.Memory.read (attempts (tries.map (proveTotp s)) h).2.authenticator.usedUp =
      (used ++ (acceptedSteps s tries h).reduceOption).dedup.rtake (max s.rememberedSteps 1) := by
  induction tries generalizing h used with
  | nil => simpa [attempts, acceptedSteps] using hread
  | cons typed rest ih =>
    obtain ⟨_, h', htry, htried⟩ := tryCode_spec hs typed h
    simp only [acceptedSteps, htry, List.map_cons]
    cases htried with
    | refused hends hkept =>
      rw [attempts_cons hends, List.reduceOption_cons_of_none]
      exact ih (hkept ▸ hread)
    | @accepted step hends _ hfits =>
      have hused : Totp.Memory.read (heldAfter s step h).authenticator.usedUp =
          (used ++ [step]).dedup.rtake (max s.rememberedSteps 1) := by
        rw [heldAfter, read_remembering _ hfits, hread, Totp.Memory.record_latest_distinct]
      have hleft := ih hused
      rw [List.append_assoc, List.singleton_append] at hleft
      rw [attempts_cons hends, List.reduceOption_cons_of_some]
      exact hleft

/-- An authenticator remembers the distinct steps that were accepted latest, in the order of their
latest use, whatever is tried, whatever services accept and however many steps are to be
remembered. As many tries succeed as steps are accepted. -/
theorem latest_distinct_remembered (hs : s.AcceptsFitting) (hunused : h.authenticator.usedUp = none)
    (tries : List String) :
    Totp.Memory.read (attempts (tries.map (proveTotp s)) h).2.authenticator.usedUp =
        (acceptedSteps s tries h).reduceOption.dedup.rtake (max s.rememberedSteps 1) ∧
      (attempts (tries.map (proveTotp s)) h).1.countP Except.isOk =
        (acceptedSteps s tries h).reduceOption.length := by
  have hnone : Totp.Memory.read h.authenticator.usedUp =
      ([] : List Nat).dedup.rtake (max s.rememberedSteps 1) := by
    rw [hunused, List.dedup_nil, List.rtake_nil]
    rfl
  exact ⟨read_attempts hs hnone, successes_eq_length hs tries h⟩

/-! ### Enough steps -/

/-- An authenticator in hand after some uses of its codes: it remembers the latest of them. -/
structure Remembers (s : Services) (clock : Nat → Nat) (first : Authenticator)
    (uses : List Totp.Use) (h : Held) : Prop where
  orderly : Totp.Orderly uses
  past : ∀ use ∈ uses, use.time ≤ clock h.draws.uses
  fits : ∀ use ∈ uses, use.step ≤ Text.maxUnsigned
  left : h.authenticator =
    { first with usedUp := Totp.Memory.latest s.rememberedSteps (uses.map Totp.Use.step) }

section Remembers

variable {first : Authenticator} {uses : List Totp.Use}

theorem Remembers.read (hremembers : Remembers s clock first uses h) :
    Totp.Memory.read h.authenticator.usedUp =
      (uses.map Totp.Use.step).rtake s.rememberedSteps := by
  rw [hremembers.left, Totp.Memory.read_latest]
  exact List.forall_mem_map.2 hremembers.fits

/-- A try that is refused leaves what is remembered. -/
theorem Remembers.refused (hremembers : Remembers s clock first uses h) (hmono : Monotone clock)
    (hkept : h'.authenticator = h.authenticator) (hlater : h.draws.uses ≤ h'.draws.uses) :
    Remembers s clock first uses h' :=
  { hremembers with
    past := fun use huse => Nat.le_trans (hremembers.past use huse) (hmono hlater)
    left := hkept.trans hremembers.left }

/-- A step that is accepted next was never accepted before. -/
theorem Remembers.new (hremembers : Remembers s clock first uses h) (hs : s.ChecksBy clock)
    (hmono : Monotone clock) (hlimit : 5 ≤ s.rememberedSteps) (haccepts : Accepts s typed h step) :
    step ∉ uses.map Totp.Use.step := by
  obtain ⟨hnew, hnear⟩ := haccepts.near hs
  rw [hremembers.read] at hnew
  exact hremembers.orderly.new
    (fun use huse => Nat.le_trans (hremembers.past use huse) (hmono (Nat.le_succ _))) hnear hlimit
    hnew

/-- It is remembered then, behind the others. -/
theorem Remembers.accepted (hremembers : Remembers s clock first uses h) (hs : s.ChecksBy clock)
    (hmono : Monotone clock) (hlimit : 5 ≤ s.rememberedSteps) (haccepts : Accepts s typed h step)
    (hfits : step ≤ Text.maxUnsigned) :
    Remembers s clock first (uses ++ [⟨step, clock (h.draws.uses + 1)⟩]) (heldAfter s step h) := by
  obtain ⟨hnew, hnear⟩ := haccepts.near hs
  have hpast : ∀ use ∈ uses, use.time ≤ clock (h.draws.uses + 1) := fun use huse =>
    Nat.le_trans (hremembers.past use huse) (hmono (Nat.le_succ _))
  refine
    { orderly :=
        hremembers.orderly.concat hpast hnear (hremembers.new hs hmono hlimit haccepts)
      past := ?past
      fits := List.forall_mem_append.2
        ⟨hremembers.fits, List.forall_mem_singleton.2 hfits⟩
      left := ?left }
  case past =>
    have hlater : clock (h.draws.uses + 1) ≤ clock (h.draws.uses + 2) := hmono (Nat.le_succ _)
    exact List.forall_mem_append.2 ⟨fun use huse => Nat.le_trans (hpast use huse) hlater,
      List.forall_mem_singleton.2 hlater⟩
  case left =>
    rw [hremembers.read] at hnew
    rw [heldAfter, remembering, hremembers.read, Totp.Memory.record_rtake (by omega) hnew,
      List.map_append, List.map_singleton, Totp.Memory.latest_concat, hremembers.left]

/-- Whatever is tried, the steps that are accepted go on from those that were, and the latest are
remembered. -/
theorem Remembers.attempted (hremembers : Remembers s clock first uses h) (hs : s.ChecksBy clock)
    (hfitting : s.AcceptsFitting) (hmono : Monotone clock) (hlimit : 5 ≤ s.rememberedSteps)
    (tries : List String) :
    ∃ more, (acceptedSteps s tries h).reduceOption = more.map Totp.Use.step ∧
      Remembers s clock first (uses ++ more)
        (attempts (tries.map (proveTotp s)) h).2 := by
  induction tries generalizing h uses with
  | nil => exact ⟨[], rfl, by rwa [List.append_nil]⟩
  | cons typed rest ih =>
    obtain ⟨_, h', htry, htried⟩ := tryCode_spec hfitting typed h
    simp only [acceptedSteps, htry, List.map_cons]
    cases htried with
    | refused hends hkept hlater =>
      rw [attempts_cons hends, List.reduceOption_cons_of_none]
      exact ih (hremembers.refused hmono hkept hlater)
    | @accepted step hends haccepts hfits =>
      obtain ⟨more, hsteps, hleft⟩ :=
        ih (hremembers.accepted hs hmono hlimit haccepts hfits)
      rw [List.append_assoc] at hleft
      rw [attempts_cons hends, List.reduceOption_cons_of_some, hsteps]
      exact ⟨⟨step, clock (h.draws.uses + 1)⟩ :: more, rfl, hleft⟩

end Remembers

/-- What tries have come to when no step was accepted twice, and what the next try will come to. -/
structure NoneTwice (s : Services) (first : Authenticator) (accepted : List Nat)
    (outcomes : List (Except Fault Unit)) (left : Held) : Prop where
  once : accepted.Nodup
  /-- As many tries succeeded as steps were accepted. -/
  successes : outcomes.countP Except.isOk = accepted.length
  /-- The authenticator is as it was, but for the steps that it remembers, the latest that were
  accepted, in their order. -/
  left_eq : left.authenticator =
    { first with usedUp := Totp.Memory.latest s.rememberedSteps accepted }
  remembered : Totp.Memory.read left.authenticator.usedUp = accepted.rtake s.rememberedSteps
  /-- What is typed next is accepted if services accept a step for it that was never accepted
  before, and that step is remembered then. -/
  next : ∀ typed h', Ends (proveTotp s typed) left (.ok ()) h' ↔
    ∃ step, step ∉ accepted ∧ Accepts s typed left step ∧ h' = heldAfter s step left
  /-- What is refused does not change the authenticator. -/
  refuses : ∀ typed fault h', Ends (proveTotp s typed) left (.error fault) h' →
    h'.authenticator = left.authenticator

/-- An authenticator that remembers five steps or more accepts none of them twice, whatever is typed
and whatever codes the steps have, and it always remembers the latest of those that were accepted.
The clock does not go back. -/
theorem none_accepted_twice (hs : s.ChecksCodes codeOf clock) (hmono : Monotone clock)
    (hclock : ∀ use, clock use < Nat.pow 2 64 - 16) (hlimit : 5 ≤ s.rememberedSteps)
    (hunused : h.authenticator.usedUp = none) (tries : List String) :
    NoneTwice s h.authenticator (acceptedSteps s tries h).reduceOption
      (attempts (tries.map (proveTotp s)) h).1 (attempts (tries.map (proveTotp s)) h).2 := by
  have hbounded (use : Nat) : clock use ≤ Text.maxUnsigned := by
    have hend : Nat.pow 2 64 = Text.maxUnsigned + 1 := rfl
    have hbound := hclock use
    omega
  have hfitting : s.AcceptsFitting := hs.checksBy.acceptsFitting hbounded
  have hunchanged : h.authenticator = { h.authenticator with usedUp := none } := by rw [← hunused]
  have hfirst : Remembers s clock h.authenticator [] h :=
    ⟨Totp.orderly_nil, nofun, nofun, hunchanged⟩
  obtain ⟨uses, hsteps, hremembers⟩ := hfirst.attempted hs.checksBy hfitting hmono hlimit tries
  rw [List.nil_append] at hremembers
  refine
    { once := hsteps ▸ hremembers.orderly.once
      successes := successes_eq_length hfitting tries h
      left_eq := hsteps ▸ hremembers.left
      remembered := hsteps ▸ hremembers.read
      next := fun typed h' => proveTotp_ok_iff_accepts.trans ?next
      refuses := fun typed => allOrNothing_proveTotp typed _ }
  case next =>
    refine exists_congr fun step => ⟨fun ⟨haccepts, hleft⟩ => ?_, And.right⟩
    rw [hsteps]
    exact ⟨hremembers.new hs.checksBy hmono hlimit haccepts, haccepts, hleft⟩

/-- A clock for examples, on which every try comes one step after the one before. -/
def sampleTicking (use : Nat) : Nat := min (15 * use) 600

/-- Services for examples that remember five steps. -/
def sampleRemembering : Services :=
  { Script.sample.services with
    verifyTotp := fun use _ recent typed =>
      Totp.check sampleCode recent typed (Totp.window (sampleTicking use))
    rememberedSteps := 5 }

/-- Codes are typed ahead of the clock and behind it, and the first one is tried again while it is
in the window. -/
def sampleTries : List String :=
  ["000001", "000000", "000001", "000003", "000005", "000004", "000006", "000006"]

theorem none_accepted_twice_sample :
    acceptedSteps sampleRemembering sampleTries ⟨sampleTotp, .none⟩ =
        [some 1, some 0, none, some 3, some 5, some 4, some 6, none] ∧
      ∃ outcomes left,
        attempts (sampleTries.map (proveTotp sampleRemembering)) ⟨sampleTotp, .none⟩ =
          (outcomes, left) ∧
        outcomes.map Except.isOk = [true, true, false, true, true, true, true, false] ∧
        left.authenticator = { sampleTotp with usedUp := some "0,3,5,4,6" } ∧
        NoneTwice sampleRemembering sampleTotp [1, 0, 3, 5, 4, 6] outcomes left := by
  have haccepted : acceptedSteps sampleRemembering sampleTries ⟨sampleTotp, .none⟩ =
      [some 1, some 0, none, some 3, some 5, some 4, some 6, none] := by
    decide +kernel
  have hchecks : sampleRemembering.ChecksCodes (fun _ => sampleCode) sampleTicking :=
    fun _ _ _ _ _ h => h
  have hmono : Monotone sampleTicking :=
    fun use later h => by unfold sampleTicking; omega
  have hclock : ∀ use, sampleTicking use < Nat.pow 2 64 - 16 :=
    fun use => Nat.lt_of_le_of_lt (Nat.min_le_right _ _) (by decide)
  have honce := none_accepted_twice hchecks hmono hclock (by decide) (h := ⟨sampleTotp, .none⟩) rfl
    sampleTries
  rw [haccepted] at honce
  exact ⟨haccepted, _, _, rfl, by decide +kernel, by decide +kernel, honce⟩

end Authenticator

end TenantAuth
