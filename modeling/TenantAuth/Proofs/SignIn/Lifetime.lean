import TenantAuth.Proofs.Mfa.Configured
import TenantAuth.Proofs.Mfa.Rehearsal
import TenantAuth.Proofs.SignIn.Keeping

/-!
How long a sign-in may wait for its second factor.

Any positive number of seconds is accepted as the lifetime of sign-in tokens. Not all of them work:
the longest have no span at all, and others lead beyond the last instant from where the clock
stands. A lifetime works at all times up to the year 9999 if it ends at the last instant at the
latest even when it begins at the end of that year.
-/

namespace TenantAuth

/-! ### Moving on -/

namespace Instant

/-- The instant so many seconds later, whether or not it exists. What lies within a leap second lies
within the second before it. -/
def later (t : Instant) (seconds : Int) : Instant := ⟨t.seconds + seconds, t.nanos % 1000000000⟩

/-- The last second of the year 9999. -/
def lastReading : Int := Date.toDays ⟨9999, 12, 31⟩ * secondsPerDay + (secondsPerDay - 1)

/-- What a clock may show: an instant from the year 1970 to the year 9999, possibly within a leap
second. -/
structure IsReading (t : Instant) : Prop where
  notBefore : 0 ≤ t.seconds
  notAfter : t.seconds ≤ lastReading
  nanos : t.nanos < 2000000000

variable {t : Instant} {span : Span}

theorem firstSecond_neg : firstSecond < 0 := by decide

/-- The last second is nearer than the longest span is long. -/
theorem lastSecond_lt : lastSecond < Span.maxSeconds := by decide

/-- Moving forward leads to the later instant, unless it lies beyond the last one. -/
theorem add?_of_pos (ht : t.IsReading) (hspan : 0 < span.seconds) :
    t.add? span =
      if t.seconds + span.seconds ≤ lastSecond then some (t.later span.seconds) else none := by
  have hfirst : firstSecond ≤ t.seconds + span.seconds := by
    have hneg := firstSecond_neg
    have hnotBefore := ht.notBefore
    omega
  have hnanos := ht.nanos
  unfold add? later
  by_cases hleap : 1000000000 ≤ t.nanos
  · -- A way forward from within a leap second begins in the second before it.
    have hmod : t.nanos % 1000000000 = t.nanos - 1000000000 := by omega
    simp [hleap, hspan, hfirst, hmod]
  · have hmod : t.nanos % 1000000000 = t.nanos := by omega
    simp [hleap, hfirst, hmod]

/-- Whatever lies seconds later comes later. -/
theorem isBefore_later {seconds : Int} (h : 0 < seconds) : t.isBefore (t.later seconds) = true := by
  have hlt : t.seconds < t.seconds + seconds := by omega
  simp [isBefore, later, hlt]

end Instant

/-! ### Lifetimes that work -/

namespace MfaConfig

variable {config : MfaConfig} {now : Instant}

/-- The lifetime of a configuration works at some time: it is a span, and whoever asks for the
second factor of a credential then is handed a token that is valid and expires when the lifetime is
over. -/
structure Works (config : MfaConfig) (now : Instant) : Prop where
  isSpan : config.tokenLifetime?.isSome = true
  handsOut : ∀ (s : Services) (d : Desk), config.tokenLifetime? = some s.tokenLifetime →
    d.credential.mfa.isEnabled = true → ∃ token d', Ends (Credential.initiateMfa s now) d
      (.ok token) d' ∧ d'.credential.mfa.isValid token now = true ∧
      d'.credential.mfa.tokenExpiry = some (now.later config.tokenLifetimeSeconds)

/-- The lifetime of a configuration fails at some time: it is no span, or whoever asks for the
second factor of a credential then learns that it ends beyond the last instant. -/
inductive Fails (config : MfaConfig) (now : Instant) : Prop
  | noSpan (h : config.tokenLifetime? = none)
  | noDeadline (h : ∀ (s : Services) (d : Desk), config.tokenLifetime? = some s.tokenLifetime →
      d.credential.mfa.isEnabled = true →
        ∃ d', Ends (Credential.initiateMfa s now) d (.error .deadlineOutOfRange) d')

end MfaConfig

/-! ### Handing out a token -/

namespace Credential

variable {s : Services} {now : Instant} {d : Desk}

/-- The desk after a token was drawn for it. -/
def tokenDrawn (d : Desk) : Desk :=
    { d with draws := { d.draws with signInTokens := d.draws.signInTokens + 1 } }

/-- What is left to do once the token is drawn: to find out when it expires, and to bind it. -/
theorem initiateMfa_ends (henabled : d.credential.mfa.isEnabled = true)
    {r : Except Fault String} {d' : Desk} (h : Ends (do
      let expiry ← demand (now.add? s.tokenLifetime) .deadlineOutOfRange
      update fun c => { c with mfa := c.mfa.bind (s.signInToken d.draws.signInTokens) expiry }
      return s.signInToken d.draws.signInTokens) (tokenDrawn d) r d') :
          Ends (initiateMfa s now) d r d' := by
  refine Ends.bind_iff.2 (Or.inl ⟨d.credential, d, current_ok_iff.2 ⟨rfl, rfl⟩, ?_⟩)
  refine Ends.bind_iff.2 (Or.inl ⟨(), d, Ends.ensure_ok_iff.2 ⟨henabled, rfl⟩, ?_⟩)
  refine Ends.bind_iff.2 (Or.inl ⟨s.signInToken d.draws.signInTokens, tokenDrawn d, ?_, h⟩)
  exact use_ok_iff.2 ⟨_, Ends.modifyGet_iff.2 ⟨rfl, rfl⟩, rfl⟩

/-- With a deadline that exists, the token is bound until then. -/
theorem initiateMfa_bound {expiry : Instant} (henabled : d.credential.mfa.isEnabled = true)
    (hexpiry : now.add? s.tokenLifetime = some expiry) :
    Ends (initiateMfa s now) d (.ok (s.signInToken d.draws.signInTokens))
      { tokenDrawn d with
        credential := { d.credential with
          mfa := d.credential.mfa.bind (s.signInToken d.draws.signInTokens) expiry } } := by
  refine initiateMfa_ends henabled
    (Ends.bind_ok_iff.2 ⟨expiry, _, Ends.demand_ok_iff.2 ⟨hexpiry, rfl⟩, ?_⟩)
  exact Ends.bind_ok_iff.2 ⟨(), _, update_ok_iff.2 rfl, Ends.pure_iff.2 ⟨rfl, rfl⟩⟩

/-- Without one there is no token. -/
theorem initiateMfa_unbound (henabled : d.credential.mfa.isEnabled = true)
    (hexpiry : now.add? s.tokenLifetime = none) :
    Ends (initiateMfa s now) d (.error .deadlineOutOfRange) (tokenDrawn d) := by
  refine initiateMfa_ends henabled (Ends.bind_iff.2 (Or.inr ⟨_, ?_, rfl⟩))
  rw [hexpiry]
  exact Ends.throw_iff.2 ⟨rfl, rfl⟩

end Credential

/-! ### What works when -/

namespace MfaConfig

variable {config : MfaConfig} {now : Instant}

/-- A lifetime that ends at the last instant at the latest works. -/
theorem works_of_le (hconfig : config.Accepted) (hnow : now.IsReading)
    (hle : now.seconds + config.tokenLifetimeSeconds ≤ Instant.lastSecond) : config.Works now := by
  have hpos := hconfig.lifetime_pos
  have hspan : config.tokenLifetime? = some ⟨config.tokenLifetimeSeconds⟩ := by
    have hnotBefore := hnow.notBefore
    have hlast := Instant.lastSecond_lt
    rw [tokenLifetime?_of_pos hpos, if_pos (by omega)]
  refine ⟨by rw [hspan]; rfl, fun s d hs henabled => ?_⟩
  have hlifetime : s.tokenLifetime = ⟨config.tokenLifetimeSeconds⟩ :=
    (Option.some.inj (hspan.symm.trans hs)).symm
  have hexpiry : now.add? s.tokenLifetime = some (now.later config.tokenLifetimeSeconds) := by
    rw [hlifetime, Instant.add?_of_pos hnow hpos, if_pos hle]
  refine ⟨_, _, Credential.initiateMfa_bound henabled hexpiry, ?_, rfl⟩
  exact SignIn.isValid_iff.2 ⟨rfl, _, rfl, Instant.isBefore_later hpos⟩

/-- A lifetime that ends later fails. -/
theorem fails_of_lt (hconfig : config.Accepted) (hnow : now.IsReading)
    (hlt : Instant.lastSecond < now.seconds + config.tokenLifetimeSeconds) : config.Fails now := by
  have hpos := hconfig.lifetime_pos
  have hspan := tokenLifetime?_of_pos hpos
  split at hspan
  · refine .noDeadline fun s d hs henabled => ⟨_, Credential.initiateMfa_unbound henabled ?_⟩
    have hlifetime : s.tokenLifetime = ⟨config.tokenLifetimeSeconds⟩ :=
      (Option.some.inj (hspan.symm.trans hs)).symm
    rw [hlifetime, Instant.add?_of_pos hnow hpos, if_neg (Int.not_le.2 hlt)]
  · exact .noSpan hspan

/-- What works does not fail. -/
theorem Works.not_fails (hworks : config.Works now) : ¬config.Fails now := by
  rintro (hnone | hfails)
  · exact absurd hworks.isSpan (by simp [hnone])
  · obtain ⟨lifetime, hlifetime⟩ := Option.isSome_iff_exists.1 hworks.isSpan
    -- Under both, one credential would be handed a token and refused it.
    let s : Services := { Script.sample.services with tokenLifetime := lifetime }
    let asking : Credential :=
      { Credential.create ⟨⟨0#128⟩⟩ ⟨⟨0#128⟩⟩ with
        mfa := { MfaOptions.initial with isEnabled := true } }
    obtain ⟨_, _, hok, _⟩ := hworks.handsOut s ⟨asking, .none⟩ hlifetime rfl
    obtain ⟨_, herror⟩ := hfails s ⟨asking, .none⟩ hlifetime rfl
    cases (hok.unique herror).1

/-- Whether a lifetime that was accepted works depends on the clock: it does as long as it ends at
the last instant at the latest, and fails otherwise. It works at all times if it does so at the end
of the year 9999. -/
theorem works_until_last (hconfig : config.Accepted) :
    (∀ now : Instant, now.IsReading →
      (now.seconds + config.tokenLifetimeSeconds ≤ Instant.lastSecond → config.Works now) ∧
        (Instant.lastSecond < now.seconds + config.tokenLifetimeSeconds → config.Fails now)) ∧
      ((∀ now : Instant, now.IsReading → config.Works now) ↔
        config.tokenLifetimeSeconds ≤ Instant.lastSecond - Instant.lastReading) := by
  refine ⟨fun now hnow => ⟨works_of_le hconfig hnow, fails_of_lt hconfig hnow⟩, fun hworks => ?_,
    fun hle now hnow => ?_⟩
  · have hnow : (⟨Instant.lastReading, 0⟩ : Instant).IsReading := ⟨by decide, by decide, by decide⟩
    rw [← Int.not_lt]
    intro hlt
    exact (hworks _ hnow).not_fails (fails_of_lt hconfig hnow (by dsimp only; omega))
  · have hnotAfter := hnow.notAfter
    exact works_of_le hconfig hnow (by omega)

/-- A lifetime that ends at the last instant if it begins with the year 1970, and not a second
later. -/
def longLived : MfaConfig := ⟨defaultIssuer, "key", defaultSteps, 8210266876799⟩

theorem works_until_last_longLived :
    longLived.Accepted ∧ longLived.Works ⟨0, 0⟩ ∧ longLived.Fails ⟨1, 0⟩ := by
  have haccepted : longLived.Accepted :=
    .ofDraft (rfl : MfaConfig.ofDraft ⟨none, some "key", none, some 8210266876799⟩ = .ok longLived)
  have hworks := (works_until_last haccepted).1
  refine ⟨haccepted, (hworks ⟨0, 0⟩ ⟨by decide, by decide, by decide⟩).1 (by decide),
    (hworks ⟨1, 0⟩ ⟨by decide, by decide, by decide⟩).2 (by decide)⟩

end MfaConfig

end TenantAuth
