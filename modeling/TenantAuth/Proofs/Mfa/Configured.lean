import TenantAuth.Mfa.Standard

/-!
Configurations that were accepted, and the services for them.

A configuration is accepted in two ways, from a draft and from the environment, of which the second
goes by way of the first. The services for it rest on the key and on the lifetime that are read from
it.
-/

namespace TenantAuth

/-- An answer after another answer comes from both. -/
theorem answers_of_bind {ε α β : Type} {first : Except ε α} {next : α → Except ε β} {b : β}
    (h : first >>= next = .ok b) : ∃ a, first = .ok a ∧ next a = .ok b := by
  cases first with
  | error e => cases h
  | ok a => exact ⟨a, rfl, h⟩

/-- The services for a configuration are those for the key and the lifetime that were read from
it. -/
theorem Services.eq_of_ofConfig {config : MfaConfig} {random : RandomSource} {clock : Nat → Nat}
    {s : Services} (h : ofConfig config random clock = .ok s) :
    ∃ key lifetime, Cipher.Key.ofHex config.key = .ok key ∧
      config.tokenLifetime? = some lifetime ∧ s = standard config key lifetime random clock := by
  obtain ⟨key, hkey, h₁⟩ := answers_of_bind h
  obtain ⟨lifetime, hlifetime, h₂⟩ := answers_of_bind h₁
  refine ⟨key, lifetime, ?_, ?_, (Except.ok.inj h₂).symm⟩
  · cases hread : Cipher.Key.ofHex config.key with
    | error e => rw [hread] at hkey; cases hkey
    | ok read => rw [hread] at hkey; exact congrArg Except.ok (Except.ok.inj hkey)
  · cases hspan : config.tokenLifetime? with
    | none => rw [hspan] at hlifetime; cases hlifetime
    | some span => rw [hspan] at hlifetime; exact congrArg some (Except.ok.inj hlifetime)

namespace MfaConfig

variable {config : MfaConfig}

/-- A configuration that was accepted: that of a draft, or that of the environment. -/
inductive Accepted (config : MfaConfig) : Prop
  | ofDraft {draft : MfaConfigDraft} (h : MfaConfig.ofDraft draft = .ok config)
  | ofEnvironment {valueOf : String → Option String}
      (h : MfaConfig.ofEnvironment valueOf = .ok config)

/-- Either way it is that of a draft. -/
theorem Accepted.drafted (h : config.Accepted) : ∃ draft, MfaConfig.ofDraft draft = .ok config := by
  cases h with
  | ofDraft h => exact ⟨_, h⟩
  | @ofEnvironment valueOf h =>
    unfold MfaConfig.ofEnvironment at h
    split at h
    · cases h
    · obtain ⟨steps, _, h₁⟩ := answers_of_bind h
      obtain ⟨lifetime, _, h₂⟩ := answers_of_bind h₁
      exact ⟨_, h₂⟩

/-- A lifetime that was accepted is positive. -/
theorem Accepted.lifetime_pos (h : config.Accepted) : 0 < config.tokenLifetimeSeconds := by
  obtain ⟨draft, hdraft⟩ := h.drafted
  unfold MfaConfig.ofDraft at hdraft
  split at hdraft
  · cases hdraft
  · dsimp only at hdraft
    split at hdraft
    · cases hdraft
    · split at hdraft
      · cases hdraft
      · rename_i hpositive
        exact Except.ok.inj hdraft ▸ Int.not_le.1 hpositive

/-- A positive lifetime is a span unless its milliseconds do not fit 64 bits. -/
theorem tokenLifetime?_of_pos (h : 0 < config.tokenLifetimeSeconds) : config.tokenLifetime? =
    if config.tokenLifetimeSeconds ≤ Span.maxSeconds then some ⟨config.tokenLifetimeSeconds⟩
    else none := by
  have hleast : -Span.maxSeconds ≤ config.tokenLifetimeSeconds := by
    have hneg : -Span.maxSeconds < 0 := by decide
    omega
  simp [tokenLifetime?, Span.ofSeconds?, hleast]

end MfaConfig

end TenantAuth
