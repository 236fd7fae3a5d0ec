import TenantAuth.Proofs.Credential.Effects
import TenantAuth.Proofs.Text.Listing

/-!
How the authenticators of a credential stand, one by one and in their list.

What is used up of each fits its kind. In the list, recovery codes stand in front of the others, and
no two authenticators share their kind or their identifier. The list says this of kinds and
identifiers alone, so that an authenticator may be renewed in its place without a further argument,
and only adding and removing one touch the list itself.
-/

namespace TenantAuth

variable {s : Services} {n n' : Draws}

namespace Authenticator

variable {a a' : Authenticator}

/-- What is used up of an authenticator fits its kind.

Recovery codes are active, and those used up are some of theirs, each once. The steps that are
remembered are written out, each once, and not more than there are to be. Nothing is used up of one
that is reached out-of-band, or of one that is pending; a pending one that is reached out-of-band
has a challenge. -/
structure Sound (s : Services) (a : Authenticator) : Prop where
  codes : ∀ stored, a.material = .recoveryCodes stored → a.isActive = true ∧
    ∃ use draw, s.encrypt use (RecoveryCode.join (s.recoveryCodes draw)) = .ok stored ∧
      ∀ use text, s.decrypt use stored = .ok text → UsesUp a.usedUp text
  steps : ∀ stored uri used, a.material = .totp stored uri → a.usedUp = some used →
    ∃ steps, used = Totp.Memory.toText steps ∧ steps ≠ [] ∧ steps.Nodup ∧ steps.length ≤
    max s.rememberedSteps 1
  contact : a.kind.isOutOfBand = true → a.usedUp = none
  pending :
    a.isActive = false → a.usedUp = none ∧ (a.kind.isOutOfBand = true → a.challenge?.isSome = true)

theorem sound_of_codes {id : AuthenticatorId} {use draw : Nat} {stored : String}
    (h : s.encrypt use (RecoveryCode.join (s.recoveryCodes draw)) = .ok stored) :
    Sound s ⟨id, true, none, .recoveryCodes stored⟩ where
  codes := by
    rintro _ ⟨⟩
    exact ⟨rfl, use, draw, h, fun _ _ _ => nofun⟩
  steps := nofun
  contact := fun _ => rfl
  pending := nofun

/-- An authenticator that waits for its confirmation has nothing used up yet. -/
theorem sound_of_pending {kind : AuthenticatorKind} {draw : Nat}
    (h : Credential.Pending s kind draw a) (hkind : kind ≠ .recoveryCodes) : Sound s a where
  codes := by
    intro stored hmade
    exact absurd (h.kind_eq.symm.trans (congrArg Material.kind hmade)) hkind
  steps := by
    intro _ _ used _ hused
    rw [h.unused] at hused
    cases hused
  contact := fun _ => h.unused
  pending := by
    intro _
    refine ⟨h.unused, fun hcontact => h.challenged ?_⟩
    rw [← h.kind_eq]
    exact hcontact

/-- A code that is consumed is one of those listed, and was not consumed before. -/
theorem Sound.consumed {typed : String} (hs : s.Undoes) (ha : a.Sound s)
    (h : Ends (consumeRecoveryCode s typed) ⟨a, n⟩ (.ok ()) ⟨a', n'⟩) : a'.Sound s := by
  obtain ⟨hproves, ⟨stored, hmade⟩, rfl⟩ := consumeRecoveryCode_ok h none
  obtain ⟨hactive, use, draw, hencrypted, hused⟩ := ha.codes stored hmade
  rcases hproves with ⟨hother, _, _⟩ | ⟨hother, _, _⟩ | ⟨hsame, hopened, hlisted, hunused⟩
  · cases hmade.symm.trans hother
  · cases hmade.symm.trans hother
  · rename_i _ text use'
    obtain rfl := Material.recoveryCodes.inj (hmade.symm.trans hsame)
    refine ⟨?_, ?_, ?_, ?_⟩
    · intro stored' hstored'
      obtain rfl := Material.recoveryCodes.inj (hmade.symm.trans hstored')
      refine ⟨hactive, use, draw, hencrypted, fun use'' text' hopened' => ?_⟩
      obtain rfl : text' = text := by
        rw [hs _ _ _ _ _ hencrypted hopened', hs _ _ _ _ _ hencrypted hopened]
      exact (hused _ _ hopened').withConsumed hlisted hunused
    · intro stored' uri used htotp
      cases hmade.symm.trans htotp
    · intro hcontact
      simp [kind, hmade, Material.kind, AuthenticatorKind.isOutOfBand] at hcontact
    · intro hinactive
      cases hactive.symm.trans hinactive

/-- A proof leaves an authenticator that is active, or becomes active by it, as it has to be. -/
theorem Sound.proved {oobCode : Option String} {typed : String} (ha : a.Sound s)
    (h : Ends (provePossession s oobCode typed) ⟨a, n⟩ (.ok ()) ⟨a', n'⟩) :
    Sound s { a' with isActive := true } := by
  rcases (provePossession_ok h).2 with
    ⟨stored, uri, step, hmade, rfl⟩ | ⟨contact, challenge, hmade, rfl⟩
  · refine ⟨?_, ?_, ?_, fun hpending => Bool.noConfusion hpending⟩
    · intro stored' hcodes
      cases hmade.symm.trans hcodes
    · rintro _ _ _ _ ⟨⟩
      have hrecent : (Totp.Memory.read a.usedUp).Nodup := by
        unfold Totp.Memory.read
        cases hcase : a.usedUp with
        | none => exact List.nodup_nil
        | some used =>
          obtain ⟨steps, rfl, _, hnodup, _⟩ := ha.steps stored uri used hmade hcase
          rw [Option.map_some, Option.getD_some, Totp.Memory.ofText_toText]
          exact hnodup.filter _
      exact ⟨_, rfl, Totp.Memory.record_ne_nil _ _ _, Totp.Memory.nodup_record hrecent _ _,
        Totp.Memory.length_record_le _ _ _⟩
    · intro hcontact
      simp [kind, hmade, Material.kind, AuthenticatorKind.isOutOfBand] at hcontact
  · have hunused : a.usedUp = none := ha.contact (by
      cases contact <;>
        simp [kind, hmade, Material.kind, Contact.kind, AuthenticatorKind.isOutOfBand])
    refine ⟨?_, ?_, fun _ => hunused, fun hpending => Bool.noConfusion hpending⟩
    · rintro stored ⟨⟩
    · rintro stored uri used ⟨⟩

/-- A challenge leaves an authenticator as it has to be. -/
theorem Sound.challenged {sent : Option (String × Notification)} (ha : a.Sound s)
    (h : Ends (rechallenge s) ⟨a, n⟩ (.ok sent) ⟨a', n'⟩) : a'.Sound s := by
  rcases rechallenge_ok h with
    ⟨contact, old, code, secret, stored, use, hmade, _, rfl, _⟩ | ⟨_, rfl, _⟩
  · have hunused : a.usedUp = none := ha.contact (by
      cases contact <;>
        simp [kind, hmade, Material.kind, Contact.kind, AuthenticatorKind.isOutOfBand])
    refine ⟨?_, ?_, fun _ => hunused, fun _ => ⟨hunused, fun _ => rfl⟩⟩
    · rintro stored' ⟨⟩
    · rintro stored' uri used ⟨⟩
  · exact ha

end Authenticator

/-! ### Lists -/

section Lists

variable {list : List Authenticator} {a a' : Authenticator}

/-- There are no authenticators, or recovery codes first and others behind; no two share their kind
or their identifier. -/
structure Arranged (list : List Authenticator) : Prop where
  codesFirst : list = [] ∨
    ∃ kind kinds, list.map Authenticator.kind = .recoveryCodes :: kind :: kinds
  kinds : (list.map Authenticator.kind).Nodup
  ids : (list.map Authenticator.id).Nodup

theorem arranged_nil : Arranged [] := ⟨Or.inl rfl, List.nodup_nil, List.nodup_nil⟩

/-- The identifiers of authenticators were drawn before. -/
def Drawn (s : Services) (n : Nat) (list : List Authenticator) : Prop :=
  ∀ a ∈ list, ∃ draw < n, a.id = s.authenticatorId draw

/-- What is the same of the old and the new element is the same all along the list. -/
theorem map_replaceFirst {α β : Type} {f : α → β} {condition : α → Bool} {old new : α}
    {list : List α} (hfind : list.find? condition = some old) (hf : f new = f old) :
    (replaceFirst condition new list).map f = list.map f := by
  induction list with
  | nil => rfl
  | cons a rest ih =>
    rw [List.find?_cons] at hfind
    rw [replaceFirst]
    cases hcondition : condition a with
    | true =>
      rw [hcondition] at hfind
      obtain rfl := Option.some.inj hfind
      rw [if_pos rfl, List.map_cons, List.map_cons, hf]
    | false =>
      rw [hcondition] at hfind
      rw [if_neg Bool.false_ne_true, List.map_cons, List.map_cons, ih hfind]

/-- Only the new element is new. -/
theorem mem_replaceFirst {α : Type} {condition : α → Bool} {new b : α} {list : List α}
    (h : b ∈ replaceFirst condition new list) : b = new ∨ b ∈ list := by
  induction list with
  | nil => cases h
  | cons a rest ih =>
    rw [replaceFirst] at h
    split at h
    · rcases List.mem_cons.1 h with rfl | h
      · exact Or.inl rfl
      · exact Or.inr (List.mem_cons_of_mem _ h)
    · rcases List.mem_cons.1 h with rfl | h
      · exact Or.inr List.mem_cons_self
      · exact (ih h).imp id (List.mem_cons_of_mem _)

/-- What replaces something is there afterwards. -/
theorem mem_replaceFirst_of_find? {α : Type} {condition : α → Bool} {old new : α} {list : List α}
    (h : list.find? condition = some old) : new ∈ replaceFirst condition new list := by
  induction list with
  | nil => cases h
  | cons a rest ih =>
    rw [replaceFirst]
    rw [List.find?_cons] at h
    cases hcondition : condition a with
    | true => exact List.mem_cons_self
    | false =>
      rw [hcondition] at h
      exact List.mem_cons_of_mem _ (ih h)

/-- An authenticator is renewed in its place. -/
theorem Arranged.renewed {condition : Authenticator → Bool} (h : Arranged list)
    (hfind : list.find? condition = some a) (hid : a'.id = a.id) (hkind : a'.kind = a.kind) :
    Arranged (replaceFirst condition a' list) := by
  have hkinds := map_replaceFirst hfind hkind
  refine ⟨?_, by rw [hkinds]; exact h.kinds, by rw [map_replaceFirst hfind hid]; exact h.ids⟩
  rw [hkinds, ← List.map_eq_nil_iff, hkinds, List.map_eq_nil_iff]
  exact h.codesFirst

theorem Drawn.renewed {condition : Authenticator → Bool} {k : Nat} (h : Drawn s k list)
    (hfind : list.find? condition = some a) (hid : a'.id = a.id) :
    Drawn s k (replaceFirst condition a' list) := by
  intro b hb
  rcases mem_replaceFirst hb with rfl | hb
  · rw [hid]
    exact h a (List.mem_of_find?_eq_some hfind)
  · exact h b hb

/-- Fewer authenticators with the recovery codes still in front and something behind them. -/
theorem Arranged.sublist {list' : List Authenticator} (h : Arranged list)
    (hsub : list'.Sublist list) (hfirst : list' = [] ∨
      ∃ kind kinds, list'.map Authenticator.kind = .recoveryCodes :: kind :: kinds) :
    Arranged list' :=
  ⟨hfirst, h.kinds.sublist (hsub.map _), h.ids.sublist (hsub.map _)⟩

theorem removed_sublist (id : AuthenticatorId) (list : List Authenticator) :
    (Credential.removed id list).Sublist list := by
  simp only [Credential.removed]
  split
  · exact List.nil_sublist _
  · exact List.eraseP_sublist

/-- Removing an authenticator other than the recovery codes leaves these in front, or nothing. -/
theorem Arranged.removed {id : AuthenticatorId} (h : Arranged list)
    (hfind : list.find? (fun a => a.id = id) = some a) (hkind : a.kind ≠ .recoveryCodes) :
    Arranged (Credential.removed id list) := by
  refine h.sublist (removed_sublist id list) ?_
  simp only [Credential.removed]
  split
  · exact Or.inl rfl
  · rename_i hothers
    refine Or.inr ?_
    rcases h.codesFirst with rfl | ⟨kind, kinds, hkinds⟩
    · cases hfind
    obtain ⟨first, others, rfl, hfirst, _⟩ := List.map_eq_cons_iff.1 hkinds
    -- the one that is removed is not the first, which is that of the recovery codes
    have hstays : first.id ≠ id := by
      intro hid
      rw [List.find?_cons_of_pos (by simpa using hid)] at hfind
      exact hkind (Option.some.inj hfind ▸ hfirst)
    rw [List.eraseP_cons_of_neg (by simpa using hstays)] at hothers ⊢
    cases hrest : others.eraseP fun a => a.id = id with
    | nil => simp [hrest, hfirst] at hothers
    | cons second more => exact ⟨second.kind, more.map Authenticator.kind, by simp [hfirst]⟩

/-- Fewer authenticators were drawn before as well. -/
theorem Drawn.sublist {list' : List Authenticator} {k : Nat} (h : Drawn s k list)
    (hsub : list'.Sublist list) :
    Drawn s k list' := fun a ha => h a (hsub.subset ha)

theorem Drawn.mono {k k' : Nat} (h : Drawn s k list) (hle : k ≤ k') : Drawn s k' list := by
  intro a ha
  obtain ⟨draw, hdraw, hid⟩ := h a ha
  exact ⟨draw, Nat.lt_of_lt_of_le hdraw hle, hid⟩

/-- There are recovery codes first, and no two authenticators share their kind or their
identifier. -/
structure Headed (list : List Authenticator) : Prop where
  codesFirst : ∃ kinds, list.map Authenticator.kind = .recoveryCodes :: kinds
  kinds : (list.map Authenticator.kind).Nodup
  ids : (list.map Authenticator.id).Nodup

/-- Recovery codes that are made for the first authenticator stand alone. -/
theorem headed_singleton (hkind : a.kind = .recoveryCodes) : Headed [a] :=
  ⟨⟨[], by simp [hkind]⟩, by simp, by simp⟩

/-- The recovery codes stay in front when a pending authenticator is left out. -/
theorem Arranged.staying {kind : AuthenticatorKind} (h : Arranged list) (hne : list ≠ [])
    (hkind : kind ≠ .recoveryCodes) : Headed (Credential.staying kind list) := by
  rcases h.codesFirst with rfl | ⟨_, _, hkinds⟩
  · exact absurd rfl hne
  obtain ⟨first, others, rfl, hfirst, _⟩ := List.map_eq_cons_iff.1 hkinds
  have hsub : (Credential.staying kind (first :: others)).Sublist (first :: others) :=
    List.filter_sublist
  refine ⟨⟨(Credential.staying kind others).map Authenticator.kind, ?_⟩, h.kinds.sublist
    (hsub.map _), h.ids.sublist (hsub.map _)⟩
  rw [Credential.staying, List.filter_cons_of_pos (by simp [hfirst, Ne.symm hkind]),
    List.map_cons, hfirst]
  rfl

/-- An authenticator of a new kind is added behind under a new identifier. -/
theorem Headed.added {k : Nat} (hids : s.Distinct (k + 1)) (h : Headed list)
    (hdrawn : Drawn s k list) (hid : a.id = s.authenticatorId k)
    (hkind : ∀ b ∈ list, b.kind ≠ a.kind) :
    Arranged (list ++ [a]) ∧ Drawn s (k + 1) (list ++ [a]) := by
  have hnew : ∀ b ∈ list, b.id ≠ a.id := by
    intro b hb heq
    obtain ⟨draw, hdraw, hb⟩ := hdrawn b hb
    have hsame := hids draw (by omega) k (by omega) (hb.symm.trans (heq.trans hid))
    omega
  refine ⟨⟨Or.inr ?_, ?_, ?_⟩, ?_⟩
  · obtain ⟨kinds, hkinds⟩ := h.codesFirst
    cases kinds with
    | nil => exact ⟨a.kind, [], by simp [hkinds]⟩
    | cons second kinds => exact ⟨second, kinds ++ [a.kind], by simp [hkinds]⟩
  · rw [List.map_append, List.nodup_append]
    refine ⟨h.kinds, by simp, ?_⟩
    intro kind hmem other hother
    obtain ⟨b, hb, rfl⟩ := List.mem_map.1 hmem
    rw [List.mem_singleton.1 hother]
    exact hkind b hb
  · rw [List.map_append, List.nodup_append]
    refine ⟨h.ids, by simp, ?_⟩
    intro id hmem other hother
    obtain ⟨b, hb, rfl⟩ := List.mem_map.1 hmem
    rw [List.mem_singleton.1 hother]
    exact hnew b hb
  · intro b hb
    rcases List.mem_append.1 hb with hb | hb
    · exact hdrawn.mono (Nat.le_succ k) b hb
    · exact ⟨k, Nat.lt_succ_self k, by rw [List.mem_singleton.1 hb, hid]⟩

end Lists

end TenantAuth
