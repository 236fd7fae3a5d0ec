import TenantAuth.Credential.Json
import TenantAuth.Proofs.Identifier
import TenantAuth.Proofs.Json.Compact
import TenantAuth.Proofs.Time.Rfc3339

/-!
A credential that was stored as JSON is the same when it is read.

Whatever it is made of is written and read part by part: identifiers and instants as texts, options
and challenges as records, registrations and materials as choices. The only values that could not be
written are instants that do not exist, of which none is ever read. So whatever JSON is read as a
credential, in whatever spelling, is read as one that comes back from its own JSON.

There are no numbers in the JSON of a credential and it nests only five deep, so that it comes back
from its text.
-/

namespace TenantAuth

open Json (required?_of_lookup optional?_of_lookup)

/-! ### Authenticators -/

theorem Challenge.ofJson?_toJson (c : Challenge) : ofJson? c.toJson = some c := by
  obtain ⟨fields, hrecord, hfound⟩ := Json.record_of_ofFields (v := c.toJson) rfl (by simp)
  simp only [List.forall_mem_cons] at hfound
  obtain ⟨hcode, hsecret, -⟩ := hfound
  have hcode : Json.required? Json.string? "oob_code" fields = some c.code :=
    required?_of_lookup hcode rfl
  have hsecret : Json.required? Json.string? "secret" fields = some c.secret :=
    required?_of_lookup hsecret rfl
  simp only [ofJson?, hrecord, hcode, hsecret, Option.bind_eq_bind, Option.bind_some]
  rfl

theorem Challenge.toJson_ne_null (c : Challenge) : c.toJson ≠ .null := nofun

/-- A challenge that may be missing is read as it was written. -/
theorem Challenge.optional?_eq {fields : List (String × Json)} {challenge : Option Challenge}
    (h : fields.lookup "challenge" = some (Json.ofOption toJson challenge)) :
    Json.optional? ofJson? "challenge" fields = some challenge :=
  optional?_of_lookup h (fun c _ => c.ofJson?_toJson) fun c _ => c.toJson_ne_null

theorem AuthenticatorKind.ofName?_name (kind : AuthenticatorKind) :
    ofName? kind.name = some kind := by
  cases kind <;> rfl

theorem Material.nodup_parts (m : Material) :
    ((("type", m.kind.toJson) :: m.parts).map Prod.fst).Nodup := by
  rcases m with codes | ⟨secret, uri⟩ | ⟨number | address, challenge⟩ <;>
    simp [parts, Contact.toField]

theorem Material.ofJson?_toJson (m : Material) : ofJson? m.toJson = some m := by
  obtain ⟨body, fields, htag, hrecord, hfound⟩ :=
    Json.tagged_of_ofFields (v := m.toJson) rfl m.nodup_parts
  simp only [ofJson?, htag, Option.bind_eq_bind, Option.bind_some, AuthenticatorKind.ofName?_name]
  rcases m with codes | ⟨secret, uri⟩ | ⟨number | address, challenge⟩
  · have hcodes : Json.required? Json.string? "codes" fields = some codes :=
      required?_of_lookup (hfound _ (.head _)) rfl
    simp only [kind, hrecord, hcodes, Option.bind_some]
    rfl
  · have hsecret : Json.required? Json.string? "secret" fields = some secret :=
      required?_of_lookup (hfound _ (.head _)) rfl
    have huri : Json.required? Json.string? "barcode_uri" fields = some uri :=
      required?_of_lookup (hfound _ (.tail _ (.head _))) rfl
    simp only [kind, hrecord, hsecret, huri, Option.bind_some]
    rfl
  · have hnumber : Json.required? Json.string? "phone_number" fields = some number.text :=
      required?_of_lookup (hfound _ (.head _)) rfl
    have hchallenge := Challenge.optional?_eq (hfound _ (.tail _ (.head _)))
    simp only [kind, Contact.kind, hrecord, hnumber, hchallenge, Option.bind_some]
    rfl
  · have haddress : Json.required? Json.string? "email_address" fields = some address.text :=
      required?_of_lookup (hfound _ (.head _)) rfl
    have hchallenge := Challenge.optional?_eq (hfound _ (.tail _ (.head _)))
    simp only [kind, Contact.kind, hrecord, haddress, hchallenge, Option.bind_some]
    rfl

theorem Authenticator.ofJson?_toJson (a : Authenticator) : ofJson? a.toJson = some a := by
  obtain ⟨fields, hrecord, hfound⟩ := Json.record_of_ofFields (v := a.toJson) rfl (by simp)
  simp only [List.forall_mem_cons] at hfound
  obtain ⟨hid, hactive, hused, hmaterial, -⟩ := hfound
  have hid : Json.required? Uuid.ofJson? "id" fields = some a.id.uuid :=
    required?_of_lookup hid a.id.uuid.ofJson?_toJson
  have hactive : Json.required? Json.bool? "is_active" fields = some a.isActive :=
    required?_of_lookup hactive rfl
  have hused : Json.optional? Json.string? "verified_state" fields = some a.usedUp :=
    optional?_of_lookup hused (fun _ _ => rfl) fun _ _ => nofun
  have hmaterial : Json.required? Material.ofJson? "material" fields = some a.material :=
    required?_of_lookup hmaterial a.material.ofJson?_toJson
  simp only [ofJson?, hrecord, hid, hactive, hused, hmaterial, Option.bind_eq_bind,
    Option.bind_some]
  rfl

/-! ### Registrations and options -/

/-- The instant at which a registration was verified. -/
def Registration.verifiedAt? : Registration → Option Instant
  | .verified verifiedAt => some verifiedAt
  | _ => none

theorem Registration.ofJson?_toJson (r : Registration) (h : ∀ t ∈ r.verifiedAt?, t.Exists) :
    ofJson? r.toJson = some r := by
  cases r with
  | unverified => rfl
  | pending token =>
    obtain ⟨body, fields, htag, hrecord, hfound⟩ :=
      Json.tagged_of_ofFields (v := (Registration.pending token).toJson) rfl (by simp)
    have htoken : Json.required? Json.string? "token" fields = some token :=
      required?_of_lookup (hfound _ (.head _)) rfl
    simp only [ofJson?, htag, hrecord, htoken, Option.bind_eq_bind, Option.bind_some]
    rfl
  | verified verifiedAt =>
    obtain ⟨body, fields, htag, hrecord, hfound⟩ :=
      Json.tagged_of_ofFields (v := (Registration.verified verifiedAt).toJson) rfl (by simp)
    have hverified : Json.required? Instant.ofJson? "verified_at" fields = some verifiedAt :=
      required?_of_lookup (hfound _ (.head _)) (Instant.ofJson?_toJson (h verifiedAt rfl))
    simp only [ofJson?, htag, hrecord, hverified, Option.bind_eq_bind, Option.bind_some]
    rfl

theorem MfaOptions.ofJson?_toJson (o : MfaOptions) (h : ∀ t ∈ o.tokenExpiry, t.Exists) :
    ofJson? o.toJson = some o := by
  obtain ⟨fields, hrecord, hfound⟩ := Json.record_of_ofFields (v := o.toJson) rfl (by simp)
  simp only [List.forall_mem_cons] at hfound
  obtain ⟨henabled, hdisabled, hhash, hexpiry, -⟩ := hfound
  have henabled : Json.required? Json.bool? "is_enabled" fields = some o.isEnabled :=
    required?_of_lookup henabled rfl
  have hdisabled : Json.required? Json.bool? "can_be_disabled" fields = some o.canBeDisabled :=
    required?_of_lookup hdisabled rfl
  have hhash : Json.optional? Json.string? "authentication_token_hash" fields = some o.tokenHash :=
    optional?_of_lookup hhash (fun _ _ => rfl) fun _ _ => nofun
  have hexpiry : Json.optional? Instant.ofJson? "authentication_token_expires_at" fields =
      some o.tokenExpiry :=
    optional?_of_lookup hexpiry (fun t ht => Instant.ofJson?_toJson (h t ht)) fun _ _ => nofun
  simp only [ofJson?, hrecord, henabled, hdisabled, hhash, hexpiry, Option.bind_eq_bind,
    Option.bind_some]
  rfl

/-- The instant of a registration that was read exists. -/
theorem Registration.exists_of_ofJson? {v : Json} {r : Registration} (h : ofJson? v = some r) :
    ∀ t ∈ r.verifiedAt?, t.Exists := by
  simp only [ofJson?, Option.bind_eq_bind] at h
  obtain ⟨⟨tag, body⟩, -, h⟩ := Option.bind_eq_some_iff.1 h
  dsimp only at h
  split at h
  · obtain ⟨_, -, rfl⟩ := Option.map_eq_some_iff.1 h
    exact nofun
  · obtain ⟨_, -, h⟩ := Option.bind_eq_some_iff.1 h
    obtain ⟨_, -, h⟩ := Option.bind_eq_some_iff.1 h
    obtain rfl := Option.some.inj h
    exact nofun
  · obtain ⟨_, -, h⟩ := Option.bind_eq_some_iff.1 h
    obtain ⟨verifiedAt, hverified, h⟩ := Option.bind_eq_some_iff.1 h
    obtain rfl := Option.some.inj h
    obtain ⟨_, hread⟩ := Json.exists_of_required? hverified
    rintro t ht
    obtain rfl := Option.some.inj ht
    exact Instant.exists_of_ofJson? hread
  · cases h

/-- The expiry of a token that was read exists. -/
theorem MfaOptions.exists_of_ofJson? {v : Json} {o : MfaOptions} (h : ofJson? v = some o) :
    ∀ t ∈ o.tokenExpiry, t.Exists := by
  simp only [ofJson?, Option.bind_eq_bind, Option.bind_eq_some_iff] at h
  obtain ⟨fields, -, _, -, _, -, _, -, expiry, hexpiry, h⟩ := h
  obtain rfl := Option.some.inj h
  rintro t (rfl : expiry = some t)
  obtain ⟨_, hread⟩ := Json.exists_of_optional? hexpiry
  exact Instant.exists_of_ofJson? hread

/-! ### Printing -/

variable {depth : Nat}

theorem Challenge.isPlain_toJson (c : Challenge) : Json.IsPlain (depth + 1) c.toJson := by
  refine .ofFields ?_
  simp only [List.forall_mem_cons]
  exact ⟨.string _, .string _, nofun⟩

theorem Material.isPlain_toJson (m : Material) : Json.IsPlain (depth + 2) m.toJson := by
  refine .ofFields ?_
  rcases m with codes | ⟨secret, uri⟩ | ⟨number | address, challenge⟩ <;>
    simp only [parts, Contact.toField, List.forall_mem_cons]
  · exact ⟨.string _, .string _, nofun⟩
  · exact ⟨.string _, .string _, .string _, nofun⟩
  · exact ⟨.string _, .string _, .ofOption Challenge.isPlain_toJson challenge, nofun⟩
  · exact ⟨.string _, .string _, .ofOption Challenge.isPlain_toJson challenge, nofun⟩

theorem Authenticator.isPlain_toJson (a : Authenticator) : Json.IsPlain (depth + 3) a.toJson := by
  refine .ofFields ?_
  simp only [List.forall_mem_cons]
  exact ⟨.string _, .bool _, .ofOption .string _, a.material.isPlain_toJson, nofun⟩

theorem Registration.isPlain_toJson (r : Registration) : Json.IsPlain (depth + 1) r.toJson := by
  cases r <;> refine .ofFields ?_ <;> simp only [List.forall_mem_cons]
  case unverified => exact ⟨.string _, nofun⟩
  case pending => exact ⟨.string _, .string _, nofun⟩
  case verified => exact ⟨.string _, .string _, nofun⟩

theorem MfaOptions.isPlain_toJson (o : MfaOptions) : Json.IsPlain (depth + 1) o.toJson := by
  refine .ofFields ?_
  simp only [List.forall_mem_cons]
  exact ⟨.bool _, .bool _, .ofOption .string _, .ofOption (fun _ => .string _) _, nofun⟩

theorem Credential.isPlain_toJson (c : Credential) : Json.IsPlain (depth + 5) c.toJson := by
  refine .ofFields ?_
  simp only [List.forall_mem_cons]
  exact ⟨.string _, .string _, .ofOption (fun _ => .string _) _, .ofOption .string _,
    .ofOption .string _, c.registration.isPlain_toJson, c.mfa.isPlain_toJson,
    .ofList Authenticator.isPlain_toJson _, nofun⟩

namespace Credential

/-! ### Credentials -/

/-- The instants that a credential has: when its registration was verified, and when its token for a
sign-in expires. -/
def instants (c : Credential) : List Instant :=
    c.registration.verifiedAt?.toList ++ c.mfa.tokenExpiry.toList

theorem ofJson?_toJson (c : Credential) (h : ∀ t ∈ c.instants, t.Exists) :
    ofJson? c.toJson = some c := by
  obtain ⟨fields, hrecord, hfound⟩ := Json.record_of_ofFields (v := c.toJson) rfl (by simp)
  simp only [List.forall_mem_cons] at hfound
  obtain ⟨hid, huser, husername, hname, hpassword, hregistration, hmfa, hlist, -⟩ := hfound
  have hverified : ∀ t ∈ c.registration.verifiedAt?, t.Exists := fun t ht =>
    h t (List.mem_append_left _ (Option.mem_toList.2 ht))
  have hexpiry : ∀ t ∈ c.mfa.tokenExpiry, t.Exists := fun t ht =>
    h t (List.mem_append_right _ (Option.mem_toList.2 ht))
  have hid : Json.required? Uuid.ofJson? "id" fields = some c.id.uuid :=
    required?_of_lookup hid c.id.uuid.ofJson?_toJson
  have huser : Json.required? Uuid.ofJson? "user_id" fields = some c.userId.uuid :=
    required?_of_lookup huser c.userId.uuid.ofJson?_toJson
  have husername :
      Json.optional? Json.string? "username" fields = some (c.username.map EmailAddress.text) := by
    have htext : Json.ofOption (fun (e : EmailAddress) => .string e.text) c.username =
        Json.ofOption Json.string (c.username.map EmailAddress.text) := by cases c.username <;> rfl
    rw [htext] at husername
    exact optional?_of_lookup husername (fun _ _ => rfl) fun _ _ => nofun
  have hname : Json.optional? Json.string? "display_name" fields = some c.displayName :=
    optional?_of_lookup hname (fun _ _ => rfl) fun _ _ => nofun
  have hpassword : Json.optional? Json.string? "password_hash" fields = some c.passwordHash :=
    optional?_of_lookup hpassword (fun _ _ => rfl) fun _ _ => nofun
  have hregistration :
      Json.required? Registration.ofJson? "registration" fields = some c.registration :=
    required?_of_lookup hregistration (c.registration.ofJson?_toJson hverified)
  have hmfa : Json.required? MfaOptions.ofJson? "mfa_options" fields = some c.mfa :=
    required?_of_lookup hmfa (c.mfa.ofJson?_toJson hexpiry)
  have hlist : Json.required? (Json.list? Authenticator.ofJson?) "authenticators" fields =
      some c.authenticators :=
    required?_of_lookup hlist (Json.list?_ofList fun a _ => a.ofJson?_toJson)
  have haddress : (c.username.map EmailAddress.text).map EmailAddress.mk = c.username := by
    cases c.username <;> rfl
  simp only [ofJson?, hrecord, hid, huser, husername, hname, hpassword, hregistration, hmfa,
    hlist, haddress, Option.bind_eq_bind, Option.bind_some]
  rfl

/-- The instants of a credential that was read exist. -/
theorem exists_of_ofJson? {v : Json} {c : Credential} (h : ofJson? v = some c) :
    ∀ t ∈ c.instants, t.Exists := by
  simp only [ofJson?, Option.bind_eq_bind, Option.bind_eq_some_iff] at h
  obtain ⟨fields, -, _, -, _, -, _, -, _, -, _, -, registration, hregistration, mfa, hmfa,
    _, -, h⟩ := h
  obtain rfl := Option.some.inj h
  obtain ⟨_, hregistration⟩ := Json.exists_of_required? hregistration
  obtain ⟨_, hmfa⟩ := Json.exists_of_required? hmfa
  intro t ht
  rcases List.mem_append.1 ht with ht | ht
  · exact Registration.exists_of_ofJson? hregistration t (Option.mem_toList.1 ht)
  · exact MfaOptions.exists_of_ofJson? hmfa t (Option.mem_toList.1 ht)

/-- A credential comes back from what it is stored as, and that from the text that is printed of
it. -/
structure Returns (c : Credential) : Prop where
  read_eq : ofJson? c.toJson = some c
  parse_eq : Json.parse (Json.compact c.toJson) = .ok c.toJson

theorem returns_of_read_eq {c : Credential} (h : ofJson? c.toJson = some c) : c.Returns :=
  ⟨h, Json.parse_compact c.isPlain_toJson⟩

/-- A credential comes back when it is stored, if the instants that it has are such as all those in
the years 0 to 9999. And whatever JSON is read as a credential is read as one that comes back when
it is stored. -/
theorem stored_read_same : (∀ c : Credential, (∀ t ∈ c.instants, t.Exists) → c.Returns) ∧
    ∀ v c, ofJson? v = some c → c.Returns :=
  ⟨fun c h => returns_of_read_eq (c.ofJson?_toJson h),
    fun _ c h => returns_of_read_eq (c.ofJson?_toJson (exists_of_ofJson? h))⟩

/-- A credential with authenticators of all kinds, verified in a leap second, with a token that
expires at the end of the year 9999. -/
def sampleStored : Credential where
  id := ⟨⟨0x00112233445566778899aabbccddeeff#128⟩⟩
  userId := ⟨⟨1#128⟩⟩
  username := some ⟨"ann@example.com"⟩
  displayName := none
  passwordHash := some "$argon2id$\n\"hash\""
  registration := .verified ⟨1483228799, 1000000001⟩
  mfa := ⟨true, false, some "hash", some ⟨253402300799, 120000000⟩⟩
  authenticators := [⟨⟨⟨2#128⟩⟩, true, some "AAAA-BBBB", .recoveryCodes "codes"⟩,
    ⟨⟨⟨3#128⟩⟩, false, none, .totp "secret" "otpauth://totp/a"⟩,
    ⟨⟨⟨4#128⟩⟩, true, none, .outOfBand (.sms ⟨"+6498876986"⟩) (some ⟨"code", "secret"⟩)⟩,
    ⟨⟨⟨5#128⟩⟩, true, some "", .outOfBand (.email ⟨"ann@example.com"⟩) none⟩]

/-- A registration in another spelling: identifiers in other forms, an instant elsewhere on Earth,
records without names. -/
def sampleSpelling : Json :=
  .array [.string "urn:uuid:00112233-4455-6677-8899-AABBCCDDEEFF",
    .string "00000000000000000000000000000001", .null, .null, .null,
    .object [("verified_at", .string "2017-01-01 0:59:60.5+01:00"), ("state", .string "verified")],
    .object [("is_enabled", .bool true), ("extra", .null), ("can_be_disabled", .bool true)],
    .array []]

theorem stored_read_same_sample : sampleStored.Returns ∧ ∃ c, ofJson? sampleSpelling = some c ∧
    c.Returns := by
  constructor
  · refine stored_read_same.1 sampleStored fun t ht => ?_
    rcases List.mem_cons.1 ht with rfl | ht
    · exact ⟨by decide +kernel, by decide +kernel, by decide, fun _ => by decide⟩
    · obtain rfl := List.mem_singleton.1 ht
      exact Instant.exists_of_year (by decide +kernel) (by decide +kernel) (by decide)
  · have hread : (ofJson? sampleSpelling).isSome = true := by decide +kernel
    obtain ⟨c, hc⟩ := Option.isSome_iff_exists.1 hread
    exact ⟨c, hc, stored_read_same.2 _ c hc⟩

end Credential

end TenantAuth
