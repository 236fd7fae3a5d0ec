import TenantAuth.Cipher.AtRest
import TenantAuth.Proofs.Cipher.Gcm
import TenantAuth.Proofs.Codec.Base64
import TenantAuth.Proofs.Codec.Hex
import TenantAuth.Proofs.Contact.Canonical
import TenantAuth.Proofs.Mfa.Configured
import TenantAuth.Proofs.Mfa.Consuming
import TenantAuth.Proofs.Mfa.Proving

/-!
Texts that are stored encrypted are opened as they were.

A key comes from its bytes, or from a text that spells them in hexadecimal. It is the same key
either way, so what was stored under one is opened under the other. The nonce is stored in front of
the ciphertext and has a fixed length, and the tag keeps what follows it from being empty, even for
the empty text.

So the services for any configuration decrypt whatever they encrypted.
-/

namespace TenantAuth.Cipher

variable {bytes nonce : List UInt8} {made made' : Except Fault Key}

/-- The ways to make a key of bytes: from the bytes as they are, or from a text that spells them in
hexadecimal, with letters in either case and blanks around it. -/
inductive Key.MadeFrom (bytes : List UInt8) : Except Fault Key → Prop
  | raw : MadeFrom bytes (Key.ofBytes bytes)
  | spelled {text : String} (before digits after : List Char)
      (eq : text.toList = before ++ digits ++ after)
      (blank : ∀ c ∈ before ++ after, Text.isBlank c = true)
      (spells : Codec.Hex.Spells digits bytes) :
      MadeFrom bytes (Key.ofHex text)

/-- Blanks around the digits of a key do not count. -/
theorem Key.ofHex_of_spells {text : String} {before digits after : List Char}
    (htext : text.toList = before ++ digits ++ after)
    (hblank : ∀ c ∈ before ++ after, Text.isBlank c = true)
    (hspells : Codec.Hex.Spells digits bytes) : Key.ofHex text = Key.ofBytes bytes := by
  have hdigit : ∀ c ∈ digits, Text.isBlank c = false := fun c hc => (hspells.spec.1 c hc).2
  have hsurrounds : Text.Surrounds text.toList digits :=
    ⟨⟨before, after, htext, hblank⟩, fun c hc => hdigit c (List.mem_of_mem_head? hc),
      fun c hc => hdigit c (List.mem_of_mem_getLast? hc)⟩
  rw [Key.ofHex, Text.trimmed, Text.surrounds_iff.1 hsurrounds, Codec.Hex.decode_of_spells hspells]

/-- However a key is made of bytes, it is the key with these bytes. -/
theorem Key.MadeFrom.eq (h : Key.MadeFrom bytes made) (hbytes : bytes.length = 32) :
    made = .ok ⟨bytes, hbytes⟩ := by
  have hraw : Key.ofBytes bytes = .ok ⟨bytes, hbytes⟩ := dif_pos hbytes
  cases h with
  | raw => exact hraw
  | spelled _ _ _ htext hblank hspells => rw [Key.ofHex_of_spells htext hblank hspells, hraw]

/-- What is stored is opened, however long the text is. -/
theorem Key.decrypt_encrypt (key : Key) (hnonce : nonce.length = nonceLength) (text : String) :
    key.decrypt (key.encrypt nonce text) = .ok text := by
  have hsecured := Gcm.length_encrypt key.bytes hnonce (Text.utf8 text)
  have hlong : ¬(nonce ++ Gcm.encrypt key.bytes nonce (Text.utf8 text)).length ≤ nonceLength := by
    rw [List.length_append, hsecured, hnonce]
    omega
  rw [Key.decrypt, Key.encrypt, Codec.Base64.decode_encode]
  dsimp only
  rw [if_neg hlong, ← hnonce, List.take_left, List.drop_left, Gcm.decrypt?_encrypt key.bytes hnonce]
  dsimp only
  rw [Text.ofUtf8_utf8]
  rfl

/-- A key is made of any thirty-two bytes, as they are or spelled in hexadecimal. What is stored of
a text under a nonce of twelve bytes is the padded base 64 of the nonce and the ciphertext, which is
longer than the text by the tag of sixteen bytes. A key that was made of the same bytes opens it, in
the same way or in the other, and finds the text. -/
theorem stored_text_opens (hbytes : bytes.length = 32) (hmade : Key.MadeFrom bytes made)
    (hmade' : Key.MadeFrom bytes made') :
    ∃ key key', made = .ok key ∧ made' = .ok key' ∧ ∀ nonce, nonce.length = 12 → ∀ text,
      (Gcm.encrypt bytes nonce (Text.utf8 text)).length = (Text.utf8 text).length + 16 ∧
      Codec.Base64.IsPadded (key.encrypt nonce text)
      (nonce ++ Gcm.encrypt bytes nonce (Text.utf8 text)) ∧
      key'.decrypt (key.encrypt nonce text) = .ok text := by
  refine ⟨_, _, hmade.eq hbytes, hmade'.eq hbytes, fun nonce hnonce text => ⟨?_, ?_, ?_⟩⟩
  · exact Gcm.length_encrypt bytes hnonce (Text.utf8 text)
  · exact Codec.Base64.isPadded_encode _
  · exact Key.decrypt_encrypt _ hnonce text

theorem stored_text_opens_sample :
    ∃ key key', Key.ofBytes ((List.range 32).map UInt8.ofNat) = .ok key ∧
      Key.ofHex " 000102030405060708090A0B0C0D0E0F101112131415161718191a1b1c1d1e1F\n" = .ok key' ∧
      key'.decrypt (key.encrypt (List.replicate 12 7) "") = .ok "" ∧
      key'.decrypt (key.encrypt (List.replicate 12 7) "JBSWY3DPEHPK3PXP") =
      .ok "JBSWY3DPEHPK3PXP" := by
  have hspelled : Key.MadeFrom ((List.range 32).map UInt8.ofNat)
      (Key.ofHex " 000102030405060708090A0B0C0D0E0F101112131415161718191a1b1c1d1e1F\n") :=
    .spelled [' '] "000102030405060708090A0B0C0D0E0F101112131415161718191a1b1c1d1e1F".toList ['\n']
      (by decide +kernel)
      (List.all_eq_true.1 (by decide)) (by decide +kernel)
  obtain ⟨key, key', hkey, hkey', hall⟩ := stored_text_opens (by decide) .raw hspelled
  exact ⟨key, key', hkey, hkey', (hall (List.replicate 12 7) rfl "").2.2,
    (hall (List.replicate 12 7) rfl "JBSWY3DPEHPK3PXP").2.2⟩

end TenantAuth.Cipher

namespace TenantAuth.Services

variable {config : MfaConfig} {random : RandomSource} {clock : Nat → Nat} {s : Services}

/-- The services for a configuration decrypt whatever they encrypted. -/
theorem restores_of_ofConfig (h : ofConfig config random clock = .ok s) : s.Restores := by
  obtain ⟨key, lifetime, -, -, rfl⟩ := eq_of_ofConfig h
  rintro use use' text stored hstored
  obtain rfl := Except.ok.inj hstored
  exact Cipher.Key.decrypt_encrypt key (random.length_bytes .nonce use Cipher.nonceLength) text

/-- What they decrypt is what was encrypted. -/
theorem Restores.undoes (h : s.Restores) : s.Undoes := by
  intro use use' text stored opened hstored hopened
  rw [h use use' text stored hstored] at hopened
  exact (Except.ok.inj hopened).symm

end TenantAuth.Services
