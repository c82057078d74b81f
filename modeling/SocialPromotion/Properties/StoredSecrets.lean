import SocialPromotion.Lib.JsonText
import SocialPromotion.Lib.Keyed
import SocialPromotion.Model.Encryption

/-!
# Stored secrets stay readable

`encrypt` takes a text of any length; `decrypt` takes no part of a payload that is longer than
16384 characters. Nothing else keeps a secret from being read back, whatever became of the
other keys in between.

* `decrypt_payload`: what `decrypt` makes of a payload of `encrypt`;
* `stored_secret_readable_iff`: which secrets are read back.
-/

namespace SocialPromotion

open Keyed TokenService

/-! ## The four parts of a payload -/

section Parts

variable {version : Text}

theorem isKeyChar_digit_all : ∀ n < 64, isKeyChar (Base64url.digit n) = true := by decide

theorem isKeyChar_encode (octets : List UInt8) :
    ∀ c ∈ Base64url.encode octets, isKeyChar c = true :=
  Base64url.forall_encode isKeyChar_digit_all octets

/-- The 16384 characters that a part may have are those of 12288 octets. -/
theorem isBase64Url_encode_iff (octets : List UInt8) :
    isBase64Url (Base64url.encode octets) = true ↔ octets ≠ [] ∧ octets.length ≤ 12288 := by
  have hLength := Base64url.length_encode octets
  have hNil : octets ≠ [] ↔ 0 < octets.length := List.length_pos_iff.symm
  have hChars : (Base64url.encode octets).all isKeyChar = true :=
    List.all_eq_true.mpr (isKeyChar_encode octets)
  rw [isBase64Url, decide_eq_true_eq, eq_true hChars, and_true, hNil, hLength]
  omega

theorem not_mem_dot {text : Text} (h : ∀ c ∈ text, isKeyChar c = true) : '.' ∉ text := by
  intro hDot
  have hKeyChar := h '.' hDot
  exact absurd hKeyChar (by decide)

/-- The parts of a payload come back. -/
theorem splitOn_payload (h : isKeyVersion version = true) (iv tag ciphertext : List UInt8) :
    (payload version iv tag ciphertext).splitOn '.' =
      [version, Base64url.encode iv, Base64url.encode tag, Base64url.encode ciphertext] := by
  rw [isKeyVersion, decide_eq_true_eq] at h
  refine List.splitOn_intercalate '.' (fun part hPart => not_mem_dot ?_) (List.cons_ne_nil _ _)
  simp only [List.mem_cons, List.not_mem_nil, or_false] at hPart
  rcases hPart with rfl | rfl | rfl | rfl
  · exact List.all_eq_true.mp h.2.2
  · exact isKeyChar_encode iv
  · exact isKeyChar_encode tag
  · exact isKeyChar_encode ciphertext

end Parts

/-! ## Keys -/

section Keys

variable {s : Surroundings} {version : Text} {k : List UInt8}

theorem keyVersion_valid (h : keyVersion s = .ok version) : isKeyVersion version = true := by
  unfold keyVersion at h
  dsimp only at h
  split at h
  · rename_i hValid
    injection h with h
    exact h ▸ hValid
  · cases h

theorem decodeKey_length {encodedKey : Text} (h : decodeKey s encodedKey = .ok k) :
    k.length = 32 := by
  unfold decodeKey at h
  dsimp only at h
  split at h
  · cases h
  · rename_i hKey
    injection h with h
    rw [← h]
    exact Decidable.not_not.mp fun hLength => hKey (.inl hLength)

theorem keyEntry_length {entry : String × Json} {e : Text × List UInt8}
    (h : keyEntry s entry = .ok e) : e.2.length = 32 := by
  unfold keyEntry at h
  split at h
  · split at h
    · obtain ⟨key, hKey, h⟩ := bind_eq_ok.mp h
      injection h with h
      rw [← h]
      exact decodeKey_length hKey
    · cases h
  · cases h

theorem mapM_keyEntry_length {entries : List (String × Json)} {keys : List (Text × List UInt8)}
    (h : entries.mapM (keyEntry s) = .ok keys) : ∀ e ∈ keys, e.2.length = 32 := by
  induction entries generalizing keys with
  | nil =>
    injection h with h
    rw [← h]
    exact List.forall_mem_nil _
  | cons entry entries ih =>
    rw [List.mapM_cons] at h
    obtain ⟨e, hEntry, h⟩ := bind_eq_ok.mp h
    obtain ⟨rest, hRest, h⟩ := bind_eq_ok.mp h
    injection h with h
    rw [← h]
    exact List.forall_mem_cons.mpr ⟨keyEntry_length hEntry, ih hRest⟩

/-- Every key of the ring has 32 octets. -/
theorem keyRing_length {keys : List (Text × List UInt8)} (h : keyRing s = .ok keys) :
    ∀ e ∈ keys, e.2.length = 32 := by
  unfold keyRing at h
  split at h
  · unfold legacyKeyRing at h
    split at h
    · cases h
    · obtain ⟨version, -, h⟩ := bind_eq_ok.mp h
      obtain ⟨key, hKey, h⟩ := bind_eq_ok.mp h
      injection h with h
      rw [← h]
      exact List.forall_mem_singleton.mpr (decodeKey_length hKey)
  · split at h
    · cases h
    · exact mapM_keyEntry_length h
    · cases h

theorem key_length (h : TokenService.key s version = .ok k) : k.length = 32 := by
  obtain ⟨keys, hRing, h⟩ := bind_eq_ok.mp h
  split at h
  · rename_i key hLookup
    injection h with h
    obtain ⟨before, after, hSplit, -⟩ := List.lookup_eq_some_iff.mp hLookup
    exact h ▸ keyRing_length hRing (version, key) (by rw [hSplit]; simp)
  · cases h

/-- The key ring does not depend on the cipher. -/
theorem key_under (cipher : AuthenticatedCipher) :
    TokenService.key (s.under cipher) version = TokenService.key s version := rfl

end Keys

/-! ## The round trip -/

section RoundTrip

variable {cipher : AuthenticatedCipher} {s s' : Surroundings} {version : Text} {k : List UInt8}
  {iv : InitialisationVector} {plaintext : Text}

/-- A text that is not empty is encrypted under the current version. -/
theorem encrypt_eq (hVersion : keyVersion s = .ok version)
    (hKey : TokenService.key s version = .ok k) (hText : plaintext ≠ []) :
    encrypt cipher s iv plaintext = .ok (payload version iv.octets
      (cipher.cipheriv k iv.octets (Utf8.encode plaintext)).2
      (cipher.cipheriv k iv.octets (Utf8.encode plaintext)).1) := by
  have hNonempty : plaintext.isEmpty = false := by
    cases plaintext with
    | nil => exact absurd rfl hText
    | cons => rfl
  rw [encrypt, hNonempty, hVersion]
  show (TokenService.key s version >>= _) = _
  rw [hKey]
  rfl

/-- What the `try` block makes of the parts of a payload. -/
theorem decipher_payload (hLength : k.length = 32) :
    decipher cipher k (Base64url.encode iv.octets)
      (Base64url.encode (cipher.cipheriv k iv.octets (Utf8.encode plaintext)).2)
      (Base64url.encode (cipher.cipheriv k iv.octets (Utf8.encode plaintext)).1) =
        some plaintext := by
  simp only [decipher, Base64url.decode?_encode, Option.bind_eq_bind, Option.bind_some,
    cipher.decipheriv_cipheriv k iv.octets _ hLength iv.length, Utf8.decode_encode]
  rfl

variable (cipher iv) in
/-- **Reading a payload.** Under a key ring that has the key of its version it gives the text
back, unless the ciphertext is too long for `decrypt`. -/
theorem decrypt_payload (hVersion : isKeyVersion version = true)
    (hKey : TokenService.key s' version = .ok k) (hText : plaintext ≠ []) :
    decrypt (s'.under cipher) (payload version iv.octets
      (cipher.cipheriv k iv.octets (Utf8.encode plaintext)).2
      (cipher.cipheriv k iv.octets (Utf8.encode plaintext)).1) =
    if (Utf8.encode plaintext).length ≤ 12288 then .ok plaintext
    else .error (.typeError "Unsupported encrypted secret payload.") := by
  have hKeyLength := key_length hKey
  have hCiphertext := cipher.ciphertext_length k iv.octets (Utf8.encode plaintext) hKeyLength
    iv.length
  have hTag := cipher.tag_length k iv.octets (Utf8.encode plaintext) hKeyLength iv.length
  have hOctets : 0 < (Utf8.encode plaintext).length :=
    List.length_pos_iff.mpr (Utf8.encode_ne_nil hText)
  have hIvPart : isBase64Url (Base64url.encode iv.octets) = true := by
    rw [isBase64Url_encode_iff, ← List.length_pos_iff, iv.length]
    decide
  have hTagPart : isBase64Url
      (Base64url.encode (cipher.cipheriv k iv.octets (Utf8.encode plaintext)).2) = true := by
    rw [isBase64Url_encode_iff, ← List.length_pos_iff, hTag]
    decide
  have hCiphertextPart : isBase64Url
      (Base64url.encode (cipher.cipheriv k iv.octets (Utf8.encode plaintext)).1) = true ↔
        (Utf8.encode plaintext).length ≤ 12288 := by
    rw [isBase64Url_encode_iff, ← List.length_pos_iff, hCiphertext]
    exact ⟨fun h => h.2, fun h => ⟨hOctets, h⟩⟩
  rw [decrypt, splitOn_payload hVersion]
  by_cases hFits : (Utf8.encode plaintext).length ≤ 12288
  · rw [if_pos hFits]
    dsimp only
    rw [if_pos ⟨hVersion, hIvPart, hTagPart, hCiphertextPart.mpr hFits⟩, key_under, hKey]
    simp only [Surroundings.under, bind, Except.bind]
    rw [decipher_payload hKeyLength]
    rfl
  · rw [if_neg hFits]
    dsimp only
    rw [if_neg fun hParts => hFits (hCiphertextPart.mp hParts.2.2.2)]

end RoundTrip

/-- **Which secrets stay readable.** A text that is encrypted under one key ring is read back
under every key ring that has the same key under the version of the payload, whatever else
changed, if and only if its UTF-8 form has at most 12288 octets. -/
theorem stored_secret_readable_iff (cipher : AuthenticatedCipher) {s s' : Surroundings}
    {version : Text} {k : List UInt8} (hVersion : keyVersion s = .ok version)
    (hKey : TokenService.key s version = .ok k) (hKept : TokenService.key s' version = .ok k)
    (iv : InitialisationVector) {plaintext : Text} (hText : plaintext ≠ []) :
    (∃ stored, encrypt cipher s iv plaintext = .ok stored ∧
      decrypt (s'.under cipher) stored = .ok plaintext) ↔
        (Utf8.encode plaintext).length ≤ 12288 := by
  have hRead := decrypt_payload cipher iv (keyVersion_valid hVersion) hKept
    hText
  rw [encrypt_eq hVersion hKey hText]
  constructor
  · rintro ⟨stored, hStored, hBack⟩
    injection hStored with hStored
    rw [← hStored, hRead] at hBack
    by_contra hLong
    rw [if_neg hLong] at hBack
    cases hBack
  · intro hFits
    exact ⟨_, rfl, by rw [hRead, if_pos hFits]⟩

/-! ## A rotation -/

namespace Vault

/-- Base64 of 32 octets 1, of 32 octets 2 and of 32 octets 3. -/
def key1 : Text := "AQEBAQEBAQEBAQEBAQEBAQEBAQEBAQEBAQEBAQEBAQE=".toList
def key2 : Text := "AgICAgICAgICAgICAgICAgICAgICAgICAgICAgICAgI=".toList
def key3 : Text := "AwMDAwMDAwMDAwMDAwMDAwMDAwMDAwMDAwMDAwMDAwM=".toList

def ringText (ring : List (String × Text)) : Text :=
  JsonText.stringify (ring.map fun e => (e.1.toList, e.2))

/-- A process with a key ring and a current version. -/
def surroundings (ring : List (String × Text)) (current : String) : Surroundings where
  cfg := { adapters := fun _ => none, isTagChar := Char.isAlphanum, parseUrl := fun _ => none }
  env name :=
    if name = "OAUTH_TOKEN_ENCRYPTION_KEYS" then some (ringText ring)
    else if name = "OAUTH_TOKEN_ENCRYPTION_KEY_VERSION" then some current.toList
    else none
  hostname := id
  href := id
  number _ := .nan
  toLowerCase := List.map Char.toLower
  parseJson text :=
    if text = ringText ring then some (.object (ring.map fun e => (e.1, .string e.2))) else none
  fromBase64 text := (Base64url.decode? text).getD []
  toBase64 octets := Base64url.encode octets ++ ['=']
  decipher _ _ _ _ := none

/-- A cipher that hides nothing. -/
def cipher : AuthenticatedCipher where
  cipheriv _ _ plaintext := (plaintext, List.replicate 16 0)
  decipheriv _ _ tag ciphertext := if tag = List.replicate 16 0 then some ciphertext else none
  ciphertext_length _ _ _ _ _ := rfl
  tag_length _ _ _ _ _ := rfl
  decipheriv_cipheriv _ _ _ _ _ := if_pos rfl

def iv : InitialisationVector := ⟨List.replicate 12 7, rfl⟩

def before : Surroundings := surroundings [("v1", key1), ("v2", key2)] "v2"

/-- The first version is gone, and a third one is current. -/
def after : Surroundings := surroundings [("v2", key2), ("v3", key3)] "v3"

theorem keyVersion_before : keyVersion before = .ok "v2".toList := by decide +kernel

theorem key_before : TokenService.key before "v2".toList = .ok (List.replicate 32 2) := by
  decide +kernel

theorem key_after : TokenService.key after "v2".toList = .ok (List.replicate 32 2) := by
  decide +kernel

end Vault

theorem stored_secret_readable_after_rotation :
    ∃ stored, encrypt Vault.cipher Vault.before Vault.iv "new-provider-token".toList = .ok stored ∧
      decrypt (Vault.after.under Vault.cipher) stored = .ok "new-provider-token".toList :=
  (stored_secret_readable_iff Vault.cipher Vault.keyVersion_before Vault.key_before Vault.key_after
    Vault.iv (by decide)).mpr (by decide)

/-- A secret of 12289 letters is stored, and not read back under the same key ring. -/
theorem long_secret_unreadable :
    ∃ stored, encrypt Vault.cipher Vault.before Vault.iv (List.replicate 12289 'a') = .ok stored ∧
      decrypt (Vault.before.under Vault.cipher) stored =
        .error (.typeError "Unsupported encrypted secret payload.") := by
  have hText : List.replicate 12289 'a' ≠ [] := List.cons_ne_nil _ _
  have hLength : (Utf8.encode (List.replicate 12289 'a')).length = 12289 := by
    rw [Utf8.encode, List.length_flatMap, List.map_replicate, List.sum_replicate_nat]
    rfl
  refine ⟨_, encrypt_eq Vault.keyVersion_before Vault.key_before hText, ?_⟩
  rw [decrypt_payload _ _ (keyVersion_valid Vault.keyVersion_before) Vault.key_before hText,
    hLength, if_neg (by decide)]

end SocialPromotion
