import SocialPromotion.Lib.TextEncoding
import SocialPromotion.Model.Credentials

/-!
# Encrypted secrets

`encrypt` of `token.service.ts`, and the body of the `try` block of `decrypt` over AES-256-GCM
as an ideal cipher. The service keeps nothing between two calls: the key ring is read from the
environment each time.
-/

namespace SocialPromotion

/-- AES-256-GCM with a tag of 16 octets. -/
structure AuthenticatedCipher where
  /-- Key, initialisation vector and plaintext give the ciphertext and its tag. -/
  cipheriv : List UInt8 → List UInt8 → List UInt8 → List UInt8 × List UInt8
  /-- Key, initialisation vector, tag and ciphertext; `none` is a thrown error. -/
  decipheriv : List UInt8 → List UInt8 → List UInt8 → List UInt8 → Option (List UInt8)
  ciphertext_length : ∀ key iv plaintext, key.length = 32 → iv.length = 12 →
    (cipheriv key iv plaintext).1.length = plaintext.length
  tag_length : ∀ key iv plaintext, key.length = 32 → iv.length = 12 →
    (cipheriv key iv plaintext).2.length = 16
  decipheriv_cipheriv : ∀ key iv plaintext, key.length = 32 → iv.length = 12 →
    decipheriv key iv (cipheriv key iv plaintext).2 (cipheriv key iv plaintext).1 = some plaintext

/-- What `randomBytes(12)` draws. -/
structure InitialisationVector where
  octets : List UInt8
  length : octets.length = 12

namespace TokenService

/-- The `try` block of `decrypt`, for texts that pass `isBase64Url`. -/
def decipher (cipher : AuthenticatedCipher) (key : List UInt8) (iv tag ciphertext : Text) :
    Option Text := do
  let iv ← Base64url.decode? iv
  let tag ← Base64url.decode? tag
  let ciphertext ← Base64url.decode? ciphertext
  let plaintext ← cipher.decipheriv key iv tag ciphertext
  return Utf8.decode plaintext

/-- `[version, iv, tag, ciphertext].join('.')`. -/
def payload (version : Text) (iv tag ciphertext : List UInt8) : Text :=
  ['.'].intercalate
    [version, Base64url.encode iv, Base64url.encode tag, Base64url.encode ciphertext]

def encrypt (cipher : AuthenticatedCipher) (s : Surroundings) (iv : InitialisationVector)
    (plaintext : Text) : Except ThrownError Text :=
  if plaintext.isEmpty then .error (.typeError "Cannot encrypt an empty secret.")
  else do
    let version ← keyVersion s
    let key ← key s version
    let (ciphertext, tag) := cipher.cipheriv key iv.octets (Utf8.encode plaintext)
    return payload version iv.octets tag ciphertext

end TokenService

/-- The surroundings with the cipher for what `decrypt` calls. -/
def Surroundings.under (s : Surroundings) (cipher : AuthenticatedCipher) : Surroundings :=
  { s with decipher := TokenService.decipher cipher }

end SocialPromotion
