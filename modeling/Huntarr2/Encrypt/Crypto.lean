import Huntarr2.Foundation.Text

/-!
# Encryption at rest

API keys are stored as the Base64 text of a nonce followed by the AES-256-GCM ciphertext. The cipher
and the encoding are parameters that come with the law the program relies on.
-/

namespace Huntarr2.Encrypt

abbrev Bytes := List UInt8

/-- AES-256-GCM: opening inverts sealing under the same key and nonce. A text stands for its bytes. -/
structure GCM where
  sealText : Bytes → Bytes → Text → Bytes
  openSealed : Bytes → Bytes → Bytes → Option Text
  openSealed_sealText : ∀ key nonce plaintext,
    openSealed key nonce (sealText key nonce plaintext) = some plaintext

/-- `base64.StdEncoding`: decoding inverts encoding, and the empty text decodes to no bytes. -/
structure Base64 where
  encode : Bytes → Text
  decode : Text → Option Bytes
  decode_encode : ∀ data, decode (encode data) = some data
  decode_nil : decode [] = some []

/-- `keyLength`. -/
def keyLength : ℕ := 32

/-- `gcm.NonceSize()`. -/
def nonceSize : ℕ := 12

/-- The bytes `rand.Read` fills a nonce with. -/
abbrev Nonce := { bytes : Bytes // bytes.length = nonceSize }

variable (gcm : GCM) (base64 : Base64)

/-- `Encrypt`, where reading random bytes yields `nonce`. -/
def encrypt (plaintext : Text) (key : Bytes) (nonce : Except String Nonce) : Except String Text :=
  if key.length ≠ keyLength then
    .error s!"encryption key must be {keyLength} bytes, got {key.length}"
  else match nonce with
    | .error err => .error s!"generating nonce: {err}"
    | .ok nonce => .ok (base64.encode (nonce.1 ++ gcm.sealText key nonce.1 plaintext))

/-- `Decrypt`. -/
def decrypt (ciphertext : Text) (key : Bytes) : Except String Text :=
  if key.length ≠ keyLength then
    .error s!"decryption key must be {keyLength} bytes, got {key.length}"
  else if ciphertext.isEmpty then .error "ciphertext is empty"
  else match base64.decode ciphertext with
    | none => .error "decoding base64"
    | some data =>
      if data.length < nonceSize then .error "ciphertext too short"
      else match gcm.openSealed key (data.take nonceSize) (data.drop nonceSize) with
        | none => .error "decrypting"
        | some plaintext => .ok plaintext

/-- What was encrypted under a key is decrypted under it. -/
theorem decrypt_of_encrypt {plaintext ciphertext : Text} {key : Bytes} {nonce : Except String Nonce}
    (h : encrypt gcm base64 plaintext key nonce = .ok ciphertext) :
    decrypt gcm base64 ciphertext key = .ok plaintext := by
  unfold encrypt at h
  split at h
  case isTrue => cases h
  case isFalse hkey =>
    cases nonce with
    | error err => cases h
    | ok nonce =>
      have hcipher := Except.ok.inj h
      obtain ⟨bytes, hlength⟩ := nonce
      have hlong : ¬(bytes ++ gcm.sealText key bytes plaintext).length < nonceSize := by
        rw [List.length_append, hlength]
        omega
      have hnonempty : ¬ciphertext.isEmpty = true := by
        intro hempty
        have hdecode := base64.decode_encode (bytes ++ gcm.sealText key bytes plaintext)
        rw [hcipher, List.isEmpty_iff.mp hempty, base64.decode_nil] at hdecode
        rw [← Option.some.inj hdecode] at hlong
        exact hlong (by decide)
      unfold decrypt
      rw [if_neg hkey, if_neg hnonempty, ← hcipher, base64.decode_encode]
      dsimp only
      rw [if_neg hlong, ← hlength, List.take_left, List.drop_left, gcm.openSealed_sealText]

end Huntarr2.Encrypt
