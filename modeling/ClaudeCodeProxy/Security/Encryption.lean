import ClaudeCodeProxy.Models.Errors
import ClaudeCodeProxy.Text.Base64
import ClaudeCodeProxy.Text.Strings

namespace ClaudeCodeProxy

def ENCRYPTION_PREFIX : String := "enc::"

-- Both directions may raise.
structure EncryptionService where
  encrypt : String → Except Failure String
  decrypt : String → Except Failure String

def EncryptionService.RoundTrip (encryption : EncryptionService) : Prop :=
  ∀ plaintext ciphertext, encryption.encrypt plaintext = .ok ciphertext →
    encryption.decrypt ciphertext = .ok plaintext

namespace SimpleEnvelopeEncryption

def encrypt (plaintext : String) : Except Failure String :=
  let encoded := String.ofList (Base64.encode plaintext.toUTF8.data.toList)
  .ok (ENCRYPTION_PREFIX ++ encoded)

-- Each step of the decoding has an exception of its own.
def decrypt (ciphertext : String) : Except Failure String :=
  if !Text.startsWith ciphertext ENCRYPTION_PREFIX then
    .error (.Raised "ValueError")
  else
    let encoded := Text.removePrefix ciphertext ENCRYPTION_PREFIX
    if !encoded.toList.all (·.toNat < 128) then
      .error (.Raised "UnicodeEncodeError")
    else
      match Base64.decode encoded.toList with
      | none => .error (.Raised "binascii.Error")
      | some bytes =>
          match String.fromUTF8? ⟨bytes.toArray⟩ with
          | none => .error (.Raised "UnicodeDecodeError")
          | some plaintext => .ok plaintext

end SimpleEnvelopeEncryption

def simpleEnvelopeEncryption : EncryptionService where
  encrypt := SimpleEnvelopeEncryption.encrypt
  decrypt := SimpleEnvelopeEncryption.decrypt

theorem simpleEnvelopeEncryption_roundTrip : simpleEnvelopeEncryption.RoundTrip := by
  intro plaintext ciphertext h
  cases h
  have hstart : ∀ rest, Text.startsWith (ENCRYPTION_PREFIX ++ rest) ENCRYPTION_PREFIX = true := by
    intro rest
    simp [Text.startsWith, String.toList_append]
  have hascii : (Base64.encode plaintext.toUTF8.data.toList).all (·.toNat < 128) = true :=
    List.all_eq_true.mpr fun c hc => decide_eq_true (Base64.encode_ascii _ c hc)
  have hutf8 : String.fromUTF8? ⟨plaintext.toUTF8.data.toList.toArray⟩ = some plaintext := by
    have hvalid : plaintext.toUTF8.IsValidUTF8 := plaintext.isValidUTF8
    rw [String.fromUTF8?, Array.toArray_toList, dif_pos hvalid]
    rfl
  simp only [simpleEnvelopeEncryption, SimpleEnvelopeEncryption.decrypt, hstart,
    Text.removePrefix_append, String.toList_ofList, hascii, Base64.decode_encode, hutf8,
    Bool.not_true, Bool.false_eq_true, ite_false]

end ClaudeCodeProxy
