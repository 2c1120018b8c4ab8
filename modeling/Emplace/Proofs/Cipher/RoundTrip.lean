import Emplace.Cipher
import Emplace.Proofs.Cipher.Blocks

namespace Emplace

namespace Gcm

open Sha256 (bytesOfNat length_bytesOfNat)
open Aes256 (length_encryptWith length_xor length_of_mem_roundKeys)

variable {keys : List Bytes} {nonce : Bytes}

theorem length_counterBlock (twelve : nonce.length = 12) (i : Nat) : (counterBlock nonce i).length = 16 := by
  simp [counterBlock, twelve, length_bytesOfNat]

theorem length_keyStream (whole : ∀ k ∈ keys, k.length = 16) (twelve : nonce.length = 12) (blocks : Nat) :
    (keyStream keys nonce blocks).length = 16 * blocks := by
  have block (i : Nat) : (Aes256.encryptWith keys (counterBlock nonce (i + 2))).length = 16 :=
    length_encryptWith whole (length_counterBlock twelve (i + 2))
  induction blocks with
  | zero => rfl
  | succ blocks ih =>
      simp only [keyStream, List.range_succ, List.flatMap_append, List.length_append] at ih ⊢
      rw [ih, List.flatMap_singleton, block, Nat.mul_succ]

theorem length_applyStream (whole : ∀ k ∈ keys, k.length = 16) (twelve : nonce.length = 12) (text : Bytes) :
    (applyStream keys nonce text).length = text.length := by
  rw [applyStream, length_xor, length_keyStream whole twelve]
  omega

theorem applyStream_applyStream (whole : ∀ k ∈ keys, k.length = 16) (twelve : nonce.length = 12) (text : Bytes) :
    applyStream keys nonce (applyStream keys nonce text) = text := by
  have same := length_applyStream whole twelve text
  rw [applyStream, same]
  exact Aes256.xor_xor_cancel (by rw [length_keyStream whole twelve]; omega)

theorem length_tag (whole : ∀ k ∈ keys, k.length = 16) (twelve : nonce.length = 12) (ciphertext : Bytes) :
    (tag keys nonce ciphertext).length = tagLength := by
  have mask := length_encryptWith whole (length_counterBlock twelve 1)
  rw [tag, length_xor, mask, length_bytesOfNat]
  rfl

theorem length_encrypt (key : Aes256.Key) (nonce : Nonce) (plain : Bytes) :
    (encrypt key.bytes nonce.bytes plain).length = plain.length + tagLength := by
  have whole := length_of_mem_roundKeys key
  rw [encrypt, List.length_append, length_applyStream whole nonce.length_bytes, length_tag whole nonce.length_bytes]

theorem decrypt?_encrypt (key : Aes256.Key) (nonce : Nonce) (plain : Bytes) :
    decrypt? key.bytes nonce.bytes (encrypt key.bytes nonce.bytes plain) = some plain := by
  have whole := length_of_mem_roundKeys key
  have tagged := length_tag whole nonce.length_bytes (applyStream (Aes256.roundKeys key.bytes) nonce.bytes plain)
  simp only [decrypt?, encrypt, List.length_append, tagged, Nat.add_sub_cancel, List.take_left, List.drop_left, if_true,
    applyStream_applyStream whole nonce.length_bytes]

end Gcm

namespace Cipher

theorem opened_encrypt (key : Aes256.Key) (nonce : Gcm.Nonce) (plain : Bytes) :
    (authenticated key).opened (nonce.bytes ++ Gcm.encrypt key.bytes nonce.bytes plain) = .ok plain := by
  have front : (nonce.bytes ++ Gcm.encrypt key.bytes nonce.bytes plain).take Gcm.nonceLength = nonce.bytes :=
    List.take_left' nonce.length_bytes
  have back : (nonce.bytes ++ Gcm.encrypt key.bytes nonce.bytes plain).drop Gcm.nonceLength =
      Gcm.encrypt key.bytes nonce.bytes plain := List.drop_left' nonce.length_bytes
  have length : (nonce.bytes ++ Gcm.encrypt key.bytes nonce.bytes plain).length =
      plain.length + Gcm.nonceLength + Gcm.tagLength := by
    rw [List.length_append, nonce.length_bytes, Gcm.length_encrypt, Gcm.nonceLength]
    omega
  have full : (nonce.bytes ++ Gcm.encrypt key.bytes nonce.bytes plain).isEmpty = false := by
    refine List.isEmpty_eq_false_iff.2 (List.ne_nil_of_length_pos ?_)
    rw [length, Gcm.tagLength]
    omega
  have long : ¬(nonce.bytes ++ Gcm.encrypt key.bytes nonce.bytes plain).length < Gcm.nonceLength + Gcm.tagLength := by
    omega
  simp only [opened, full, Bool.false_eq_true, if_false, if_neg long, front, back, Gcm.decrypt?_encrypt]

theorem sealed_opened (cipher : Cipher) (nonce : Gcm.Nonce) {plain : Bytes} (nonempty : plain ≠ []) :
    ∃ payload, cipher.sealed nonce plain = .ok payload ∧ cipher.opened payload = .ok plain := by
  have full : plain.isEmpty = false := List.isEmpty_eq_false_iff.2 nonempty
  cases cipher with
  | passThrough =>
      refine ⟨plain, ?_, ?_⟩
      · simp only [Cipher.sealed, full, Bool.false_eq_true, if_false]
      · simp only [opened, full, Bool.false_eq_true, if_false]
  | authenticated key =>
      refine ⟨nonce.bytes ++ Gcm.encrypt key.bytes nonce.bytes plain, ?_, opened_encrypt key nonce plain⟩
      simp only [Cipher.sealed, full, Bool.false_eq_true, if_false]

end Cipher

end Emplace
