import Emplace.Cipher.Aes256

/-!
# Galois/counter mode

Authenticated encryption on top of AES-256 with nonces of 12 bytes, tags of 16 bytes and no associated data.
`decrypt?` gives the plaintext back exactly when the tag belongs to the ciphertext.
-/

namespace Emplace.Gcm

open Sha256 (pieces bytesOfNat)

structure Nonce where
  bytes : Bytes
  length_bytes : bytes.length = 12

def nonceLength : Nat := 12

def tagLength : Nat := 16

def counterBlock (nonce : Bytes) (i : Nat) : Bytes := nonce ++ bytesOfNat 4 i

def keyStream (keys : List Bytes) (nonce : Bytes) (blocks : Nat) : Bytes :=
  (List.range blocks).flatMap fun i => Aes256.encryptWith keys (counterBlock nonce (i + 2))

def applyStream (keys : List Bytes) (nonce text : Bytes) : Bytes :=
  Aes256.xor text (keyStream keys nonce ((text.length + 15) / 16))

def natOfBytes (bytes : Bytes) : Nat := bytes.foldl (fun n b => 256 * n + b.toNat) 0

/-- The reduction polynomial of the field of 2^128 elements, in the bit order of the mode. -/
def reduction : Nat := 0xe1 <<< 120

def halve (v : Nat) : Nat := if v % 2 = 1 then (v / 2) ^^^ reduction else v / 2

def multiply (x y : Nat) : Nat :=
  ((List.range 128).foldl (fun (z, v) i => (if x.testBit (127 - i) then z ^^^ v else z, halve v))
    (0, y)).1

def filled (block : Bytes) : Bytes := block ++ List.replicate (16 - block.length) 0

def hash (h : Nat) (ciphertext : Bytes) : Nat :=
  let blocks := (pieces 16 ciphertext.length ciphertext).map fun b => natOfBytes (filled b)
  (blocks ++ [8 * ciphertext.length]).foldl (fun y b => multiply (y ^^^ b) h) 0

def tag (keys : List Bytes) (nonce ciphertext : Bytes) : Bytes :=
  let h := natOfBytes (Aes256.encryptWith keys (List.replicate 16 0))
  Aes256.xor (Aes256.encryptWith keys (counterBlock nonce 1)) (bytesOfNat 16 (hash h ciphertext))

def encrypt (key nonce plain : Bytes) : Bytes :=
  let keys := Aes256.roundKeys key
  let ciphertext := applyStream keys nonce plain
  ciphertext ++ tag keys nonce ciphertext

/-- Implementations refuse a body whose text is longer than `2 ^ 36` bytes, whatever its tag. Here no body is too
long. -/
def decrypt? (key nonce body : Bytes) : Option Bytes :=
  let keys := Aes256.roundKeys key
  let ciphertext := body.take (body.length - tagLength)
  if body.drop (body.length - tagLength) = tag keys nonce ciphertext then
    some (applyStream keys nonce ciphertext)
  else none

end Emplace.Gcm
