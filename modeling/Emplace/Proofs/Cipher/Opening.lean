import Emplace.Proofs.Cipher.RoundTrip
import Emplace.Proofs.Text.Trimming

/-!
# What opens was sealed

Under a key the sealed form of a text and the payloads that open to it are the same byte sequences, one for each nonce
(`opened_authenticated_iff`): a payload that opens to a text is its own nonce followed by the encryption of that text.
So a nonce and a text have one payload, no tag can be exchanged, and only the empty text opens without ever having been
sealed. Key files that differ in the blanks around a passphrase give ciphers that open each other's payloads
(`sealedForms`).
-/

namespace Emplace

namespace Gcm

open Aes256 (length_of_mem_roundKeys)

theorem encrypt_of_decrypt? (key : Aes256.Key) {nonce body plain : Bytes} (twelve : nonce.length = 12)
    (decrypted : decrypt? key.bytes nonce body = some plain) : encrypt key.bytes nonce plain = body := by
  simp only [decrypt?, Option.ite_none_right_eq_some, Option.some.injEq] at decrypted
  obtain ⟨tagged, rfl⟩ := decrypted
  simp only [encrypt, applyStream_applyStream (length_of_mem_roundKeys key) twelve, ← tagged, List.take_append_drop]

theorem tag_of_decrypt? {key nonce body plain : Bytes} (decrypted : decrypt? key nonce body = some plain) :
    body.drop (body.length - tagLength) =
      tag (Aes256.roundKeys key) nonce (body.take (body.length - tagLength)) := by
  simp only [decrypt?, Option.ite_none_right_eq_some] at decrypted
  exact decrypted.1

theorem eq_of_decrypt? {key nonce body other plain text : Bytes} (decrypted : decrypt? key nonce body = some plain)
    (again : decrypt? key nonce other = some text) (length : other.length = body.length)
    (front : other.take (body.length - tagLength) = body.take (body.length - tagLength)) : other = body := by
  have back := tag_of_decrypt? again
  rw [length, front, ← tag_of_decrypt? decrypted] at back
  rw [← List.take_append_drop (body.length - tagLength) other, front, back, List.take_append_drop]

end Gcm

namespace Cipher

variable {key : Aes256.Key} {payload other plain : Bytes}

theorem opened_authenticated (long : 28 ≤ payload.length) :
    (authenticated key).opened payload =
      match Gcm.decrypt? key.bytes (payload.take 12) (payload.drop 12) with
      | some plain => .ok plain
      | none => .error .unauthentic := by
  have full : payload.isEmpty = false := List.isEmpty_eq_false_iff.2 (List.ne_nil_of_length_pos (by omega))
  have whole : ¬payload.length < Gcm.nonceLength + Gcm.tagLength := Nat.not_lt.2 long
  simp only [opened, full, Bool.false_eq_true, if_false, if_neg whole]
  rfl

theorem opened_authenticated_short (nonempty : payload ≠ []) (short : payload.length < 28) :
    (authenticated key).opened payload = .error (.tooShort payload.length) := by
  have full : payload.isEmpty = false := List.isEmpty_eq_false_iff.2 nonempty
  have part : payload.length < Gcm.nonceLength + Gcm.tagLength := short
  simp only [opened, full, Bool.false_eq_true, if_false, if_pos part]

theorem length_le_of_opened (opening : (authenticated key).opened payload = .ok plain) : 28 ≤ payload.length := by
  by_contra short
  by_cases empty : payload = []
  · subst empty
    cases opening
  · rw [opened_authenticated_short empty (by omega)] at opening
    cases opening

theorem opened_authenticated_iff :
    (authenticated key).opened payload = .ok plain ↔
      12 ≤ payload.length ∧ payload = payload.take 12 ++ Gcm.encrypt key.bytes (payload.take 12) plain := by
  constructor
  · intro opening
    have long := length_le_of_opened opening
    have twelve : (payload.take 12).length = 12 := List.length_take_of_le (by omega)
    refine ⟨by omega, ?_⟩
    rw [opened_authenticated long] at opening
    cases decrypted : Gcm.decrypt? key.bytes (payload.take 12) (payload.drop 12) with
    | none =>
        rw [decrypted] at opening
        cases opening
    | some text =>
        rw [decrypted] at opening
        cases opening
        rw [Gcm.encrypt_of_decrypt? key twelve decrypted, List.take_append_drop]
  · rintro ⟨long, same⟩
    have back := opened_encrypt key ⟨payload.take 12, List.length_take_of_le long⟩ plain
    rwa [← same] at back

theorem length_of_opened (opening : (authenticated key).opened payload = .ok plain) :
    payload.length = plain.length + 28 := by
  obtain ⟨long, same⟩ := opened_authenticated_iff.1 opening
  have length := Gcm.length_encrypt key ⟨payload.take 12, List.length_take_of_le long⟩ plain
  rw [same, List.length_append, length, List.length_take_of_le long, Gcm.tagLength]
  omega

theorem sealed_authenticated_iff (nonce : Gcm.Nonce) :
    (authenticated key).sealed nonce plain = .ok payload ↔
      plain ≠ [] ∧ payload = nonce.bytes ++ Gcm.encrypt key.bytes nonce.bytes plain := by
  cases plain with
  | nil => simp [Cipher.sealed]
  | cons b plain => simp [Cipher.sealed, eq_comm]

theorem exists_sealed_iff (opening : (authenticated key).opened payload = .ok plain) :
    (∃ nonce, (authenticated key).sealed nonce plain = .ok payload) ↔ plain ≠ [] := by
  obtain ⟨long, same⟩ := opened_authenticated_iff.1 opening
  constructor
  · rintro ⟨nonce, sealing⟩
    exact ((sealed_authenticated_iff nonce).1 sealing).1
  · intro nonempty
    exact ⟨⟨payload.take 12, List.length_take_of_le long⟩, (sealed_authenticated_iff _).2 ⟨nonempty, same⟩⟩

theorem eq_of_opened (opening : (authenticated key).opened payload = .ok plain)
    (again : (authenticated key).opened other = .ok plain) (nonce : other.take 12 = payload.take 12) :
    other = payload := by
  have first := (opened_authenticated_iff.1 opening).2
  have second := (opened_authenticated_iff.1 again).2
  rw [nonce] at second
  exact second.trans first.symm

theorem opened_of_other_tag (opening : (authenticated key).opened payload = .ok plain)
    (length : other.length = payload.length)
    (front : other.take (payload.length - 16) = payload.take (payload.length - 16)) (changed : other ≠ payload) :
    (authenticated key).opened other = .error .unauthentic := by
  have long := length_le_of_opened opening
  have nonce : other.take 12 = payload.take 12 := by
    have shorter := congrArg (List.take 12) front
    rwa [List.take_take, List.take_take, Nat.min_eq_left (by omega)] at shorter
  have body : (other.drop 12).take ((payload.drop 12).length - Gcm.tagLength) =
      (payload.drop 12).take ((payload.drop 12).length - Gcm.tagLength) := by
    have later := congrArg (List.drop 12) front
    rwa [List.drop_take, List.drop_take, Nat.sub_right_comm, ← List.length_drop] at later
  rw [opened_authenticated long] at opening
  rw [opened_authenticated (length ▸ long), nonce]
  cases decrypted : Gcm.decrypt? key.bytes (payload.take 12) (payload.drop 12) with
  | none =>
      rw [decrypted] at opening
      cases opening
  | some text =>
      cases again : Gcm.decrypt? key.bytes (payload.take 12) (other.drop 12) with
      | none => rfl
      | some text' =>
          have same := Gcm.eq_of_decrypt? decrypted again (by rw [List.length_drop, List.length_drop, length]) body
          rw [← List.take_append_drop 12 other, nonce, same, List.take_append_drop] at changed
          exact absurd rfl changed

def Reaches (sender receiver : Cipher) : Prop :=
  ∀ nonce plain, plain ≠ [] →
    ∃ payload, sender.sealed nonce plain = .ok payload ∧ receiver.opened payload = .ok plain

theorem reaches_self (cipher : Cipher) : cipher.Reaches cipher :=
  fun nonce _ nonempty => cipher.sealed_opened nonce nonempty

theorem ofConfig_of_trimmed {content passphrase : Bytes} (trimmed : Text.trimAscii content = passphrase)
    (nonempty : passphrase ≠ []) :
    ofConfig .authenticatedHash (some (.ok content)) =
      .ok (authenticated ⟨Sha256.digest passphrase, Sha256.length_digest passphrase⟩) := by
  have full : passphrase.isEmpty = false := List.isEmpty_eq_false_iff.2 nonempty
  simp only [ofConfig, trimmed, ofPassphrase, full, Bool.false_eq_true, if_false]
  rfl

theorem exists_ofConfig_surrounded {passphrase : Bytes} (solid : ∃ b ∈ passphrase, Text.isAsciiBlank b = false) :
    ∃ cipher : Cipher, cipher.kind = .authenticatedHash ∧ ∀ before after : Bytes,
      (∀ b ∈ before, Text.isAsciiBlank b = true) → (∀ b ∈ after, Text.isAsciiBlank b = true) →
        ofConfig .authenticatedHash (some (.ok (before ++ passphrase ++ after))) = .ok cipher := by
  have nonempty : Text.trimAscii passphrase ≠ [] := by
    obtain ⟨b, member, printed⟩ := solid
    intro blank
    cases printed.symm.trans (Text.trimWhile_eq_nil_iff.1 blank b member)
  refine ⟨authenticated ⟨Sha256.digest (Text.trimAscii passphrase), Sha256.length_digest _⟩, rfl, ?_⟩
  intro before after start finish
  exact ofConfig_of_trimmed (Text.trimWhile_surrounded passphrase start finish) nonempty

structure SealedForms : Prop where
  empty_sealed : ∀ (cipher : Cipher) nonce, cipher.sealed nonce [] = .error .nothingToSeal
  empty_opened : ∀ cipher : Cipher, cipher.opened [] = .error .nothingToOpen
  plain_sealed : ∀ nonce plain, plain ≠ [] → passThrough.sealed nonce plain = .ok plain
  plain_opened : ∀ payload, payload ≠ [] → passThrough.opened payload = .ok payload
  round_trip : ∀ key nonce plain, plain ≠ [] → ∃ payload, (authenticated key).sealed nonce plain = .ok payload ∧
    payload = nonce.bytes ++ Gcm.encrypt key.bytes nonce.bytes plain ∧ payload.length = plain.length + 28 ∧
    (authenticated key).opened payload = .ok plain
  short : ∀ key payload, payload.length < 28 → ∃ e, (authenticated key).opened payload = .error e
  converse : ∀ key payload plain, (authenticated key).opened payload = .ok plain →
    payload = payload.take 12 ++ Gcm.encrypt key.bytes (payload.take 12) plain
  one_payload : ∀ key payload other plain, (authenticated key).opened payload = .ok plain →
    (authenticated key).opened other = .ok plain → other.take 12 = payload.take 12 → other = payload
  tag_kept : ∀ key nonce plain payload other, (authenticated key).sealed nonce plain = .ok payload →
    other.length = payload.length → other.take (payload.length - 16) = payload.take (payload.length - 16) →
    other ≠ payload → (authenticated key).opened other = .error .unauthentic
  /-- Of the texts that open only the empty one, from 28 bytes, was never sealed. -/
  unsealed : ∀ key payload plain, (authenticated key).opened payload = .ok plain →
    ((∃ nonce, (authenticated key).sealed nonce plain = .ok payload) ↔ plain ≠ []) ∧
      (plain = [] ↔ payload.length = 28)
  empty_opens : ∀ key (nonce : Gcm.Nonce),
    (authenticated key).opened (nonce.bytes ++ Gcm.encrypt key.bytes nonce.bytes []) = .ok []
  key_files : ∀ before after before' after' passphrase : Bytes,
    (∀ b ∈ before ++ after ++ before' ++ after', Text.isAsciiBlank b = true) →
    (∃ b ∈ passphrase, Text.isAsciiBlank b = false) →
    ∃ cipher cipher' : Cipher,
      ofConfig .authenticatedHash (some (.ok (before ++ passphrase ++ after))) = .ok cipher ∧
      ofConfig .authenticatedHash (some (.ok (before' ++ passphrase ++ after'))) = .ok cipher' ∧
      cipher.kind = .authenticatedHash ∧ cipher.Reaches cipher' ∧ cipher'.Reaches cipher

theorem sealedForms : SealedForms where
  empty_sealed _ _ := rfl
  empty_opened _ := rfl
  plain_sealed nonce plain nonempty := if_neg (by simpa using nonempty)
  plain_opened payload nonempty := if_neg (by simpa using nonempty)
  round_trip key nonce plain nonempty := by
    have opening := opened_encrypt key nonce plain
    exact ⟨_, (sealed_authenticated_iff nonce).2 ⟨nonempty, rfl⟩, rfl, length_of_opened opening, opening⟩
  short key payload short := by
    by_cases nonempty : payload = []
    · subst nonempty
      exact ⟨_, rfl⟩
    · exact ⟨_, opened_authenticated_short nonempty short⟩
  converse key payload plain opening := (opened_authenticated_iff.1 opening).2
  one_payload key payload other plain := eq_of_opened
  tag_kept key nonce plain payload other sealing := by
    obtain ⟨-, rfl⟩ := (sealed_authenticated_iff nonce).1 sealing
    exact opened_of_other_tag (opened_encrypt key nonce plain)
  unsealed key payload plain opening := by
    have length := length_of_opened opening
    refine ⟨exists_sealed_iff opening, ?_⟩
    rw [← List.length_eq_zero_iff]
    omega
  empty_opens key nonce := opened_encrypt key nonce []
  key_files before after before' after' passphrase blank solid := by
    obtain ⟨cipher, kind, reads⟩ := exists_ofConfig_surrounded solid
    simp only [List.mem_append] at blank
    have first := reads before after (fun b mem => blank b (by simp [mem])) fun b mem => blank b (by simp [mem])
    have second := reads before' after' (fun b mem => blank b (by simp [mem])) fun b mem => blank b (by simp [mem])
    exact ⟨cipher, cipher, first, second, kind, reaches_self cipher, reaches_self cipher⟩

end Cipher

end Emplace
