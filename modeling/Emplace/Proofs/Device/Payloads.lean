import Emplace.Device.Invoke
import Emplace.Http.Client
import Emplace.Proofs.Cipher.RoundTrip
import Emplace.Proofs.Record.Exchanged

namespace Emplace

theorem Http.sealedExecution_read (cipher : Cipher) (nonce : Gcm.Nonce) (x : RemoteExecution) :
    ∃ payload, sealedExecution cipher nonce x = .ok payload ∧ Device.readExecution cipher payload = .ok x := by
  have faithful := RemoteExecution.shape_faithful
  obtain ⟨payload, sealing, opening⟩ := cipher.sealed_opened nonce (faithful.encode_ne_nil x)
  refine ⟨payload, ?_, ?_⟩
  · rw [sealedExecution, sealing]
    rfl
  · simp only [Device.readExecution, opening, faithful.decode_encode]
    rfl

theorem Cipher.sealed_output (cipher : Cipher) (nonce : Gcm.Nonce) (output : ExecutionOutput) :
    ∃ reply plain, cipher.sealed nonce (ExecutionOutput.shape.encode output) = .ok reply ∧
      cipher.opened reply = .ok plain ∧ ExecutionOutput.shape.decode plain = .ok output := by
  have faithful := ExecutionOutput.shape_faithful
  obtain ⟨reply, sealing, opening⟩ := cipher.sealed_opened nonce (faithful.encode_ne_nil output)
  exact ⟨reply, _, sealing, opening, faithful.decode_encode output⟩

theorem Http.readOutput_of_opened {cipher : Cipher} {reply plain : Bytes} {output : ExecutionOutput}
    (opening : cipher.opened reply = .ok plain) (decoding : ExecutionOutput.shape.decode plain = .ok output) :
    readOutput cipher reply = .ok output := by
  simp only [readOutput, opening, decoding]
  rfl

theorem Delivery.output_of_within {cipher : Cipher} {address : String} {delay limit : Duration}
    {attempt : Http.Attempt} {output : ExecutionOutput}
    (within : (Http.delivery cipher address delay attempt).within limit = .ok output) :
    ∃ status body, attempt = .answered status body ∧ attempt.succeeded = true ∧
      Http.readOutput cipher body = .ok output := by
  cases attempt with
  | answered status body =>
      cases success : Http.isSuccess status with
      | true =>
          simp only [Http.delivery, Http.forwarded, success, if_true, Delivery.within] at within
          split at within
          · exact ⟨status, body, rfl, success, within⟩
          · cases within
      | false =>
          simp only [Http.delivery, Http.forwarded, success, Delivery.within] at within
          split at within <;> cases within
  | refused cause =>
      simp only [Http.delivery, Http.forwarded, Delivery.within] at within
      split at within <;> cases within
  | dropped =>
      simp only [Http.delivery, Http.forwarded, Delivery.within] at within
      split at within <;> cases within
  | silent => cases within

theorem Delivery.within_of_answered {cipher : Cipher} {address : String} {delay limit : Duration} {reply : Bytes}
    (inTime : delay ≤ limit) :
    (Http.delivery cipher address delay (.answered 200 reply)).within limit = Http.readOutput cipher reply := by
  have success : Http.isSuccess 200 = true := rfl
  simp only [Http.delivery, Http.forwarded, success, if_true, Delivery.within, if_pos inTime]

theorem Delivery.within_of_failed {cipher : Cipher} {address : String} {delay limit : Duration} {attempt : Http.Attempt}
    (failed : attempt.succeeded = false) :
    ∃ cause, (Http.delivery cipher address delay attempt).within limit = .error cause := by
  cases within : (Http.delivery cipher address delay attempt).within limit with
  | error cause => exact ⟨cause, rfl⟩
  | ok output =>
      obtain ⟨-, -, -, succeeded, -⟩ := Delivery.output_of_within within
      cases failed.symm.trans succeeded

end Emplace
