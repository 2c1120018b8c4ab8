import Emplace.Cipher.Gcm
import Emplace.SystemError
import Emplace.Text.Blank

namespace Emplace

inductive CipherKind
  | passThrough
  | authenticatedHash
  deriving DecidableEq, Repr, Inhabited

namespace CipherKind

def name : CipherKind → String
  | .passThrough => "pass_through"
  | .authenticatedHash => "authenticated_hash"

def ofName? (s : String) : Option CipherKind :=
  if s = "pass_through" then some .passThrough
  else if s = "authenticated_hash" then some .authenticatedHash
  else none

end CipherKind

inductive CipherError
  | emptyPassphrase
  | noKeyFile
  | nothingToSeal
  | nothingToOpen
  | tooShort (length : Nat)
  | unauthentic
  | described (text : String)
  deriving DecidableEq, Repr, Inhabited

def CipherError.text : CipherError → String
  | .emptyPassphrase => "empty passphrase"
  | .noKeyFile => "authenticated_hash requires dispatch.key_file"
  | .nothingToSeal => "nothing to seal"
  | .nothingToOpen => "nothing to open"
  | .tooShort length => s!"sealed payload too short ({length} bytes)"
  | .unauthentic => "authentication failed"
  | .described text => text

inductive Cipher
  | passThrough
  | authenticated (key : Aes256.Key)
  deriving DecidableEq, Inhabited

namespace Cipher

def ofPassphrase (passphrase : Bytes) : Except CipherError Cipher :=
  if passphrase.isEmpty then .error .emptyPassphrase
  else .ok (.authenticated ⟨Sha256.digest passphrase, Sha256.length_digest passphrase⟩)

inductive SetupError
  | cipher (cause : CipherError)
  | keyFile (cause : SystemError)
  deriving DecidableEq, Repr, Inhabited

/-- The cipher of a configuration; `keyFile` is the content of the key file, if the configuration names one.
ASCII blanks around the passphrase do not count. -/
def ofConfig (kind : CipherKind) (keyFile : Option (Except SystemError Bytes)) :
    Except SetupError Cipher :=
  match kind with
  | .passThrough => .ok .passThrough
  | .authenticatedHash =>
    match keyFile with
    | none => .error (.cipher .noKeyFile)
    | some (.error e) => .error (.keyFile e)
    | some (.ok content) => (ofPassphrase (Text.trimAscii content)).mapError .cipher

def kind : Cipher → CipherKind
  | .passThrough => .passThrough
  | .authenticated _ => .authenticatedHash

def shown : Cipher → String
  | .passThrough => "PassThrough"
  | .authenticated _ => "AuthenticatedHash \x7b key: <redacted> \x7d"

/-- Implementations of the mode refuse a text of more than `2 ^ 36` bytes, and sealing it then fails with their refusal.
This branch is left out: a text of any length is sealed. -/
def sealed (cipher : Cipher) (nonce : Gcm.Nonce) (plain : Bytes) : Except CipherError Bytes :=
  if plain.isEmpty then .error .nothingToSeal
  else
    match cipher with
    | .passThrough => .ok plain
    | .authenticated key => .ok (nonce.bytes ++ Gcm.encrypt key.bytes nonce.bytes plain)

def opened (cipher : Cipher) (payload : Bytes) : Except CipherError Bytes :=
  if payload.isEmpty then .error .nothingToOpen
  else
    match cipher with
    | .passThrough => .ok payload
    | .authenticated key =>
      if payload.length < Gcm.nonceLength + Gcm.tagLength then .error (.tooShort payload.length)
      else
        match Gcm.decrypt? key.bytes (payload.take Gcm.nonceLength) (payload.drop Gcm.nonceLength) with
        | some plain => .ok plain
        | none => .error .unauthentic

end Cipher

end Emplace
