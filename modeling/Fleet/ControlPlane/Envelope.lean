import Fleet.Shared.Aead
import Fleet.Shared.Frames

set_option autoImplicit false

namespace Fleet.Envelope

open Frames

def version : Bytes := [1]

def nonceLen : Nat := 12

def keyLen : Nat := 32

inductive Exception where
  | credentialSealError (text : String)
  | invalidTag
  | structError
  | valueError
  deriving DecidableEq

/-- AES-GCM behind `AESGCM`: the tag is sixteen bytes, and InvalidTag is no plaintext. -/
structure AesGcm where
  encrypt : (key nonce data : Bytes) → Bytes
  decrypt : (key nonce data : Bytes) → Option Bytes
  encrypt_length : ∀ key nonce data, (encrypt key nonce data).length = data.length + 16

-- What `_master_key` returns is checked to be of this length.
structure MasterKey where
  bytes : Bytes
  length : bytes.length = keyLen

-- What one call of `seal` draws from os.urandom.
structure Drawn where
  dek : Bytes
  wrapNonce : Bytes
  dataNonce : Bytes
  dek_length : dek.length = keyLen
  wrapNonce_length : wrapNonce.length = nonceLen
  dataNonce_length : dataNonce.length = nonceLen

section Code

variable (gcm : AesGcm)

-- The constructor of the class takes the three key lengths of AES.
def aesgcm (key : Bytes) : Except Exception Bytes :=
  if key.length = 16 ∨ key.length = 24 ∨ key.length = 32 then .ok key else .error .valueError

def encrypt (key nonce data : Bytes) : Except Exception Bytes :=
  if nonce.length < 8 then .error .valueError else .ok (gcm.encrypt key nonce data)

def decrypt (key nonce data : Bytes) : Except Exception Bytes :=
  if nonce.length < 8 then .error .valueError
  else
    match gcm.decrypt key nonce data with
    | some plaintext => .ok plaintext
    | none => .error .invalidTag

def frame (data : Bytes) : Except Exception Bytes :=
  if data.length < 2 ^ 32 then .ok (framed 4 data) else .error .structError

def unframe (buf : Bytes) (offset : Nat) : Except Exception (Bytes × Nat) :=
  match lengthAt 4 buf offset with
  | none => .error .structError
  | some length =>
      let start := offset + 4
      let stop := start + length
      .ok (slice buf start stop, stop)

-- `seal` is a word of Lean's own.
def seal_ (masterKey : MasterKey) (drawn : Drawn) (plaintext : Bytes) : Except Exception Bytes := do
  let kek ← aesgcm masterKey.bytes
  let wrappedDek ← encrypt gcm kek drawn.wrapNonce drawn.dek
  let key ← aesgcm drawn.dek
  let ciphertext ← encrypt gcm key drawn.dataNonce plaintext
  let keyFrame ← frame (drawn.wrapNonce ++ wrappedDek)
  let dataFrame ← frame (drawn.dataNonce ++ ciphertext)
  return version ++ keyFrame ++ dataFrame

-- The key part and the data part of a blob.
def parts (blob : Bytes) : Except Exception (Bytes × Bytes) := do
  let (wrapPart, offset) ← unframe blob 1
  let (dataPart, _) ← unframe blob offset
  return (wrapPart, dataPart)

def unwrap (masterKey : MasterKey) (wrapPart dataPart : Bytes) : Except Exception Bytes := do
  let kek ← aesgcm masterKey.bytes
  let dek ← decrypt gcm kek (wrapPart.take nonceLen) (wrapPart.drop nonceLen)
  let key ← aesgcm dek
  decrypt gcm key (dataPart.take nonceLen) (dataPart.drop nonceLen)

-- What the `except` clause of `open_` turns into its own error.
def translated {α : Type} : Except Exception α → Except Exception α
  | .error .invalidTag =>
      .error (.credentialSealError "failed to decrypt credentials (tampered or wrong key)")
  | .error .structError =>
      .error (.credentialSealError "failed to decrypt credentials (tampered or wrong key)")
  | other => other

def open_ (masterKey : MasterKey) (blob : Bytes) : Except Exception Bytes :=
  if blob.take 1 ≠ version then
    .error (.credentialSealError "unsupported credential blob version")
  else
    translated do
      let (wrapPart, dataPart) ← parts blob
      unwrap gcm masterKey wrapPart dataPart

end Code

section Layout

variable {gcm : AesGcm} {masterKey : MasterKey}

@[simp]
theorem aesgcm_master (masterKey : MasterKey) : aesgcm masterKey.bytes = .ok masterKey.bytes :=
  if_pos (.inr (.inr masterKey.length))

@[simp]
theorem aesgcm_dek (drawn : Drawn) : aesgcm drawn.dek = .ok drawn.dek :=
  if_pos (.inr (.inr drawn.dek_length))

theorem encrypt_ok {key nonce data : Bytes} (long : nonce.length = nonceLen) :
    encrypt gcm key nonce data = .ok (gcm.encrypt key nonce data) :=
  if_neg (by rw [long]; decide)

def keyPart (gcm : AesGcm) (masterKey : MasterKey) (drawn : Drawn) : Bytes :=
  drawn.wrapNonce ++ gcm.encrypt masterKey.bytes drawn.wrapNonce drawn.dek

def dataPart (gcm : AesGcm) (drawn : Drawn) (plaintext : Bytes) : Bytes :=
  drawn.dataNonce ++ gcm.encrypt drawn.dek drawn.dataNonce plaintext

theorem keyPart_length (drawn : Drawn) : (keyPart gcm masterKey drawn).length = 60 := by
  rw [keyPart, List.length_append, gcm.encrypt_length, drawn.wrapNonce_length, drawn.dek_length]
  rfl

theorem seal_eq (gcm : AesGcm) (masterKey : MasterKey) (drawn : Drawn) (plaintext : Bytes) :
    seal_ gcm masterKey drawn plaintext =
      if (dataPart gcm drawn plaintext).length < 2 ^ 32 then
        .ok (version ++ framed 4 (keyPart gcm masterKey drawn) ++
          framed 4 (dataPart gcm drawn plaintext))
      else .error .structError := by
  have fits : (keyPart gcm masterKey drawn).length < 2 ^ 32 := by
    rw [keyPart_length]
    decide
  have keyFrame : frame (drawn.wrapNonce ++
      gcm.encrypt masterKey.bytes drawn.wrapNonce drawn.dek) =
        .ok (framed 4 (keyPart gcm masterKey drawn)) := if_pos fits
  simp only [seal_, aesgcm_master, aesgcm_dek, encrypt_ok drawn.wrapNonce_length,
    encrypt_ok drawn.dataNonce_length, bind, Except.bind, keyFrame]
  rw [← dataPart]
  by_cases small : (dataPart gcm drawn plaintext).length < 2 ^ 32
  · rw [frame, if_pos small, if_pos small]
    rfl
  · rw [frame, if_neg small, if_neg small]

-- The length fields find the two parts again, whatever follows them.
theorem parts_framed {wrapPart dataPart : Bytes} (wrapFits : wrapPart.length < 2 ^ 32)
    (dataFits : dataPart.length < 2 ^ 32) (suffix : Bytes) :
    parts (version ++ framed 4 wrapPart ++ framed 4 dataPart ++ suffix) =
      .ok (wrapPart, dataPart) := by
  have first : lengthAt 4 (version ++ framed 4 wrapPart ++ framed 4 dataPart ++ suffix) 1 =
      some wrapPart.length := by
    rw [List.append_assoc _ _ suffix]
    exact lengthAt_framed version wrapPart _ wrapFits rfl
  have wrap : slice (version ++ framed 4 wrapPart ++ framed 4 dataPart ++ suffix) (1 + 4)
      (1 + 4 + wrapPart.length) = wrapPart := by
    rw [List.append_assoc _ _ suffix]
    exact slice_framed version wrapPart _ rfl rfl
  have offset : 1 + 4 + wrapPart.length = (version ++ framed 4 wrapPart).length := by
    simp [version, framed]
    omega
  have second : lengthAt 4 (version ++ framed 4 wrapPart ++ framed 4 dataPart ++ suffix)
      (1 + 4 + wrapPart.length) = some dataPart.length :=
    lengthAt_framed _ dataPart suffix dataFits offset
  have data : slice (version ++ framed 4 wrapPart ++ framed 4 dataPart ++ suffix)
      (1 + 4 + wrapPart.length + 4) (1 + 4 + wrapPart.length + 4 + dataPart.length) = dataPart :=
    slice_framed _ dataPart suffix (by rw [offset]) rfl
  simp only [parts, unframe, first, wrap, second, data, bind, Except.bind]
  rfl

end Layout

end Fleet.Envelope
