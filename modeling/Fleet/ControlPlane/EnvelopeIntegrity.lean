import Mathlib.Data.List.Nodup
import Fleet.ControlPlane.Envelope

set_option autoImplicit false

namespace Fleet.Envelope

open Frames Aead

structure Call where
  drawn : Drawn
  plaintext : Bytes

abbrev Log : Type := List (Encryption Bytes Bytes Bytes Bytes)

section Histories

variable (gcm : AesGcm) (masterKey : MasterKey)

def wrapping (call : Call) : Encryption Bytes Bytes Bytes Bytes :=
  ⟨masterKey.bytes, call.drawn.wrapNonce, call.drawn.dek,
    gcm.encrypt masterKey.bytes call.drawn.wrapNonce call.drawn.dek⟩

def enciphering (call : Call) : Encryption Bytes Bytes Bytes Bytes :=
  ⟨call.drawn.dek, call.drawn.dataNonce, call.plaintext,
    gcm.encrypt call.drawn.dek call.drawn.dataNonce call.plaintext⟩

-- Whatever a history of `seal` calls encrypts.
def encryptions (history : List Call) : Log :=
  history.flatMap fun call => [wrapping gcm masterKey call, enciphering gcm call]

/-- The part of a blob is a nonce and what the plaintext was encrypted to under the key. -/
def Made (log : Log) (key part plaintext : Bytes) : Prop :=
  ⟨key, part.take nonceLen, plaintext, part.drop nonceLen⟩ ∈ log

def AesKey (key : Bytes) : Prop := key.length = 16 ∨ key.length = 24 ∨ key.length = 32

/-- What `open_` finds in the two parts it reads. -/
inductive Unwrapped (log : Log) (wrapPart dataPart : Bytes) : Except Exception Bytes → Prop where
  | opens (dek plaintext : Bytes) (wrapped : Made log masterKey.bytes wrapPart dek)
      (key : AesKey dek) (sealed : Made log dek dataPart plaintext) :
      Unwrapped log wrapPart dataPart (.ok plaintext)
  | foreignKey (long : 8 ≤ wrapPart.length)
      (foreign : ∀ dek, ¬ Made log masterKey.bytes wrapPart dek) :
      Unwrapped log wrapPart dataPart (.error .invalidTag)
  | foreignData (dek : Bytes) (wrapped : Made log masterKey.bytes wrapPart dek) (key : AesKey dek)
      (long : 8 ≤ dataPart.length) (foreign : ∀ plaintext, ¬ Made log dek dataPart plaintext) :
      Unwrapped log wrapPart dataPart (.error .invalidTag)
  | shortKey (short : wrapPart.length < 8) :
      Unwrapped log wrapPart dataPart (.error .valueError)
  | noKey (dek : Bytes) (wrapped : Made log masterKey.bytes wrapPart dek) (other : ¬ AesKey dek) :
      Unwrapped log wrapPart dataPart (.error .valueError)
  | shortData (dek : Bytes) (wrapped : Made log masterKey.bytes wrapPart dek) (key : AesKey dek)
      (short : dataPart.length < 8) :
      Unwrapped log wrapPart dataPart (.error .valueError)

variable {gcm masterKey}

theorem mem_encryptions {history : List Call} {entry : Encryption Bytes Bytes Bytes Bytes} :
    entry ∈ encryptions gcm masterKey history ↔
      ∃ call ∈ history, entry = wrapping gcm masterKey call ∨ entry = enciphering gcm call := by
  simp [encryptions]

theorem made_length {history : List Call} {key part plaintext : Bytes}
    (made : Made (encryptions gcm masterKey history) key part plaintext) :
    nonceLen ≤ part.length := by
  obtain ⟨call, -, same | same⟩ := mem_encryptions.1 made
  · have nonce := congrArg (fun entry => entry.nonce.length) same
    simp only [wrapping, List.length_take, call.drawn.wrapNonce_length] at nonce
    omega
  · have nonce := congrArg (fun entry => entry.nonce.length) same
    simp only [enciphering, List.length_take, call.drawn.dataNonce_length] at nonce
    omega

theorem decrypt_made {log : Log} (ideal : Ideal gcm.decrypt log) {key part plaintext : Bytes}
    (made : Made log key part plaintext) (long : 8 ≤ part.length) :
    decrypt gcm key (part.take nonceLen) (part.drop nonceLen) = .ok plaintext := by
  have nonce : ¬ (part.take nonceLen).length < 8 := by
    simp only [List.length_take, nonceLen]
    omega
  rw [decrypt, if_neg nonce, (ideal _ _ _ _).2 made]

theorem decrypt_foreign {log : Log} (ideal : Ideal gcm.decrypt log) {key part : Bytes}
    (foreign : ∀ plaintext, ¬ Made log key part plaintext) (long : 8 ≤ part.length) :
    decrypt gcm key (part.take nonceLen) (part.drop nonceLen) = .error .invalidTag := by
  have nonce : ¬ (part.take nonceLen).length < 8 := by
    simp only [List.length_take, nonceLen]
    omega
  have closed : gcm.decrypt key (part.take nonceLen) (part.drop nonceLen) = none :=
    Option.eq_none_iff_forall_ne_some.2 fun plaintext same =>
      foreign plaintext ((ideal _ _ _ _).1 same)
  rw [decrypt, if_neg nonce, closed]

theorem decrypt_short (key : Bytes) {part : Bytes} (short : part.length < 8) :
    decrypt gcm key (part.take nonceLen) (part.drop nonceLen) = .error .valueError := by
  refine if_pos ?_
  simp only [List.length_take]
  omega

theorem unwrap_unwrapped {history : List Call}
    (ideal : Ideal gcm.decrypt (encryptions gcm masterKey history)) (wrapPart dataPart : Bytes) :
    Unwrapped masterKey (encryptions gcm masterKey history) wrapPart dataPart
      (unwrap gcm masterKey wrapPart dataPart) := by
  simp only [unwrap, aesgcm_master, bind, Except.bind]
  by_cases short : wrapPart.length < 8
  · rw [decrypt_short _ short]
    exact .shortKey short
  have long := Nat.not_lt.1 short
  by_cases foreign : ∀ dek, ¬ Made (encryptions gcm masterKey history) masterKey.bytes wrapPart dek
  · rw [decrypt_foreign ideal foreign long]
    exact .foreignKey long foreign
  obtain ⟨dek, wrapped⟩ := not_forall_not.1 foreign
  rw [decrypt_made ideal wrapped long]
  dsimp only
  by_cases key : AesKey dek
  · have built : aesgcm dek = .ok dek := if_pos key
    rw [built]
    dsimp only
    by_cases brief : dataPart.length < 8
    · rw [decrypt_short _ brief]
      exact .shortData dek wrapped key brief
    have enough := Nat.not_lt.1 brief
    by_cases strange : ∀ plaintext, ¬ Made (encryptions gcm masterKey history) dek dataPart plaintext
    · rw [decrypt_foreign ideal strange enough]
      exact .foreignData dek wrapped key enough strange
    obtain ⟨plaintext, sealed⟩ := not_forall_not.1 strange
    rw [decrypt_made ideal sealed enough]
    exact .opens dek plaintext wrapped key sealed
  · have refused : aesgcm dek = .error .valueError := if_neg key
    rw [refused]
    exact .noKey dek wrapped key

end Histories

section Opening

variable {gcm : AesGcm} {masterKey : MasterKey} {history : List Call}

theorem unframe_error {buf : Bytes} {offset : Nat} {error : Exception}
    (failed : unframe buf offset = .error error) : error = .structError := by
  unfold unframe at failed
  split at failed <;> cases failed
  rfl

theorem parts_error {blob : Bytes} {error : Exception} (failed : parts blob = .error error) :
    error = .structError := by
  simp only [parts, bind, Except.bind] at failed
  split at failed
  next first => cases failed; exact unframe_error first
  · split at failed
    next second => cases failed; exact unframe_error second
    · cases failed

theorem open_parts {blob wrapPart dataPart : Bytes} (marked : blob.take 1 = version)
    (read : parts blob = .ok (wrapPart, dataPart)) :
    open_ gcm masterKey blob = translated (unwrap gcm masterKey wrapPart dataPart) := by
  simp [open_, marked, read, bind, Except.bind]

theorem open_unmarked (gcm : AesGcm) (masterKey : MasterKey) {blob : Bytes} (unmarked : blob.take 1 ≠ version) :
    ∃ text, open_ gcm masterKey blob = .error (.credentialSealError text) :=
  ⟨_, if_pos unmarked⟩

theorem open_unread (gcm : AesGcm) (masterKey : MasterKey) {blob : Bytes} {error : Exception}
    (marked : blob.take 1 = version)
    (failed : parts blob = .error error) :
    ∃ text, open_ gcm masterKey blob = .error (.credentialSealError text) := by
  obtain rfl := parts_error failed
  exact ⟨_, by simp [open_, marked, failed, bind, Except.bind, translated]; rfl⟩

theorem open_ok {blob plaintext : Bytes} (opened : open_ gcm masterKey blob = .ok plaintext) :
    ∃ wrapPart dataPart, parts blob = .ok (wrapPart, dataPart) ∧
      unwrap gcm masterKey wrapPart dataPart = .ok plaintext := by
  by_cases marked : blob.take 1 = version
  · cases read : parts blob with
    | error error =>
        obtain ⟨text, refused⟩ := open_unread gcm masterKey marked read
        rw [refused] at opened
        cases opened
    | ok both =>
        refine ⟨both.1, both.2, rfl, ?_⟩
        rw [open_parts marked read] at opened
        unfold translated at opened
        split at opened <;> simp_all
  · obtain ⟨text, refused⟩ := open_unmarked gcm masterKey marked
    rw [refused] at opened
    cases opened

theorem made_wrapping (gcm : AesGcm) (masterKey : MasterKey) {call : Call} (member : call ∈ history) :
    Made (encryptions gcm masterKey history) masterKey.bytes (keyPart gcm masterKey call.drawn)
      call.drawn.dek := by
  have nonce := call.drawn.wrapNonce_length
  rw [Made, keyPart, ← nonce, List.take_left, List.drop_left]
  exact mem_encryptions.2 ⟨call, member, .inl rfl⟩

theorem made_enciphering (gcm : AesGcm) (masterKey : MasterKey) {call : Call} (member : call ∈ history) :
    Made (encryptions gcm masterKey history) call.drawn.dek
      (dataPart gcm call.drawn call.plaintext) call.plaintext := by
  have nonce := call.drawn.dataNonce_length
  rw [Made, dataPart, ← nonce, List.take_left, List.drop_left]
  exact mem_encryptions.2 ⟨call, member, .inr rfl⟩

-- A sealed blob opens, whatever is appended to it.
theorem open_sealed (ideal : Ideal gcm.decrypt (encryptions gcm masterKey history)) {call : Call}
    (member : call ∈ history) {blob : Bytes}
    (made : seal_ gcm masterKey call.drawn call.plaintext = .ok blob) (suffix : Bytes) :
    open_ gcm masterKey (blob ++ suffix) = .ok call.plaintext := by
  rw [seal_eq] at made
  split at made
  next fits =>
    cases made
    have wrapFits : (keyPart gcm masterKey call.drawn).length < 2 ^ 32 := by
      rw [keyPart_length]
      decide
    rw [open_parts rfl (parts_framed wrapFits fits suffix)]
    have wrapped := made_wrapping gcm masterKey member
    have enciphered := made_enciphering gcm masterKey member
    have wrapLong := made_length wrapped
    have dataLong := made_length enciphered
    simp only [nonceLen] at wrapLong dataLong
    simp only [unwrap, aesgcm_master, aesgcm_dek, bind, Except.bind,
      decrypt_made ideal wrapped (by omega), decrypt_made ideal enciphered (by omega)]
    rfl
  · cases made

end Opening

section Integrity

variable (gcm : AesGcm) (masterKey : MasterKey) (history : List Call)

/-- What is sealed opens to what was sealed, and nothing is put together from two records. -/
structure Integrity : Prop where
  roundTrip : ∀ call ∈ history, (dataPart gcm call.drawn call.plaintext).length < 2 ^ 32 →
    ∃ blob, seal_ gcm masterKey call.drawn call.plaintext = .ok blob ∧
      open_ gcm masterKey blob = .ok call.plaintext
  unspliced : ∀ blob plaintext, open_ gcm masterKey blob = .ok plaintext →
    ∃ call ∈ history, call.plaintext = plaintext ∧
      parts blob = .ok (keyPart gcm masterKey call.drawn,
        dataPart gcm call.drawn call.plaintext)

variable {gcm masterKey history}

theorem made_master (separate : ∀ call ∈ history, call.drawn.dek ≠ masterKey.bytes)
    {part dek : Bytes}
    (made : Made (encryptions gcm masterKey history) masterKey.bytes part dek) :
    ∃ call ∈ history, dek = call.drawn.dek ∧ part = keyPart gcm masterKey call.drawn := by
  obtain ⟨call, member, same | same⟩ := mem_encryptions.1 made
  · obtain ⟨-, nonce, rfl, ciphertext⟩ := Encryption.mk.inj same
    refine ⟨call, member, rfl, ?_⟩
    rw [← List.take_append_drop nonceLen part, nonce, ciphertext]
    rfl
  · exact absurd (Encryption.mk.inj same).1.symm (separate call member)

theorem made_data (separate : ∀ call ∈ history, call.drawn.dek ≠ masterKey.bytes)
    (distinct : (history.map fun call => call.drawn.dek).Nodup) {call : Call}
    (member : call ∈ history) {part plaintext : Bytes}
    (made : Made (encryptions gcm masterKey history) call.drawn.dek part plaintext) :
    plaintext = call.plaintext ∧ part = dataPart gcm call.drawn call.plaintext := by
  obtain ⟨other, present, same | same⟩ := mem_encryptions.1 made
  · exact absurd (Encryption.mk.inj same).1 (separate call member)
  · obtain ⟨key, nonce, rfl, ciphertext⟩ := Encryption.mk.inj same
    obtain rfl : call = other := List.inj_on_of_nodup_map distinct member present key
    refine ⟨rfl, ?_⟩
    rw [← List.take_append_drop nonceLen part, nonce, ciphertext]
    rfl

end Integrity

section Tampering

variable {gcm : AesGcm} {masterKey : MasterKey} {history : List Call}

theorem made_unique {log : Log} (ideal : Ideal gcm.decrypt log) {key part first second : Bytes}
    (made : Made log key part first) (again : Made log key part second) : first = second :=
  Option.some.inj (((ideal _ _ _ _).2 made).symm.trans ((ideal _ _ _ _).2 again))

/-- The parts open, or one of them is too short for a nonce, or holds no AES key. -/
def Passes (masterKey : MasterKey) (log : Log) (wrapPart dataPart : Bytes) : Prop :=
  wrapPart.length < 8 ∨ ∃ dek, Made log masterKey.bytes wrapPart dek ∧
    (¬ AesKey dek ∨ dataPart.length < 8 ∨ ∃ plaintext, Made log dek dataPart plaintext)

/-- A blob that is read through to parts that pass. -/
def Slips (masterKey : MasterKey) (log : Log) (blob : Bytes) : Prop :=
  blob.take 1 = version ∧
    ∃ wrapPart dataPart, parts blob = .ok (wrapPart, dataPart) ∧
      Passes masterKey log wrapPart dataPart

theorem unwrapped_reported_iff
    (ideal : Ideal gcm.decrypt (encryptions gcm masterKey history))
    {wrapPart dataPart : Bytes} {result : Except Exception Bytes}
    (found : Unwrapped masterKey (encryptions gcm masterKey history) wrapPart dataPart result) :
    (∃ text, translated result = .error (.credentialSealError text)) ↔
      ¬ Passes masterKey (encryptions gcm masterKey history) wrapPart dataPart := by
  cases found with
  | opens dek plaintext wrapped _ sealed =>
      refine iff_of_false ?_ (not_not.2 (.inr ⟨dek, wrapped, .inr (.inr ⟨plaintext, sealed⟩)⟩))
      rintro ⟨text, reported⟩
      cases reported
  | foreignKey long foreign =>
      refine iff_of_true ⟨_, rfl⟩ ?_
      rintro (short | ⟨dek, wrapped, -⟩)
      · omega
      · exact foreign dek wrapped
  | foreignData dek wrapped key long foreign =>
      refine iff_of_true ⟨_, rfl⟩ ?_
      rintro (short | ⟨other, made, passes⟩)
      · have nonce := made_length wrapped
        simp only [nonceLen] at nonce
        omega
      · obtain rfl := made_unique ideal wrapped made
        rcases passes with noKey | short | ⟨plaintext, sealed⟩
        · exact noKey key
        · omega
        · exact foreign plaintext sealed
  | shortKey short =>
      refine iff_of_false ?_ (not_not.2 (.inl short))
      rintro ⟨text, reported⟩
      cases reported
  | noKey dek wrapped other =>
      refine iff_of_false ?_ (not_not.2 (.inr ⟨dek, wrapped, .inl other⟩))
      rintro ⟨text, reported⟩
      cases reported
  | shortData dek wrapped _ short =>
      refine iff_of_false ?_ (not_not.2 (.inr ⟨dek, wrapped, .inr (.inl short)⟩))
      rintro ⟨text, reported⟩
      cases reported

theorem reported_iff (gcm : AesGcm) (masterKey : MasterKey) (history : List Call)
    (ideal : Ideal gcm.decrypt (encryptions gcm masterKey history)) (blob : Bytes) :
    (∃ text, open_ gcm masterKey blob = .error (.credentialSealError text)) ↔
      ¬ Slips masterKey (encryptions gcm masterKey history) blob := by
  by_cases marked : blob.take 1 = version
  · cases read : parts blob with
    | error error =>
        refine iff_of_true (open_unread gcm masterKey marked read) ?_
        rintro ⟨-, wrapPart, dataPart, parsed, -⟩
        cases read.symm.trans parsed
    | ok both =>
        rw [open_parts marked read, unwrapped_reported_iff ideal (unwrap_unwrapped ideal _ _),
          Slips, not_iff_not]
        constructor
        · intro passes
          exact ⟨marked, both.1, both.2, read, passes⟩
        · rintro ⟨-, wrapPart, dataPart, parsed, passes⟩
          cases read.symm.trans parsed
          exact passes
  · exact iff_of_true (open_unmarked gcm masterKey marked) fun slips => marked slips.1

end Tampering

section Recorded

def devMasterKey : MasterKey :=
  ⟨"pritunl-fleet-dev-master-key-32!".toList.map fun c => UInt8.ofNat c.toNat, by decide⟩

def drawn : Drawn :=
  ⟨(List.range 32).map UInt8.ofNat, List.replicate 12 1, List.replicate 12 2, rfl, rfl, rfl⟩

-- The empty credentials, sealed once.
def credentials : Call := ⟨drawn, [123, 125]⟩

def wrappedDek : Bytes := [
  145, 217, 79, 146, 129, 157, 105, 110, 36, 18, 29, 36, 41, 226, 138, 98,
  86, 16, 60, 24, 128, 138, 144, 32, 18, 18, 39, 167, 183, 21, 119, 42,
  204, 57, 28, 66, 145, 20, 57, 228, 202, 145, 96, 118, 142, 203, 157, 184]

def ciphertext : Bytes := [
  224, 85, 237, 117, 154, 44, 191, 32, 176, 240, 19, 125, 43, 104, 233, 100, 5, 90]

-- AES-256-GCM on the two encryptions of that call, by their recorded outputs.
def recorded : AesGcm where
  encrypt key nonce data :=
    if key = devMasterKey.bytes ∧ nonce = drawn.wrapNonce ∧ data = drawn.dek then wrappedDek
    else if key = drawn.dek ∧ nonce = drawn.dataNonce ∧ data = credentials.plaintext then ciphertext
    else data ++ List.replicate 16 0
  decrypt := opened [
    ⟨devMasterKey.bytes, drawn.wrapNonce, drawn.dek, wrappedDek⟩,
    ⟨drawn.dek, drawn.dataNonce, credentials.plaintext, ciphertext⟩]
  encrypt_length := by
    intro key nonce data
    split
    next same => rw [same.2.2]; rfl
    · split
      next same => rw [same.2.2]; rfl
      · simp

theorem recorded_ideal :
    Ideal recorded.decrypt (encryptions recorded devMasterKey [credentials]) := by
  have log : encryptions recorded devMasterKey [credentials] = [
      ⟨devMasterKey.bytes, drawn.wrapNonce, drawn.dek, wrappedDek⟩,
      ⟨drawn.dek, drawn.dataNonce, credentials.plaintext, ciphertext⟩] := by decide +kernel
  rw [log]
  exact ideal_opened (by decide +kernel)

def sealed : Bytes :=
  version ++ framed 4 (drawn.wrapNonce ++ wrappedDek) ++ framed 4 (drawn.dataNonce ++ ciphertext)

theorem truncated_reported :
    ¬ Slips devMasterKey (encryptions recorded devMasterKey [credentials]) sealed.dropLast :=
  (reported_iff recorded devMasterKey [credentials] recorded_ideal sealed.dropLast).1
    ⟨"failed to decrypt credentials (tampered or wrong key)", by rfl⟩

theorem seal_credentials :
    seal_ recorded devMasterKey credentials.drawn credentials.plaintext = .ok sealed := by
  rfl

theorem suffix_unreported :
    (∀ call ∈ [credentials],
        seal_ recorded devMasterKey call.drawn call.plaintext = .ok sealed ∧
          seal_ recorded devMasterKey call.drawn call.plaintext ≠ .ok (sealed ++ [0])) ∧
      ¬ ∃ text, open_ recorded devMasterKey (sealed ++ [0]) =
        .error (.credentialSealError text) := by
  have opens := open_sealed recorded_ideal (List.mem_singleton.2 rfl) seal_credentials [0]
  refine ⟨fun call member => ?_, ?_⟩
  · obtain rfl := List.mem_singleton.1 member
    refine ⟨seal_credentials, fun same => ?_⟩
    have lengths := congrArg List.length (Except.ok.inj (seal_credentials.symm.trans same))
    rw [List.length_append, List.length_singleton] at lengths
    omega
  · rintro ⟨text, reported⟩
    rw [opens] at reported
    cases reported

end Recorded

section BorrowedKey

-- Of two records, the first was sealed under the master key itself and holds the second one's key.
def lent : Call :=
  ⟨⟨devMasterKey.bytes, List.replicate 12 3, List.replicate 12 4, rfl, rfl, rfl⟩, drawn.dek⟩

def padded (data : Bytes) : Bytes := data ++ List.replicate 16 0

def plain : AesGcm where
  encrypt _ _ data := padded data
  decrypt := opened [
    ⟨devMasterKey.bytes, lent.drawn.wrapNonce, devMasterKey.bytes, padded devMasterKey.bytes⟩,
    ⟨devMasterKey.bytes, lent.drawn.dataNonce, drawn.dek, padded drawn.dek⟩,
    ⟨devMasterKey.bytes, drawn.wrapNonce, drawn.dek, padded drawn.dek⟩,
    ⟨drawn.dek, drawn.dataNonce, credentials.plaintext, padded credentials.plaintext⟩]
  encrypt_length _ _ data := by simp [padded]

def spliced : Bytes :=
  version ++ framed 4 (dataPart plain lent.drawn lent.plaintext) ++
    framed 4 (dataPart plain drawn credentials.plaintext)

theorem plain_ideal :
    Ideal plain.decrypt (encryptions plain devMasterKey [lent, credentials]) :=
  ideal_opened (by decide +kernel)

end BorrowedKey

end Fleet.Envelope
