import Mathlib.Data.List.Basic

set_option autoImplicit false

namespace Fleet.Aead

universe u

variable {Key Nonce Plaintext Ciphertext : Type u}

structure Encryption (Key Nonce Plaintext Ciphertext : Type u) where
  key : Key
  nonce : Nonce
  plaintext : Plaintext
  ciphertext : Ciphertext
  deriving DecidableEq

/-- Decryption under a key opens what was encrypted under that key, and nothing else. -/
def Ideal (decrypt : Key → Nonce → Ciphertext → Option Plaintext)
    (log : List (Encryption Key Nonce Plaintext Ciphertext)) : Prop :=
  ∀ key nonce ciphertext plaintext, decrypt key nonce ciphertext = some plaintext ↔
    ⟨key, nonce, plaintext, ciphertext⟩ ∈ log

section Log

variable [DecidableEq Key] [DecidableEq Nonce] [DecidableEq Ciphertext]

-- The ideal functionality: decryption looks the pair up.
def opened (log : List (Encryption Key Nonce Plaintext Ciphertext)) (key : Key) (nonce : Nonce)
    (ciphertext : Ciphertext) : Option Plaintext :=
  (log.find? fun entry =>
    entry.key = key ∧ entry.nonce = nonce ∧ entry.ciphertext = ciphertext).map
      Encryption.plaintext

theorem ideal_opened {log : List (Encryption Key Nonce Plaintext Ciphertext)}
    (unambiguous : ∀ entry ∈ log, ∀ other ∈ log, entry.key = other.key →
      entry.nonce = other.nonce → entry.ciphertext = other.ciphertext → entry = other) :
    Ideal (opened log) log := by
  intro key nonce ciphertext plaintext
  rw [opened, Option.map_eq_some_iff]
  constructor
  · rintro ⟨⟨_, _, _, _⟩, found, rfl⟩
    have matching := List.find?_some found
    obtain ⟨rfl, rfl, rfl⟩ := of_decide_eq_true matching
    exact List.mem_of_find?_eq_some found
  · intro member
    have present : (log.find? fun entry => entry.key = key ∧ entry.nonce = nonce ∧
        entry.ciphertext = ciphertext).isSome = true :=
      List.find?_isSome.2 ⟨_, member, by simp⟩
    obtain ⟨entry, found⟩ := Option.isSome_iff_exists.1 present
    have matching := List.find?_some found
    obtain ⟨sameKey, sameNonce, sameText⟩ := of_decide_eq_true matching
    have same := unambiguous entry (List.mem_of_find?_eq_some found) _ member sameKey sameNonce
      sameText
    exact ⟨entry, found, by rw [same]⟩

end Log

end Fleet.Aead
