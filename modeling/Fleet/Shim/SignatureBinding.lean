import Mathlib.Logic.Equiv.List
import Fleet.ControlPlane.ShimAdapter
import Fleet.Shared.Delimited
import Fleet.Shim.HmacAuth

set_option autoImplicit false

namespace Fleet.SignatureBinding

open HmacAuth Delimited

-- A request an adapter signed, with the reading of the clock and the random bytes it drew.
structure Signed where
  token : String
  request : ShimAdapter.Request
  clock : Int
  random : List UInt8

namespace Signed

variable (p : Primitives) (secret : String) (signed : Signed)

def headers : Headers :=
  signRequest p signed.token secret signed.request.method signed.request.path signed.request.body
    none none signed.clock signed.random

def timestamp : String := toString signed.clock

def nonce : String := b16encode signed.random

def text : String :=
  signedString p signed.token signed.timestamp signed.nonce signed.request.method
    signed.request.path signed.request.body

end Signed

section Binding

variable (p : Primitives) (secret : String) (requests : Set Signed) (call : Call)

-- HMAC taken as unforgeable: the signature presented is valid for texts that were signed only.
def Unforged : Prop :=
  ∀ signature, lookup p call.headers hSignature = some signature →
    ∀ text, computeSignature p secret text = signature → ∃ signed ∈ requests, signed.text p = text

-- The caller resolves the token to the secret, so both sides use the one token of that secret.
-- All this needs of tokens is that they hold equally many separators.
def Resolved : Prop :=
  ∀ token, lookup p call.headers hToken = some token →
    ∀ signed ∈ requests, signed.token.toList.count '&' = token.toList.count '&'

structure Matches (signed : Signed) : Prop where
  timestamp : lookup p call.headers hTimestamp = some signed.timestamp
  nonce : lookup p call.headers hNonce = some signed.nonce
  method : p.upper call.method = p.upper signed.request.method
  path : call.path = signed.request.path
  body : call.body = signed.request.body

/-- Neither field that anyone may choose freely reaches past its separator. -/
def Unambiguous : Prop :=
  (∀ nonce, lookup p call.headers hNonce = some nonce → '&' ∉ nonce.toList) ∧
    '&' ∉ (p.upper call.method).toList

def SignatureBinds : Prop :=
  ∀ (p : Primitives) (secret : String) (maxSkew : Int) (cache : Option NonceCache)
    (requests : Set Signed) (call : Call),
    Function.Injective p.sha256 → Unforged p secret requests call → Resolved p requests call →
      (verifyRequest p secret maxSkew cache call).1.accepted = true →
        ∃ signed ∈ requests, Matches p call signed

variable {p secret requests call}

theorem signedString_toList (token timestamp nonce method path : String) (body : ByteArray) :
    (signedString p token timestamp nonce method path body).toList =
      token.toList ++ '&' :: (timestamp.toList ++ '&' :: (nonce.toList ++ '&' ::
        ((p.upper method).toList ++ '&' :: (path.toList ++ '&' :: (bodyHash p body).toList)))) := by
  have joined : signedString p token timestamp nonce method path body =
      token ++ "&" ++ timestamp ++ "&" ++ nonce ++ "&" ++ p.upper method ++ "&" ++ path ++ "&" ++
        bodyHash p body := rfl
  simp [joined]

theorem bodyHash_free (body : ByteArray) : '&' ∉ (bodyHash p body).toList :=
  fun present => absurd (p.sha256_hex body _ present) (by decide)

-- Every field but the token, whose separators are counted, and the path, which is last but for the
-- digest, must be free of separators.
theorem signedString_injective {token token' timestamp timestamp' nonce nonce' method method'
    path path' : String} {body body' : ByteArray}
    (same : signedString p token timestamp nonce method path body =
      signedString p token' timestamp' nonce' method' path' body')
    (tokens : token.toList.count '&' = token'.toList.count '&')
    (timestamps : '&' ∉ timestamp.toList ∧ '&' ∉ timestamp'.toList)
    (nonces : '&' ∉ nonce.toList ∧ '&' ∉ nonce'.toList)
    (methods : '&' ∉ (p.upper method).toList ∧ '&' ∉ (p.upper method').toList) :
    token = token' ∧ timestamp = timestamp' ∧ nonce = nonce' ∧ p.upper method = p.upper method' ∧
      path = path' ∧ bodyHash p body = bodyHash p body' := by
  have chars := congrArg String.toList same
  rw [signedString_toList, signedString_toList] at chars
  obtain ⟨sameToken, chars⟩ := split_of_count chars tokens
  obtain ⟨sameTimestamp, chars⟩ := split_of_absent chars timestamps.1 timestamps.2
  obtain ⟨sameNonce, chars⟩ := split_of_absent chars nonces.1 nonces.2
  obtain ⟨sameMethod, chars⟩ := split_of_absent chars methods.1 methods.2
  obtain ⟨samePath, sameHash⟩ := split_last chars (bodyHash_free body) (bodyHash_free body')
  simp only [← String.toList_inj]
  exact ⟨sameToken, sameTimestamp, sameNonce, sameMethod, samePath, sameHash⟩

theorem digits_free (n : Nat) : '&' ∉ n.repr.toList := by
  intro present
  rw [Nat.toList_repr] at present
  have digit : '&'.isDigit = true := Nat.isDigit_of_mem_toDigits (by decide) (by decide) present
  cases digit

theorem timestamp_free (signed : Signed) : '&' ∉ signed.timestamp.toList := by
  unfold Signed.timestamp
  cases signed.clock with
  | ofNat n => exact digits_free n
  | negSucc n =>
      intro present
      have later : '&' ∈ '-' :: (n + 1).repr.toList := by
        simpa [toString, Int.repr] using present
      exact digits_free (n + 1) (by simpa using later)

theorem nonce_free (signed : Signed) : '&' ∉ signed.nonce.toList := by
  intro present
  simp only [Signed.nonce, b16encode, String.toList_ofList, List.mem_flatMap] at present
  obtain ⟨b, -, nibble⟩ := present
  have upper {n : Nat} (small : n < 16) : '&' ≠ (Nat.digitChar n).toUpper := by
    interval_cases n <;> decide
  have byte := b.toNat_lt
  rcases List.mem_pair.1 nibble with high | low
  · exact upper (by omega) high
  · exact upper (by omega) low

theorem method_free (signed : Signed) : '&' ∉ (p.upper signed.request.method).toList := by
  have known := signed.request.known
  simp only [ShimAdapter.methods, List.mem_cons, List.not_mem_nil, or_false] at known
  rcases known with found | found | found | found <;>
    (rw [found, p.upper_ascii _ (by decide)]; decide)

theorem accepted_checked {maxSkew : Int} {cache : Option NonceCache}
    (accepted : (verifyRequest p secret maxSkew cache call).1.accepted = true) :
    ∃ request timestamp signature, Checked p secret maxSkew call request timestamp signature := by
  cases outcome : authenticate p secret maxSkew call with
  | error verdict =>
      simp [verifyRequest, outcome, authenticate_error_refuses outcome] at accepted
  | ok request =>
      obtain ⟨timestamp, signature, checked⟩ := authenticate_ok outcome
      exact ⟨request, timestamp, signature, checked⟩

end Binding

section Hijack

-- An operator names an organisation of a hub they may write to; the organisation id is not checked.
def sent : Signed :=
  { token := "t", clock := 1700000000, random := List.replicate 16 0xa5
    request := ShimAdapter.createUser "x&POST&/v1/orgs/victim" "eve" none }

def sentText : String := sent.text standard

-- The standard functions on the one request, injective everywhere else.
def idealised : Primitives :=
  { standard with
    sha256 := fun body =>
      if body.data = sent.request.body.data then Sha256.hexdigest body
      else String.ofList (List.replicate (65 + Encodable.encode (body.data.toList.map UInt8.toNat)) 'a')
    hmac := fun secret text =>
      if text = sentText then Sha256.hmacBase64 secret text else "-" ++ text
    sha256_hex := fun body c present => by
      split at present
      · exact Sha256.hexdigest_hex _ c present
      · rw [String.toList_ofList] at present
        obtain rfl := List.eq_of_mem_replicate present
        decide }

-- The captured signature, presented with part of the organisation id moved into the nonce.
def moved : Call :=
  { method := "POST", path := "/v1/orgs/victim/users", body := sent.request.body, now := 1700000005
    headers := [(hToken, "t"), (hTimestamp, sent.timestamp),
      (hNonce, sent.nonce ++ "&POST&/v1/orgs/x"),
      (hSignature, computeSignature idealised "s" (sent.text idealised))] }

set_option maxRecDepth 20000 in
theorem moved_accepted :
    (verifyRequest idealised "s" 300 none moved).1.accepted = true := by decide +kernel

theorem sent_text : sent.text idealised = sentText := rfl

set_option maxRecDepth 20000 in
theorem sentDigest_length : (Sha256.hexdigest sent.request.body).toList.length = 64 := by
  decide +kernel

set_option maxRecDepth 20000 in
theorem sentMac_head : (Sha256.hmacBase64 "s" sentText).toList.head? ≠ some '-' := by
  decide +kernel

theorem idealised_collisionFree : Function.Injective idealised.sha256 := by
  have equal (body : ByteArray) : body.data = sent.request.body.data ↔ body = sent.request.body :=
    ⟨ByteArray.ext, congrArg ByteArray.data⟩
  have other (bytes : List Nat) : Sha256.hexdigest sent.request.body ≠
      String.ofList (List.replicate (65 + Encodable.encode bytes) 'a') := by
    intro same
    have lengths := congrArg (fun text => text.toList.length) same
    simp only [sentDigest_length, String.toList_ofList, List.length_replicate] at lengths
    omega
  intro first second same
  by_cases left : first = sent.request.body <;> by_cases right : second = sent.request.body <;>
    simp only [idealised, equal, left, right, if_true, if_false] at same ⊢
  · exact absurd same (other _)
  · exact absurd same.symm (other _)
  · have lengths := congrArg (fun text => text.toList.length) same
    simp only [String.toList_ofList, List.length_replicate, Nat.add_left_cancel_iff] at lengths
    have bytes := Encodable.encode_injective lengths
    have data : first.data = second.data := by
      apply Array.toList_inj.1
      exact List.map_injective_iff.2 (fun _ _ => UInt8.toNat_inj.1) bytes
    exact ByteArray.ext data

theorem sent_unforged (call : Call)
    (captured : lookup idealised call.headers hSignature =
      some (computeSignature idealised "s" (sent.text idealised))) :
    Unforged idealised "s" {sent} call := by
  intro signature presented text valid
  obtain rfl := Option.some.inj (captured.symm.trans presented)
  refine ⟨sent, rfl, ?_⟩
  by_contra different
  rw [sent_text] at different valid
  simp only [computeSignature, idealised, Ne.symm different, if_false, if_true] at valid
  exact sentMac_head (by simp [← valid])

theorem sent_resolved (call : Call)
    (token : lookup idealised call.headers hToken = some sent.token) :
    Resolved idealised {sent} call := by
  intro presented found signed known
  obtain rfl := Option.some.inj (token.symm.trans found)
  rw [known]

-- The same signature presented with the request it was made for.
def delivered : Call :=
  { method := "POST", path := sent.request.path, body := sent.request.body, now := 1700000005
    headers := sent.headers idealised "s" }

end Hijack

end Fleet.SignatureBinding
