import Fleet.Shared.Mealy
import Fleet.Shim.HmacAuth

set_option autoImplicit false

namespace Fleet.Insertions

open HmacAuth Mealy

section Sequences

variable (p : Primitives) (secret : String) (maxSkew : Int)

/-- What a request can fall short of before the nonce store is consulted. -/
inductive Unauthenticated (call : Call) : Prop where
  | lacksHeader (name : String) (needed : name ∈ [hToken, hTimestamp, hNonce, hSignature])
      (lacks : (lookup p call.headers name).getD "" = "")
  | malformedTimestamp (timestamp : String)
      (sent : lookup p call.headers hTimestamp = some timestamp)
      (malformed : PyInt.parse timestamp = none)
  | outOfSkew (timestamp : String) (ts : Int)
      (sent : lookup p call.headers hTimestamp = some timestamp)
      (parsed : PyInt.parse timestamp = some ts) (far : maxSkew < (call.now - ts).natAbs)
  | wrongSignature (token timestamp nonce signature : String)
      (hasToken : lookup p call.headers hToken = some token)
      (hasTimestamp : lookup p call.headers hTimestamp = some timestamp)
      (hasNonce : lookup p call.headers hNonce = some nonce)
      (hasSignature : lookup p call.headers hSignature = some signature)
      (wrong : signature ≠ computeSignature p secret
        (signedString p token timestamp nonce call.method call.path call.body))

structure Arrival where
  call : Call
  inserted : Bool

-- Calls of `verify_request` with one nonce store between them.
def verify (seenNonce : Option NonceCache) (arrival : Arrival) : Verdict × Option NonceCache :=
  verifyRequest p secret maxSkew seenNonce arrival.call

variable {p secret maxSkew}

theorem authenticate_named {call : Call} {request : Authentic}
    (passed : authenticate p secret maxSkew call = .ok request) :
    ∀ name ∈ [hToken, hTimestamp, hNonce, hSignature],
      (lookup p call.headers name).getD "" ≠ "" := by
  unfold authenticate at passed
  split at passed
  next token timestamp nonce signature hasToken hasTimestamp hasNonce hasSignature =>
    split at passed
    · cases passed
    next present =>
      simp only [not_or] at present
      simp [hasToken, hasTimestamp, hasNonce, hasSignature, present]
  next => cases passed

theorem Unauthenticated.refused {call : Call} (short : Unauthenticated p secret maxSkew call) :
    ∃ verdict, authenticate p secret maxSkew call = .error verdict := by
  cases checked : authenticate p secret maxSkew call with
  | error verdict => exact ⟨verdict, rfl⟩
  | ok request =>
      obtain ⟨timestamp, signature, passed⟩ := authenticate_ok checked
      exfalso
      cases short with
      | lacksHeader name needed lacks => exact authenticate_named checked name needed lacks
      | malformedTimestamp other sent malformed =>
          obtain rfl := Option.some.inj (passed.hasTimestamp.symm.trans sent)
          rw [passed.parsed] at malformed
          cases malformed
      | outOfSkew other ts sent parsed far =>
          obtain rfl := Option.some.inj (passed.hasTimestamp.symm.trans sent)
          obtain rfl := Option.some.inj (passed.parsed.symm.trans parsed)
          exact absurd passed.near (not_le.2 far)
      | wrongSignature token other nonce sent hasToken hasTimestamp hasNonce hasSignature wrong =>
          obtain rfl := Option.some.inj (passed.hasToken.symm.trans hasToken)
          obtain rfl := Option.some.inj (passed.hasTimestamp.symm.trans hasTimestamp)
          obtain rfl := Option.some.inj (passed.hasNonce.symm.trans hasNonce)
          obtain rfl := Option.some.inj (passed.hasSignature.symm.trans hasSignature)
          exact wrong passed.signed.symm

theorem verify_unauthenticated {arrival : Arrival}
    (short : Unauthenticated p secret maxSkew arrival.call) (seenNonce : Option NonceCache) :
    (verify p secret maxSkew seenNonce arrival).2 = seenNonce := by
  obtain ⟨verdict, failed⟩ := short.refused
  rw [verify, verifyRequest, failed]

-- The run with the insertions and the one without hold the same store all along.
theorem verify_unwinds {arrival : Arrival}
    (short : arrival.inserted = true → Unauthenticated p secret maxSkew arrival.call) :
    Unwinding (verify p secret maxSkew) (fun arrival => !arrival.inserted) Eq arrival where
  hidden := by
    rintro inserted left _ rfl
    exact verify_unauthenticated (short (by simpa using inserted)) left
  same := by
    rintro - left _ rfl
    exact ⟨rfl, rfl⟩

end Sequences

section Probes

def list (now : Int) (headers : Headers) : Call :=
  { method := "GET", path := "/v1/users", headers := headers, body := .empty, now := now }

-- Between two uses of one nonce by its owner: a bare request, one with that nonce and a guessed
-- signature, and one far ahead of the clock that would evict it.
def probed : List Arrival :=
  let owned := list 1000
    (signRequest standard "t" "s" "GET" "/v1/users" .empty (some 1000) (some "A") 0 [])
  [⟨owned, false⟩, ⟨list 1001 [], true⟩,
    ⟨list 1002 [(hToken, "t"), (hTimestamp, "1000"), (hNonce, "A"), (hSignature, "guess")], true⟩,
    ⟨list 1003 [(hToken, "t"), (hTimestamp, "9000"), (hNonce, "B"), (hSignature, "guess")], true⟩,
    ⟨owned, false⟩]

set_option maxRecDepth 20000 in
theorem probed_unauthenticated : ∀ arrival ∈ probed, arrival.inserted = true →
    Unauthenticated standard "s" 300 arrival.call := by
  intro arrival member inserted
  simp only [probed, List.mem_cons, List.not_mem_nil, or_false] at member
  rcases member with rfl | rfl | rfl | rfl | rfl
  · cases inserted
  · exact .lacksHeader hToken (by decide) rfl
  · exact .wrongSignature "t" "1000" "A" "guess" rfl rfl rfl rfl (by decide +kernel)
  · exact .outOfSkew "9000" 9000 rfl (by decide) (by decide)
  · cases inserted

end Probes

end Fleet.Insertions
