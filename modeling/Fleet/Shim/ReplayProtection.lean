import Fleet.Shim.HmacAuth

set_option autoImplicit false

namespace Fleet.ReplayProtection

open HmacAuth

section Sequences

variable (p : Primitives) (secret : String) (maxSkew : Int)

-- The calls that share one cache, in order, each with its verdict.
def transcript : NonceCache → List Call → List (Call × Verdict)
  | _, [] => []
  | cache, call :: rest =>
      match verifyRequest p secret maxSkew (some cache) call with
      | (verdict, some next) => (call, verdict) :: transcript next rest
      | (verdict, none) => [(call, verdict)]

def SameStamp (first again : Call) : Prop :=
  lookup p first.headers hTimestamp = lookup p again.headers hTimestamp ∧
    lookup p first.headers hNonce = lookup p again.headers hNonce

-- Either the nonce is still stored, or its timestamp has left the window for good.
def Spent (cache : NonceCache) (clock : Int) (nonce : String) (stamp : Int) : Prop :=
  (nonce, stamp) ∈ cache.store ∨ stamp + maxSkew < clock

def Presents (call : Call) (nonce : String) (stamp : Int) : Prop :=
  lookup p call.headers hNonce = some nonce ∧
    (lookup p call.headers hTimestamp).bind PyInt.parse = some stamp

variable {p secret maxSkew}

theorem Presents.of_sameStamp {first again : Call} {nonce : String} {stamp : Int}
    (presents : Presents p first nonce stamp) (same : SameStamp p first again) :
    Presents p again nonce stamp := by
  unfold Presents at presents ⊢
  rw [← same.1, ← same.2]
  exact presents

theorem authenticate_presents {call : Call} {request : Authentic}
    (passed : authenticate p secret maxSkew call = .ok request) :
    Presents p call request.nonce request.timestamp ∧
      call.now - maxSkew ≤ request.timestamp ∧ request.timestamp ≤ call.now + maxSkew := by
  obtain ⟨timestamp, signature, checked⟩ := authenticate_ok passed
  have near := checked.near
  refine ⟨⟨checked.hasNonce, by simp [checked.hasTimestamp, checked.parsed]⟩, ?_, ?_⟩ <;> omega

-- What one call with a cache can do: refuse and leave the cache, or accept and store the nonce.
theorem verifyRequest_cases (p : Primitives) (secret : String) (maxSkew : Int)
    (cache : NonceCache) (call : Call) :
    (∃ verdict, verifyRequest p secret maxSkew (some cache) call = (verdict, some cache) ∧
        verdict.accepted = false) ∨
      ∃ request, authenticate p secret maxSkew call = .ok request ∧
        cache.seen request.nonce = false ∧
        verifyRequest p secret maxSkew (some cache) call =
          (.returned { ok := true, token := some request.token },
            some (cache.add request.nonce request.timestamp)) := by
  cases checked : authenticate p secret maxSkew call with
  | error verdict =>
      exact .inl ⟨verdict, by simp [verifyRequest, checked], authenticate_error_refuses checked⟩
  | ok request =>
      cases known : cache.seen request.nonce with
      | true => exact .inl ⟨_, by simp [verifyRequest, checked, known]; rfl, rfl⟩
      | false => exact .inr ⟨request, rfl, known, by simp [verifyRequest, checked, known]⟩

theorem transcript_calls (p : Primitives) (secret : String) (maxSkew : Int) (cache : NonceCache)
    (calls : List Call) :
    (transcript p secret maxSkew cache calls).map Prod.fst = calls := by
  induction calls generalizing cache with
  | nil => rfl
  | cons call rest ih =>
      rcases verifyRequest_cases p secret maxSkew cache call with
        ⟨verdict, outcome, -⟩ | ⟨request, -, -, outcome⟩ <;>
        simp [transcript, outcome, ih]

theorem Spent.later {cache : NonceCache} {clock later : Int} {nonce : String} {stamp : Int}
    (spent : Spent maxSkew cache clock nonce stamp) (order : clock ≤ later) :
    Spent maxSkew cache later nonce stamp := by
  rcases spent with stored | passed
  · exact .inl stored
  · exact .inr (by omega)

-- Evicting an entry takes a request whose timestamp is more than ttl past it. Such a request is
-- at most maxSkew ahead of the clock, so the clock itself is past the entry by ttl - maxSkew.
theorem Spent.add {cache : NonceCache} {clock : Int} {nonce : String} {stamp : Int}
    (retained : 2 * maxSkew ≤ cache.ttl) (spent : Spent maxSkew cache clock nonce stamp)
    {other : String} {ts : Int} (unseen : cache.seen other = false)
    (ahead : ts ≤ clock + maxSkew) : Spent maxSkew (cache.add other ts) clock nonce stamp := by
  rcases spent with stored | passed
  · by_cases recent : ts - stamp ≤ cache.ttl
    · have different : nonce ≠ other := by
        intro same
        rw [← same, NonceCache.seen_of_mem stored] at unseen
        cases unseen
      exact .inl ((cache.mem_add other nonce ts stamp).2 (.inl ⟨stored, different, recent⟩))
    · exact .inr (by omega)
  · exact .inr passed

theorem Spent.refused {cache : NonceCache} {call : Call} {nonce : String} {stamp : Int}
    (spent : Spent maxSkew cache call.now nonce stamp) (presents : Presents p call nonce stamp)
    {request : Authentic} (passed : authenticate p secret maxSkew call = .ok request) :
    cache.seen request.nonce = true := by
  obtain ⟨⟨sameNonce, sameStamp⟩, -, -⟩ := authenticate_presents passed
  obtain ⟨-, recent, -⟩ := authenticate_presents passed
  obtain rfl : nonce = request.nonce := Option.some.inj (presents.1.symm.trans sameNonce)
  obtain rfl : stamp = request.timestamp := Option.some.inj (presents.2.symm.trans sameStamp)
  rcases spent with stored | gone
  · exact NonceCache.seen_of_mem stored
  · omega

theorem spent_refuses {cache : NonceCache} {clock : Int} {nonce : String} {stamp : Int}
    (retained : 2 * maxSkew ≤ cache.ttl) (spent : Spent maxSkew cache clock nonce stamp)
    {calls : List Call} (later : ∀ call ∈ calls, clock ≤ call.now)
    (ordered : calls.Pairwise fun earlier later => earlier.now ≤ later.now) :
    ∀ entry ∈ transcript p secret maxSkew cache calls,
      Presents p entry.1 nonce stamp → entry.2.accepted = false := by
  induction calls generalizing cache clock with
  | nil => simp [transcript]
  | cons call rest ih =>
      obtain ⟨after, ordered⟩ := List.pairwise_cons.1 ordered
      have now := spent.later (later call List.mem_cons_self)
      rcases verifyRequest_cases p secret maxSkew cache call with
        ⟨verdict, outcome, refused⟩ | ⟨request, passed, unseen, outcome⟩
      · simp only [transcript, outcome, List.mem_cons, forall_eq_or_imp]
        exact ⟨fun _ => refused, ih retained now after ordered⟩
      · simp only [transcript, outcome, List.mem_cons, forall_eq_or_imp]
        obtain ⟨-, -, ahead⟩ := authenticate_presents passed
        constructor
        · intro presents
          rw [now.refused presents passed] at unseen
          cases unseen
        · exact ih retained (now.add retained unseen ahead) after ordered

end Sequences

section Delivery

def deleteAt (stamp now : Int) (nonce : String) : Call :=
  { method := "DELETE", path := "/v1/users/u1", body := .empty, now := now
    headers := signRequest standard "t" "s" "DELETE" "/v1/users/u1" .empty (some stamp)
      (some nonce) 0 [] }

-- Signed a full skew behind the clock, then replayed after a request a full skew ahead of it.
def replayAcrossEviction : List Call := [
  deleteAt 1000 1300 "A", deleteAt 1600 1300 "B", deleteAt 1000 1300 "A"]

set_option maxRecDepth 20000 in
theorem replayAcrossEviction_accepts :
    ((transcript standard "s" 300 (.create 600) replayAcrossEviction).take 2).map
      (fun entry => entry.2.accepted) = [true, true] := by decide +kernel

end Delivery

end Fleet.ReplayProtection
