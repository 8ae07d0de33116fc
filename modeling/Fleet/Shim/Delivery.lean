import Fleet.Shim.Insertions
import Fleet.Shim.ReplayProtection
import Fleet.Shim.SignatureBinding

set_option autoImplicit false

namespace Fleet.Delivery

open HmacAuth Mealy
open Insertions (Unauthenticated)
open ReplayProtection (Spent)
open SignatureBinding (Signed)

section Server

variable (p : Primitives) (token secret : String) (maxSkew : Int)

-- The check in front of every handler of both shims; the reply of a refusal is left to them.
def authorize (cache : NonceCache) (call : Call) : Verdict × NonceCache :=
  if lookup p call.headers hToken = some token then
    let (verdict, next) := verifyRequest p secret maxSkew (some cache) call
    (verdict, next.getD cache)
  else (refuse none "unknown token", cache)

universe u v

variable {State : Type u} {Reply : Type v} (serve : State → Call → Reply × State)

def guarded (server : NonceCache × State) (call : Call) :
    Except Verdict Reply × (NonceCache × State) :=
  let (verdict, cache) := authorize p token secret maxSkew server.1 call
  if verdict.accepted then
    let (reply, state) := serve server.2 call
    (.ok reply, (cache, state))
  else (.error verdict, (cache, server.2))

-- The calls that reached their handler, with its replies.
def served (answers : List (Call × Except Verdict Reply)) : List (Call × Reply) :=
  answers.filterMap fun answer => answer.2.toOption.map fun reply => (answer.1, reply)

end Server

section Network

variable (p : Primitives) (token secret : String) (maxSkew : Int)

/-- What reaches a shim: a copy of a request that was signed, or something else. -/
structure Arrival where
  call : Call
  copyOf : Option Signed

def authHeaders : List String := [hToken, hTimestamp, hNonce, hSignature]

/-- Signed by an adapter under the token of the node. -/
structure Genuine (signed : Signed) : Prop where
  token : signed.token = token
  drawn : signed.random ≠ []
  dated : (Nat.toDigits 10 signed.clock.natAbs).length ≤ PyInt.maxStrDigits

-- Headers may be renamed up to their case, reordered and added to.
structure Delivers (signed : Signed) (call : Call) : Prop where
  headers : ∀ name ∈ authHeaders,
    lookup p call.headers name = lookup p (signed.headers p secret) name
  method : p.upper call.method = p.upper signed.request.method
  path : call.path = signed.request.path
  body : call.body = signed.request.body

def Foreign (call : Call) : Prop :=
  lookup p call.headers hToken ≠ some token ∨ Unauthenticated p secret maxSkew call

def Arrival.Sound (arrival : Arrival) : Prop :=
  match arrival.copyOf with
  | some signed => Genuine token signed ∧ Delivers p secret signed arrival.call
  | none => Foreign p token secret maxSkew arrival.call

def Timely (signed : Signed) (now : Int) : Prop := ((now - signed.clock).natAbs : Int) ≤ maxSkew

instance (signed : Signed) (now : Int) : Decidable (Timely maxSkew signed now) :=
  inferInstanceAs (Decidable (_ ≤ _))

-- The first copy of each request that arrives in time.
def executed : List Signed → List Arrival → List Arrival
  | _, [] => []
  | done, arrival :: rest =>
      match arrival.copyOf with
      | some signed =>
          if signed.nonce ∉ done.map Signed.nonce ∧ Timely maxSkew signed arrival.call.now then
            arrival :: executed (signed :: done) rest
          else executed done rest
      | none => executed done rest

def copies (arrivals : List Arrival) : List Signed := arrivals.filterMap Arrival.copyOf

/-- The store holds the nonces of served requests only, and those of them that may still come
again. -/
structure Tracks (cache : NonceCache) (done : List Signed) (clock : Int) : Prop where
  retained : 2 * maxSkew ≤ cache.ttl
  spent : ∀ signed ∈ done, Spent maxSkew cache clock signed.nonce signed.clock
  known : ∀ nonce, cache.seen nonce = true → nonce ∈ done.map Signed.nonce

end Network

section Signing

variable {p : Primitives} {token secret : String} {maxSkew : Int} {signed : Signed} {call : Call}

-- A MAC is the base64 of a digest.
structure Printable (p : Primitives) : Prop where
  ascii : ∀ secret text, isAscii (p.hmac secret text) = true
  nonempty : ∀ secret text, p.hmac secret text ≠ ""

theorem lookup_signed :
    lookup p (signed.headers p secret) hToken = some signed.token ∧
      lookup p (signed.headers p secret) hTimestamp = some signed.timestamp ∧
      lookup p (signed.headers p secret) hNonce = some signed.nonce ∧
      lookup p (signed.headers p secret) hSignature =
        some (computeSignature p secret (signed.text p)) := by
  have token : p.lower hToken = "auth-token" := (p.lower_ascii _ (by decide)).trans (by decide)
  have timestamp : p.lower hTimestamp = "auth-timestamp" :=
    (p.lower_ascii _ (by decide)).trans (by decide)
  have nonce : p.lower hNonce = "auth-nonce" := (p.lower_ascii _ (by decide)).trans (by decide)
  have signature : p.lower hSignature = "auth-signature" :=
    (p.lower_ascii _ (by decide)).trans (by decide)
  simp [lookup, Signed.headers, signRequest, token, timestamp, nonce, signature,
    Signed.timestamp, Signed.nonce, Signed.text]

theorem nonce_nonempty (drawn : signed.random ≠ []) : signed.nonce ≠ "" := by
  obtain ⟨byte, rest, shape⟩ := List.exists_cons_of_ne_nil drawn
  rw [Signed.nonce, shape, b16encode, List.flatMap_cons, ← String.toList_inj.ne,
    String.toList_ofList]
  simp

theorem authenticate_delivered (printable : Printable p) (named : token ≠ "")
    (genuine : Genuine token signed) (delivers : Delivers p secret signed call) :
    authenticate p secret maxSkew call =
      if Timely maxSkew signed call.now then .ok ⟨token, signed.nonce, signed.clock⟩
      else .error (refuse (some token) "timestamp outside allowed skew") := by
  obtain ⟨hasToken, hasTimestamp, hasNonce, hasSignature⟩ := @lookup_signed p secret signed
  have carried := delivers.headers
  simp only [authHeaders, List.forall_mem_cons, hasToken, hasTimestamp, hasNonce, hasSignature,
    genuine.token] at carried
  obtain ⟨sentToken, sentTimestamp, sentNonce, sentSignature, -⟩ := carried
  have dated : PyInt.parse signed.timestamp = some signed.clock := PyInt.parse_toString genuine.dated
  have text : signedString p token signed.timestamp signed.nonce call.method call.path call.body =
      signed.text p := by
    rw [Signed.text, signedString, signedString, genuine.token, delivers.method, delivers.path,
      delivers.body]
  have same : compareDigest (computeSignature p secret (signed.text p))
      (computeSignature p secret (signed.text p)) = some true := by
    simp [compareDigest, computeSignature, printable.ascii]
  have present : ¬ (token = "" ∨ signed.timestamp = "" ∨ signed.nonce = "" ∨
      computeSignature p secret (signed.text p) = "") := by
    rintro (unnamed | undated | undrawn | unsigned)
    · exact named unnamed
    · rw [undated] at dated
      cases dated
    · exact nonce_nonempty genuine.drawn undrawn
    · exact printable.nonempty _ _ unsigned
  rw [authenticate, sentToken, sentTimestamp, sentNonce, sentSignature]
  dsimp only
  rw [if_neg present, dated, text, same]
  dsimp only
  by_cases timely : Timely maxSkew signed call.now
  · rw [if_pos timely, if_neg (not_lt.2 timely)]
  · rw [if_neg timely, if_pos (not_le.1 timely)]

end Signing

section Runs

universe u v

variable {p : Primitives} {token secret : String} {maxSkew : Int}

theorem authorize_foreign {call : Call} (foreign : Foreign p token secret maxSkew call)
    (cache : NonceCache) :
    ∃ verdict, authorize p token secret maxSkew cache call = (verdict, cache) ∧
      verdict.accepted = false := by
  unfold authorize
  split
  next known =>
    obtain unknown | short := foreign
    · exact absurd known unknown
    · obtain ⟨verdict, failed⟩ := short.refused
      refine ⟨verdict, ?_, authenticate_error_refuses failed⟩
      rw [verifyRequest, failed]
      rfl
  next => exact ⟨_, rfl, rfl⟩

theorem Tracks.later {cache : NonceCache} {done : List Signed} {clock now : Int}
    (tracks : Tracks maxSkew cache done clock) (order : clock ≤ now) :
    Tracks maxSkew cache done now :=
  ⟨tracks.retained, fun signed member => (tracks.spent signed member).later order, tracks.known⟩

theorem Tracks.add {cache : NonceCache} {done : List Signed} {signed : Signed} {now : Int}
    (tracks : Tracks maxSkew cache done now) (timely : Timely maxSkew signed now)
    (unseen : cache.seen signed.nonce = false) :
    Tracks maxSkew (cache.add signed.nonce signed.clock) (signed :: done) now := by
  have ahead : signed.clock ≤ now + maxSkew := by
    unfold Timely at timely
    omega
  refine ⟨tracks.retained, List.forall_mem_cons.2 ⟨?_, ?_⟩, ?_⟩
  · exact .inl ((cache.mem_add _ _ _ _).2 (.inr ⟨rfl, rfl⟩))
  · exact fun other member => (tracks.spent other member).add tracks.retained unseen ahead
  · intro nonce seen
    obtain ⟨⟨stored, stamp⟩, member, same⟩ := List.any_eq_true.1 seen
    obtain rfl : stored = nonce := by simpa using same
    rw [List.map_cons, List.mem_cons]
    rcases (cache.mem_add _ _ _ _).1 member with ⟨old, -, -⟩ | ⟨rfl, -⟩
    · exact .inr (tracks.known _ (NonceCache.seen_of_mem old))
    · exact .inl rfl

-- A copy is served if it comes in time and is the first one that does.
theorem Tracks.authorize {cache : NonceCache} {done : List Signed} {signed : Signed} {call : Call}
    (printable : Printable p) (named : token ≠ "")
    (tracks : Tracks maxSkew cache done call.now) (genuine : Genuine token signed)
    (delivers : Delivers p secret signed call)
    (apart : ∀ other ∈ done, other.nonce = signed.nonce → other = signed) :
    if signed.nonce ∉ done.map Signed.nonce ∧ Timely maxSkew signed call.now then
      authorize p token secret maxSkew cache call =
          (.returned { ok := true, token := some token }, cache.add signed.nonce signed.clock) ∧
        Tracks maxSkew (cache.add signed.nonce signed.clock) (signed :: done) call.now
    else ∃ error, authorize p token secret maxSkew cache call = (refuse (some token) error, cache) := by
  have known : lookup p call.headers hToken = some token := by
    rw [delivers.headers hToken (by simp [authHeaders]), lookup_signed.1, genuine.token]
  have checked : authenticate p secret maxSkew call = _ :=
    authenticate_delivered printable named genuine delivers
  unfold Delivery.authorize verifyRequest
  rw [if_pos known, checked]
  by_cases timely : Timely maxSkew signed call.now
  · rw [if_pos timely]
    dsimp only
    by_cases fresh : signed.nonce ∈ done.map Signed.nonce
    · rw [if_neg fun first => first.1 fresh]
      obtain ⟨other, member, same⟩ := List.mem_map.1 fresh
      obtain rfl := apart other member same
      have stored : cache.seen other.nonce = true := by
        rcases tracks.spent other member with stored | gone
        · exact NonceCache.seen_of_mem stored
        · unfold Timely at timely
          omega
      rw [if_pos stored]
      exact ⟨_, rfl⟩
    · rw [if_pos ⟨fresh, timely⟩]
      have unseen : cache.seen signed.nonce = false := by
        rw [← Bool.not_eq_true]
        exact fun seen => fresh (tracks.known _ seen)
      rw [if_neg (by simp [unseen])]
      exact ⟨rfl, tracks.add timely unseen⟩
  · rw [if_neg timely, if_neg fun first => timely first.2]
    exact ⟨_, rfl⟩

variable {State : Type u} {Reply : Type v} {serve : State → Call → Reply × State}

theorem guarded_refused {cache : NonceCache} {state : State} {call : Call} {verdict : Verdict}
    (admitted : authorize p token secret maxSkew cache call = (verdict, cache))
    (refused : verdict.accepted = false) :
    guarded p token secret maxSkew serve (cache, state) call =
      (.error verdict, (cache, state)) := by
  rw [guarded, admitted]
  simp [refused]

theorem guarded_served {cache next : NonceCache} {state : State} {call : Call} {name : String}
    (admitted : authorize p token secret maxSkew cache call =
      (.returned { ok := true, token := some name }, next)) :
    guarded p token secret maxSkew serve (cache, state) call =
      (.ok (serve state call).1, (next, (serve state call).2)) := by
  rw [guarded, admitted]
  rfl

theorem guarded_run (printable : Printable p) (named : token ≠ "") {requests : Set Signed}
    (apart : Set.InjOn Signed.nonce requests) {cache : NonceCache} {done : List Signed}
    {clock : Int} (tracks : Tracks maxSkew cache done clock) (past : ∀ signed ∈ done, signed ∈ requests)
    {arrivals : List Arrival} (later : ∀ arrival ∈ arrivals, clock ≤ arrival.call.now)
    (ordered : arrivals.Pairwise fun one other => one.call.now ≤ other.call.now)
    (sound : ∀ arrival ∈ arrivals, arrival.Sound p token secret maxSkew)
    (asked : ∀ arrival ∈ arrivals, ∀ signed ∈ arrival.copyOf, signed ∈ requests)
    (state : State) :
    served (answers (guarded p token secret maxSkew serve) (cache, state)
          (arrivals.map Arrival.call)) =
        answers serve state ((executed maxSkew done arrivals).map Arrival.call) ∧
      (final (guarded p token secret maxSkew serve) (cache, state)
          (arrivals.map Arrival.call)).2 =
        final serve state ((executed maxSkew done arrivals).map Arrival.call) := by
  induction arrivals generalizing cache done clock state with
  | nil => exact ⟨rfl, rfl⟩
  | cons arrival rest ih =>
      obtain ⟨after, ordered⟩ := List.pairwise_cons.1 ordered
      obtain ⟨here, sound⟩ := List.forall_mem_cons.1 sound
      obtain ⟨copy, asked⟩ := List.forall_mem_cons.1 asked
      have now := tracks.later (later arrival List.mem_cons_self)
      have rest := ih now past after ordered sound asked state
      rw [List.map_cons, answers, final]
      unfold executed
      rcases copied : arrival.copyOf with _ | signed
      · rw [Arrival.Sound, copied] at here
        obtain ⟨verdict, admitted, refused⟩ := authorize_foreign here cache
        rw [guarded_refused admitted refused]
        exact rest
      · rw [Arrival.Sound, copied] at here
        have member : signed ∈ requests := copy signed copied
        have outcome := now.authorize printable named here.1 here.2 fun other known same =>
          apart (past other known) member same
        dsimp only
        split
        next first =>
          rw [if_pos first] at outcome
          obtain ⟨admitted, tracks⟩ := outcome
          obtain ⟨replies, states⟩ := ih tracks (List.forall_mem_cons.2 ⟨member, past⟩) after ordered
            sound asked (serve state arrival.call).2
          rw [guarded_served admitted, List.map_cons, answers, final]
          exact ⟨congrArg (_ :: ·) replies, states⟩
        next other =>
          rw [if_neg other] at outcome
          obtain ⟨error, admitted⟩ := outcome
          rw [guarded_refused admitted rfl]
          exact rest

theorem executed_sublist (done : List Signed) (arrivals : List Arrival) :
    (executed maxSkew done arrivals).Sublist arrivals := by
  induction arrivals generalizing done with
  | nil => exact .slnil
  | cons arrival rest ih =>
      unfold executed
      split
      · split
        · exact (ih _).cons_cons arrival
        · exact (ih _).cons arrival
      · exact (ih _).cons arrival

theorem executed_fresh (done : List Signed) (arrivals : List Arrival) :
    ((copies (executed maxSkew done arrivals)).map Signed.nonce).Nodup ∧
      ∀ signed ∈ copies (executed maxSkew done arrivals),
        signed.nonce ∉ done.map Signed.nonce := by
  induction arrivals generalizing done with
  | nil => exact ⟨.nil, by simp [copies, executed]⟩
  | cons arrival rest ih =>
      unfold executed
      split
      next signed copied =>
        split
        next first =>
          obtain ⟨nodup, fresh⟩ := ih (signed :: done)
          rw [copies, List.filterMap_cons_some copied, ← copies]
          refine ⟨List.nodup_cons.2 ⟨?_, nodup⟩, List.forall_mem_cons.2 ⟨first.1, ?_⟩⟩
          · rintro again
            obtain ⟨other, member, same⟩ := List.mem_map.1 again
            exact fresh other member (by simp [same])
          · exact fun other member known => fresh other member (by simp [known])
        next => exact ih done
      next => exact ih done

theorem mem_executed {requests : Set Signed} (apart : Set.InjOn Signed.nonce requests)
    {signed : Signed} (asked : signed ∈ requests) {done : List Signed}
    {arrivals : List Arrival} (from_ : ∀ arrival ∈ arrivals, ∀ copy ∈ arrival.copyOf, copy ∈ requests) :
    signed ∈ copies (executed maxSkew done arrivals) ↔
      signed.nonce ∉ done.map Signed.nonce ∧ ∃ arrival ∈ arrivals,
        arrival.copyOf = some signed ∧ Timely maxSkew signed arrival.call.now := by
  induction arrivals generalizing done with
  | nil => simp [copies, executed]
  | cons arrival rest ih =>
      obtain ⟨here, later⟩ := List.forall_mem_cons.1 from_
      unfold executed
      split
      next copy copied =>
        split
        next first =>
          rw [copies, List.filterMap_cons_some copied, ← copies, List.mem_cons, ih later,
            List.exists_mem_cons_iff, copied]
          by_cases same : signed = copy
          · subst same
            simp [first]
          · have other : signed.nonce ≠ copy.nonce := fun equal =>
              same (apart asked (here copy copied) equal)
            have unequal : copy ≠ signed := Ne.symm same
            simp [same, other, unequal]
        next missed =>
          rw [ih later, List.exists_mem_cons_iff, copied]
          constructor
          · rintro ⟨fresh, found⟩
            exact ⟨fresh, .inr found⟩
          · rintro ⟨fresh, ⟨same, timely⟩ | found⟩
            · obtain rfl := Option.some.inj same
              exact absurd ⟨fresh, timely⟩ missed
            · exact ⟨fresh, found⟩
      next uncopied =>
        rw [ih later, List.exists_mem_cons_iff, uncopied]
        simp

end Runs

section Copies

theorem standard_printable : Printable standard where
  ascii secret text := by
    rw [isAscii, List.all_eq_true]
    exact fun c member => decide_eq_true (Sha256.hmacBase64_ascii secret text c member)
  nonempty := Sha256.hmacBase64_nonempty

def disable : Signed := ⟨"t", ShimAdapter.setUserDisabled "u1" true, 1000, List.replicate 16 1⟩

def delete : Signed := ⟨"t", ShimAdapter.deleteUser "u1", 1002, List.replicate 16 2⟩

def copy (signed : Signed) (now : Int) : Arrival where
  call :=
    { method := signed.request.method, path := signed.request.path
      headers := signed.headers standard "s", body := signed.request.body, now := now }
  copyOf := some signed

-- The second request overtakes a copy of the first; a probe without headers comes between.
def arrivals : List Arrival := [
  copy disable 1001,
  ⟨{ method := "GET", path := "/v1/state", headers := [], body := .empty, now := 1003 }, none⟩,
  copy delete 1003, copy disable 1004, copy delete 1300, copy disable 1301]

-- A handler that counts.
def count (handled : Nat) (_ : Call) : Nat × Nat := (handled, handled + 1)

end Copies

end Fleet.Delivery
