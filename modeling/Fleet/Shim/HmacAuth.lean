import Mathlib.Data.List.Basic
import Fleet.Shared.PyInt
import Fleet.Shared.Sha256

set_option autoImplicit false

namespace Fleet.HmacAuth

def isAscii (text : String) : Bool := text.toList.all fun c => c.toNat < 128

def asciiUpper (text : String) : String := String.ofList (text.toList.map Char.toUpper)

def asciiLower (text : String) : String := String.ofList (text.toList.map Char.toLower)

-- What the standard library supplies: the hex digest of a body, the base64 MAC of a text under a
-- secret, and the Unicode case mappings of `str`.
structure Primitives where
  sha256 : ByteArray → String
  hmac : String → String → String
  upper : String → String
  lower : String → String
  sha256_hex : ∀ body, ∀ c ∈ (sha256 body).toList, c ∈ Sha256.hexDigits
  upper_ascii : ∀ text, isAscii text = true → upper text = asciiUpper text
  lower_ascii : ∀ text, isAscii text = true → lower text = asciiLower text

def standard : Primitives where
  sha256 := Sha256.hexdigest
  hmac := Sha256.hmacBase64
  upper := asciiUpper
  lower := asciiLower
  sha256_hex := Sha256.hexdigest_hex
  upper_ascii _ _ := rfl
  lower_ascii _ _ := rfl

def b16encode (bytes : List UInt8) : String :=
  String.ofList <| bytes.flatMap fun b =>
    [(Nat.digitChar (b.toNat / 16)).toUpper, (Nat.digitChar (b.toNat % 16)).toUpper]

def hToken : String := "Auth-Token"
def hTimestamp : String := "Auth-Timestamp"
def hNonce : String := "Auth-Nonce"
def hSignature : String := "Auth-Signature"

def defaultMaxSkew : Int := 300

-- Headers as the pairs of a dict.
abbrev Headers := List (String × String)

structure VerifyResult where
  ok : Bool
  token : Option String := none
  error : Option String := none
  deriving DecidableEq

-- `compare_digest` raises TypeError on a signature that is not ASCII; nothing catches it.
inductive Verdict where
  | returned (result : VerifyResult)
  | raised
  deriving DecidableEq

def Verdict.accepted : Verdict → Bool
  | .returned result => result.ok
  | .raised => false

def refuse (token : Option String) (error : String) : Verdict :=
  .returned { ok := false, token := token, error := some error }

structure NonceCache where
  ttl : Int
  store : List (String × Int)
  deriving DecidableEq

namespace NonceCache

def create (ttl : Int) : NonceCache := ⟨ttl, []⟩

def evict (cache : NonceCache) (now : Int) : NonceCache :=
  { cache with store := cache.store.filter fun entry => !decide (now - entry.2 > cache.ttl) }

def seen (cache : NonceCache) (nonce : String) : Bool :=
  cache.store.any fun entry => entry.1 == nonce

def add (cache : NonceCache) (nonce : String) (ts : Int) : NonceCache :=
  let swept := cache.evict ts
  { swept with store := swept.store.filter (fun entry => entry.1 != nonce) ++ [(nonce, ts)] }

@[simp]
theorem add_ttl (cache : NonceCache) (nonce : String) (ts : Int) :
    (cache.add nonce ts).ttl = cache.ttl := rfl

theorem mem_add (cache : NonceCache) (nonce other : String) (ts stamp : Int) :
    (other, stamp) ∈ (cache.add nonce ts).store ↔
      ((other, stamp) ∈ cache.store ∧ other ≠ nonce ∧ ts - stamp ≤ cache.ttl) ∨
        (other = nonce ∧ stamp = ts) := by
  simp only [add, evict, List.mem_append, List.mem_filter, List.mem_singleton, Prod.mk.injEq]
  simp only [bne_iff_ne, Bool.not_eq_true', decide_eq_false_iff_not, not_lt, gt_iff_lt]
  constructor
  · rintro (⟨⟨stored, recent⟩, different⟩ | new)
    · exact .inl ⟨stored, different, recent⟩
    · exact .inr new
  · rintro (⟨stored, different, recent⟩ | new)
    · exact .inl ⟨⟨stored, recent⟩, different⟩
    · exact .inr new

theorem seen_of_mem {cache : NonceCache} {nonce : String} {ts : Int}
    (stored : (nonce, ts) ∈ cache.store) : cache.seen nonce = true := by
  simp only [seen, List.any_eq_true]
  exact ⟨_, stored, by simp⟩

theorem seen_add (cache : NonceCache) (nonce : String) (ts : Int) :
    (cache.add nonce ts).seen nonce = true :=
  seen_of_mem ((cache.mem_add nonce nonce ts ts).2 (.inr ⟨rfl, rfl⟩))

end NonceCache

-- One call of `verify_request`: the arguments that vary from request to request.
structure Call where
  method : String
  path : String
  headers : Headers
  body : ByteArray
  now : Int

structure Authentic where
  token : String
  nonce : String
  timestamp : Int
  deriving DecidableEq

section Scheme

variable (p : Primitives)

def bodyHash (body : ByteArray) : String := p.sha256 body

def signedString (token timestamp nonce method path : String) (body : ByteArray) : String :=
  String.intercalate "&" [token, timestamp, nonce, p.upper method, path, bodyHash p body]

def computeSignature (secret signed : String) : String := p.hmac secret signed

-- `clock` is the reading of time.time() and `random` what os.urandom draws, used where the caller
-- passes no timestamp or nonce.
def signRequest (token secret method path : String) (body : ByteArray)
    (timestamp : Option Int) (nonce : Option String) (clock : Int) (random : List UInt8) : Headers :=
  let ts := toString (timestamp.getD clock)
  let nc := nonce.getD (b16encode random)
  [(hToken, token), (hTimestamp, ts), (hNonce, nc),
    (hSignature, computeSignature p secret (signedString p token ts nc method path body))]

-- The dict comprehension lower-cases the keys and keeps the last of two that collide.
def lookup (headers : Headers) (name : String) : Option String :=
  (headers.reverse.find? fun header => p.lower header.1 == p.lower name).map fun header => header.2

def compareDigest (expected signature : String) : Option Bool :=
  if isAscii expected && isAscii signature then some (expected == signature) else none

-- Everything `verify_request` checks before it touches the nonce store.
def authenticate (secret : String) (maxSkew : Int) (call : Call) : Except Verdict Authentic :=
  match lookup p call.headers hToken, lookup p call.headers hTimestamp,
      lookup p call.headers hNonce, lookup p call.headers hSignature with
  | some token, some timestamp, some nonce, some signature =>
      if token = "" ∨ timestamp = "" ∨ nonce = "" ∨ signature = "" then
        .error (refuse none "missing auth headers")
      else
        match PyInt.parse timestamp with
        | none => .error (refuse none "bad timestamp")
        | some ts =>
            if maxSkew < (call.now - ts).natAbs then
              .error (refuse (some token) "timestamp outside allowed skew")
            else
              match compareDigest
                  (computeSignature p secret
                    (signedString p token timestamp nonce call.method call.path call.body))
                  signature with
              | none => .error .raised
              | some false => .error (refuse (some token) "bad signature")
              | some true => .ok ⟨token, nonce, ts⟩
  | _, _, _, _ => .error (refuse none "missing auth headers")

def verifyRequest (secret : String) (maxSkew : Int) (seenNonce : Option NonceCache) (call : Call) :
    Verdict × Option NonceCache :=
  match authenticate p secret maxSkew call with
  | .error verdict => (verdict, seenNonce)
  | .ok request =>
      match seenNonce with
      | none => (.returned { ok := true, token := some request.token }, none)
      | some cache =>
          if cache.seen request.nonce then
            (refuse (some request.token) "nonce replay detected", some cache)
          else
            (.returned { ok := true, token := some request.token },
              some (cache.add request.nonce request.timestamp))

variable {p}

theorem compareDigest_true {expected signature : String}
    (same : compareDigest expected signature = some true) : expected = signature := by
  unfold compareDigest at same
  split at same <;> simp_all

structure Checked (p : Primitives) (secret : String) (maxSkew : Int) (call : Call)
    (request : Authentic) (timestamp signature : String) : Prop where
  hasToken : lookup p call.headers hToken = some request.token
  hasTimestamp : lookup p call.headers hTimestamp = some timestamp
  hasNonce : lookup p call.headers hNonce = some request.nonce
  hasSignature : lookup p call.headers hSignature = some signature
  parsed : PyInt.parse timestamp = some request.timestamp
  near : ((call.now - request.timestamp).natAbs : Int) ≤ maxSkew
  signed : computeSignature p secret (signedString p request.token timestamp request.nonce
    call.method call.path call.body) = signature

theorem authenticate_ok {secret : String} {maxSkew : Int} {call : Call} {request : Authentic}
    (passed : authenticate p secret maxSkew call = .ok request) :
    ∃ timestamp signature, Checked p secret maxSkew call request timestamp signature := by
  unfold authenticate at passed
  split at passed
  next token timestamp nonce signature hasToken hasTimestamp hasNonce hasSignature =>
    split at passed
    · cases passed
    split at passed
    · cases passed
    next ts parsed =>
      split at passed
      · cases passed
      next near =>
        split at passed
        · cases passed
        · cases passed
        next same =>
          cases passed
          exact ⟨timestamp, signature, hasToken, hasTimestamp, hasNonce, hasSignature, parsed,
            not_lt.1 near, compareDigest_true same⟩
  next => cases passed

theorem authenticate_error_refuses {secret : String} {maxSkew : Int} {call : Call}
    {verdict : Verdict} (failed : authenticate p secret maxSkew call = .error verdict) :
    verdict.accepted = false := by
  unfold authenticate at failed
  split at failed
  · split at failed
    · cases failed; rfl
    split at failed
    · cases failed; rfl
    split at failed
    · cases failed; rfl
    split at failed <;> cases failed <;> rfl
  · cases failed; rfl

end Scheme

end Fleet.HmacAuth
