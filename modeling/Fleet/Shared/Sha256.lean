import Mathlib.Data.List.Basic
import Mathlib.Data.String.Basic
import Mathlib.Tactic.IntervalCases

set_option autoImplicit false

namespace Fleet.Sha256

abbrev Word := Nat

def add (a b : Word) : Word := (a + b) % 2 ^ 32

def rotr (n : Nat) (a : Word) : Word := (a >>> n) ||| (a <<< (32 - n)) % 2 ^ 32

def roundConstants : List Word := [
  0x428a2f98, 0x71374491, 0xb5c0fbcf, 0xe9b5dba5, 0x3956c25b, 0x59f111f1, 0x923f82a4, 0xab1c5ed5,
  0xd807aa98, 0x12835b01, 0x243185be, 0x550c7dc3, 0x72be5d74, 0x80deb1fe, 0x9bdc06a7, 0xc19bf174,
  0xe49b69c1, 0xefbe4786, 0x0fc19dc6, 0x240ca1cc, 0x2de92c6f, 0x4a7484aa, 0x5cb0a9dc, 0x76f988da,
  0x983e5152, 0xa831c66d, 0xb00327c8, 0xbf597fc7, 0xc6e00bf3, 0xd5a79147, 0x06ca6351, 0x14292967,
  0x27b70a85, 0x2e1b2138, 0x4d2c6dfc, 0x53380d13, 0x650a7354, 0x766a0abb, 0x81c2c92e, 0x92722c85,
  0xa2bfe8a1, 0xa81a664b, 0xc24b8b70, 0xc76c51a3, 0xd192e819, 0xd6990624, 0xf40e3585, 0x106aa070,
  0x19a4c116, 0x1e376c08, 0x2748774c, 0x34b0bcb5, 0x391c0cb3, 0x4ed8aa4a, 0x5b9cca4f, 0x682e6ff3,
  0x748f82ee, 0x78a5636f, 0x84c87814, 0x8cc70208, 0x90befffa, 0xa4506ceb, 0xbef9a3f7, 0xc67178f2]

structure Chaining where
  a : Word
  b : Word
  c : Word
  d : Word
  e : Word
  f : Word
  g : Word
  h : Word

def start : Chaining :=
  ⟨0x6a09e667, 0xbb67ae85, 0x3c6ef372, 0xa54ff53a, 0x510e527f, 0x9b05688c, 0x1f83d9ab, 0x5be0cd19⟩

-- The message schedule is kept newest word first, so each new word reads fixed positions.
def nextWord : List Word → Word
  | recent =>
      let w15 := recent.getD 14 0
      let w2 := recent.getD 1 0
      let s0 := rotr 7 w15 ^^^ rotr 18 w15 ^^^ (w15 >>> 3)
      let s1 := rotr 17 w2 ^^^ rotr 19 w2 ^^^ (w2 >>> 10)
      (recent.getD 15 0 + s0 + recent.getD 6 0 + s1) % 2 ^ 32

def expand : Nat → List Word → List Word
  | 0, recent => recent.reverse
  | n + 1, recent => expand n (nextWord recent :: recent)

def round (s : Chaining) (k w : Word) : Chaining :=
  let s1 := rotr 6 s.e ^^^ rotr 11 s.e ^^^ rotr 25 s.e
  let ch := (s.e &&& s.f) ^^^ ((2 ^ 32 - 1 - s.e) &&& s.g)
  let t1 := (s.h + s1 + ch + k + w) % 2 ^ 32
  let s0 := rotr 2 s.a ^^^ rotr 13 s.a ^^^ rotr 22 s.a
  let maj := (s.a &&& s.b) ^^^ (s.a &&& s.c) ^^^ (s.b &&& s.c)
  ⟨add t1 ((s0 + maj) % 2 ^ 32), s.a, s.b, s.c, add s.d t1, s.e, s.f, s.g⟩

def compress (s : Chaining) (block : List Word) : Chaining :=
  let t := (List.zip roundConstants (expand 48 block.reverse)).foldl
    (fun s kw => round s kw.1 kw.2) s
  ⟨add s.a t.a, add s.b t.b, add s.c t.c, add s.d t.d,
    add s.e t.e, add s.f t.f, add s.g t.g, add s.h t.h⟩

def word (bytes : List Nat) : Word := bytes.foldl (fun n b => n * 256 + b) 0

def bigEndian (width n : Nat) : List Nat :=
  ((List.range width).map fun i => n / 256 ^ i % 256).reverse

def padding (length : Nat) : List Nat :=
  0x80 :: List.replicate ((119 - length % 64) % 64) 0 ++ bigEndian 8 (length * 8)

def chunks (size : Nat) : Nat → List Nat → List (List Nat)
  | 0, _ => []
  | n + 1, bytes => bytes.take size :: chunks size n (bytes.drop size)

def digest (message : List Nat) : List Nat :=
  let padded := message ++ padding message.length
  let final := (chunks 64 (padded.length / 64) padded).foldl
    (fun s block => compress s ((chunks 4 16 block).map word)) start
  [final.a, final.b, final.c, final.d, final.e, final.f, final.g, final.h].flatMap (bigEndian 4)

def hexdigest (message : ByteArray) : String :=
  String.ofList <| (digest (message.data.toList.map UInt8.toNat)).flatMap fun b =>
    [Nat.digitChar (b / 16), Nat.digitChar (b % 16)]

def hexDigits : List Char := "0123456789abcdef".toList

theorem digitChar_hex {n : Nat} (small : n < 16) : Nat.digitChar n ∈ hexDigits := by
  interval_cases n <;> decide

theorem mem_digest_lt {message : List Nat} {b : Nat} (byte : b ∈ digest message) : b < 256 := by
  simp only [digest, List.mem_flatMap, bigEndian, List.mem_reverse, List.mem_map] at byte
  obtain ⟨_, -, i, -, rfl⟩ := byte
  exact Nat.mod_lt _ (by decide)

theorem hexdigest_hex (message : ByteArray) :
    ∀ c ∈ (hexdigest message).toList, c ∈ hexDigits := by
  intro c present
  simp only [hexdigest, String.toList_ofList, List.mem_flatMap] at present
  obtain ⟨b, byte, nibble⟩ := present
  have := mem_digest_lt byte
  rcases List.mem_pair.1 nibble with rfl | rfl <;> exact digitChar_hex (by omega)

def hmac (key message : List Nat) : List Nat :=
  let short := if 64 < key.length then digest key else key
  let block := short ++ List.replicate (64 - short.length) 0
  digest (block.map (· ^^^ 0x5c) ++ digest (block.map (· ^^^ 0x36) ++ message))

def base64Alphabet : List Char :=
  "ABCDEFGHIJKLMNOPQRSTUVWXYZabcdefghijklmnopqrstuvwxyz0123456789+/".toList

def base64Digit (n : Nat) : Char := base64Alphabet.getD n '='

def b64encode : List Nat → List Char
  | a :: b :: c :: rest =>
      base64Digit (a / 4) :: base64Digit (a % 4 * 16 + b / 16) ::
        base64Digit (b % 16 * 4 + c / 64) :: base64Digit (c % 64) :: b64encode rest
  | [a, b] => [base64Digit (a / 4), base64Digit (a % 4 * 16 + b / 16), base64Digit (b % 16 * 4), '=']
  | [a] => [base64Digit (a / 4), base64Digit (a % 4 * 16), '=', '=']
  | [] => []

/-- `base64.b64encode(hmac.new(key, message, sha256).digest()).decode("ascii")`. -/
def hmacBase64 (key message : String) : String :=
  String.ofList <| b64encode <|
    hmac (key.toUTF8.data.toList.map UInt8.toNat) (message.toUTF8.data.toList.map UInt8.toNat)

set_option maxRecDepth 20000 in
example : hexdigest "abc".toUTF8 =
    "ba7816bf8f01cfea414140de5dae2223b00361a396177a9cb410ff61f20015ad" := by decide +kernel

set_option maxRecDepth 20000 in
example : hmacBase64 "key" "The quick brown fox jumps over the lazy dog" =
    "97yD9DBThCSxMpjmqm+xQ+9NWaFJRhdZl0edvC0aPNg=" := by decide +kernel

theorem base64Digit_ascii (n : Nat) : (base64Digit n).toNat < 128 := by
  have known : ∀ c ∈ '=' :: base64Alphabet, c.toNat < 128 :=
    List.forall_iff_forall_mem.1 (by decide)
  apply known
  rw [base64Digit, List.getD_eq_getElem?_getD]
  rcases found : base64Alphabet[n]? with _ | c
  · exact List.mem_cons_self
  · exact List.mem_cons_of_mem _ (List.mem_of_getElem? found)

theorem b64encode_ascii (bytes : List Nat) : ∀ c ∈ b64encode bytes, c.toNat < 128 := by
  induction bytes using b64encode.induct with
  | case1 a b c rest ih =>
      simp only [b64encode, List.forall_mem_cons]
      exact ⟨base64Digit_ascii _, base64Digit_ascii _, base64Digit_ascii _, base64Digit_ascii _, ih⟩
  | case2 a b => simp [b64encode, base64Digit_ascii]
  | case3 a => simp [b64encode, base64Digit_ascii]
  | case4 => simp [b64encode]

theorem hmacBase64_ascii (key message : String) :
    ∀ c ∈ (hmacBase64 key message).toList, c.toNat < 128 := by
  rw [hmacBase64, String.toList_ofList]
  exact b64encode_ascii _

theorem digest_length (message : List Nat) : (digest message).length = 32 := by
  simp [digest, bigEndian]

theorem hmacBase64_nonempty (key message : String) : hmacBase64 key message ≠ "" := by
  have long : (hmac (key.toUTF8.data.toList.map UInt8.toNat)
      (message.toUTF8.data.toList.map UInt8.toNat)).length = 32 := digest_length _
  rw [hmacBase64, ← String.toList_inj.ne, String.toList_ofList]
  generalize hmac _ _ = bytes at long ⊢
  rcases bytes with _ | ⟨a, _ | ⟨b, _ | ⟨c, rest⟩⟩⟩
  · cases long
  all_goals simp [b64encode]

end Fleet.Sha256
