import Fleet.Shared.Keyed
import Fleet.Shared.PyInt

set_option autoImplicit false

namespace Fleet.RateLimit

structure Settings where
  maxAttempts : Nat := 5
  windowSeconds : Nat := 300
  lockoutSeconds : Nat := 300

structure Entry where
  key : String
  fails : List Nat
  lockedUntil : Nat

-- The first forwarded address if there is one, else the peer of the socket.
def keyFor (forwarded : String) (peer : Option String) (identifier : String) : String :=
  let ip :=
    if forwarded ≠ "" then
      String.ofList (PyInt.strip (forwarded.toList.takeWhile fun c => c ≠ ','))
    else peer.getD "?"
  identifier ++ ":" ++ ip

-- The seconds that remain of a lockout.
def blocked (entries : List Entry) (key : String) (now : Nat) : Nat :=
  match Keyed.lookup Entry.key key entries with
  | none => 0
  | some entry => entry.lockedUntil - now

def recordFailure (settings : Settings) (entries : List Entry) (key : String) (now : Nat) :
    List Entry :=
  let (fails, lockedUntil) := match Keyed.lookup Entry.key key entries with
    | none => ([], 0)
    | some entry => (entry.fails, entry.lockedUntil)
  let recent := (fails.filter fun t => now - t < settings.windowSeconds) ++ [now]
  let entry : Entry :=
    if settings.maxAttempts ≤ recent.length then ⟨key, [], now + settings.lockoutSeconds⟩
    else ⟨key, recent, lockedUntil⟩
  Keyed.upsert Entry.key entry entries

def reset (entries : List Entry) (key : String) : List Entry :=
  entries.filter fun entry => entry.key ≠ key

end Fleet.RateLimit
