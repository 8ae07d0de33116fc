import Fleet.ControlPlane.Auth
import Fleet.Shared.Execution
import Fleet.Shared.Lockout

set_option autoImplicit false

namespace Fleet.Throttle

open RateLimit Lockout Execution

def policy (settings : Settings) : Policy Nat :=
  ⟨settings.maxAttempts, settings.windowSeconds, settings.lockoutSeconds⟩

@[simp]
theorem policy_attempts (settings : Settings) :
    (policy settings).attempts = settings.maxAttempts := rfl

@[simp]
theorem policy_window (settings : Settings) :
    (policy settings).window = settings.windowSeconds := rfl

@[simp]
theorem policy_lockout (settings : Settings) :
    (policy settings).lockout = settings.lockoutSeconds := rfl

-- What the dictionary holds for a key, an absent key included.
def bucketOf (entries : List Entry) (key : String) : Bucket Nat :=
  match Keyed.lookup Entry.key key entries with
  | none => ⟨[], 0⟩
  | some entry => ⟨entry.fails, entry.lockedUntil⟩

theorem blocked_eq (entries : List Entry) (key : String) (now : Nat) :
    blocked entries key now = (bucketOf entries key).lockedUntil - now := by
  unfold blocked bucketOf
  cases Keyed.lookup Entry.key key entries <;> simp

theorem blocked_eq_zero {entries : List Entry} {key : String} {now : Nat} :
    blocked entries key now = 0 ↔ (bucketOf entries key).lockedUntil ≤ now := by
  rw [blocked_eq, Nat.sub_eq_zero_iff_le]

theorem bucketOf_upsert (entry : Entry) (entries : List Entry) (key : String) :
    bucketOf (Keyed.upsert Entry.key entry entries) key =
      if entry.key = key then ⟨entry.fails, entry.lockedUntil⟩ else bucketOf entries key := by
  by_cases same : entry.key = key <;> simp [bucketOf, Keyed.lookup_upsert, same]

-- `record_failure` on the one bucket it touches.
def recorded (settings : Settings) (bucket : Bucket Nat) (now : Nat) : Bucket Nat :=
  let recent := (bucket.fails.filter fun t => now - t < settings.windowSeconds) ++ [now]
  if settings.maxAttempts ≤ recent.length then ⟨[], now + settings.lockoutSeconds⟩
  else ⟨recent, bucket.lockedUntil⟩

theorem bucketOf_recordFailure_self (settings : Settings) (entries : List Entry) (key : String)
    (now : Nat) :
    bucketOf (recordFailure settings entries key now) key =
      recorded settings (bucketOf entries key) now := by
  cases found : Keyed.lookup Entry.key key entries <;>
    simp only [recordFailure, found, bucketOf_upsert] <;>
    simp only [bucketOf, found, recorded] <;> split <;> simp

theorem recorded_eq {settings : Settings} (window : 0 < settings.windowSeconds)
    (bucket : Bucket Nat) (now : Nat) :
    recorded settings bucket now = bucket.record (policy settings) now := by
  have recent : (bucket.fails.filter fun t => decide (now - t < settings.windowSeconds)) ++ [now] =
      bucket.recent (policy settings) now := by
    rw [Bucket.recent]
    congr 1
    apply List.filter_congr
    intro t _
    have aged : now - t < settings.windowSeconds ↔ now < t + settings.windowSeconds := by omega
    exact decide_eq_decide.2 aged
  simp only [recorded, recent, Bucket.record, policy_attempts, policy_lockout]
  exact if_congr Iff.rfl rfl rfl

theorem bucketOf_recordFailure_other (settings : Settings) (entries : List Entry)
    {other key : String} (different : other ≠ key) (now : Nat) :
    bucketOf (recordFailure settings entries other now) key = bucketOf entries key := by
  simp only [recordFailure]
  rw [bucketOf_upsert, if_neg]
  split <;> split <;> exact different

theorem bucketOf_recordFailure {settings : Settings} (window : 0 < settings.windowSeconds)
    (entries : List Entry) (other key : String) (now : Nat) :
    bucketOf (recordFailure settings entries other now) key =
      if other = key then (bucketOf entries key).record (policy settings) now
      else bucketOf entries key := by
  split
  next same => rw [same, bucketOf_recordFailure_self, recorded_eq window]
  next different => exact bucketOf_recordFailure_other settings entries different now

theorem bucketOf_reset (entries : List Entry) (other key : String) :
    bucketOf (reset entries other) key =
      if other = key then ⟨[], 0⟩ else bucketOf entries key := by
  have found : Keyed.lookup Entry.key key (reset entries other) =
      if other = key then none else Keyed.lookup Entry.key key entries := by
    by_cases same : other = key
    · subst same
      simp [reset, Keyed.lookup_eq_none]
    · rw [if_neg same, reset, Keyed.lookup, Keyed.lookup, List.find?_filter]
      congr 1
      funext entry
      by_cases wanted : entry.key = key <;> simp [wanted, Ne.symm same]
  unfold bucketOf
  rw [found]
  by_cases same : other = key <;> simp [same]

-- What an attempt of either flow leaves in the dictionary.
def attempt (settings : Settings) (entries : List Entry) (key : String) (now : Nat)
    (passed : Bool) : List Entry :=
  if blocked entries key now ≠ 0 then entries
  else if passed then reset entries key
  else recordFailure settings entries key now

theorem login_limits (primitives : Auth.Primitives) (settings : Auth.Settings)
    (world : Auth.World) (now : Nat) (key username password : String) :
    (Auth.login primitives settings world now key username password).1.limits =
      attempt settings.rateLimit world.limits key now
        (Auth.authenticate primitives world.accounts username password).isSome := by
  unfold Auth.login attempt
  by_cases wait : blocked world.limits key now = 0
  · cases checked : Auth.authenticate primitives world.accounts username password <;>
      simp [wait, Auth.World.log]
  · simp [wait]

theorem mfaVerify_limits (primitives : Auth.Primitives) (settings : Auth.Settings)
    (world : Auth.World) (now : Nat) (bearer : Option Auth.Token) (limiterKey : String → String)
    (code : String) {principal : Identity.Principal} {scope : Auth.Scope}
    (known : Auth.getPreauthPrincipal world now bearer = .ok (principal, scope)) :
    (Auth.mfaVerify primitives settings world now bearer limiterKey code).1.limits =
      attempt settings.rateLimit world.limits (limiterKey ("mfa:" ++ principal.username)) now
        (Auth.checkCode primitives world.accounts principal scope code now).toBool := by
  simp only [Auth.mfaVerify, known, attempt]
  by_cases wait : blocked world.limits (limiterKey ("mfa:" ++ principal.username)) now = 0
  · cases checked : Auth.checkCode primitives world.accounts principal scope code now <;>
      simp [wait, Auth.World.log, Except.toBool]
  · simp [wait]

inductive Call where
  | blocked (key : String)
  | recordFailure (key : String)
  | reset (key : String)
  deriving DecidableEq

structure State where
  entries : List Entry
  clock : Nat

def start : State := ⟨[], 0⟩

def effect (settings : Settings) (entries : List Entry) (now : Nat) : Call → List Entry
  | .blocked _ => entries
  | .recordFailure key => recordFailure settings entries key now
  | .reset key => reset entries key

-- A call with its time, in ticks of one clock that never goes back.
def step (settings : Settings) (state : State) (label : Nat × Call) : Option State :=
  if state.clock ≤ label.1 then some ⟨effect settings state.entries label.1 label.2, label.1⟩
  else none

def failures (key : String) (labels : List (Nat × Call)) : List Nat :=
  (labels.filter fun label => label.2 = .recordFailure key).map Prod.fst

theorem failures_append (key : String) (first second : List (Nat × Call)) :
    failures key (first ++ second) = failures key first ++ failures key second := by
  simp [failures]

/-- A failure of the key is recorded only when the key is open, and the key is not reset. -/
def Throttled (key : String) (state : State) : Nat × Call → Prop
  | (now, .recordFailure k) => k = key → blocked state.entries key now = 0
  | (_, .reset k) => k ≠ key
  | (_, .blocked _) => True

instance (key : String) : (state : State) → (label : Nat × Call) →
    Decidable (Throttled key state label)
  | state, (now, .recordFailure k) =>
      inferInstanceAs (Decidable (k = key → blocked state.entries key now = 0))
  | _, (_, .reset k) => inferInstanceAs (Decidable (k ≠ key))
  | _, (_, .blocked _) => .isTrue trivial

theorem step_eq_some {settings : Settings} {state next : State} {label : Nat × Call} :
    step settings state label = some next ↔
      state.clock ≤ label.1 ∧ next = ⟨effect settings state.entries label.1 label.2, label.1⟩ := by
  unfold step
  split <;> simp_all [eq_comm]

-- All that a step can do to the bucket of the key.
theorem step_bucket {settings : Settings} (window : 0 < settings.windowSeconds) {key : String}
    {state next : State} {label : Nat × Call} (throttled : Throttled key state label)
    (taken : step settings state label = some next) :
    state.clock ≤ next.clock ∧
      ((label = (next.clock, .recordFailure key) ∧ failures key [label] = [next.clock] ∧
          (bucketOf state.entries key).lockedUntil ≤ next.clock ∧
          bucketOf next.entries key =
            (bucketOf state.entries key).record (policy settings) next.clock) ∨
        (failures key [label] = [] ∧
          bucketOf next.entries key = bucketOf state.entries key)) := by
  obtain ⟨now, call⟩ := label
  obtain ⟨later, rfl⟩ := step_eq_some.1 taken
  refine ⟨later, ?_⟩
  cases call with
  | blocked k => exact .inr ⟨by simp [failures], rfl⟩
  | reset k =>
      right
      have different : k ≠ key := throttled
      exact ⟨by simp [failures], by simp [effect, bucketOf_reset, different]⟩
  | recordFailure k =>
      by_cases same : k = key
      · subst same
        left
        have unlocked := blocked_eq_zero.1 (throttled rfl)
        exact ⟨rfl, by simp [failures], unlocked,
          by simp [effect, bucketOf_recordFailure window]⟩
      · right
        exact ⟨by simp [failures, same], bucketOf_recordFailure_other settings _ same now⟩

end Fleet.Throttle
