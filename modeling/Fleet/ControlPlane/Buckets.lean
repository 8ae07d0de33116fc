import Fleet.ControlPlane.Throttle
import Fleet.Shared.Delimited

set_option autoImplicit false

namespace Fleet.Buckets

open RateLimit Lockout Execution Throttle

inductive Flow where
  | login
  | mfaVerify
  deriving DecidableEq

-- Where an attempt comes from, as far as the limiter looks at it.
structure Source where
  flow : Flow
  username : String
  forwarded : String := ""
  peer : Option String := none
  deriving DecidableEq

namespace Source

variable (source : Source)

def identifier : String :=
  match source.flow with
  | .login => source.username
  | .mfaVerify => "mfa:" ++ source.username

def address : String :=
  if source.forwarded ≠ "" then
    String.ofList (PyInt.strip (source.forwarded.toList.takeWhile fun c => c ≠ ','))
  else source.peer.getD "?"

def triple : Flow × String × String := (source.flow, source.username, source.address)

def key : String := keyFor source.forwarded source.peer source.identifier

end Source

theorem login_source (primitives : Auth.Primitives) (settings : Auth.Settings)
    (world : Auth.World) (now : Nat) (bearer : Option Auth.Token) (forwarded : String)
    (peer : Option String) (username password : String) :
    (Auth.handle primitives settings world
        ⟨now, bearer, forwarded, peer, .login username password⟩).1.limits =
      attempt settings.rateLimit world.limits (Source.mk .login username forwarded peer).key now
        (Auth.authenticate primitives world.accounts username password).isSome :=
  login_limits primitives settings world now _ username password

theorem mfaVerify_source (primitives : Auth.Primitives) (settings : Auth.Settings)
    (world : Auth.World) (now : Nat) (bearer : Option Auth.Token) (forwarded : String)
    (peer : Option String) (code : String) {principal : Identity.Principal} {scope : Auth.Scope}
    (known : Auth.getPreauthPrincipal world now bearer = .ok (principal, scope)) :
    (Auth.handle primitives settings world
        ⟨now, bearer, forwarded, peer, .mfaVerify code⟩).1.limits =
      attempt settings.rateLimit world.limits
        (Source.mk .mfaVerify principal.username forwarded peer).key now
        (Auth.checkCode primitives world.accounts principal scope code now).toBool :=
  mfaVerify_limits primitives settings world now bearer _ code known

structure Try where
  now : Nat
  source : Source
  passed : Bool

def step (settings : Settings) (state : State) (label : Try) : Option State :=
  if label.now < state.clock then none
  else some ⟨attempt settings state.entries label.source.key label.now label.passed, label.now⟩

/-- One attempt from the first source, at any point of any run, changes no later check of the
second. -/
def Independent (settings : Settings) (first second : Source) : Prop :=
  ∀ (before after : List Try) (now later : Nat) (passed : Bool) (final other : State),
    run (step settings) start (before ++ ⟨now, first, passed⟩ :: after) = some final →
    run (step settings) start (before ++ after) = some other → final.clock ≤ later →
      blocked final.entries second.key later = blocked other.entries second.key later

/-- A login under the name the other flow's bucket has. -/
def Impersonates (first second : Source) : Prop :=
  first.flow = .login ∧ second.flow = .mfaVerify ∧ first.username = "mfa:" ++ second.username ∧
    first.address = second.address

/-- The text between the two colons ends the first identifier and starts the second address. -/
def Overlaps (first second : Source) : Prop :=
  ∃ rest, first.identifier = second.identifier ++ ":" ++ rest ∧
    second.address = rest ++ ":" ++ first.address

def Collide (first second : Source) : Prop :=
  Impersonates first second ∨ Impersonates second first ∨ Overlaps first second ∨
    Overlaps second first

theorem Source.key_eq (source : Source) :
    source.key = source.identifier ++ ":" ++ source.address := rfl

theorem toList_join (identifier address : String) :
    (identifier ++ ":" ++ address).toList = identifier.toList ++ ':' :: address.toList := by
  simp

theorem overlaps_iff (first second : Source) : Overlaps first second ↔
    ∃ rest, first.identifier.toList = second.identifier.toList ++ ':' :: rest ∧
      second.address.toList = rest ++ ':' :: first.address.toList := by
  constructor
  next =>
    rintro ⟨rest, longer, shorter⟩
    exact ⟨rest.toList, by rw [longer, toList_join], by rw [shorter, toList_join]⟩
  next =>
    rintro ⟨rest, longer, shorter⟩
    refine ⟨String.ofList rest, ?_, ?_⟩ <;> rw [← String.toList_inj, toList_join] <;>
      simpa using by assumption

-- Within one flow equal identifiers are equal usernames.
theorem same_parts_iff {first second : Source} (distinct : first.triple ≠ second.triple) :
    first.identifier = second.identifier ∧ first.address = second.address ↔
      Impersonates first second ∨ Impersonates second first := by
  simp only [Source.triple, Source.identifier, Impersonates, ne_eq, Prod.mk.injEq] at distinct ⊢
  cases one : first.flow <;> cases two : second.flow <;>
    simp only [one, two, true_and, reduceCtorEq, false_and, or_false, false_or,
      String.append_right_inj] at distinct ⊢
  · exact iff_false_intro distinct
  · rw [eq_comm, @eq_comm _ second.address]
  · exact iff_false_intro distinct

theorem key_eq_iff {first second : Source} (distinct : first.triple ≠ second.triple) :
    first.key = second.key ↔ Collide first second := by
  rw [Source.key_eq, Source.key_eq, ← String.toList_inj, toList_join, toList_join,
    Delimited.joined_eq_iff, String.toList_inj, String.toList_inj, same_parts_iff distinct,
    ← overlaps_iff, ← overlaps_iff, or_assoc, Collide]

section Runs

variable {settings : Settings} {state other next final : State}

theorem step_eq_some {label : Try} :
    step settings state label = some next ↔
      state.clock ≤ label.now ∧
        next = ⟨attempt settings state.entries label.source.key label.now label.passed,
          label.now⟩ := by
  unfold step
  split
  next early => simp [Nat.not_le.2 early]
  next late => simp [Nat.not_lt.1 late, eq_comm]

theorem bucketOf_attempt_other (settings : Settings) (entries : List Entry) {own key : String}
    (different : own ≠ key) (now : Nat) (passed : Bool) :
    bucketOf (attempt settings entries own now passed) key = bucketOf entries key := by
  unfold attempt
  split
  · rfl
  · split
    · rw [bucketOf_reset, if_neg different]
    · exact bucketOf_recordFailure_other settings entries different now

-- An attempt sees of the dictionary no more than its own bucket.
theorem bucketOf_attempt_congr {entries others : List Entry} {key : String}
    (same : bucketOf entries key = bucketOf others key) (own : String) (now : Nat) (passed : Bool) :
    bucketOf (attempt settings entries own now passed) key =
      bucketOf (attempt settings others own now passed) key := by
  by_cases mine : own = key
  · subst mine
    have wait : blocked entries own now = blocked others own now := by
      rw [blocked_eq, blocked_eq, same]
    unfold attempt
    rw [wait]
    split
    · exact same
    · split
      · rw [bucketOf_reset, bucketOf_reset, if_pos rfl, if_pos rfl]
      · rw [bucketOf_recordFailure_self, bucketOf_recordFailure_self, same]
  · rw [bucketOf_attempt_other settings _ mine, bucketOf_attempt_other settings _ mine, same]

theorem run_agree {key : String} {labels : List Try}
    (same : bucketOf state.entries key = bucketOf other.entries key)
    (reached : run (step settings) state labels = some final)
    (ended : run (step settings) other labels = some next) :
    bucketOf final.entries key = bucketOf next.entries key := by
  induction labels generalizing state other with
  | nil =>
      obtain rfl := Option.some.inj reached
      obtain rfl := Option.some.inj ended
      exact same
  | cons label rest ih =>
      obtain ⟨left, leftTaken, leftTail⟩ := (run_cons_eq_some _ _ _ _ _).1 reached
      obtain ⟨right, rightTaken, rightTail⟩ := (run_cons_eq_some _ _ _ _ _).1 ended
      obtain ⟨-, rfl⟩ := step_eq_some.1 leftTaken
      obtain ⟨-, rfl⟩ := step_eq_some.1 rightTaken
      exact ih (bucketOf_attempt_congr same _ _ _) leftTail rightTail

theorem independent_of_keys (settings : Settings) {first second : Source}
    (different : first.key ≠ second.key) : Independent settings first second := by
  intro before after now later passed final other reached ended _
  obtain ⟨middle, early, late⟩ := (run_append_eq_some _ _ _ _ _).1 reached
  obtain ⟨middle', early', late'⟩ := (run_append_eq_some _ _ _ _ _).1 ended
  obtain rfl := Option.some.inj (early.symm.trans early')
  obtain ⟨next, taken, tail⟩ := (run_cons_eq_some _ _ _ _ _).1 late
  obtain ⟨-, rfl⟩ := step_eq_some.1 taken
  have frame := bucketOf_attempt_other settings middle.entries different now passed
  rw [blocked_eq, blocked_eq, run_agree frame tail late']

-- Failures at one time, one short of the limit at most.
theorem run_failing (settings : Settings) (source : Source) (window : 0 < settings.windowSeconds) {k : Nat}
    (few : k ≤ settings.maxAttempts - 1) :
    ∃ final, run (step settings) start (List.replicate k ⟨0, source, false⟩) = some final ∧
      final.clock = 0 ∧ bucketOf final.entries source.key = ⟨List.replicate k 0, 0⟩ := by
  induction k with
  | zero => exact ⟨start, rfl, rfl, rfl⟩
  | succ k ih =>
      obtain ⟨before, reached, clock, bucket⟩ := ih (by omega)
      refine ⟨⟨attempt settings before.entries source.key 0 false, 0⟩, ?_, rfl, ?_⟩
      · rw [List.replicate_succ', run_append_eq_some]
        exact ⟨before, reached, by simp [run, step, clock]⟩
      · have opened : blocked before.entries source.key 0 = 0 := by simp [blocked_eq, bucket]
        have short : ¬ settings.maxAttempts ≤ k + 1 := by omega
        simp only [attempt, opened, ne_eq, not_true_eq_false, if_false, Bool.false_eq_true]
        rw [bucketOf_recordFailure_self, bucket, recorded]
        simp [window, short, List.replicate_succ']

theorem dependent_of_keys (settings : Settings) {first second : Source} (window : 0 < settings.windowSeconds)
    (lockout : 0 < settings.lockoutSeconds) (same : first.key = second.key) :
    ¬ Independent settings first second := by
  intro independent
  obtain ⟨before, reached, clock, bucket⟩ :=
    run_failing settings second window (le_refl (settings.maxAttempts - 1))
  have attempted : run (step settings) start
      (List.replicate (settings.maxAttempts - 1) ⟨0, second, false⟩ ++ [⟨0, first, false⟩]) =
        some ⟨attempt settings before.entries first.key 0 false, 0⟩ := by
    rw [run_append_eq_some]
    exact ⟨before, reached, by simp [run, step, clock]⟩
  have checks := independent _ [] 0 0 false _ before attempted (by simpa using reached) (le_refl 0)
  have opened : blocked before.entries second.key 0 = 0 := by simp [blocked_eq, bucket]
  have full : settings.maxAttempts ≤ settings.maxAttempts - 1 + 1 := by omega
  simp only [attempt, same, opened, ne_eq, not_true_eq_false, if_false, Bool.false_eq_true]
    at checks
  rw [blocked_eq, bucketOf_recordFailure_self, bucket, recorded] at checks
  simp [window, full] at checks
  omega

end Runs

theorem independent_iff (first second : Source) (distinct : first.triple ≠ second.triple) :
    (∀ settings, Independent settings first second) ↔ ¬ Collide first second := by
  rw [← key_eq_iff distinct]
  constructor
  next =>
    intro independent same
    exact dependent_of_keys {} (by decide) (by decide) same (independent {})
  next =>
    intro different settings
    exact independent_of_keys settings different

def rootCode : Source := ⟨.mfaVerify, "root", "10.0.0.7", none⟩

def poser : Source := ⟨.login, "mfa:root", "10.0.0.7", none⟩

def root : Source := ⟨.login, "root", "x:10.0.0.7", none⟩

def colon : Source := ⟨.login, "root:x", "10.0.0.7", none⟩

theorem colliding_dependent :
    (poser.triple ≠ rootCode.triple ∧ ¬ Independent {} poser rootCode) ∧
      colon.triple ≠ root.triple ∧ ¬ Independent {} colon root :=
  ⟨⟨by decide +kernel, dependent_of_keys {} (by decide) (by decide) (by decide +kernel)⟩,
    by decide +kernel, dependent_of_keys {} (by decide) (by decide) (by decide +kernel)⟩

theorem colon_apart : Independent {} colon rootCode :=
  (independent_iff colon rootCode (by decide +kernel)).2
    (mt (key_eq_iff (by decide +kernel)).2 (by decide +kernel)) {}

end Fleet.Buckets
