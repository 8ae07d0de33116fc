import Mathlib.Data.Fintype.Basic
import Fleet.Shared.Execution
import Fleet.Shared.Threads
import Fleet.Shim.HmacAuth

set_option autoImplicit false

namespace Fleet.ThreadedNonces

open HmacAuth Execution Threads

inductive Stage where
  | waiting
  | checked (request : Authentic)
  | unseen (request : Authentic)
  | added
  | handled
  | refused
  deriving DecidableEq

inductive Action where
  | check (now : Int)
  | seen
  | add
  | handle

-- Between the test of the nonce and its insertion, past the test, and past the insertion.
def Stage.between : Stage → Bool
  | .unseen _ => true
  | _ => false

def Stage.passed : Stage → Bool
  | .unseen _ | .added | .handled => true
  | _ => false

def Stage.stored : Stage → Bool
  | .added | .handled => true
  | _ => false

def Stage.request? : Stage → Option Authentic
  | .checked request | .unseen request => some request
  | _ => none

section Steps

variable {Thread : Type} [DecidableEq Thread]

structure State (Thread : Type) where
  nonces : NonceCache
  threads : Thread → Stage

def start (Thread : Type) (nonces : NonceCache) : State Thread := ⟨nonces, fun _ => .waiting⟩

def State.set (state : State Thread) (t : Thread) (stage : Stage) : State Thread :=
  { state with threads := Function.update state.threads t stage }

def State.add (state : State Thread) (t : Thread) (request : Authentic) : State Thread :=
  { state.set t .added with nonces := state.nonces.add request.nonce request.timestamp }

variable (p : Primitives) (token secret : String) (maxSkew : Int) (call : Call)

-- The wrapper compares the token, then `verify_request` does all it does before the cache.
def passCheck (now : Int) : Stage :=
  if lookup p call.headers hToken = some token then
    match authenticate p secret maxSkew { call with now := now } with
    | .ok request => .checked request
    | .error _ => .refused
  else .refused

def testNonce (nonces : NonceCache) (request : Authentic) : Stage :=
  if nonces.seen request.nonce then .refused else .unseen request

-- Every thread handles a copy of the one call.
def step (state : State Thread) (label : Thread × Action) : Option (State Thread) :=
  match label.2, state.threads label.1 with
  | .check now, .waiting => some (state.set label.1 (passCheck p token secret maxSkew call now))
  | .seen, .checked request => some (state.set label.1 (testNonce state.nonces request))
  | .add, .unseen request => some (state.add label.1 request)
  | .handle, .added => some (state.set label.1 .handled)
  | _, _ => none

def HandledOnce (state : State Thread) : Prop :=
  AtMostOne (fun stage => stage = .handled) state.threads

def SingleUse (Thread : Type) [DecidableEq Thread] : Prop :=
  ∀ (nonces : NonceCache) (labels : List (Thread × Action)) (final : State Thread),
    run (step p token secret maxSkew call) (start Thread nonces) labels = some final →
      HandledOnce final

/-- No other thread is between its test of the nonce and its insertion. -/
def Exclusive (state : State Thread) (label : Thread × Action) : Prop :=
  match label.2 with
  | .seen => ∀ t, t ≠ label.1 → (state.threads t).between = false
  | _ => True

structure Guarded (state : State Thread) : Prop where
  one : AtMostOne (fun stage => stage.passed = true) state.threads
  known : ∀ t, ∀ request ∈ (state.threads t).request?,
    lookup p call.headers hNonce = some request.nonce
  stored : ∀ t, (state.threads t).stored = true →
    ∃ nonce, lookup p call.headers hNonce = some nonce ∧ state.nonces.seen nonce = true

variable {p token secret maxSkew call}

omit [DecidableEq Thread] in
theorem start_guarded (nonces : NonceCache) : Guarded p call (start Thread nonces) where
  one := by simp [AtMostOne, start, Stage.passed]
  known := by simp [start, Stage.request?]
  stored := by simp [start, Stage.stored]

-- The steps of a thread nobody interrupts are the steps of `verify_request`.
theorem uninterrupted (nonces : NonceCache) (t : Thread) (now : Int)
    (resolved : lookup p call.headers hToken = some token) :
    (verifyRequest p secret maxSkew (some nonces) { call with now := now }).1.accepted = true ↔
      ∃ final, run (step p token secret maxSkew call) (start Thread nonces)
          [(t, .check now), (t, .seen), (t, .add)] = some final ∧
        some final.nonces =
          (verifyRequest p secret maxSkew (some nonces) { call with now := now }).2 := by
  cases checked : authenticate p secret maxSkew { call with now := now } with
  | error verdict =>
      simp [verifyRequest, checked, authenticate_error_refuses checked, run, step, start, passCheck,
        resolved, State.set]
  | ok request =>
      cases known : nonces.seen request.nonce <;>
        simp [verifyRequest, checked, known, run, step, start, passCheck, resolved, State.set,
          testNonce, State.add, Verdict.accepted, refuse]

theorem step_cases {state next : State Thread} {t : Thread} {action : Action}
    (taken : step p token secret maxSkew call state (t, action) = some next) :
    (∃ now, action = .check now ∧ state.threads t = .waiting ∧
        next = state.set t (passCheck p token secret maxSkew call now)) ∨
      (∃ request, action = .seen ∧ state.threads t = .checked request ∧
        next = state.set t (testNonce state.nonces request)) ∨
      (∃ request, action = .add ∧ state.threads t = .unseen request ∧ next = state.add t request) ∨
      (action = .handle ∧ state.threads t = .added ∧ next = state.set t .handled) := by
  cases action <;> cases stage : state.threads t <;>
    simp only [step, stage, Option.some.injEq, reduceCtorEq] at taken <;> subst taken <;> simp

theorem passCheck_known {now : Int} :
    ∀ request ∈ (passCheck p token secret maxSkew call now).request?,
      lookup p call.headers hNonce = some request.nonce := by
  intro request found
  unfold passCheck at found
  split at found
  · split at found
    next admitted passed =>
      obtain ⟨timestamp, signature, checked⟩ := authenticate_ok passed
      obtain rfl : admitted = request := by simpa [Stage.request?] using found
      exact checked.hasNonce
    next => simp [Stage.request?] at found
  · simp [Stage.request?] at found

theorem passCheck_outside (p : Primitives) (token secret : String) (maxSkew : Int) (call : Call)
    (now : Int) :
    (passCheck p token secret maxSkew call now).passed = false ∧
      (passCheck p token secret maxSkew call now).stored = false := by
  unfold passCheck
  split
  · split <;> exact ⟨rfl, rfl⟩
  · exact ⟨rfl, rfl⟩

theorem Guarded.set {state : State Thread} (guarded : Guarded p call state) (t : Thread) {stage : Stage}
    (one : AtMostOne (fun stage => stage.passed = true) (Function.update state.threads t stage))
    (known : ∀ request ∈ stage.request?, lookup p call.headers hNonce = some request.nonce)
    (stored : stage.stored = true →
      ∃ nonce, lookup p call.headers hNonce = some nonce ∧ state.nonces.seen nonce = true) :
    Guarded p call (state.set t stage) := by
  refine ⟨one, fun u => ?_, fun u => ?_⟩ <;> by_cases same : u = t
  · simpa [State.set, same] using known
  · simpa [State.set, same] using guarded.known u
  · simpa [State.set, same] using stored
  · simpa [State.set, same] using guarded.stored u

theorem Guarded.check {state : State Thread} (guarded : Guarded p call state) (t : Thread) (now : Int) :
    Guarded p call (state.set t (passCheck p token secret maxSkew call now)) := by
  have outside := passCheck_outside p token secret maxSkew call now
  apply guarded.set t
  · exact guarded.one.stay t (by simp [outside.1])
  · exact passCheck_known
  · simp [outside.2]

theorem Guarded.seen {state : State Thread} (guarded : Guarded p call state) {t : Thread}
    {request : Authentic} (checked : state.threads t = .checked request)
    (exclusive : Exclusive state (t, .seen)) :
    Guarded p call (state.set t (testNonce state.nonces request)) := by
  have nonce := guarded.known t request (by simp [checked, Stage.request?])
  cases used : state.nonces.seen request.nonce with
  | true =>
      apply guarded.set t
      · exact guarded.one.stay t (by simp [testNonce, used, Stage.passed])
      · simp [testNonce, used, Stage.request?]
      · simp [testNonce, used, Stage.stored]
  | false =>
      -- A thread past its insertion would have left the nonce in the cache.
      have empty : ∀ u, u ≠ t → ¬ (state.threads u).passed = true := by
        intro u different passed
        cases stage : state.threads u with
        | unseen other => simpa [stage, Stage.between] using exclusive u different
        | added | handled =>
            obtain ⟨stored, presented, seen⟩ := guarded.stored u (by simp [stage, Stage.stored])
            obtain rfl := Option.some.inj (nonce.symm.trans presented)
            simp [used] at seen
        | waiting | checked _ | refused => simp [stage, Stage.passed] at passed
      apply guarded.set t
      · exact AtMostOne.enter empty _
      · simpa [testNonce, used, Stage.request?] using nonce
      · simp [testNonce, used, Stage.stored]

theorem Guarded.add {state : State Thread} (guarded : Guarded p call state) {t : Thread}
    {request : Authentic} (unseen : state.threads t = .unseen request) :
    Guarded p call (state.add t request) := by
  have nonce := guarded.known t request (by simp [unseen, Stage.request?])
  refine ⟨guarded.one.stay t (by simp [unseen, Stage.passed]), fun u => ?_, fun u _ => ?_⟩
  · by_cases same : u = t
    · simp [State.add, State.set, same, Stage.request?]
    · simpa [State.add, State.set, same] using guarded.known u
  · exact ⟨request.nonce, nonce, NonceCache.seen_add _ _ _⟩

theorem Guarded.handle {state : State Thread} (guarded : Guarded p call state) {t : Thread}
    (added : state.threads t = .added) : Guarded p call (state.set t .handled) := by
  apply guarded.set t
  · exact guarded.one.stay t (by simp [added, Stage.passed])
  · simp [Stage.request?]
  · exact fun _ => guarded.stored t (by simp [added, Stage.stored])

theorem guarded_step (state : State Thread) (label : Thread × Action) (next : State Thread)
    (guarded : Guarded p call state) (exclusive : Exclusive state label)
    (taken : step p token secret maxSkew call state label = some next) : Guarded p call next := by
  obtain ⟨t, action⟩ := label
  rcases step_cases taken with
    ⟨now, rfl, -, rfl⟩ | ⟨request, rfl, checked, rfl⟩ | ⟨request, rfl, unseen, rfl⟩ |
      ⟨rfl, added, rfl⟩
  · exact guarded.check t now
  · exact guarded.seen checked exclusive
  · exact guarded.add unseen
  · exact guarded.handle added

omit [DecidableEq Thread] in
theorem Guarded.handledOnce {state : State Thread} (guarded : Guarded p call state) :
    HandledOnce state := by
  intro t u first second
  exact guarded.one t u (by simp [first, Stage.passed]) (by simp [second, Stage.passed])

theorem handledOnce_of_exclusive (p : Primitives) (token secret : String) (maxSkew : Int)
    (call : Call) (nonces : NonceCache) (labels : List (Thread × Action)) (final : State Thread)
    (exclusive : Along Exclusive (step p token secret maxSkew call) (start Thread nonces) labels)
    (reached : run (step p token secret maxSkew call) (start Thread nonces) labels = some final) :
    HandledOnce final :=
  (run_invariant (Guarded p call) guarded_step (start_guarded nonces) exclusive
    reached).handledOnce

end Steps

section Schedules

instance {Thread : Type} [DecidableEq Thread] [Fintype Thread] :
    (state : State Thread) → (label : Thread × Action) → Decidable (Exclusive state label)
  | state, (t, .seen) =>
      inferInstanceAs (Decidable (∀ u, u ≠ t → (state.threads u).between = false))
  | _, (_, .check _) => .isTrue trivial
  | _, (_, .add) => .isTrue trivial
  | _, (_, .handle) => .isTrue trivial

def delete : Call :=
  { method := "DELETE", path := "/v1/users/u1", body := .empty, now := 0
    headers := signRequest standard "t" "s" "DELETE" "/v1/users/u1" .empty (some 1000) (some "A") 0
      [] }

-- Both threads test the nonce before either inserts it.
def overlapped : List (Fin 2 × Action) := [
  (0, .check 1001), (1, .check 1001), (0, .seen), (1, .seen), (0, .add), (1, .add), (0, .handle),
  (1, .handle)]

def queued : List (Fin 2 × Action) := [
  (0, .check 1001), (1, .check 1001), (0, .seen), (0, .add), (1, .seen), (0, .handle)]

def stages (labels : List (Fin 2 × Action)) : Option (Stage × Stage) :=
  (run (step standard "t" "s" 300 delete) (start (Fin 2) (.create 600)) labels).map fun final =>
    (final.threads 0, final.threads 1)

set_option maxRecDepth 20000 in
theorem delete_checked :
    passCheck standard "t" "s" 300 delete 1001 = .checked ⟨"t", "A", 1000⟩ := by decide +kernel

-- Both threads have checked the call: the signature is computed once, above.
def bothChecked : State (Fin 2) := ⟨.create 600, fun _ => .checked ⟨"t", "A", 1000⟩⟩

theorem checked_start :
    ((start (Fin 2) (.create 600)).set 0 (.checked ⟨"t", "A", 1000⟩)).set 1
      (.checked ⟨"t", "A", 1000⟩) = bothChecked := by
  simp only [State.set, start, bothChecked, State.mk.injEq, true_and]
  exact funext (Fin.forall_fin_two.2 ⟨rfl, rfl⟩)

theorem run_checked (labels : List (Fin 2 × Action)) :
    run (step standard "t" "s" 300 delete) (start (Fin 2) (.create 600))
        ((0, .check 1001) :: (1, .check 1001) :: labels) =
      run (step standard "t" "s" 300 delete) bothChecked labels := by
  rw [← checked_start, ← delete_checked]
  rfl

theorem along_checked (labels : List (Fin 2 × Action)) :
    Along Exclusive (step standard "t" "s" 300 delete) (start (Fin 2) (.create 600))
        ((0, .check 1001) :: (1, .check 1001) :: labels) ↔
      Along Exclusive (step standard "t" "s" 300 delete) bothChecked labels := by
  rw [← checked_start, ← delete_checked]
  exact ⟨fun along => along.2.2, fun along => ⟨trivial, trivial, along⟩⟩

theorem overlapped_stages : stages overlapped = some (.handled, .handled) := by
  rw [stages, overlapped, run_checked]
  decide +kernel

theorem overlapped_handles_twice : ¬ SingleUse standard "t" "s" 300 delete (Fin 2) := by
  intro single
  obtain ⟨final, reached, both⟩ := Option.map_eq_some_iff.1 overlapped_stages
  obtain ⟨first, second⟩ := Prod.mk.inj both
  have same := single (.create 600) overlapped final reached 0 1 first second
  cases same

theorem queued_stages : stages queued = some (.handled, .refused) := by
  rw [stages, queued, run_checked]
  decide +kernel

theorem queued_exclusive :
    Along Exclusive (step standard "t" "s" 300 delete) (start (Fin 2) (.create 600)) queued := by
  rw [queued, along_checked]
  decide +kernel

theorem queued_handles_once :
    ∃ final, run (step standard "t" "s" 300 delete) (start (Fin 2) (.create 600)) queued =
        some final ∧ final.threads 0 = .handled ∧ HandledOnce final := by
  obtain ⟨final, reached, both⟩ := Option.map_eq_some_iff.1 queued_stages
  exact ⟨final, reached, (Prod.mk.inj both).1, handledOnce_of_exclusive standard "t" "s" 300 delete
    (.create 600) queued final queued_exclusive reached⟩

end Schedules

end Fleet.ThreadedNonces
