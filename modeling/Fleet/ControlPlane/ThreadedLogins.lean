import Fleet.ControlPlane.Throttle
import Fleet.Shared.Threads

set_option autoImplicit false

namespace Fleet.ThreadedLogins

open RateLimit Lockout Execution Threads Throttle

inductive Stage where
  | waiting
  | admitted
  | evaluated
  | recorded
  | refused
  deriving DecidableEq

inductive Action where
  | check
  | evaluate
  | record
  deriving DecidableEq

-- Past the check without a recorded failure, past the recording, and past the evaluation.
def Stage.inFlight : Stage → Bool
  | .admitted | .evaluated => true
  | _ => false

def Stage.done : Stage → Bool
  | .recorded => true
  | _ => false

def Stage.guessed : Stage → Bool
  | .evaluated | .recorded => true
  | _ => false

section Steps

variable {Thread : Type} [DecidableEq Thread]

structure State (Thread : Type) where
  entries : List Entry
  clock : Nat
  threads : Thread → Stage

def start (Thread : Type) (entries : List Entry) : State Thread := ⟨entries, 0, fun _ => .waiting⟩

def State.set (state : State Thread) (now : Nat) (t : Thread) (stage : Stage) : State Thread :=
  ⟨state.entries, now, Function.update state.threads t stage⟩

def State.fail (settings : Settings) (key : String) (state : State Thread) (now : Nat)
    (t : Thread) : State Thread :=
  { state.set now t .recorded with entries := recordFailure settings state.entries key now }

def checked (entries : List Entry) (key : String) (now : Nat) : Stage :=
  if blocked entries key now ≠ 0 then .refused else .admitted

variable (settings : Settings) (key : String)

-- Every thread handles one request for the key, whose credential is wrong.
def step (state : State Thread) (label : Thread × Nat × Action) : Option (State Thread) :=
  if label.2.1 < state.clock then none
  else
    match label.2.2, state.threads label.1 with
    | .check, .waiting =>
        some (state.set label.2.1 label.1 (checked state.entries key label.2.1))
    | .evaluate, .admitted => some (state.set label.2.1 label.1 .evaluated)
    | .record, .evaluated => some (state.fail settings key label.2.1 label.1)
    | _, _ => none

/-- All steps fall in one interval shorter than the window and the lockout. -/
def Inside (first : Nat) (labels : List (Thread × Nat × Action)) : Prop :=
  ∀ label ∈ labels, first ≤ label.2.1 ∧ label.2.1 < first + (policy settings).span

def GuessesBounded (Thread : Type) [DecidableEq Thread] [Fintype Thread] : Prop :=
  ∀ (entries : List Entry) (first : Nat) (labels : List (Thread × Nat × Action))
    (final : State Thread), Inside settings first labels →
    run (step settings key) (start Thread entries) labels = some final →
      count Stage.guessed final.threads ≤ settings.maxAttempts

variable [Fintype Thread]

/-- A request is admitted only while those in flight and the failures that count leave room. -/
def Room (state : State Thread) (label : Thread × Nat × Action) : Prop :=
  label.2.2 = .check → blocked state.entries key label.2.1 = 0 →
    count Stage.inFlight state.threads +
      countRecent settings.windowSeconds label.2.1 (bucketOf state.entries key).fails <
        settings.maxAttempts

def Bucket.since (first : Nat) (bucket : Bucket Nat) : Nat :=
  bucket.fails.countP fun t => decide (first ≤ t)

structure Bounded (first : Nat) (state : State Thread) : Prop where
  few : count Stage.inFlight state.threads + count Stage.done state.threads ≤ settings.maxAttempts
  -- Until a lockout that outlasts the interval, every failure of the interval is still listed.
  listed : count Stage.done state.threads ≤ Bucket.since first (bucketOf state.entries key) ∨
    first + (policy settings).span ≤ (bucketOf state.entries key).lockedUntil

variable {settings key}

omit [DecidableEq Thread] in
theorem start_bounded (entries : List Entry) (first : Nat) :
    Bounded settings key first (start Thread entries) := by
  have none (region : Stage → Bool) (outside : region .waiting = false) :
      count region (start Thread entries).threads = 0 := by
    simp [count, start, outside]
  constructor
  next => simp [none Stage.inFlight rfl, none Stage.done rfl]
  next => simp [none Stage.done rfl]

omit [Fintype Thread] in
theorem step_cases {state next : State Thread} {t : Thread} {now : Nat} {action : Action}
    (taken : step settings key state (t, now, action) = some next) :
    (action = .check ∧ state.threads t = .waiting ∧
        next = state.set now t (checked state.entries key now)) ∨
      (action = .evaluate ∧ state.threads t = .admitted ∧ next = state.set now t .evaluated) ∨
      (action = .record ∧ state.threads t = .evaluated ∧
        next = state.fail settings key now t) := by
  unfold step at taken
  split at taken
  · cases taken
  · cases action <;> cases stage : state.threads t <;>
      simp only [stage, Option.some.injEq, reduceCtorEq] at taken <;> subst taken <;> simp

-- A move that neither admits a request nor records a failure.
theorem Bounded.move {first : Nat} {state : State Thread} (bounded : Bounded settings key first state)
    (now : Nat) (t : Thread) {stage : Stage}
    (flight : stage.inFlight = (state.threads t).inFlight)
    (done : stage.done = (state.threads t).done) :
    Bounded settings key first (state.set now t stage) := by
  have inFlight := count_update Stage.inFlight state.threads t stage
  have recorded := count_update Stage.done state.threads t stage
  rw [flight, Nat.add_right_cancel_iff] at inFlight
  rw [done, Nat.add_right_cancel_iff] at recorded
  constructor
  next => simpa only [State.set, inFlight, recorded] using bounded.few
  next => simpa only [State.set, recorded] using bounded.listed

theorem Bounded.admit {first : Nat} {state : State Thread} (bounded : Bounded settings key first state)
    {now : Nat} (early : now < first + (policy settings).span) {t : Thread}
    (waiting : state.threads t = .waiting) (opened : blocked state.entries key now = 0)
    (room : Room settings key state (t, now, .check)) :
    Bounded settings key first (state.set now t .admitted) := by
  have inFlight := count_update Stage.inFlight state.threads t .admitted
  have recorded := count_update Stage.done state.threads t .admitted
  simp only [waiting, Stage.inFlight, Stage.done, Bool.toNat_true, Bool.toNat_false, Nat.add_zero]
    at inFlight recorded
  have free : count Stage.inFlight state.threads +
      countRecent settings.windowSeconds now (bucketOf state.entries key).fails <
        settings.maxAttempts := room rfl opened
  have unlocked := blocked_eq_zero.1 opened
  have counted : Bucket.since first (bucketOf state.entries key) ≤
      countRecent settings.windowSeconds now (bucketOf state.entries key).fails := by
    apply List.countP_mono_left
    intro t _ after
    have wide : (policy settings).span ≤ settings.windowSeconds := min_le_left _ _
    simp only [decide_eq_true_eq] at after ⊢
    omega
  have listed := bounded.listed
  constructor
  next =>
    simp only [State.set, inFlight, recorded]
    omega
  next => simpa only [State.set, recorded] using listed

-- Within the interval, pruning the list drops no failure of the interval.
theorem since_recent {first now lockedUntil : Nat} (late : first ≤ now)
    (early : now < first + (policy settings).span) (bucket : Bucket Nat) :
    Bucket.since first ⟨bucket.recent (policy settings) now, lockedUntil⟩ =
      Bucket.since first bucket + 1 := by
  have wide : (policy settings).span ≤ settings.windowSeconds := min_le_left _ _
  simp only [Bucket.since, Bucket.recent, List.countP_append, List.countP_filter]
  congr 1
  · apply List.countP_congr
    intro t _
    simp only [policy_window, Bool.and_eq_true, decide_eq_true_eq, and_iff_left_iff_imp]
    intro after
    exact decide_eq_true (early.trans_le (Nat.add_le_add after wide))
  · simp [late]

theorem Bounded.fail {first : Nat} {state : State Thread} (bounded : Bounded settings key first state)
    {now : Nat} (late : first ≤ now) (early : now < first + (policy settings).span) {t : Thread}
    (evaluated : state.threads t = .evaluated) :
    Bounded settings key first (state.fail settings key now t) := by
  have inFlight := count_update Stage.inFlight state.threads t .recorded
  have recorded := count_update Stage.done state.threads t .recorded
  simp only [evaluated, Stage.inFlight, Stage.done, Bool.toNat_true, Bool.toNat_false, Nat.add_zero]
    at inFlight recorded
  have wide : (policy settings).span ≤ settings.windowSeconds := min_le_left _ _
  have long : (policy settings).span ≤ settings.lockoutSeconds := min_le_right _ _
  have window : 0 < settings.windowSeconds := by omega
  constructor
  next =>
    have few := bounded.few
    simp only [State.fail, State.set, recorded]
    omega
  next =>
    simp only [State.fail, State.set, recorded, bucketOf_recordFailure window, if_pos, Bucket.record]
    split
    next full => exact .inr (Nat.add_le_add late long)
    next short =>
      refine bounded.listed.imp (fun listed => ?_) id
      rw [since_recent late early]
      omega

theorem bounded_step (first : Nat) (state : State Thread) (label : Thread × Nat × Action)
    (next : State Thread) (bounded : Bounded settings key first state)
    (allowed : Room settings key state label ∧ first ≤ label.2.1 ∧
      label.2.1 < first + (policy settings).span)
    (taken : step settings key state label = some next) : Bounded settings key first next := by
  obtain ⟨t, now, action⟩ := label
  obtain ⟨room, late, early⟩ := allowed
  rcases step_cases taken with
    ⟨rfl, waiting, rfl⟩ | ⟨rfl, admitted, rfl⟩ | ⟨rfl, evaluated, rfl⟩
  · unfold checked
    split
    next wait => exact bounded.move now t (by rw [waiting]; rfl) (by rw [waiting]; rfl)
    next opened => exact bounded.admit early waiting (not_not.1 opened) room
  · exact bounded.move now t (by rw [admitted]; rfl) (by rw [admitted]; rfl)
  · exact bounded.fail late early evaluated

theorem Bounded.guesses {first : Nat} {state : State Thread}
    (bounded : Bounded settings key first state) :
    count Stage.guessed state.threads ≤ settings.maxAttempts := by
  have covered : ∀ stage : Stage, stage.guessed = true →
      stage.inFlight = true ∨ stage.done = true := by
    intro stage
    cases stage <;> decide
  exact (count_le_add covered state.threads).trans bounded.few

theorem guesses_bounded_of_room (settings : Settings) (key : String) (entries : List Entry)
    (first : Nat) (labels : List (Thread × Nat × Action)) (final : State Thread)
    (inside : Inside settings first labels)
    (room : Along (Room settings key) (step settings key) (start Thread entries) labels)
    (reached : run (step settings key) (start Thread entries) labels = some final) :
    count Stage.guessed final.threads ≤ settings.maxAttempts := by
  have timed := room.within inside
  exact (run_invariant (Bounded settings key first) (bounded_step first)
    (start_bounded entries first) timed reached).guesses

-- The three steps of a thread nobody interrupts do what a failed attempt of either flow does.
omit [Fintype Thread] in
theorem uninterrupted (settings : Settings) (key : String) (entries : List Entry) (now : Nat)
    (t : Thread) :
    ∃ final, run (step settings key) (start Thread entries)
        (if blocked entries key now ≠ 0 then [(t, now, .check)]
          else [(t, now, .check), (t, now, .evaluate), (t, now, .record)]) = some final ∧
      final.entries = attempt settings entries key now false := by
  by_cases wait : blocked entries key now = 0 <;>
    simp [attempt, wait, run, step, start, State.set, State.fail, checked]

end Steps

section Schedules

instance {Thread : Type} [DecidableEq Thread] [Fintype Thread] (settings : Settings)
    (key : String) (state : State Thread) (label : Thread × Nat × Action) :
    Decidable (Room settings key state label) :=
  inferInstanceAs (Decidable (_ → _ → _))

instance {Thread : Type} [DecidableEq Thread] (settings : Settings) (first : Nat)
    (labels : List (Thread × Nat × Action)) : Decidable (Inside settings first labels) :=
  inferInstanceAs (Decidable (∀ label ∈ labels, _))

def guesses {n : Nat} (settings : Settings) (labels : List (Fin n × Nat × Action)) : Option Nat :=
  (run (step settings "root:peer") (start (Fin n) []) labels).map fun final =>
    count Stage.guessed final.threads

-- One request more than the limit passes the check before any of them records its failure.
def stampede : List (Fin 6 × Nat × Action) :=
  (List.finRange 6).map (fun t => (t, 0, .check)) ++
    (List.finRange 6).map fun t => (t, 0, .evaluate)

theorem stampede_guesses : guesses {} stampede = some 6 := by decide +kernel

theorem stampede_exceeds : ¬ GuessesBounded {} "root:peer" (Fin 6) := by
  intro bounded
  obtain ⟨final, reached, six⟩ := Option.map_eq_some_iff.1 stampede_guesses
  have few := bounded [] 0 stampede final (by decide +kernel) reached
  rw [six] at few
  exact absurd few (by decide)

-- Two requests overlap within the limit of two; the other three find the key locked.
def staggered : List (Fin 5 × Nat × Action) := [
  (0, 0, .check), (1, 1, .check), (0, 2, .evaluate), (0, 2, .record), (1, 3, .evaluate),
  (1, 4, .record), (2, 5, .check), (3, 5, .check), (4, 6, .check)]

theorem staggered_guesses : guesses ⟨2, 300, 300⟩ staggered = some 2 := by decide +kernel

theorem staggered_bounded :
    ∃ final, run (step ⟨2, 300, 300⟩ "root:peer") (start (Fin 5) []) staggered = some final ∧
      count Stage.guessed final.threads ≤ 2 := by
  obtain ⟨final, reached, -⟩ := Option.map_eq_some_iff.1 staggered_guesses
  exact ⟨final, reached, guesses_bounded_of_room ⟨2, 300, 300⟩ "root:peer" [] 0 staggered final
    (by decide +kernel) (by decide +kernel) reached⟩

end Schedules

end Fleet.ThreadedLogins
