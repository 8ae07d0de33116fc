import Fleet.ControlPlane.Throttle

set_option autoImplicit false

namespace Fleet.RateBound

open RateLimit Lockout Execution Throttle

/-- The call, if it records a failure of the key, leaves the key open. -/
def StartsNoLockout (settings : Settings) (key : String) (state : State)
    (label : Nat × Call) : Prop :=
  label.2 = .recordFailure key →
    blocked (recordFailure settings state.entries key label.1) key label.1 = 0

/-- With the failure at `t` the failures within the window, of those since the last lockout
began, reach the limit. -/
def Completes (settings : Settings) (key : String) (past : List (Nat × Call)) (t : Nat) : Prop :=
  ∃ before series middle, past = before ++ series ∧
    run (step settings) start before = some middle ∧
    Along (StartsNoLockout settings key) (step settings) middle series ∧
    settings.maxAttempts ≤ countRecent settings.windowSeconds t (failures key series) + 1

/-- With the failure at `t` all failures within the window reach the limit. -/
def Fills (settings : Settings) (key : String) (past : List (Nat × Call)) (t : Nat) : Prop :=
  settings.maxAttempts ≤ countRecent settings.windowSeconds t (failures key past) + 1

/-- After the failure at `t` the key is locked for the lockout and then open again. -/
def LocksOut (settings : Settings) (key : String) (t : Nat) (more : List (Nat × Call))
    (final : State) : Prop :=
  (∀ now, final.clock ≤ now → now < t + settings.lockoutSeconds →
    0 < blocked final.entries key now) ∧
  (failures key more = [] → blocked final.entries key (t + settings.lockoutSeconds) = 0)

section Runs

variable {settings : Settings} {key : String} {state next final : State} {label : Nat × Call}
  {labels : List (Nat × Call)}

theorem step_tracks (window : 0 < settings.windowSeconds) {past : List (Nat × Call)}
    (tracks : Tracks (policy settings) (failures key past) state.clock
      (bucketOf state.entries key))
    (throttled : Throttled key state label) (taken : step settings state label = some next) :
    Tracks (policy settings) (failures key (past ++ [label])) next.clock
      (bucketOf next.entries key) := by
  rw [failures_append]
  obtain ⟨later, recorded | kept⟩ := step_bucket window throttled taken
  · obtain ⟨-, failed, unlocked, bucket⟩ := recorded
    rw [failed, bucket]
    exact tracks.record later unlocked
  · rw [kept.1, kept.2, List.append_nil]
    exact tracks.later later

theorem run_tracks (positive : 1 ≤ settings.maxAttempts) (window : 0 < settings.windowSeconds)
    (along : Along (Throttled key) (step settings) start labels)
    (reached : run (step settings) start labels = some final) :
    Tracks (policy settings) (failures key labels) final.clock (bucketOf final.entries key) :=
  run_labels (fun past (state : State) => Tracks (policy settings) (failures key past) state.clock
    (bucketOf state.entries key)) (fun _ _ _ _ => step_tracks window) []
    (tracks_nil positive 0 0) along reached

theorem step_carries (window : 0 < settings.windowSeconds) (lockout : 0 < settings.lockoutSeconds)
    {series : List (Nat × Call)}
    (carries : (bucketOf state.entries key).Carries (policy settings) (failures key series)
      state.clock)
    (throttled : Throttled key state label) (free : StartsNoLockout settings key state label)
    (taken : step settings state label = some next) :
    (bucketOf next.entries key).Carries (policy settings) (failures key (series ++ [label]))
      next.clock := by
  rw [failures_append]
  obtain ⟨later, recorded | kept⟩ := step_bucket window throttled taken
  · obtain ⟨call, failed, -, bucket⟩ := recorded
    rw [failed, bucket]
    apply (carries.later later).record
    intro full
    rw [call] at free
    have opened := blocked_eq_zero.1 (free rfl)
    rw [bucketOf_recordFailure window, if_pos rfl, Bucket.record, if_pos full] at opened
    simp only [policy_lockout] at opened
    omega
  · rw [kept.1, kept.2, List.append_nil]
    exact carries.later later

theorem run_carries (window : 0 < settings.windowSeconds) (lockout : 0 < settings.lockoutSeconds)
    (along : Along (Throttled key) (step settings) state labels)
    (free : Along (StartsNoLockout settings key) (step settings) state labels)
    (reached : run (step settings) state labels = some final) :
    (bucketOf final.entries key).Carries (policy settings) (failures key labels) final.clock :=
  run_labels (fun series (state : State) => (bucketOf state.entries key).Carries (policy settings)
    (failures key series) state.clock)
    (fun _ _ _ _ carries both => step_carries window lockout carries both.1 both.2) []
    (Bucket.carries_nil (policy settings) state.clock _) (along.and free) reached

/-- The lockout that began at `t` has not been shortened. -/
def Locked (settings : Settings) (key : String) (t : Nat) (past : List (Nat × Call))
    (state : State) : Prop :=
  ((bucketOf state.entries key).lockedUntil = t + settings.lockoutSeconds ∨
    t + settings.lockoutSeconds ≤ state.clock) ∧
  (failures key past = [] →
    (bucketOf state.entries key).lockedUntil = t + settings.lockoutSeconds)

theorem step_locked (window : 0 < settings.windowSeconds) {t : Nat} {past : List (Nat × Call)}
    (locked : Locked settings key t past state) (throttled : Throttled key state label)
    (taken : step settings state label = some next) :
    Locked settings key t (past ++ [label]) next := by
  obtain ⟨later, recorded | kept⟩ := step_bucket window throttled taken
  · obtain ⟨-, failed, unlocked, -⟩ := recorded
    refine ⟨.inr ?_, by simp [failures_append, failed]⟩
    rcases locked.1 with until_ | ended <;> omega
  · unfold Locked
    rw [failures_append, kept.1, kept.2, List.append_nil]
    refine ⟨?_, locked.2⟩
    rcases locked.1 with until_ | ended
    · exact .inl until_
    · exact .inr (ended.trans later)

theorem run_locked (window : 0 < settings.windowSeconds) {t : Nat} {past : List (Nat × Call)}
    (locked : Locked settings key t past state)
    (along : Along (Throttled key) (step settings) state labels)
    (reached : run (step settings) state labels = some final) :
    Locked settings key t (past ++ labels) final :=
  run_labels (Locked settings key t) (fun _ _ _ _ => step_locked window) past locked along reached

theorem Locked.locksOut {t : Nat} {more : List (Nat × Call)}
    (locked : Locked settings key t more final) : LocksOut settings key t more final := by
  constructor
  next =>
    intro now reached inside
    rw [blocked_eq]
    rcases locked.1 with until_ | ended <;> omega
  next =>
    intro quiet
    rw [blocked_eq, locked.2 quiet, Nat.sub_self]

-- Both readings of the limit being reached find the failures in the list the code counts.
theorem countRecent_of_completes (window : 0 < settings.windowSeconds)
    (lockout : 0 < settings.lockoutSeconds) {past : List (Nat × Call)} {t : Nat}
    (completes : Completes settings key past t)
    (along : Along (Throttled key) (step settings) start past)
    (reached : run (step settings) start past = some state) (later : state.clock ≤ t) :
    settings.maxAttempts ≤
      countRecent settings.windowSeconds t (bucketOf state.entries key).fails + 1 := by
  obtain ⟨before, series, middle, rfl, early, free, enough⟩ := completes
  obtain ⟨middle', early', late⟩ := (run_append_eq_some _ _ _ _ _).1 reached
  obtain rfl := Option.some.inj (early.symm.trans early')
  have throttled := ((along_append _ _ _ _ _).1 along).2 middle early
  have carries := run_carries window lockout throttled free late
  have fewer := (carries.later later).countRecent_le
  exact enough.trans (Nat.add_le_add_right fewer 1)

theorem countRecent_of_fills (positive : 1 ≤ settings.maxAttempts)
    (window : 0 < settings.windowSeconds)
    (longer : settings.windowSeconds ≤ settings.lockoutSeconds) {past : List (Nat × Call)} {t : Nat}
    (fills : Fills settings key past t)
    (along : Along (Throttled key) (step settings) start past)
    (reached : run (step settings) start past = some state) (later : state.clock ≤ t)
    (unlocked : (bucketOf state.entries key).lockedUntil ≤ t) :
    settings.maxAttempts ≤
      countRecent settings.windowSeconds t (bucketOf state.entries key).fails + 1 := by
  have tracks := run_tracks positive window along reached
  have fewer := (tracks.carries later unlocked longer).countRecent_le
  exact fills.trans (Nat.add_le_add_right fewer 1)

end Runs

-- The window and the lockout are in the ticks of the calls' times, whatever a tick is.
theorem guesses_bounded (settings : Settings) (key : String) (positive : 1 ≤ settings.maxAttempts)
    (window : 0 < settings.windowSeconds) (lockout : 0 < settings.lockoutSeconds)
    (labels : List (Nat × Call)) (final : State)
    (along : Along (Throttled key) (step settings) start labels)
    (reached : run (step settings) start labels = some final) :
    (∀ first, countIn first (min settings.windowSeconds settings.lockoutSeconds)
      (failures key labels) ≤ settings.maxAttempts) ∧
    ∀ past t more, labels = past ++ (t, .recordFailure key) :: more →
      Completes settings key past t ∨
        (settings.windowSeconds ≤ settings.lockoutSeconds ∧ Fills settings key past t) →
      LocksOut settings key t more final := by
  constructor
  next =>
    have tracks := run_tracks positive window along reached
    exact tracks.bounded
  next =>
    rintro past t more rfl full
    obtain ⟨state, early, late⟩ := (run_append_eq_some _ _ _ _ _).1 reached
    obtain ⟨next, taken, tail⟩ := (run_cons_eq_some _ _ _ _ _).1 late
    have split := (along_append _ _ _ _ _).1 along
    have rest := split.2 state early
    rw [along_cons] at rest
    have later := (step_eq_some.1 taken).1
    have unlocked := blocked_eq_zero.1 (rest.1 rfl)
    have enough : settings.maxAttempts ≤
        countRecent settings.windowSeconds t (bucketOf state.entries key).fails + 1 := by
      rcases full with completes | ⟨longer, fills⟩
      · exact countRecent_of_completes window lockout completes split.1 early later
      · exact countRecent_of_fills positive window longer fills split.1 early later unlocked
    have locks : (bucketOf state.entries key).record (policy settings) t =
        ⟨[], t + settings.lockoutSeconds⟩ := Bucket.record_of_locks enough
    have locked : Locked settings key t [] next := by
      obtain ⟨-, rfl⟩ := step_eq_some.1 taken
      simp [Locked, effect, bucketOf_recordFailure window, locks]
    exact (run_locked window locked (rest.2 next taken) tail).locksOut

def short : Settings := ⟨2, 10, 2⟩

-- The second failure starts a lockout and clears the list; the third is the second of its window.
def cleared : List (Nat × Call) :=
  [(0, .recordFailure "root:peer"), (1, .recordFailure "root:peer"),
    (10, .recordFailure "root:peer")]

theorem filling_starts_no_lockout :
    ¬ ∀ (settings : Settings) (key : String) (labels : List (Nat × Call)) (final : State),
      1 ≤ settings.maxAttempts → 0 < settings.windowSeconds → 0 < settings.lockoutSeconds →
      Along (Throttled key) (step settings) start labels →
      run (step settings) start labels = some final →
      ∀ past t more, labels = past ++ (t, .recordFailure key) :: more →
        Fills settings key past t → LocksOut settings key t more final := by
  intro literal
  have locks := literal short "root:peer" cleared ⟨[⟨"root:peer", [10], 3⟩], 10⟩ (by decide)
    (by decide) (by decide) (by decide) (by rfl) (cleared.take 2) 10 [] (by decide)
    (by unfold Fills; decide)
  exact absurd (locks.1 10 (by decide) (by decide)) (by decide)

def watched : List (Nat × Call) :=
  [(0, .recordFailure "root:peer"), (4, .reset "eve:peer"), (5, .recordFailure "root:peer"),
    (6, .blocked "root:peer")]

theorem watched_bounded :
    countIn 0 10 (failures "root:peer" watched) ≤ 2 ∧
      LocksOut ⟨2, 10, 20⟩ "root:peer" 5 [(6, .blocked "root:peer")]
        ⟨[⟨"root:peer", [], 25⟩], 6⟩ := by
  have bounded := guesses_bounded ⟨2, 10, 20⟩ "root:peer" (by decide) (by decide) (by decide)
    watched ⟨[⟨"root:peer", [], 25⟩], 6⟩ (by decide) (by rfl)
  exact ⟨bounded.1 0, bounded.2 (watched.take 2) 5 _ (by rfl)
    (.inr ⟨by decide, by unfold Fills; decide⟩)⟩

end Fleet.RateBound
