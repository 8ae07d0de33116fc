import Mathlib.Algebra.Order.Monoid.Defs
import Mathlib.Data.List.Perm.Subperm

set_option autoImplicit false

namespace Fleet.Lockout

universe u

theorem perm_filter_split {Item : Type u} (p : Item → Bool) (items : List Item) :
    items.Perm (items.filter (fun item => !p item) ++ items.filter p) :=
  (List.filter_append_perm p items).symm.trans List.perm_append_comm

variable {Time : Type u} [AddCommMonoid Time] [LinearOrder Time]

structure Policy (Time : Type u) where
  attempts : Nat
  window : Time
  lockout : Time

structure Bucket (Time : Type u) where
  fails : List Time
  lockedUntil : Time

def Policy.span (policy : Policy Time) : Time := min policy.window policy.lockout

/-- How many of the times fall in `[start, start + span)`. -/
def countIn (start span : Time) (times : List Time) : Nat :=
  times.countP fun t => decide (start ≤ t ∧ t < start + span)

/-- How many of the times are less than a window old. -/
def countRecent (window now : Time) (times : List Time) : Nat :=
  times.countP fun t => decide (now < t + window)

def Bucket.recent (policy : Policy Time) (bucket : Bucket Time) (now : Time) : List Time :=
  (bucket.fails.filter fun t => decide (now < t + policy.window)) ++ [now]

def Bucket.record (policy : Policy Time) (bucket : Bucket Time) (now : Time) : Bucket Time :=
  if policy.attempts ≤ (bucket.recent policy now).length then ⟨[], now + policy.lockout⟩
  else ⟨bucket.recent policy now, bucket.lockedUntil⟩

theorem Bucket.length_recent (policy : Policy Time) (bucket : Bucket Time) (now : Time) :
    (bucket.recent policy now).length = countRecent policy.window now bucket.fails + 1 := by
  simp [Bucket.recent, countRecent, List.countP_eq_length_filter]

theorem Bucket.record_of_locks {policy : Policy Time} {bucket : Bucket Time} {now : Time}
    (full : policy.attempts ≤ countRecent policy.window now bucket.fails + 1) :
    bucket.record policy now = ⟨[], now + policy.lockout⟩ := by
  rw [Bucket.record, if_pos]
  rwa [Bucket.length_recent]

/-- Every time of the series is still kept, or too old to count at the limit or later. -/
def Bucket.Carries (policy : Policy Time) (series : List Time) (limit : Time)
    (bucket : Bucket Time) : Prop :=
  ∃ stale, series.Subperm (stale ++ bucket.fails) ∧ ∀ t ∈ stale, t + policy.window ≤ limit

theorem Bucket.carries_nil (policy : Policy Time) (limit : Time) (bucket : Bucket Time) :
    bucket.Carries policy [] limit :=
  ⟨[], List.nil_subperm, by simp⟩

theorem Bucket.Carries.later {policy : Policy Time} {series : List Time} {limit now : Time}
    {bucket : Bucket Time} (carries : bucket.Carries policy series limit) (later : limit ≤ now) :
    bucket.Carries policy series now := by
  obtain ⟨stale, covered, old⟩ := carries
  exact ⟨stale, covered, fun t member => (old t member).trans later⟩

theorem Bucket.Carries.countRecent_le {policy : Policy Time} {series : List Time} {now : Time}
    {bucket : Bucket Time} (carries : bucket.Carries policy series now) :
    countRecent policy.window now series ≤ countRecent policy.window now bucket.fails := by
  obtain ⟨stale, covered, old⟩ := carries
  have none : countRecent policy.window now stale = 0 := by
    simpa [countRecent, List.countP_eq_zero] using old
  have total := covered.countP_le fun t => decide (now < t + policy.window)
  rw [List.countP_append] at total
  simp only [countRecent] at none ⊢
  omega

theorem Bucket.Carries.record {policy : Policy Time} {series : List Time} {now : Time}
    {bucket : Bucket Time} (carries : bucket.Carries policy series now)
    (short : ¬ policy.attempts ≤ (bucket.recent policy now).length) :
    (bucket.record policy now).Carries policy (series ++ [now]) now := by
  obtain ⟨stale, covered, old⟩ := carries
  refine ⟨stale ++ bucket.fails.filter fun t => !decide (now < t + policy.window), ?_, ?_⟩
  · rw [Bucket.record, if_neg short, Bucket.recent, ← List.append_assoc]
    apply List.Subperm.append _ (List.Subperm.refl _)
    rw [List.append_assoc]
    exact covered.trans ((perm_filter_split _ _).append_left stale).subperm
  · intro t member
    rcases List.mem_append.1 member with earlier | dropped
    · exact old t earlier
    · simpa using (List.mem_filter.1 dropped).2

/-- What a bucket owes to all failures of its key so far. -/
structure Tracks (policy : Policy Time) (past : List Time) (clock : Time)
    (bucket : Bucket Time) : Prop where
  few : bucket.fails.length < policy.attempts
  earlier : ∀ t ∈ past, t ≤ clock
  -- What is no longer kept shares no interval with a failure that can still be recorded.
  kept : ∃ old, past.Perm (old ++ bucket.fails) ∧
    ∀ t ∈ old, t + policy.span ≤ max clock bucket.lockedUntil
  bounded : ∀ start, countIn start policy.span past ≤ policy.attempts

theorem tracks_nil {policy : Policy Time} (positive : 1 ≤ policy.attempts)
    (clock lockedUntil : Time) : Tracks policy [] clock ⟨[], lockedUntil⟩ where
  few := positive
  earlier := by simp
  kept := ⟨[], by simp, by simp⟩
  bounded := by simp [countIn]

theorem Tracks.later {policy : Policy Time} {past : List Time} {clock now : Time}
    {bucket : Bucket Time} (tracks : Tracks policy past clock bucket) (later : clock ≤ now) :
    Tracks policy past now bucket where
  few := tracks.few
  earlier t member := (tracks.earlier t member).trans later
  kept := by
    obtain ⟨old, split, gone⟩ := tracks.kept
    exact ⟨old, split, fun t member => (gone t member).trans (max_le_max later le_rfl)⟩
  bounded := tracks.bounded

-- With a lockout as long as the window, a lockout clears no failure that would still count.
theorem Tracks.carries {policy : Policy Time} {past : List Time} {clock now : Time}
    {bucket : Bucket Time} (tracks : Tracks policy past clock bucket) (later : clock ≤ now)
    (unlocked : bucket.lockedUntil ≤ now) (longer : policy.window ≤ policy.lockout) :
    bucket.Carries policy past now := by
  obtain ⟨old, split, gone⟩ := tracks.kept
  rw [Policy.span, min_eq_left longer] at gone
  exact ⟨old, split.subperm, fun t member => (gone t member).trans (max_le later unlocked)⟩

theorem Tracks.length_recent_le {policy : Policy Time} {past : List Time} {clock : Time}
    {bucket : Bucket Time} (tracks : Tracks policy past clock bucket) (now : Time) :
    (bucket.recent policy now).length ≤ policy.attempts := by
  have kept : countRecent policy.window now bucket.fails ≤ bucket.fails.length :=
    List.countP_le_length
  have few := tracks.few
  rw [Bucket.length_recent]
  omega

section Ordered

variable [IsOrderedCancelAddMonoid Time]

-- Whether a time was dropped as too old or cleared by a lockout, it is a whole span in the past
-- when the next failure is recorded.
theorem Tracks.split {policy : Policy Time} {past : List Time} {clock now : Time}
    {bucket : Bucket Time} (tracks : Tracks policy past clock bucket) (later : clock ≤ now)
    (unlocked : bucket.lockedUntil ≤ now) :
    ∃ old, (past ++ [now]).Perm (old ++ bucket.recent policy now) ∧
      ∀ t ∈ old, t + policy.span ≤ now := by
  obtain ⟨old, split, gone⟩ := tracks.kept
  refine ⟨old ++ bucket.fails.filter fun t => !decide (now < t + policy.window), ?_, ?_⟩
  · rw [Bucket.recent, ← List.append_assoc]
    apply List.Perm.append_right
    rw [List.append_assoc]
    exact split.trans ((perm_filter_split _ _).append_left old)
  · intro t member
    rcases List.mem_append.1 member with earlier | dropped
    · exact (gone t earlier).trans (max_le later unlocked)
    · have stale : t + policy.window ≤ now := by simpa using (List.mem_filter.1 dropped).2
      exact (add_le_add_right (min_le_left _ _) t).trans stale

-- The only new interval to look at holds the failure that is recorded now; all others in it are
-- still kept.
theorem Tracks.bounded_record {policy : Policy Time} {past : List Time} {clock now : Time}
    {bucket : Bucket Time} (tracks : Tracks policy past clock bucket) (later : clock ≤ now)
    (unlocked : bucket.lockedUntil ≤ now) (start : Time) :
    countIn start policy.span (past ++ [now]) ≤ policy.attempts := by
  by_cases inside : start ≤ now ∧ now < start + policy.span
  · obtain ⟨old, split, gone⟩ := tracks.split later unlocked
    have outside : countIn start policy.span old = 0 := by
      simp only [countIn, List.countP_eq_zero, decide_eq_true_eq, not_and, not_lt]
      intro t member after
      exact absurd inside.2 (((add_le_add_left after _).trans (gone t member)).not_gt)
    have recent : countIn start policy.span (bucket.recent policy now) ≤ policy.attempts :=
      List.countP_le_length.trans (tracks.length_recent_le now)
    rw [countIn, split.countP_eq, List.countP_append]
    simp only [countIn] at outside recent
    omega
  · have same := tracks.bounded start
    simpa [countIn, List.countP_append, inside] using same

theorem Tracks.record {policy : Policy Time} {past : List Time} {clock now : Time}
    {bucket : Bucket Time} (tracks : Tracks policy past clock bucket) (later : clock ≤ now)
    (unlocked : bucket.lockedUntil ≤ now) :
    Tracks policy (past ++ [now]) now (bucket.record policy now) := by
  have earlier : ∀ t ∈ past ++ [now], t ≤ now := by
    intro t member
    rcases List.mem_append.1 member with before | here
    · exact (tracks.earlier t before).trans later
    · exact (List.mem_singleton.1 here).le
  have bounded := tracks.bounded_record later unlocked
  by_cases full : policy.attempts ≤ (bucket.recent policy now).length
  · rw [Bucket.record, if_pos full]
    have positive : 1 ≤ policy.attempts := Nat.one_le_of_lt tracks.few
    refine ⟨positive, earlier, ⟨past ++ [now], by simp, fun t member => ?_⟩, bounded⟩
    have cleared : t + policy.span ≤ now + policy.lockout :=
      add_le_add (earlier t member) (min_le_right _ _)
    exact cleared.trans (le_max_right _ _)
  · rw [Bucket.record, if_neg full]
    obtain ⟨old, split, gone⟩ := tracks.split later unlocked
    exact ⟨Nat.lt_of_not_le full, earlier,
      ⟨old, split, fun t member => (gone t member).trans (le_max_left _ _)⟩, bounded⟩

end Ordered

end Fleet.Lockout
