import Mathlib.Data.List.DropRight
import Fleet.ControlPlane.HealthSweep
import Fleet.Shared.Paired

set_option autoImplicit false

namespace Fleet.HealthRollUp

open Db NodeAdapter ShimResponses Health

structure Check where
  result : NodeHealth
  now : Datetime

def Check.outcome (check : Check) : Reachability := check.result.reachability

def failed : Reachability → Bool
  | .reachable => false
  | .degraded => true
  | .down => true

-- How many failures there are since the last success, or since the node was registered.
def streak (outcomes : List Reachability) : Nat := (outcomes.rtakeWhile failed).length

def folded (settings : Settings) (node : NodeRow) (checks : List Check) : NodeRow :=
  checks.foldl (fun node check => fold settings node check.now check.result) node

/-- What the health fields of a node say of the outcomes it was given. -/
structure RolledUp (threshold : Int) (outcomes : List Reachability) (node : NodeRow) : Prop where
  failures : node.consecutiveFailures = streak outcomes
  reachable : node.status = .reachable ↔ outcomes.getLast? = some .reachable
  down : node.status = .down ↔ threshold ≤ streak outcomes
  otherwise : outcomes.getLast? ≠ some .reachable → streak outcomes < threshold →
    node.status = .degraded

section Streaks

variable (outcomes : List Reachability)

@[simp]
theorem streak_reachable : streak (outcomes ++ [.reachable]) = 0 := by
  simp [streak, failed]

theorem streak_failed {outcome : Reachability} (failure : failed outcome = true) :
    streak (outcomes ++ [outcome]) = streak outcomes + 1 := by
  simp [streak, failure]

end Streaks

section Folds

variable {settings : Settings}

theorem folded_concat (node : NodeRow) (checks : List Check) (check : Check) :
    folded settings node (checks ++ [check]) =
      fold settings (folded settings node checks) check.now check.result := by
  simp [folded, List.foldl_append]

theorem fold_reachable (settings : Settings) (node : NodeRow) {check : Check}
    (success : check.outcome = .reachable) :
    (fold settings node check.now check.result).consecutiveFailures = 0 ∧
      (fold settings node check.now check.result).status = .reachable := by
  rw [Check.outcome] at success
  simp [fold, success]

theorem fold_failed (node : NodeRow) {check : Check} (failure : failed check.outcome = true) :
    (fold settings node check.now check.result).consecutiveFailures =
        node.consecutiveFailures + 1 ∧
      (fold settings node check.now check.result).status =
        if settings.healthDownThreshold ≤ (node.consecutiveFailures + 1 : Nat) then .down
        else statusOf check.outcome := by
  rw [Check.outcome] at failure
  cases outcome : check.result.reachability <;> simp_all [fold, failed, Check.outcome]

-- The counter follows the streak whatever the settings are.
theorem folded_failures (settings : Settings) (node : NodeRow)
    (fresh : node.consecutiveFailures = 0)
    (checks : List Check) :
    (folded settings node checks).consecutiveFailures = streak (checks.map Check.outcome) := by
  induction checks using List.reverseRecOn with
  | nil => exact fresh
  | append_singleton checks check ih =>
      rw [folded_concat, List.map_append, List.map_singleton]
      cases outcome : failed check.outcome with
      | false =>
          have success : check.outcome = .reachable := by
            cases sort : check.outcome <;> simp_all [failed]
          rw [(fold_reachable settings _ success).1, success, streak_reachable]
      | true => rw [(fold_failed _ outcome).1, streak_failed _ outcome, ih]

theorem folded_status (settings : Settings) (node : NodeRow)
    (fresh : node.consecutiveFailures = 0) (checks : List Check) (check : Check)
    (failure : failed check.outcome = true) :
    (folded settings node (checks ++ [check])).status =
      if settings.healthDownThreshold ≤ streak ((checks ++ [check]).map Check.outcome) then .down
      else statusOf check.outcome := by
  rw [folded_concat, (fold_failed _ failure).2, folded_failures settings node fresh checks,
    List.map_append, List.map_singleton, streak_failed _ failure]

-- Only a check that finds the node down can mark it too early.
theorem rolledUp_concat (positive : 1 ≤ settings.healthDownThreshold) (node : NodeRow)
    (fresh : node.consecutiveFailures = 0) (checks : List Check) (check : Check) :
    RolledUp settings.healthDownThreshold ((checks ++ [check]).map Check.outcome)
        (folded settings node (checks ++ [check])) ↔
      (check.outcome = .down →
        settings.healthDownThreshold ≤ streak ((checks ++ [check]).map Check.outcome)) := by
  have counted := folded_failures settings node fresh (checks ++ [check])
  have last : ((checks ++ [check]).map Check.outcome).getLast? = some check.outcome := by simp
  cases outcome : check.outcome with
  | reachable =>
      have status : (folded settings node (checks ++ [check])).status = .reachable := by
        rw [folded_concat]
        exact (fold_reachable settings _ outcome).2
      have ended : streak ((checks ++ [check]).map Check.outcome) = 0 := by simp [outcome]
      refine iff_of_true ⟨counted, ?_, ?_, ?_⟩ (by simp)
      · simp [status, outcome]
      · simp only [status, ended, reduceCtorEq, false_iff]
        omega
      · simp [outcome]
  | degraded =>
      have status := folded_status settings node fresh checks check
        (by rw [outcome]; rfl)
      rw [outcome] at status
      refine iff_of_true ⟨counted, ?_, ?_, ?_⟩ (by simp)
      · rw [last, outcome, status]
        split <;> simp [statusOf]
      · rw [status]
        split <;> simp_all [statusOf]
      · intro _ below
        rw [status, if_neg (not_le.2 below)]
        rfl
  | down =>
      have status := folded_status settings node fresh checks check
        (by rw [outcome]; rfl)
      have marked : (folded settings node (checks ++ [check])).status = .down := by
        rw [status, outcome]
        exact ite_self _
      constructor
      · intro rolled _
        exact rolled.down.1 marked
      · intro sustained
        refine ⟨counted, ?_, ?_, ?_⟩
        · simp [marked, outcome]
        · exact iff_of_true marked (sustained rfl)
        · intro _ below
          exact absurd (sustained rfl) (not_le.2 below)

/-- Every check that finds the node down ends a run of enough failures. -/
def NoLoneDown (threshold : Int) (outcomes : List Reachability) : Prop :=
  ∀ early, early <+: outcomes → early.getLast? = some .down → threshold ≤ streak early

theorem rolledUp_iff (settings : Settings) (positive : 1 ≤ settings.healthDownThreshold)
    (node : Node) (checks : List Check) :
    (∀ early, early <+: checks → early ≠ [] →
        RolledUp settings.healthDownThreshold (early.map Check.outcome)
          (folded settings (unchecked node) early)) ↔
      NoLoneDown settings.healthDownThreshold (checks.map Check.outcome) := by
  constructor
  · intro rolled outcomes within ended
    obtain ⟨early, started, rfl⟩ := (List.prefix_map_iff).1 within
    rcases early.eq_nil_or_concat' with rfl | ⟨before, check, rfl⟩
    · cases ended
    · have here := rolled _ started (by simp)
      refine (rolledUp_concat positive (unchecked node) rfl before check).1 here ?_
      simpa using ended
  · intro sustained early started nonempty
    obtain ⟨before, check, rfl⟩ := early.eq_nil_or_concat'.resolve_left nonempty
    refine (rolledUp_concat positive (unchecked node) rfl before check).2 fun outcome => ?_
    exact sustained _ (started.map Check.outcome) (by simp [outcome])

end Folds

section Visits

variable {Moment : Type} {runtime : Runtime Moment} {str : PyException → String}
  {settings : Settings}

-- What a probe finds does not depend on what the earlier ones left in the row.
theorem probe_congr {node other : Node} (adapter : other.adapterType = node.adapterType)
    (endpoint : other.endpoint = node.endpoint) (credentials : other.credentials = node.credentials)
    (visit : Visit) : probe runtime str other visit = probe runtime str node visit := by
  simp only [probe, buildAdapterForNode, closeError, Health.health, adapter, endpoint, credentials]

theorem probe_fold (node : NodeRow) (now : Datetime) (result : NodeHealth) (visit : Visit) :
    probe runtime str (fold settings node now result).toNode visit =
      probe runtime str node.toNode visit := by
  obtain ⟨-, -, adapter, endpoint, credentials⟩ := @fold_node settings node now result
  exact probe_congr adapter endpoint credentials visit

-- Checking a node again and again folds the outcomes of its probes.
theorem checkNode_folds {node after : NodeRow} {visits : List Visit}
    (checked : visits.foldlM (checkNode runtime str settings) node = .ok after) :
    ∃ checks : List Check, after = folded settings node checks ∧
      List.Forall₂ (fun visit check => probe runtime str node.toNode visit = .ok check.result ∧
        check.now = visit.now) visits checks := by
  induction visits generalizing node with
  | nil =>
      cases checked
      exact ⟨[], rfl, .nil⟩
  | cons visit rest ih =>
      cases probed : probe runtime str node.toNode visit with
      | error raised => simp [checkNode, probed, Except.map, bind, Except.bind] at checked
      | ok result =>
          simp only [List.foldlM_cons, checkNode, probed, Except.map, bind, Except.bind] at checked
          obtain ⟨checks, final, paired⟩ := ih checked
          refine ⟨⟨result, visit.now⟩ :: checks, final, .cons ⟨probed, rfl⟩ ?_⟩
          simpa only [probe_fold] using paired

end Visits

section Blip

-- What a probe that was not answered in time settles to.
def blip : Check := ⟨settle .timedOut, silent.now⟩

def refusals : List Check :=
  [⟨{ reachability := .degraded, error := some "node shim returned 503" }, silent.now⟩,
    ⟨{ reachability := .degraded, error := some "node shim returned 503" }, silent.now⟩, blip]

theorem refusals_rolledUp :
    RolledUp 3 (refusals.map Check.outcome) (folded ⟨3⟩ (unchecked Actions.hcmc) refusals) := by
  refine (rolledUp_iff ⟨3⟩ (by decide) Actions.hcmc refusals).2 ?_ refusals (List.prefix_refl _)
    (by decide)
  have all : ∀ early ∈ (refusals.map Check.outcome).inits, early.getLast? = some .down →
      (3 : Int) ≤ streak early := by decide
  exact fun early started => all early ((List.mem_inits early _).2 started)

theorem blip_marks_down :
    (checkNode bareRuntime (fun _ => "") ⟨3⟩ (unchecked Actions.hcmc) silent).map
        (fun node => node.status) = .ok .down ∧
      ¬ RolledUp 3 [.down] (folded ⟨3⟩ (unchecked Actions.hcmc) [blip]) := by
  refine ⟨rfl, fun rolled => ?_⟩
  exact absurd (rolled.down.1 rfl) (by decide)

end Blip

end Fleet.HealthRollUp
