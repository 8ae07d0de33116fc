import Fleet.ControlPlane.Isolation
import Fleet.ControlPlane.ShimResponses

set_option autoImplicit false

namespace Fleet.Retries

open Db NodeAdapter Provisioning FanOut

-- An AdapterError in place of an answer; the node may have done its work all the same.
structure Fault where
  text : String
  executed : Bool

structure Attempt where
  faults : String → Option Fault
  times : String → Datetime × Datetime

-- What is committed, and which users the nodes still have.
structure State where
  database : Database
  present : (nodeId userId : String) → Bool

def gone : String := "node shim 404: user not found"

-- The answer of both servers to a user they do not find, as the adapter reports it.
theorem deleteUser_gone {Moment : Type} (runtime : ShimResponses.Runtime Moment)
    (base userId : String) (content : ByteArray)
    (decoded : runtime.loads content = .ok (.obj [("error", .str "user not found")])) :
    ShimResponses.deleteUser runtime base userId (.response { status := 404, content := content }) =
      .error (.adapterError gone) := by
  have detail : ShimResponses.errorDetail runtime { status := 404, content := content } =
      .ok "user not found" := by
    simp [ShimResponses.errorDetail, decoded, ShimResponses.Value.get?]
  simp only [ShimResponses.deleteUser, ShimResponses.mutate, ShimResponses.request, bind,
    Except.bind, detail]
  rfl

section Attempts

variable (actor logicalUserId : String)

def reply (state : State) (faults : String → Option Fault) (nodeId : String) : Except String Unit :=
  match faults nodeId with
  | some fault => .error fault.text
  | none =>
      match (state.database.tables.placement? logicalUserId nodeId).bind
        UserPlacement.remoteUserId with
      | none => .ok ()
      | some userId => if state.present nodeId userId then .ok () else .error gone

def answers (state : State) (attempt : Attempt) (nodeId : String) : Answer Unit :=
  ⟨reply logicalUserId state attempt.faults nodeId, (attempt.times nodeId).1,
    (attempt.times nodeId).2⟩

def outcome (state : State) (attempt : Attempt) : Outcome :=
  deprovision state.database actor logicalUserId true (answers logicalUserId state attempt)

def deletes? : Operation → Option String
  | .deleteUser userId _ => some userId
  | _ => none

def carriedOut (faults : String → Option Fault) (calls : List Call) (nodeId userId : String) :
    Bool :=
  (faults nodeId).elim true Fault.executed &&
    calls.any fun call => decide (call.nodeId = nodeId ∧ deletes? call.operation = some userId)

def attempt (state : State) (attempt : Attempt) : State where
  database := (outcome actor logicalUserId state attempt).database
  present nodeId userId := state.present nodeId userId &&
    !carriedOut attempt.faults (outcome actor logicalUserId state attempt).calls nodeId userId

def retry (state : State) (attempts : List Attempt) : State :=
  attempts.foldl (attempt actor logicalUserId) state

/-- Every placement with a remote id is revoked without an error. -/
def Settled (state : State) : Prop :=
  ∀ placement ∈ state.database.tables.placementsOf logicalUserId, placement.remoteUserId ≠ none →
    placement.status = .revoked ∧ placement.lastError = none

/-- The request changes no placement and reports no failure. -/
structure Quiet (state : State) (attempt : Attempt) : Prop where
  returned : (outcome actor logicalUserId state attempt).raised = none
  placements : (outcome actor logicalUserId state attempt).database.tables.placements =
    state.database.tables.placements
  audit : ∃ entries, (outcome actor logicalUserId state attempt).database.tables.audit =
      state.database.tables.audit ++ entries ∧
    ∀ entry ∈ entries, entry.2.result ≠ "failure"

/-- All nodes answer. -/
def Attempt.reachable (times : String → Datetime × Datetime) : Attempt := ⟨fun _ => none, times⟩

variable {actor logicalUserId} {state : State} {request : Attempt}

theorem retire_idle {tables : Tables} {placements : List UserPlacement} {lu : LogicalUser}
    {replies : String → Answer Unit} (idle : ∀ placement ∈ placements, placement.remoteUserId = none) :
    placements.foldl (retire actor lu true replies) tables = tables := by
  induction placements generalizing tables with
  | nil => rfl
  | cons placement rest ih =>
      rw [List.forall_mem_cons] at idle
      have skipped : retire actor lu true replies tables placement = tables := by
        simp [retire, idle.1]
      rw [List.foldl_cons, skipped, ih idle.2]

theorem outcome_cases (actor logicalUserId : String) (state : State) (request : Attempt) :
    ((outcome actor logicalUserId state request).raised ≠ none ∧
        (outcome actor logicalUserId state request).database = state.database ∧
        ∀ lu, state.database.tables.user? logicalUserId = some lu →
          ∃ placement ∈ state.database.tables.placementsOf lu.id,
            ¬ Removable true state.database.tables placement) ∨
      ∃ lu, lu.id = logicalUserId ∧ Retired state.database actor logicalUserId true
        (answers logicalUserId state request) lu (outcome actor logicalUserId state request) := by
  rcases deprovision_cases state.database actor logicalUserId true
    (answers logicalUserId state request) with escaped | ⟨lu, retired⟩
  · exact .inl escaped
  · exact .inr ⟨lu, Keyed.lookup_key retired.found, retired⟩

theorem retired_of_returned (returned : (outcome actor logicalUserId state request).raised = none) :
    ∃ lu, lu.id = logicalUserId ∧ Retired state.database actor logicalUserId true
      (answers logicalUserId state request) lu (outcome actor logicalUserId state request) := by
  rcases outcome_cases actor logicalUserId state request with ⟨raised, -, -⟩ | retired
  · exact absurd returned raised
  · exact retired

theorem attempt_database (state : State) (request : Attempt) :
    (attempt actor logicalUserId state request).database =
      (outcome actor logicalUserId state request).database := rfl

theorem removed_remoteUserId (replies : String → Answer Unit) (placement : UserPlacement) :
    (removed replies placement).remoteUserId = placement.remoteUserId := by
  unfold removed
  split
  · rfl
  · unfold release
    split <;> rfl

theorem mem_placementsOf_of_found {tables : Tables} {userId nodeId : String}
    {placement : UserPlacement} (found : tables.placement? userId nodeId = some placement) :
    placement ∈ tables.placementsOf userId ∧ placement.nodeId = nodeId := by
  obtain ⟨owner, site⟩ := Prod.mk.inj (Tables.placement?_key found)
  exact ⟨List.mem_filter.2 ⟨Keyed.mem_of_lookup found, by simpa using owner⟩, site⟩

theorem attempt_placement (actor logicalUserId : String) (state : State) (request : Attempt) :
    ∀ placement ∈ state.database.tables.placementsOf logicalUserId,
      ∃ after ∈ (attempt actor logicalUserId state request).database.tables.placementsOf
        logicalUserId,
          after.nodeId = placement.nodeId ∧ after.remoteUserId = placement.remoteUserId := by
  intro placement member
  rw [attempt_database]
  rcases outcome_cases actor logicalUserId state request with ⟨-, same, -⟩ | ⟨lu, rfl, retired⟩
  · exact ⟨placement, by rwa [same], rfl, rfl⟩
  · obtain ⟨present, site⟩ := mem_placementsOf_of_found (retired.placement? member)
    exact ⟨_, present, site, removed_remoteUserId _ placement⟩

theorem retry_placement (actor logicalUserId : String) (state : State) (attempts : List Attempt) :
    ∀ placement ∈ state.database.tables.placementsOf logicalUserId,
      ∃ after ∈ (retry actor logicalUserId state attempts).database.tables.placementsOf
        logicalUserId,
          after.nodeId = placement.nodeId ∧ after.remoteUserId = placement.remoteUserId := by
  induction attempts generalizing state with
  | nil => exact fun placement member => ⟨placement, member, rfl, rfl⟩
  | cons request rest ih =>
      intro placement member
      obtain ⟨next, present, site, remote⟩ :=
        attempt_placement actor logicalUserId state request placement member
      obtain ⟨after, later, site', remote'⟩ := ih _ next present
      exact ⟨after, later, site'.trans site, remote'.trans remote⟩

theorem attempt_idle (actor : String) {state : State} (request : Attempt)
    (idle : ∀ placement ∈ state.database.tables.placementsOf logicalUserId,
      placement.remoteUserId = none) :
    (attempt actor logicalUserId state request).database.tables = state.database.tables := by
  rw [attempt_database]
  rcases outcome_cases actor logicalUserId state request with ⟨-, same, -⟩ | ⟨lu, rfl, retired⟩
  · rw [same]
  · rw [retired.tables, retire_idle idle]

theorem retry_idle (actor : String) {state : State} (attempts : List Attempt)
    (idle : ∀ placement ∈ state.database.tables.placementsOf logicalUserId,
      placement.remoteUserId = none) :
    (retry actor logicalUserId state attempts).database.tables = state.database.tables := by
  induction attempts generalizing state with
  | nil => rfl
  | cons request rest ih =>
      have here := attempt_idle actor request idle
      exact (ih (by rwa [here])).trans here

-- Every placement after a run is what the run made of one before it.
theorem placement_before {lu : LogicalUser}
    (retired : Retired state.database actor lu.id true (answers lu.id state request) lu
      (outcome actor lu.id state request)) :
    ∀ after ∈ (outcome actor lu.id state request).database.tables.placementsOf lu.id,
      ∃ placement ∈ state.database.tables.placementsOf lu.id,
        after = removed (answers lu.id state request) placement := by
  intro after member
  have found := placement?_of_mem retired.rooted.valid member
  cases before : state.database.tables.placement? lu.id after.nodeId with
  | none =>
      have kept : (outcome actor lu.id state request).database.tables.placement? lu.id
          after.nodeId = none := by
        rw [retired.tables, ← before]
        apply placement?_retired_frame
        intro placement present here
        have stored := placement?_of_mem state.database.valid present
        rw [here.2, before] at stored
        cases stored
      rw [found] at kept
      cases kept
  | some placement =>
      obtain ⟨present, site⟩ := mem_placementsOf_of_found before
      have here := retired.placement? present
      rw [site, found] at here
      exact ⟨placement, present, Option.some.inj here⟩

theorem reply_of_mem (times : String → Datetime × Datetime) {placement : UserPlacement}
    {userId : String} (member : placement ∈ state.database.tables.placementsOf logicalUserId)
    (remote : placement.remoteUserId = some userId) :
    (answers logicalUserId state (.reachable times) placement.nodeId).reply =
      if state.present placement.nodeId userId then .ok () else .error gone := by
  simp only [answers, Attempt.reachable, reply, placement?_of_mem state.database.valid member,
    Option.bind_some, remote]

theorem settled_iff {times : String → Datetime × Datetime}
    (returned : (outcome actor logicalUserId state (.reachable times)).raised = none) :
    Settled logicalUserId (attempt actor logicalUserId state (.reachable times)) ↔
      ∀ placement ∈ state.database.tables.placementsOf logicalUserId, ∀ userId,
        placement.remoteUserId = some userId → state.present placement.nodeId userId = true := by
  obtain ⟨lu, rfl, retired⟩ := retired_of_returned returned
  constructor
  next =>
    intro settled placement member userId remote
    obtain ⟨present, -⟩ := mem_placementsOf_of_found (retired.placement? member)
    have held : (removed (answers lu.id state (.reachable times)) placement).remoteUserId ≠ none := by
      simp [removed_remoteUserId, remote]
    have clean := (settled _ present held).2
    by_contra absent
    simp [removed, remote, release, reply_of_mem times member remote, absent] at clean
  next =>
    intro still after member held
    obtain ⟨placement, before, rfl⟩ := placement_before retired after member
    rw [removed_remoteUserId] at held
    obtain ⟨userId, remote⟩ := Option.ne_none_iff_exists'.1 held
    have there := still placement before userId remote
    simp [removed, remote, release, reply_of_mem times before remote, there]

theorem absent_after {times : String → Datetime × Datetime}
    (returned : (outcome actor logicalUserId state (.reachable times)).raised = none)
    {placement : UserPlacement} {userId : String}
    (member : placement ∈ state.database.tables.placementsOf logicalUserId)
    (remote : placement.remoteUserId = some userId) :
    (attempt actor logicalUserId state (.reachable times)).present placement.nodeId userId =
      false := by
  obtain ⟨lu, rfl, retired⟩ := retired_of_returned returned
  have called : ∃ call ∈ (outcome actor lu.id state (.reachable times)).calls,
      call.nodeId = placement.nodeId ∧ deletes? call.operation = some userId := by
    rw [retired.called]
    refine ⟨⟨placement.nodeId, .deleteUser userId placement.orgId,
      (answers lu.id state (.reachable times) placement.nodeId).outcome fun _ => .done⟩,
      List.mem_flatMap.2 ⟨placement, member, ?_⟩, rfl, rfl⟩
    simp [removalCalls, remote, removal]
  simpa [attempt, carriedOut, Attempt.reachable] using fun _ => called

theorem not_quiet {times : String → Datetime × Datetime} {placement : UserPlacement}
    {userId : String} (member : placement ∈ state.database.tables.placementsOf logicalUserId)
    (remote : placement.remoteUserId = some userId)
    (absent : state.present placement.nodeId userId = false) :
    ¬ Quiet actor logicalUserId state (.reachable times) := by
  intro quiet
  obtain ⟨lu, rfl, retired⟩ := retired_of_returned quiet.returned
  obtain ⟨entries, logged, successes⟩ := quiet.audit
  rw [retired.tables, Isolation.retire_audit, List.append_cancel_left_eq] at logged
  obtain ⟨node, found, -⟩ := retired.removable placement member userId remote
  have refused := reply_of_mem times member remote
  rw [absent] at refused
  have entry : deprovisionEntry actor lu true node userId
      (answers lu.id state (.reachable times) placement.nodeId) ∈ entries := by
    rw [← logged]
    exact List.mem_filterMap.2 ⟨placement, member, by simp [Isolation.removalRecord, remote, found]⟩
  refine successes _ entry ?_
  simp [deprovisionEntry, refused]

theorem quiet_of_idle {times : String → Datetime × Datetime} {lu : LogicalUser}
    (found : state.database.tables.user? logicalUserId = some lu)
    (idle : ∀ placement ∈ state.database.tables.placementsOf logicalUserId,
      placement.remoteUserId = none) :
    Quiet actor logicalUserId state (.reachable times) := by
  have same := attempt_idle actor (.reachable times) idle
  rw [attempt_database] at same
  refine ⟨?_, by rw [same], [], by simp [same], by simp⟩
  rcases outcome_cases actor logicalUserId state (.reachable times) with ⟨-, -, stuck⟩ | ⟨_, -, retired⟩
  · obtain ⟨placement, member, unremovable⟩ := stuck lu found
    obtain rfl := Keyed.lookup_key found
    refine absurd (fun userId remote => ?_) unremovable
    rw [idle placement member] at remote
    cases remote
  · exact retired.committed

end Attempts

-- The first half asks of the nodes that no earlier attempt deleted a user there; both halves
-- together leave nothing to delete.
theorem converges_iff (actor logicalUserId : String) (state : State) (attempts : List Attempt)
    (times last : String → Datetime × Datetime)
    (returned : (outcome actor logicalUserId (retry actor logicalUserId state attempts)
      (.reachable times)).raised = none) :
    let retried := retry actor logicalUserId state attempts
    let done := attempt actor logicalUserId retried (.reachable times)
    (Settled logicalUserId done ↔
      ∀ placement ∈ retried.database.tables.placementsOf logicalUserId, ∀ userId,
        placement.remoteUserId = some userId →
          retried.present placement.nodeId userId = true) ∧
    (Settled logicalUserId done ∧ Quiet actor logicalUserId done (.reachable last) ↔
      ∀ placement ∈ state.database.tables.placementsOf logicalUserId,
        placement.remoteUserId = none) := by
  intro retried done
  refine ⟨settled_iff returned, ?_⟩
  constructor
  next =>
    rintro ⟨-, quiet⟩ placement member
    by_contra held
    obtain ⟨userId, remote⟩ := Option.ne_none_iff_exists'.1 held
    obtain ⟨middle, present, -, same⟩ :=
      retry_placement actor logicalUserId state attempts placement member
    obtain ⟨after, later, site, same'⟩ :=
      attempt_placement actor logicalUserId retried (.reachable times) middle present
    have absent := absent_after returned present (same.trans remote)
    rw [← site] at absent
    exact not_quiet later (same'.trans (same.trans remote)) absent quiet
  next =>
    intro idle
    have same := retry_idle actor attempts idle
    have idle' : ∀ placement ∈ retried.database.tables.placementsOf logicalUserId,
        placement.remoteUserId = none := by rwa [same]
    have same' := attempt_idle actor (.reachable times) idle'
    obtain ⟨lu, -, retired⟩ := retired_of_returned returned
    have found : done.database.tables.user? logicalUserId = some lu := by
      rw [same']
      exact retired.found
    have idle'' : ∀ placement ∈ done.database.tables.placementsOf logicalUserId,
        placement.remoteUserId = none := by rwa [same']
    exact ⟨fun after member held => absurd (idle'' after member) held, quiet_of_idle found idle''⟩

section Carol

open Isolation (site shimCredentials noon)

def placedAt (nodeId : String) (remoteUserId : Option String) (status : PlacementStatus) :
    UserPlacement :=
  { logicalUserId := "u1", nodeId := nodeId, orgId := "org-1", remoteUserId := remoteUserId,
    status := status }

def bothSites : State where
  database := {
    tables := ⟨[site "n1" shimCredentials, site "n2" shimCredentials], [⟨"u1", "carol", none⟩],
      [placedAt "n1" (some "usr-1") .active, placedAt "n2" (some "usr-2") .active], []⟩
    valid := by decide }
  present _ _ := true

def times : String → Datetime × Datetime := fun _ => (noon, noon)

def outage : Attempt where
  faults nodeId := if nodeId = "n2" then some ⟨"transport error", false⟩ else none
  times := times

-- The first attempt deletes the user on n1; the second, which reaches both nodes, is told there
-- that the user is gone.
theorem gone_stays :
    (attempt "ops" "u1" (retry "ops" "u1" bothSites [outage])
        (.reachable times)).database.tables.placements =
      [{ placedAt "n1" (some "usr-1") .revoked with lastError := some gone },
        placedAt "n2" (some "usr-2") .revoked] := by decide +kernel

theorem retry_not_settled :
    ¬ ∀ (state : State) (attempts : List Attempt) (last : String → Datetime × Datetime),
      (outcome "ops" "u1" (retry "ops" "u1" state attempts) (.reachable times)).raised = none →
        Settled "u1" (attempt "ops" "u1" (retry "ops" "u1" state attempts) (.reachable times)) ∧
          Quiet "ops" "u1" (attempt "ops" "u1" (retry "ops" "u1" state attempts)
            (.reachable times)) (.reachable last) := by
  intro converges
  have settled := (converges bothSites [outage] times (by decide +kernel)).1
  rw [Settled, Tables.placementsOf, gone_stays] at settled
  have clean := (settled _ (by decide +kernel : { placedAt "n1" (some "usr-1") .revoked with
    lastError := some gone } ∈ _) (by decide)).2
  cases clean

def pending : State where
  database := {
    tables := ⟨[site "n1" shimCredentials], [⟨"u1", "carol", none⟩],
      [placedAt "n1" none .pending], []⟩
    valid := by decide }
  present _ _ := true

theorem first_run_settles :
    Settled "u1" (attempt "ops" "u1" (retry "ops" "u1" bothSites []) (.reachable times)) ∧
      Quiet "ops" "u1" (attempt "ops" "u1" (retry "ops" "u1" pending [outage]) (.reachable times))
        (.reachable times) := by
  have both := converges_iff "ops" "u1" bothSites [] times times (by decide +kernel)
  have idle := converges_iff "ops" "u1" pending [outage] times times (by decide +kernel)
  exact ⟨both.1.2 fun _ _ _ _ => rfl, (idle.2.2 (by decide +kernel)).2⟩

end Carol

end Fleet.Retries
