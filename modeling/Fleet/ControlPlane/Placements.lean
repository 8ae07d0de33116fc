import Mathlib.Data.List.Infix
import Fleet.ControlPlane.Tracking

set_option autoImplicit false

namespace Fleet.Placements

open Db NodeAdapter Provisioning FanOut Sync Operations Execution

-- A node answered `create_user` with this id, and the log says so.
def Issued (audit : List (Datetime × AuditLog.Fields)) (nodeId remoteId : String) : Prop :=
  ∃ entry ∈ audit, entry.2.action = "provision_user" ∧ entry.2.result = "success" ∧
    entry.2.nodeId = some nodeId ∧ entry.2.targetId = some remoteId

structure Sound (audit : List (Datetime × AuditLog.Fields)) (placement : UserPlacement) :
    Prop where
  settled : placement.status ≠ .pending
  held : placement.status ∈ [.active, .revoked, .missing] → placement.remoteUserId ≠ none
  failed : placement.status = .failed → placement.lastError ≠ none
  issued : ∀ remoteId, placement.remoteUserId = some remoteId →
    Issued audit placement.nodeId remoteId

/-- The representation invariant of the placements. -/
structure Represented (tables : Tables) : Prop where
  unique : Keyed.Unique UserPlacement.key tables.placements
  sound : ∀ placement ∈ tables.placements, Sound tables.audit placement

structure Operation where
  request : Request
  -- One of its calls raises what no handler catches, which ends it before its commit.
  escapes : Bool

-- What an operation commits, state after state: a sweep after every node it visited.
def committed (database : Database) (operation : Operation) : List Database :=
  if operation.escapes then []
  else
    match operation.request with
    | .syncAll listings =>
        (database.tables.nodes.filter fun node => node.enabled).inits.tail.map fun nodes =>
          (sweep listings database nodes).2.2
    | request => [(handle database request).database]

def step (database : Database) (operation : Operation) : Option Database :=
  some ((committed database operation).getLastD database)

section Preservation

variable {tables : Tables}

theorem Issued.mono {audit : List (Datetime × AuditLog.Fields)} {nodeId remoteId : String}
    (issued : Issued audit nodeId remoteId) (entries : List (Datetime × AuditLog.Fields)) :
    Issued (audit ++ entries) nodeId remoteId := by
  obtain ⟨entry, member, about⟩ := issued
  exact ⟨entry, List.mem_append_left _ member, about⟩

theorem Sound.mono {audit : List (Datetime × AuditLog.Fields)} {placement : UserPlacement}
    (sound : Sound audit placement) (entries : List (Datetime × AuditLog.Fields)) :
    Sound (audit ++ entries) placement :=
  { sound with issued := fun remoteId held => (sound.issued remoteId held).mono entries }

-- The row an attempt leaves is sound once the entry of the attempt is in the log.
theorem settle_sound (actor username : String) {node : Node} {attempt : Attempt}
    {placement : UserPlacement} (site : placement.nodeId = node.id)
    (issued : ∀ remoteId, placement.remoteUserId = some remoteId →
      Issued tables.audit placement.nodeId remoteId) :
    Sound (tables.audit ++ [provisionEntry actor username node attempt])
      (settle attempt placement) := by
  unfold settle provisionEntry
  cases attempt.answer.reply with
  | ok userId =>
      refine ⟨by simp, by simp, by simp, fun remoteId held => ?_⟩
      obtain rfl := Option.some.inj held
      refine ⟨_, List.mem_append_right _ (List.mem_singleton_self _), rfl, rfl, ?_, rfl⟩
      exact congrArg some site.symm
  | error text =>
      exact ⟨by simp, by simp, by simp, fun remoteId held => (issued remoteId held).mono _⟩

theorem placementFor_issued (sound : ∀ placement ∈ tables.placements, Sound tables.audit placement)
    (lu : LogicalUser) (target : Target) (remoteId : String)
    (held : (placementFor lu tables target).remoteUserId = some remoteId) :
    Issued tables.audit (placementFor lu tables target).nodeId remoteId := by
  unfold placementFor at held ⊢
  cases found : tables.placement? lu.id target.nodeId with
  | none => simp [found, fresh] at held
  | some placement =>
      simp only [found, Option.getD_some] at held ⊢
      exact (sound placement (Keyed.mem_of_lookup found)).issued remoteId held

theorem advance_sound (sound : ∀ placement ∈ tables.placements, Sound tables.audit placement)
    (actor username : String) (lu : LogicalUser) (attempt : Attempt) :
    ∀ placement ∈ (advance actor username lu tables attempt).placements,
      Sound (advance actor username lu tables attempt).audit placement := by
  intro placement member
  unfold advance at member ⊢
  split at member
  next node found =>
    rcases Keyed.mem_upsert member with rfl | ⟨kept, -⟩
    · have site : (placementFor lu tables attempt.target).nodeId = node.id := by
        rw [Tables.node?_id found]
        exact (Prod.mk.inj (placementFor_key tables attempt.target)).2
      exact settle_sound actor username site (placementFor_issued sound lu attempt.target)
    · exact (sound placement kept).mono _
  · exact sound placement member

theorem release_sound {audit : List (Datetime × AuditLog.Fields)} {placement : UserPlacement}
    (sound : Sound audit placement) {userId : String}
    (held : placement.remoteUserId = some userId) (answer : Answer Unit) :
    Sound audit (release answer placement) := by
  unfold release
  split
  · exact ⟨by simp, by simp [held], by simp, sound.issued⟩
  · exact ⟨sound.settled, sound.held, by simp, sound.issued⟩

theorem retire_sound (sound : ∀ placement ∈ tables.placements, Sound tables.audit placement)
    (actor : String) (lu : LogicalUser) (hard : Bool) (answers : String → Answer Unit)
    {loaded : UserPlacement} (known : Sound tables.audit loaded) :
    ∀ placement ∈ (retire actor lu hard answers tables loaded).placements,
      Sound (retire actor lu hard answers tables loaded).audit placement := by
  intro placement member
  unfold retire at member ⊢
  split at member
  next node userId _ held =>
    rcases Keyed.mem_upsert member with rfl | ⟨kept, -⟩
    · exact release_sound (known.mono _) held _
    · exact (sound placement kept).mono _
  · exact sound placement member

theorem observe_sound {audit : List (Datetime × AuditLog.Fields)} {placement : UserPlacement}
    (sound : Sound audit placement) (users : List UserInfo) (now : Datetime) :
    Sound audit (observe users now placement) := by
  unfold observe
  split
  · exact ⟨sound.settled, sound.held, sound.failed, sound.issued⟩
  next userId tracked =>
    have held : placement.remoteUserId = some userId := (Option.filter_eq_some_iff.1 tracked).1
    split
    · exact ⟨by simp, by simp [held], by simp, sound.issued⟩
    · exact ⟨by simp, by simp [held], by simp, sound.issued⟩

end Preservation

section Requests

variable {database : Database}

theorem advanced_sound {tables : Tables}
    (sound : ∀ placement ∈ tables.placements, Sound tables.audit placement)
    (actor username : String) (lu : LogicalUser) (attempts : List Attempt) :
    ∀ placement ∈ (attempts.foldl (advance actor username lu) tables).placements,
      Sound (attempts.foldl (advance actor username lu) tables).audit placement := by
  induction attempts generalizing tables with
  | nil => exact sound
  | cons attempt rest ih => exact ih (advance_sound sound actor username lu attempt)

theorem retire_audit_grows (actor : String) (lu : LogicalUser) (hard : Bool)
    (answers : String → Answer Unit) (tables : Tables) (placement : UserPlacement) :
    ∃ entries, (retire actor lu hard answers tables placement).audit = tables.audit ++ entries := by
  unfold retire
  split
  · exact ⟨_, rfl⟩
  · exact ⟨[], (List.append_nil _).symm⟩

theorem retired_sound {tables : Tables}
    (sound : ∀ placement ∈ tables.placements, Sound tables.audit placement) (actor : String)
    (lu : LogicalUser) (hard : Bool) (answers : String → Answer Unit)
    {loaded : List UserPlacement} (known : ∀ placement ∈ loaded, Sound tables.audit placement) :
    ∀ placement ∈ (loaded.foldl (retire actor lu hard answers) tables).placements,
      Sound (loaded.foldl (retire actor lu hard answers) tables).audit placement := by
  induction loaded generalizing tables with
  | nil => exact sound
  | cons head rest ih =>
      obtain ⟨first, later⟩ := List.forall_mem_cons.1 known
      refine ih (retire_sound sound actor lu hard answers first) fun placement member => ?_
      -- The rest was loaded before the head was written back; its entries are still in the log.
      obtain ⟨entries, grown⟩ := retire_audit_grows actor lu hard answers tables head
      rw [grown]
      exact (later placement member).mono entries

theorem provision_represented (represented : Represented database.tables)
    (actor username : String) (email : Option String) (newId : String) (attempts : List Attempt) :
    Represented (provision database actor username email newId attempts).database.tables := by
  refine ⟨(provision database actor username email newId attempts).database.valid.placements, ?_⟩
  rcases provision_cases database actor username email newId attempts with
    ⟨-, same, -⟩ | ⟨lu, after, -, completed⟩
  · rw [same]
    exact represented.sound
  · rw [completed.tables]
    apply advanced_sound
    rw [completed.identified.placements, completed.identified.audit]
    exact represented.sound

theorem deprovision_represented (represented : Represented database.tables)
    (actor logicalUserId : String) (hard : Bool) (answers : String → Answer Unit) :
    Represented (deprovision database actor logicalUserId hard answers).database.tables := by
  refine ⟨(deprovision database actor logicalUserId hard answers).database.valid.placements, ?_⟩
  rcases deprovision_cases database actor logicalUserId hard answers with
    ⟨-, same, -⟩ | ⟨lu, retired⟩
  · rw [same]
    exact represented.sound
  · rw [retired.tables]
    apply retired_sound represented.sound
    exact fun placement member => represented.sound placement (List.mem_filter.1 member).1

theorem observed_represented {tables : Tables} (represented : Represented tables)
    (users : List UserInfo) (now : Datetime) (nodeId : String) :
    Represented (observed users now tables nodeId) where
  unique := by
    rw [Keyed.Unique, map_key_observed]
    exact represented.unique
  sound := by
    intro placement member
    obtain ⟨old, present, rfl⟩ := List.mem_map.1 member
    have before := represented.sound old present
    split
    · exact observe_sound before users now
    · exact before

theorem syncNode_represented (represented : Represented database.tables) {next : Database}
    {node : Node} {listing : Listing} {calls : List Call} {report : NodeSyncReport}
    (swept : syncNode database node listing = (calls, .ok (report, next))) :
    Represented next.tables := by
  rcases syncNode_ok swept with ⟨users, -, -, tables⟩ | ⟨_, _, -, rfl⟩
  · rw [tables]
    exact observed_represented represented users listing.now node.id
  · exact represented

theorem sweep_represented (represented : Represented database.tables)
    (listings : String → Listing) (nodes : List Node) :
    Represented (sweep listings database nodes).2.2.tables := by
  induction nodes generalizing database with
  | nil => exact represented
  | cons node rest ih =>
      rw [sweep]
      split
      next swept => exact ih (syncNode_represented represented swept)
      · exact ih represented

theorem syncOne_represented (represented : Represented database.tables) (nodeId : String)
    (listing : Listing) : Represented (syncOne database nodeId listing).database.tables := by
  unfold syncOne
  split
  · exact represented
  · split
    next swept => exact syncNode_represented represented swept
    · exact represented

theorem identityProfiles_unchanged (database : Database) (logicalUserId : String)
    (answers : String → Except String ByteArray) :
    (handle database (.identityProfiles logicalUserId answers)).database = database := by
  unfold handle
  dsimp only
  split <;> rfl

theorem handle_represented (represented : Represented database.tables) (request : Request) :
    Represented (handle database request).database.tables := by
  cases request with
  | provision actor username email newId attempts =>
      exact provision_represented represented actor username email newId attempts
  | deprovision actor logicalUserId hard answers =>
      exact deprovision_represented represented actor logicalUserId hard answers
  | identityProfiles logicalUserId answers =>
      rw [identityProfiles_unchanged]
      exact represented
  | syncOne nodeId listing => exact syncOne_represented represented nodeId listing
  | syncAll listings => exact sweep_represented represented listings _

theorem committed_step (represented : Represented database.tables) (operation : Operation) :
    ∀ state ∈ committed database operation, Represented state.tables := by
  intro state member
  obtain ⟨request, escapes⟩ := operation
  cases escapes with
  | true => cases member
  | false =>
      cases request with
      | syncAll listings =>
          obtain ⟨nodes, -, rfl⟩ := List.mem_map.1 member
          exact sweep_represented represented listings nodes
      | _ =>
          obtain rfl := List.mem_singleton.1 member
          exact handle_represented represented _

end Requests

section Runs

-- Where nothing escapes, the last state an operation commits is what it leaves.
theorem step_of_handle (database : Database) (request : Request) :
    step database ⟨request, false⟩ = Operations.step database request := by
  cases request with
  | syncAll listings =>
      unfold step committed Operations.step
      simp only [Bool.false_eq_true, if_false, handle, syncAll]
      generalize database.tables.nodes.filter (fun node => node.enabled) = nodes
      rcases nodes.eq_nil_or_concat' with rfl | ⟨first, last, rfl⟩
      · rfl
      · have visited : (first ++ [last]).inits.tail = first.inits.tail ++ [first ++ [last]] := by
          rw [List.inits_append, List.tail_append_of_ne_nil (by cases first <;> simp)]
          rfl
        rw [visited, List.map_append, List.map_singleton, List.getLastD_concat]
  | _ => rfl

theorem step_represented (database : Database) (operation : Operation) (next : Database)
    (represented : Represented database.tables) (taken : step database operation = some next) :
    Represented next.tables := by
  obtain rfl := Option.some.inj taken
  rw [List.getLastD_eq_getLast?]
  cases last : (committed database operation).getLast? with
  | none => exact represented
  | some state => exact committed_step represented operation state (List.mem_of_getLast? last)

theorem committed_represented (initial : Database) (operations : List Operation)
    (final : Database) (empty : initial.tables.placements = [])
    (reached : run step initial operations = some final) (operation : Operation) :
    ∀ state ∈ committed final operation, Represented state.tables := by
  have start : Represented initial.tables := ⟨initial.valid.placements, by simp [empty]⟩
  have represented : Represented final.tables :=
    run_preserves (fun database => Represented database.tables) step_represented start reached
  exact committed_step represented operation

end Runs

section Outages

open Tracking

-- The second site refuses, a sweep finds carol on the first, and removing her escapes once.
def outages : List Operation := [
  ⟨provisionCarol [target "n1" (.ok "usr-1"), target "n2" (.error "node shim 503")], false⟩,
  ⟨.syncAll fun _ => ⟨.ok [{ id := "usr-1", name := "carol" }], noon⟩, false⟩,
  ⟨deleteCarol, true⟩]

theorem outages_represented : ∃ final, run step sites outages = some final ∧
    ∀ state ∈ committed final ⟨deleteCarol, false⟩, Represented state.tables :=
  ⟨_, rfl, committed_represented sites outages _ rfl rfl ⟨deleteCarol, false⟩⟩

end Outages

end Fleet.Placements
