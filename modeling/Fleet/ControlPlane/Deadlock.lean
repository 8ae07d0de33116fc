import Fleet.ControlPlane.DeprovisionLoop
import Fleet.ControlPlane.EventLoop
import Fleet.ControlPlane.ProvisionLoop

set_option autoImplicit false

namespace Fleet.Deadlock

open Db NodeAdapter Provisioning Sync EventLoop Execution

/-- The running task waits for a lock of a suspended task's transaction. -/
def Deadlocked (world : World) : Prop :=
  ∃ t lock u task, world.waiting = some (t, lock) ∧ u ≠ t ∧ world.tasks[u]? = some task ∧
    lock ∈ task.locks

/-- The call has appended its audit entry for the node. -/
def Recorded (call : OpenCall) (nodeId : String) : Prop :=
  ∃ entry ∈ call.work.writes.audit, entry.2.nodeId = some nodeId

/-- The call fills in the email of its user and has appended an audit entry since. -/
def Readdressed (call : OpenCall) : Prop :=
  call.readdresses = true ∧ call.work.writes.audit ≠ []

-- What may not stand between the step of a task and another open call.
def Apart (committed : Database) (task : Task) (event : Event) (other : OpenCall) : Prop :=
  match task, event with
  | .ready, .provision _ username email _ targets =>
      match Keyed.lookup LogicalUser.username username committed.tables.users with
      | none => other.lu.username ≠ username
      | some existing =>
          email.getD "" ≠ "" → existing.email.getD "" = "" →
            (∀ target ∈ targets, committed.tables.node? target.nodeId = none) →
              other.lu.id = existing.id → ¬ Readdressed other
  | .calling call _ node _, _ =>
      other.lu.id = call.lu.id →
        ¬ Recorded other node.id ∧ (call.work.address ≠ none → ¬ Readdressed other)
  | .listed _ node loaded (some _), .closed =>
      ∀ placement ∈ loaded, other.lu.id = placement.logicalUserId → ¬ Recorded other node.id
  | _, _ => True

instance (call : OpenCall) (nodeId : String) : Decidable (Recorded call nodeId) :=
  inferInstanceAs (Decidable (∃ entry ∈ _, _))

instance (call : OpenCall) : Decidable (Readdressed call) :=
  decidable_of_iff (call.readdresses = true ∧ call.work.writes.audit.isEmpty = false)
    (by simp [Readdressed])

instance (committed : Database) (task : Task) (event : Event) (other : OpenCall) :
    Decidable (Apart committed task event other) := by
  unfold Apart
  split
  · split <;> infer_instance
  all_goals infer_instance

def Clear (world : World) (label : Nat × Event) : Prop :=
  ∀ task ∈ world.tasks[label.1]?, ∀ other ∈ world.tasks.eraseIdx label.1, ∀ call ∈ other.call?,
    Apart world.committed task label.2 call

instance (world : World) (label : Nat × Event) : Decidable (Clear world label) :=
  inferInstanceAs (Decidable (∀ task ∈ _, _))

-- Why an open call can hold a lock.
def Justifies (call : OpenCall) : Lock → Prop
  | .username name => call.lu.username = name
  | .logicalUser id => call.lu.id = id ∧ Readdressed call
  | .placement userId nodeId => call.lu.id = userId ∧ Recorded call nodeId
  | .node _ => False

structure Grounded (call : OpenCall) : Prop where
  inserted : ∀ user ∈ call.work.writes.inserted, user.username = call.lu.username
  readdressed : ∀ user ∈ call.work.writes.readdressed, user.id = call.lu.id ∧ Readdressed call
  placements : ∀ row ∈ call.work.writes.placements,
    row.logicalUserId = call.lu.id ∧ Recorded call row.nodeId
  address : ∀ user, call.work.address = some user → user.id = call.lu.id ∧ call.readdresses = true

/-- No target of the jobs has a node to ask. -/
def Unregistered (committed : Database) (jobs : List Job) : Prop :=
  ∀ actor username email target, Job.create actor username email target ∈ jobs →
    committed.tables.node? target.nodeId = none

def Owned (lu : LogicalUser) (jobs : List Job) : Prop :=
  ∀ actor hard placement, Job.remove actor hard placement ∈ jobs → placement.logicalUserId = lu.id

def Sited (call : OpenCall) (job : Job) (node : Node) (loaded : Option UserPlacement) : Prop :=
  job.nodeId = node.id ∧ (∀ row, loaded = some row → row.key = (call.lu.id, node.id)) ∧
    ∀ actor hard placement, job = .remove actor hard placement → loaded = some placement

def TaskGrounded : Task → Prop
  | .calling call job node loaded =>
      Grounded call ∧ Owned call.lu call.rest ∧ Sited call job node loaded
  | .closing call => Grounded call ∧ Owned call.lu call.rest ∧ call.work.address = none
  | .listing _ node loaded | .listed _ node loaded _ =>
      ∀ placement ∈ loaded, placement.nodeId = node.id
  | .ready | .finished => True

theorem Grounded.justifies {call : OpenCall} (grounded : Grounded call) :
    ∀ lock ∈ call.work.writes.locks, Justifies call lock := by
  intro lock held
  simp only [Writes.locks, List.mem_append, List.mem_map] at held
  rcases held with (⟨user, member, rfl⟩ | ⟨user, member, rfl⟩) | ⟨row, member, rfl⟩
  · exact (grounded.inserted user member).symm
  · obtain ⟨same, readdressed⟩ := grounded.readdressed user member
    exact ⟨same.symm, readdressed⟩
  · obtain ⟨same, recorded⟩ := grounded.placements row member
    exact ⟨same.symm, recorded⟩

section Segments

variable {locked : List Lock → Option Lock} {committed : Database}

/-- A lock that is refused is requested, and held by an open call apart from the step. -/
def Blocking (locked : List Lock → Option Lock) (apart : OpenCall → Prop) : Prop :=
  ∀ requests lock, locked requests = some lock →
    lock ∈ requests ∧ ∃ call, Justifies call lock ∧ apart call

theorem Blocking.free {apart : OpenCall → Prop} (blocking : Blocking locked apart)
    {requests : List Lock}
    (unheld : ∀ lock ∈ requests, ∀ other, Justifies other lock → ¬ apart other) :
    locked requests = none := by
  cases waits : locked requests with
  | none => rfl
  | some lock =>
      obtain ⟨requested, other, justified, apart⟩ := blocking requests lock waits
      exact absurd apart (unheld lock requested other justified)

theorem Blocking.nothing {apart : OpenCall → Prop} (blocking : Blocking locked apart) :
    locked [] = none :=
  blocking.free fun _ requested => absurd requested List.not_mem_nil

def Runs (segment : Segment) : Prop :=
  ∃ after task, segment = .ran after task ∧ TaskGrounded task

theorem runs_finished (after : Database) : Runs (.ran after .finished) :=
  ⟨after, .finished, rfl, trivial⟩

theorem await_runs {call : OpenCall} {job : Job} {node : Node} {loaded : Option UserPlacement}
    (grounded : Grounded call) (owned : Owned call.lu call.rest)
    (sited : Sited call job node loaded) : Runs (call.await committed job node loaded) := by
  unfold OpenCall.await
  split
  · exact runs_finished committed
  · split
    · exact ⟨_, _, rfl, grounded, owned, sited⟩
    · exact runs_finished committed

theorem finish_runs {work : Work}
    (free : locked (work.address.map fun user => Lock.logicalUser user.id).toList = none) :
    Runs (work.finish locked committed) := by
  unfold Work.finish
  rw [free]
  dsimp only
  split <;> exact runs_finished _

theorem Grounded.of_same {call next : OpenCall} (grounded : Grounded call) (lu : next.lu = call.lu)
    (readdresses : next.readdresses = call.readdresses)
    (writes : next.work.writes = call.work.writes)
    (address : next.work.address = call.work.address) : Grounded next := by
  constructor
  · rw [writes, lu]
    exact grounded.inserted
  · rw [writes, lu, Readdressed, readdresses, writes]
    exact grounded.readdressed
  · simp only [writes, lu, Recorded]
    exact grounded.placements
  · rw [address, lu, readdresses]
    exact grounded.address

theorem visible_key {work : Work} {userId nodeId : String} {row : UserPlacement}
    (found : work.visible committed userId nodeId = some row) : row.key = (userId, nodeId) := by
  unfold Work.visible at found
  rcases Option.or_eq_some_iff.1 found with known | ⟨-, stored⟩
  · exact Keyed.lookup_key known
  · exact Tables.placement?_key stored

theorem skipped {actor : String} {hard : Bool} {placement : UserPlacement} {rest : List Job}
    (unregistered : Unregistered committed rest) :
    Unregistered committed (.remove actor hard placement :: rest) := by
  intro other name address site member
  rcases List.mem_cons.1 member with same | later
  · cases same
  · exact unregistered other name address site later

-- The commit at the end of the loop flushes an email only if no target was asked for.
theorem advance_runs {call : OpenCall} {jobs : List Job} (grounded : Grounded call)
    (owned : Owned call.lu jobs)
    (free : Unregistered committed jobs →
      locked (call.work.address.map fun user => Lock.logicalUser user.id).toList = none) :
    Runs (call.advance locked committed jobs) := by
  induction jobs generalizing call with
  | nil => exact finish_runs (free (by simp [Unregistered]))
  | cons job rest ih =>
      have ownedRest : Owned call.lu rest := fun actor hard placement member =>
        owned actor hard placement (List.mem_cons_of_mem _ member)
      unfold OpenCall.advance
      split
      next actor username email target node found =>
        refine await_runs (grounded.of_same rfl rfl rfl rfl) ownedRest ⟨?_, ?_, nofun⟩
        · exact (Tables.node?_id found).symm
        · intro row loaded
          rw [visible_key loaded, Tables.node?_id found]
          rfl
      next actor username email target missing =>
        refine ih (grounded.of_same rfl rfl rfl rfl) ownedRest fun unregistered => free ?_
        intro other name address site member
        rcases List.mem_cons.1 member with same | later
        · obtain ⟨-, -, -, rfl⟩ := Job.create.inj same
          exact missing
        · exact unregistered other name address site later
      next actor hard placement node found =>
        split
        · exact ih grounded ownedRest fun unregistered => free (skipped unregistered)
        · refine await_runs (grounded.of_same rfl rfl rfl rfl) ownedRest ⟨?_, ?_, ?_⟩
          · exact (Tables.node?_id found).symm
          · rintro row loaded
            obtain rfl := Option.some.inj loaded
            rw [UserPlacement.key, owned actor hard placement List.mem_cons_self,
              Tables.node?_id found]
            rfl
          · intro actor hard placement same
            obtain ⟨-, -, rfl⟩ := Job.remove.inj same
            rfl
      next actor hard placement _ =>
        exact ih grounded ownedRest fun unregistered => free (skipped unregistered)

theorem mem_requests {work : Work} {loaded : Option UserPlacement} {assigned : UserPlacement}
    {lock : Lock} (requested : lock ∈ requests committed work loaded assigned) :
    (∃ user, work.address = some user ∧ lock = .logicalUser user.id) ∨ lock = lockOf assigned := by
  rcases List.mem_append.1 requested with address | row
  · left
    cases assignedEmail : work.address with
    | none => simp [assignedEmail] at address
    | some user => exact ⟨user, rfl, by simpa [assignedEmail] using address⟩
  · right
    split at row <;> split at row <;> simp_all

theorem version_key {work : Work} {loaded : Option UserPlacement} {assigned row : UserPlacement}
    (written : version committed work loaded assigned = some row)
    (same : ∀ clean, loaded = some clean → clean.key = assigned.key) : row.key = assigned.key := by
  unfold version at written
  split at written
  · exact (Option.some.inj written) ▸ rfl
  next clean =>
    split at written
    · cases written
    · obtain rfl := Option.some.inj written
      cases known : (Keyed.lookup UserPlacement.key assigned.key work.writes.placements).or
          (stored? committed assigned) with
      | none => exact same clean rfl
      | some current =>
          rw [merge_key, Option.getD_some]
          rcases Option.or_eq_some_iff.1 known with own | ⟨-, stored⟩
          · exact Keyed.lookup_key own
          · exact Keyed.lookup_key stored

theorem recorded_append {call next : OpenCall} {entry : Datetime × AuditLog.Fields}
    (audit : next.work.writes.audit = call.work.writes.audit ++ [entry]) {nodeId : String}
    (recorded : Recorded call nodeId) : Recorded next nodeId := by
  obtain ⟨old, member, site⟩ := recorded
  exact ⟨old, audit ▸ List.mem_append_left _ member, site⟩

-- What a flush adds is justified by the entry it adds with it.
theorem Grounded.flushed {call : OpenCall} {loaded : Option UserPlacement}
    {assigned : UserPlacement} {entry : Datetime × AuditLog.Fields} {nodeId : String}
    (grounded : Grounded call) (key : assigned.key = (call.lu.id, nodeId))
    (same : ∀ clean, loaded = some clean → clean.key = assigned.key)
    (site : entry.2.nodeId = some nodeId) :
    Grounded { call with work := call.work.flushed committed loaded assigned entry } := by
  have recorded : Recorded { call with work := call.work.flushed committed loaded assigned entry }
      nodeId := ⟨entry, List.mem_append_right _ (List.mem_singleton_self _), site⟩
  have kept (other : String) (old : Recorded call other) :
      Recorded { call with work := call.work.flushed committed loaded assigned entry } other :=
    recorded_append rfl old
  have nonempty : (call.work.flushed committed loaded assigned entry).writes.audit ≠ [] := by
    simp [Work.flushed]
  refine ⟨grounded.inserted, fun user member => ?_, fun row member => ?_, nofun⟩
  · rcases List.mem_append.1 member with old | new
    · obtain ⟨mine, readdresses, -⟩ := grounded.readdressed user old
      exact ⟨mine, readdresses, nonempty⟩
    · obtain ⟨mine, readdresses⟩ := grounded.address user (by simpa using new)
      exact ⟨mine, readdresses, nonempty⟩
  · have old (member : row ∈ call.work.writes.placements) :
        row.logicalUserId = call.lu.id ∧
          Recorded { call with work := call.work.flushed committed loaded assigned entry }
            row.nodeId :=
      ⟨(grounded.placements row member).1, kept _ (grounded.placements row member).2⟩
    unfold Work.flushed at member
    dsimp only at member
    cases written : version committed call.work loaded assigned with
    | none =>
        rw [written] at member
        exact old member
    | some next =>
        rw [written] at member
        rcases Keyed.mem_upsert member with rfl | ⟨member, -⟩
        · obtain ⟨mine, here⟩ := Prod.mk.inj ((version_key written same).trans key)
          exact ⟨mine, here ▸ recorded⟩
        · exact old member

-- An answer asks for the email's row and the placement's, and nobody else has written them.
theorem requests_free {call : OpenCall} {loaded : Option UserPlacement} {assigned : UserPlacement}
    {nodeId : String} (grounded : Grounded call) (key : assigned.key = (call.lu.id, nodeId))
    (blocking : Blocking locked fun other => other.lu.id = call.lu.id →
      ¬ Recorded other nodeId ∧ (call.work.address ≠ none → ¬ Readdressed other)) :
    locked (requests committed call.work loaded assigned) = none := by
  refine blocking.free fun lock requested other justified apart => ?_
  rcases mem_requests requested with ⟨user, address, rfl⟩ | rfl
  · obtain ⟨same, readdressed⟩ := justified
    have mine := (grounded.address user address).1
    exact (apart (same.trans mine)).2 (by simp [address]) readdressed
  · obtain ⟨same, recorded⟩ := justified
    obtain ⟨mine, here⟩ := Prod.mk.inj key
    exact (apart (same.trans mine)).1 (here ▸ recorded)

theorem record_runs {call : OpenCall} {loaded : Option UserPlacement}
    {assigned : UserPlacement} {entry : Datetime × AuditLog.Fields} {nodeId : String}
    (grounded : Grounded call) (owned : Owned call.lu call.rest)
    (keyed : ∀ row, loaded = some row → row.key = (call.lu.id, nodeId))
    (key : assigned.key = (call.lu.id, nodeId)) (site : entry.2.nodeId = some nodeId)
    (blocking : Blocking locked fun other => other.lu.id = call.lu.id →
      ¬ Recorded other nodeId ∧ (call.work.address ≠ none → ¬ Readdressed other)) :
    Runs (call.record locked committed loaded assigned entry) := by
  unfold OpenCall.record
  rw [requests_free grounded key blocking]
  dsimp only
  split
  · exact runs_finished committed
  · have same (clean : UserPlacement) (found : loaded = some clean) : clean.key = assigned.key :=
      (keyed clean found).trans key.symm
    exact ⟨_, _, rfl, grounded.flushed key same site, owned, rfl⟩

theorem call_runs {call : OpenCall} {job : Job} {node : Node} {loaded : Option UserPlacement}
    {event : Event} {segment : Segment} (grounded : Grounded call)
    (owned : Owned call.lu call.rest) (sited : Sited call job node loaded)
    (blocking : Blocking locked fun other => other.lu.id = call.lu.id →
      ¬ Recorded other node.id ∧ (call.work.address ≠ none → ¬ Readdressed other))
    (taken : call.resume locked committed node loaded job event = some segment) :
    Runs segment := by
  obtain ⟨here, keyed, loads⟩ := sited
  unfold OpenCall.resume at taken
  split at taken
  next actor username email target answer =>
    obtain rfl := Option.some.inj taken
    refine record_runs grounded owned keyed ?_ ?_ blocking
    · rw [FanOut.settle_key]
      cases found : loaded with
      | none => exact congrArg (Prod.mk call.lu.id) here
      | some row => exact keyed row found
    · unfold provisionEntry
      dsimp only
      split <;> rfl
  next actor hard placement answer =>
    obtain rfl := Option.some.inj taken
    refine record_runs grounded owned keyed ?_ ?_ blocking
    · rw [FanOut.release_key]
      exact keyed placement (loads actor hard placement rfl)
    · unfold deprovisionEntry
      dsimp only
      split <;> rfl
  · cases taken

theorem grounded_start {call : OpenCall} (readdressed : call.work.writes.readdressed = [])
    (placements : call.work.writes.placements = [])
    (inserted : ∀ user ∈ call.work.writes.inserted, user.username = call.lu.username)
    (address : ∀ user, call.work.address = some user →
      user.id = call.lu.id ∧ call.readdresses = true) : Grounded call where
  inserted := inserted
  readdressed := by simp [readdressed]
  placements := by simp [placements]
  address := address

theorem unowned (actor username : String) (email : Option String) (targets : List Target)
    (lu : LogicalUser) : Owned lu (targets.map (.create actor username email)) := by
  intro other hard placement member
  obtain ⟨target, -, same⟩ := List.mem_map.1 member
  cases same

theorem startProvision_runs {actor username newId : String} {email : Option String}
    {targets : List Target}
    (blocking : Blocking locked
      (Apart committed .ready (.provision actor username email newId targets))) :
    Runs (startProvision locked committed actor username email newId targets) := by
  unfold startProvision
  dsimp only
  cases known : Keyed.lookup LogicalUser.username username committed.tables.users with
  | some existing =>
      dsimp only
      split
      next fills =>
        have grounded : Grounded
            { lu := { existing with email := email }, readdresses := true,
              work := { address := some { existing with email := email } } } :=
          grounded_start rfl rfl (by simp) fun user same => by simp [← Option.some.inj same]
        refine advance_runs grounded (unowned actor username email targets _) fun missing => ?_
        refine blocking.free fun lock requested other justified apart => ?_
        obtain rfl := List.mem_singleton.1 requested
        simp only [Apart, known] at apart
        refine apart fills.1 fills.2 (fun target member => ?_) justified.1 justified.2
        exact missing actor username email target (List.mem_map_of_mem member)
      next =>
        exact advance_runs (grounded_start rfl rfl (by simp) (by simp))
          (unowned actor username email targets _) fun _ => blocking.nothing
  | none =>
      have free : locked [.username username] = none := by
        refine blocking.free fun lock requested other justified apart => ?_
        obtain rfl := List.mem_singleton.1 requested
        simp only [Apart, known] at apart
        exact apart justified
      rw [free]
      dsimp only
      split
      · exact runs_finished committed
      · exact advance_runs (grounded_start rfl rfl (by simp) (by simp))
          (unowned actor username email targets _) fun _ => blocking.nothing

theorem startDeprovision_runs {actor logicalUserId : String} {hard : Bool}
    {apart : OpenCall → Prop} (blocking : Blocking locked apart) :
    Runs (startDeprovision locked committed actor logicalUserId hard) := by
  unfold startDeprovision
  split
  · exact runs_finished committed
  next lu found =>
    refine advance_runs (grounded_start rfl rfl (by simp) (by simp)) ?_ fun _ => blocking.nothing
    intro other method placement member
    obtain ⟨row, held, same⟩ := List.mem_map.1 member
    obtain ⟨-, -, rfl⟩ := Job.remove.inj same
    simpa [Tables.placementsOf] using (List.mem_filter.1 held).2

theorem next_grounded (isolates : Bool) (nodes : List Node) :
    TaskGrounded (Sweep.next committed isolates nodes) := by
  induction nodes with
  | nil => trivial
  | cons node rest ih =>
      unfold Sweep.next
      split
      · split
        · exact ih
        · trivial
      · split
        · intro placement member
          simpa [placementsOn] using (List.mem_filter.1 member).2
        · split
          · exact ih
          · trivial

-- The commit of a sweep writes rows of its node only.
theorem commit_runs {sweep : Sweep} {node : Node} {loaded : List UserPlacement}
    {users : List UserInfo} {now : Datetime}
    (here : ∀ placement ∈ loaded, placement.nodeId = node.id)
    (blocking : Blocking locked fun other => ∀ placement ∈ loaded,
      other.lu.id = placement.logicalUserId → ¬ Recorded other node.id) :
    Runs (sweep.commit locked committed node loaded users now) := by
  have free : locked (observations users now node loaded) = none := by
    refine blocking.free fun lock requested other justified apart => ?_
    rcases List.mem_append.1 requested with row | site
    · obtain ⟨placement, changes, rfl⟩ := List.mem_map.1 row
      have member := (List.mem_filter.1 changes).1
      obtain ⟨same, recorded⟩ := justified
      exact apart placement member same (here placement member ▸ recorded)
    · split at site
      · cases site
      · obtain rfl := List.mem_singleton.1 site
        exact justified
  unfold Sweep.commit
  rw [free]
  exact ⟨_, _, rfl, next_grounded _ _⟩

theorem resume_runs {task : Task} {event : Event} {segment : Segment}
    (grounded : TaskGrounded task) (blocking : Blocking locked (Apart committed task event))
    (taken : resume locked committed task event = some segment) : Runs segment := by
  unfold resume at taken
  split at taken
  next actor username email newId targets =>
    exact Option.some.inj taken ▸ startProvision_runs blocking
  next actor logicalUserId hard =>
    exact Option.some.inj taken ▸ startDeprovision_runs blocking
  next nodeId =>
    exact Option.some.inj taken ▸ ⟨_, _, rfl, next_grounded _ _⟩
  next =>
    exact Option.some.inj taken ▸ ⟨_, _, rfl, next_grounded _ _⟩
  next call job node loaded =>
    obtain ⟨sound, owned, sited⟩ := grounded
    exact call_runs sound owned sited blocking taken
  next call =>
    obtain ⟨sound, owned, settled⟩ := grounded
    refine Option.some.inj taken ▸ advance_runs sound owned fun _ => ?_
    rw [settled]
    exact blocking.nothing
  next sweep node loaded listing =>
    exact Option.some.inj taken ▸ ⟨_, _, rfl, grounded⟩
  next sweep node loaded users now =>
    exact Option.some.inj taken ▸ commit_runs grounded blocking
  next sweep node loaded =>
    exact Option.some.inj taken ▸ ⟨_, _, rfl, next_grounded _ _⟩
  · cases taken

end Segments

structure Sound (world : World) : Prop where
  running : world.waiting = none
  tasks : ∀ task ∈ world.tasks, TaskGrounded task

theorem TaskGrounded.call {task : Task} {call : OpenCall} (grounded : TaskGrounded task)
    (suspended : task.call? = some call) : Grounded call := by
  cases task with
  | calling _ _ _ _ => exact Option.some.inj suspended ▸ grounded.1
  | closing _ => exact Option.some.inj suspended ▸ grounded.1
  | _ => cases suspended

theorem mem_locks {task : Task} {lock : Lock} :
    lock ∈ task.locks ↔ ∃ call, task.call? = some call ∧ lock ∈ call.work.writes.locks := by
  cases suspended : task.call? <;> simp [Task.locks, suspended]

theorem blocking_of_clear {world : World} {t : Nat} {event : Event} {task : Task}
    (sound : Sound world) (clear : Clear world (t, event)) (found : world.tasks[t]? = some task) :
    Blocking (world.locked t) (Apart world.committed task event) := by
  intro requests lock waits
  obtain ⟨u, other, distinct, there, held⟩ := RowLocks.firstHeld_held waits
  obtain ⟨call, suspended, holds⟩ := mem_locks.1 held
  have grounded := sound.tasks other (List.mem_of_getElem? there)
  have elsewhere := List.mem_eraseIdx_iff_getElem?.2 ⟨u, distinct, there⟩
  exact ⟨RowLocks.firstHeld_mem waits, call, (grounded.call suspended).justifies lock holds,
    clear task found other elsewhere call suspended⟩

theorem step_sound {world next : World} {label : Nat × Event} (sound : Sound world)
    (clear : Clear world label) (taken : step world label = some next) : Sound next := by
  unfold step at taken
  rw [sound.running] at taken
  obtain ⟨task, found, taken⟩ := Option.bind_eq_some_iff.1 taken
  obtain ⟨segment, resumed, rfl⟩ := Option.map_eq_some_iff.1 taken
  obtain ⟨after, reached, rfl, grounded⟩ :=
    resume_runs (sound.tasks task (List.mem_of_getElem? found))
      (blocking_of_clear sound clear found) resumed
  refine ⟨rfl, fun other member => ?_⟩
  rcases List.mem_or_eq_of_mem_set member with old | rfl
  · exact sound.tasks other old
  · exact grounded

theorem initial_sound (committed : Database) (count : Nat) : Sound (initial committed count) := by
  refine ⟨rfl, fun task member => ?_⟩
  rw [List.eq_of_mem_replicate member]
  trivial

theorem never_deadlocked {committed : Database} {count : Nat} {labels : List (Nat × Event)}
    {final : World} (clear : Along Clear step (initial committed count) labels)
    (reached : run step (initial committed count) labels = some final) : ¬ Deadlocked final := by
  have sound : Sound final :=
    run_invariant Sound (fun world label next => step_sound) (initial_sound committed count) clear
      reached
  rintro ⟨t, lock, u, task, waiting, -⟩
  rw [sound.running] at waiting
  cases waiting

/-- No run of any number of tasks ends with one waiting for another. -/
def NeverDeadlocks : Prop :=
  ∀ (committed : Database) (count : Nat) (labels : List (Nat × Event)) (final : World),
    run step (initial committed count) labels = some final → ¬ Deadlocked final

def noon : Datetime := ⟨2026, 9, 22, 12, 0, 0, 0, 0⟩

def vpn (id : String) : Node :=
  { id := id, name := "vpn-" ++ id, region := "SG", endpoint := "https://" ++ id,
    adapterType := .shim, enabled := true,
    credentials := [("token", .str "t"), ("secret", .str "s")], status := .reachable,
    lastSyncedAt := none }

-- One user with an active placement on the first of two nodes.
def sites : Database :=
  ⟨⟨[vpn "n1", vpn "n2"], [⟨"lu-1", "carol", none⟩],
    [{ logicalUserId := "lu-1", nodeId := "n1", orgId := "org-1", remoteUserId := some "usr-1",
       status := .active }], []⟩, by decide⟩

def revokeCarol : Event := .deprovision "root" "lu-1" false

def revoked : Event := .removed ⟨.ok (), noon, noon⟩

def listed (ids : List String) : Event :=
  .answered ⟨.ok (ids.map fun id => { id := id, name := "carol" }), noon⟩

-- The sweep commits the node while the removal is in `adapter.close()` with its row flushed.
def overlapping : List (Nat × Event) :=
  [(0, revokeCarol), (1, .syncOne "n1"), (0, revoked), (1, listed ["usr-1"]), (1, .closed)]

def overlapped : World :=
  (run step (initial sites 2) overlapping).get (by decide +kernel)

theorem sweep_deadlocks : ¬ NeverDeadlocks := by
  intro never
  have waiting : overlapped.waiting = some (1, .placement "lu-1" "n1") := by decide +kernel
  have held : overlapped.tasks[0]?.map Task.locks = some [.placement "lu-1" "n1"] := by
    decide +kernel
  obtain ⟨task, found, locks⟩ := Option.map_eq_some_iff.1 held
  refine never sites 2 overlapping overlapped (Option.some_get _).symm ?_
  exact ⟨1, _, 0, task, waiting, by decide, found, by simp [locks]⟩

-- The same tasks, the removal answered after the sweep has committed the node.
def staggering : List (Nat × Event) :=
  [(0, revokeCarol), (1, .syncAll), (1, listed ["usr-1"]), (1, .closed), (0, revoked),
    (1, listed []), (1, .closed), (0, .closed)]

def staggered : World :=
  (run step (initial sites 2) staggering).get (by decide +kernel)

theorem staggered_not_deadlocked : ¬ Deadlocked staggered :=
  never_deadlocked (by decide +kernel : Along Clear step (initial sites 2) staggering)
    (Option.some_get _).symm

end Fleet.Deadlock
