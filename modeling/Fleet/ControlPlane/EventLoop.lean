import Fleet.ControlPlane.Provisioning
import Fleet.ControlPlane.Sync
import Fleet.Shared.Execution
import Fleet.Shared.RowLocks

set_option autoImplicit false

namespace Fleet.EventLoop

open Db NodeAdapter Provisioning Sync

-- What an insert of a unique key or an update of a row holds until its transaction ends.
inductive Lock where
  | username (name : String)
  | logicalUser (id : String)
  | placement (logicalUserId nodeId : String)
  | node (id : String)
  deriving DecidableEq

def lockOf (placement : UserPlacement) : Lock :=
  .placement placement.logicalUserId placement.nodeId

-- The rows an open transaction has flushed; nobody else sees them before the commit.
structure Writes where
  inserted : List LogicalUser := []
  readdressed : List LogicalUser := []
  placements : List UserPlacement := []
  audit : List (Datetime × AuditLog.Fields) := []

def Writes.locks (writes : Writes) : List Lock :=
  writes.inserted.map (fun user => .username user.username) ++
    writes.readdressed.map (fun user => .logicalUser user.id) ++ writes.placements.map lockOf

-- A session: the placements it has loaded or flushed as the database had them, the email it has
-- assigned and not flushed, and whether it has added a row the foreign keys refuse.
structure Work where
  writes : Writes := {}
  identity : List UserPlacement := []
  address : Option LogicalUser := none
  orphaned : Bool := false

-- One round of the loop: a target of `provision`, or a placement of `deprovision`.
inductive Job where
  | create (actor username : String) (email : Option String) (target : Target)
  | remove (actor : String) (hard : Bool) (placement : UserPlacement)

def Job.nodeId : Job → String
  | .create _ _ _ target => target.nodeId
  | .remove _ _ placement => placement.nodeId

def Job.operation : Job → Operation
  | .create _ username email target => creation username email target
  | .remove _ hard placement => removal hard placement (placement.remoteUserId.getD "")

-- `readdresses`: the call fills in the email of a user that had none.
structure OpenCall where
  lu : LogicalUser
  readdresses : Bool := false
  work : Work := {}
  rest : List Job := []

structure Sweep where
  isolates : Bool
  rest : List Node

-- A coroutine at the await it is suspended in.
inductive Task where
  | ready
  | calling (call : OpenCall) (job : Job) (node : Node) (loaded : Option UserPlacement)
  | closing (call : OpenCall)
  | listing (sweep : Sweep) (node : Node) (loaded : List UserPlacement)
  | listed (sweep : Sweep) (node : Node) (loaded : List UserPlacement)
      (found : Option (List UserInfo × Datetime))
  | finished

def Task.call? : Task → Option OpenCall
  | .calling call _ _ _ => some call
  | .closing call => some call
  | _ => none

def Task.locks (task : Task) : List Lock :=
  (task.call?.map fun call => call.work.writes.locks).getD []

inductive Event where
  | provision (actor username : String) (email : Option String) (newId : String)
      (targets : List Target)
  | deprovision (actor logicalUserId : String) (hard : Bool)
  | syncOne (nodeId : String)
  | syncAll
  | created (answer : Answer String)
  | removed (answer : Answer Unit)
  | answered (listing : Listing)
  | closed

-- A segment runs to the next await or the end of the coroutine, or stands still in a flush.
inductive Segment where
  | ran (committed : Database) (task : Task)
  | waits (lock : Lock)

def commitTables (tables : Tables) : Option Database :=
  if valid : tables.Valid then some ⟨tables, valid⟩ else none

-- UPDATE sets the columns that were assigned another value.
def merge (clean assigned current : UserPlacement) : UserPlacement :=
  { current with
    orgId := if assigned.orgId = clean.orgId then current.orgId else assigned.orgId
    remoteUserId :=
      if assigned.remoteUserId = clean.remoteUserId then current.remoteUserId
      else assigned.remoteUserId
    status := if assigned.status = clean.status then current.status else assigned.status
    lastError :=
      if assigned.lastError = clean.lastError then current.lastError else assigned.lastError
    lastSyncedAt :=
      if assigned.lastSyncedAt = clean.lastSyncedAt then current.lastSyncedAt
      else assigned.lastSyncedAt }

@[simp]
theorem merge_key (clean assigned current : UserPlacement) :
    (merge clean assigned current).key = current.key := rfl

section Segments

variable (locked : List Lock → Option Lock) (committed : Database)

def Work.visible (work : Work) (userId nodeId : String) : Option UserPlacement :=
  (Keyed.lookup UserPlacement.key (userId, nodeId) work.identity).or
    (committed.tables.placement? userId nodeId)

def stored? (placement : UserPlacement) : Option UserPlacement :=
  Keyed.lookup UserPlacement.key placement.key committed.tables.placements

-- Updates come before inserts, and an insert the keys refuse takes no lock.
def requests (work : Work) (loaded : Option UserPlacement) (assigned : UserPlacement) : List Lock :=
  (work.address.map fun user => Lock.logicalUser user.id).toList ++
    match loaded with
    | some clean => if assigned = clean then [] else [lockOf assigned]
    | none =>
        if work.orphaned ∨ (stored? committed assigned).isSome then [] else [lockOf assigned]

def refused (work : Work) (loaded : Option UserPlacement) (assigned : UserPlacement) : Bool :=
  work.orphaned ∨ (loaded = none ∧ (stored? committed assigned).isSome)

-- The version of the row the transaction writes.
def version (work : Work) (loaded : Option UserPlacement) (assigned : UserPlacement) :
    Option UserPlacement :=
  match loaded with
  | none => some assigned
  | some clean =>
      if assigned = clean then none
      else
        let current := (Keyed.lookup UserPlacement.key assigned.key work.writes.placements).or
          (stored? committed assigned)
        some (merge clean assigned (current.getD clean))

def Work.flushed (work : Work) (loaded : Option UserPlacement) (assigned : UserPlacement)
    (entry : Datetime × AuditLog.Fields) : Work :=
  let writes := work.writes
  { writes :=
      { writes with
        readdressed := writes.readdressed ++ work.address.toList
        placements := (version committed work loaded assigned).elim writes.placements
          fun row => Keyed.upsert UserPlacement.key row writes.placements
        audit := writes.audit ++ [entry] }
    identity := Keyed.upsert UserPlacement.key assigned work.identity
    address := none
    orphaned := work.orphaned }

def Writes.apply (writes : Writes) (tables : Tables) : Tables :=
  { nodes := tables.nodes
    users := writes.readdressed.foldl (fun users user => Keyed.replace LogicalUser.id user users)
      tables.users ++ writes.inserted
    placements := writes.placements.foldl
      (fun rows row => Keyed.upsert UserPlacement.key row rows) tables.placements
    audit := tables.audit ++ writes.audit }

-- The flush of the commit has an unflushed email left only where no audit entry was appended.
def Work.finish (work : Work) : Segment :=
  match locked (work.address.map fun user => Lock.logicalUser user.id).toList with
  | some lock => .waits lock
  | none =>
      if work.orphaned then .ran committed .finished
      else
        let writes := { work.writes with
          readdressed := work.writes.readdressed ++ work.address.toList }
        .ran ((commitTables (writes.apply committed.tables)).getD committed) .finished

-- A stub's NotImplementedError is raised at once; like credentials its class rejects, it ends the
-- call with a rollback.
def OpenCall.await (call : OpenCall) (job : Job) (node : Node) (loaded : Option UserPlacement) :
    Segment :=
  match buildAdapterForNode node with
  | .error _ => .ran committed .finished
  | .ok adapterType =>
      if implements adapterType job.operation then .ran committed (.calling call job node loaded)
      else .ran committed .finished

def Work.load (work : Work) (loaded : Option UserPlacement) : Work :=
  { work with
    identity := loaded.elim work.identity fun row =>
      Keyed.upsert UserPlacement.key row work.identity }

-- The loop of a call up to its next await.
def OpenCall.advance (call : OpenCall) : List Job → Segment
  | [] => call.work.finish locked committed
  | job :: rest =>
      match job, committed.tables.node? job.nodeId with
      | .create _ _ _ target, some node =>
          let loaded := call.work.visible committed call.lu.id target.nodeId
          OpenCall.await committed { call with work := call.work.load loaded, rest := rest } job node
            loaded
      -- No row can hold an unregistered node, so the placement is an added one.
      | .create .., none => advance { call with work := { call.work with orphaned := true } } rest
      | .remove _ _ placement, some node =>
          if placement.remoteUserId = none then advance call rest
          else OpenCall.await committed { call with rest := rest } job node (some placement)
      | .remove .., none => advance call rest

def startProvision (actor username : String) (email : Option String) (newId : String)
    (targets : List Target) : Segment :=
  let jobs := targets.map (.create actor username email)
  match Keyed.lookup LogicalUser.username username committed.tables.users with
  | some existing =>
      if email.getD "" ≠ "" ∧ existing.email.getD "" = "" then
        let lu := { existing with email := email }
        OpenCall.advance locked committed
          { lu := lu, readdresses := true, work := { address := some lu } } jobs
      else OpenCall.advance locked committed { lu := existing } jobs
  | none =>
      match locked [.username username] with
      | some lock => .waits lock
      | none =>
          if newId ∈ committed.tables.users.map LogicalUser.id then .ran committed .finished
          else
            let lu : LogicalUser := ⟨newId, username, email⟩
            OpenCall.advance locked committed
              { lu := lu, work := { writes := { inserted := [lu] } } } jobs

def startDeprovision (actor logicalUserId : String) (hard : Bool) : Segment :=
  match committed.tables.user? logicalUserId with
  | none => .ran committed .finished
  | some lu =>
      let placements := committed.tables.placementsOf lu.id
      OpenCall.advance locked committed { lu := lu, work := { identity := placements } }
        (placements.map (.remove actor hard))

-- The answer is assigned to the placement and flushed with its audit entry.
def OpenCall.record (call : OpenCall) (loaded : Option UserPlacement) (assigned : UserPlacement)
    (entry : Datetime × AuditLog.Fields) : Segment :=
  match locked (requests committed call.work loaded assigned) with
  | some lock => .waits lock
  | none =>
      if refused committed call.work loaded assigned then .ran committed .finished
      else
        .ran committed
          (.closing { call with work := call.work.flushed committed loaded assigned entry })

def OpenCall.resume (call : OpenCall) (node : Node) (loaded : Option UserPlacement) :
    Job → Event → Option Segment
  | .create actor username _ target, .created answer =>
      let attempt : Attempt := ⟨target, answer⟩
      some (call.record locked committed loaded
        (settle attempt (loaded.getD (fresh call.lu target)))
        (provisionEntry actor username node attempt))
  | .remove actor hard placement, .removed answer =>
      some (call.record locked committed loaded (release answer placement)
        (deprovisionEntry actor call.lu hard node (placement.remoteUserId.getD "") answer))
  | _, _ => none

-- `sync_one` ends with what a node raises, `sync_all` goes on with the next one.
def Sweep.next (isolates : Bool) : List Node → Task
  | [] => .finished
  | node :: rest =>
      match buildAdapterForNode node with
      | .error _ => if isolates then Sweep.next isolates rest else .finished
      | .ok adapterType =>
          if implements adapterType .listUsers then
            .listing ⟨isolates, rest⟩ node (placementsOn committed.tables node.id)
          else if isolates then Sweep.next isolates rest
          else .finished

section Observe

variable (users : List UserInfo) (now : Datetime) (node : Node) (loaded : List UserPlacement)

def changed : List UserPlacement :=
  loaded.filter fun placement => observe users now placement ≠ placement

def observations : List Lock :=
  (changed users now loaded).map lockOf ++
    if node.lastSyncedAt = some now then [] else [.node node.id]

def observedTables : Tables :=
  let rows := (changed users now loaded).filterMap fun clean =>
    (stored? committed clean).map (merge clean (observe users now clean))
  { committed.tables with
    nodes := committed.tables.nodes.map fun row =>
      if row.id = node.id then { row with lastSyncedAt := some now } else row
    placements := rows.foldl (fun placements row => Keyed.replace UserPlacement.key row placements)
      committed.tables.placements }

end Observe

-- Assignments and commit stand in one segment.
def Sweep.commit (sweep : Sweep) (node : Node) (loaded : List UserPlacement)
    (users : List UserInfo) (now : Datetime) : Segment :=
  match locked (observations users now node loaded) with
  | some lock => .waits lock
  | none =>
      let next := (commitTables (observedTables committed users now node loaded)).getD committed
      .ran next (Sweep.next next sweep.isolates sweep.rest)

def resume : Task → Event → Option Segment
  | .ready, .provision actor username email newId targets =>
      some (startProvision locked committed actor username email newId targets)
  | .ready, .deprovision actor logicalUserId hard =>
      some (startDeprovision locked committed actor logicalUserId hard)
  | .ready, .syncOne nodeId =>
      some (.ran committed (Sweep.next committed false (committed.tables.node? nodeId).toList))
  | .ready, .syncAll =>
      some (.ran committed
        (Sweep.next committed true (committed.tables.nodes.filter fun node => node.enabled)))
  | .calling call job node loaded, event => call.resume locked committed node loaded job event
  | .closing call, .closed => some (call.advance locked committed call.rest)
  | .listing sweep node loaded, .answered listing =>
      let found := match listing.reply with
        | .ok users => some (users, listing.now)
        | .error _ => none
      some (.ran committed (.listed sweep node loaded found))
  | .listed sweep node loaded (some (users, now)), .closed =>
      some (sweep.commit locked committed node loaded users now)
  | .listed sweep _ _ none, .closed =>
      some (.ran committed (Sweep.next committed sweep.isolates sweep.rest))
  | _, _ => none

end Segments

-- One thread: while a flush stands still nothing else runs.
structure World where
  committed : Database
  tasks : List Task
  waiting : Option (Nat × Lock) := none

def World.locked (world : World) (t : Nat) : List Lock → Option Lock :=
  RowLocks.firstHeld Task.locks world.tasks t

def step (world : World) (label : Nat × Event) : Option World :=
  if world.waiting.isSome then none
  else
    (world.tasks[label.1]?).bind fun task =>
      (resume (world.locked label.1) world.committed task label.2).map fun segment =>
        match segment with
        | .ran committed next => { committed := committed, tasks := world.tasks.set label.1 next }
        | .waits lock => { world with waiting := some (label.1, lock) }

def initial (committed : Database) (count : Nat) : World :=
  { committed := committed, tasks := List.replicate count .ready }

end Fleet.EventLoop
