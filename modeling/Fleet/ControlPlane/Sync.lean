import Fleet.ControlPlane.Transactions

set_option autoImplicit false

namespace Fleet.Sync

open Db NodeAdapter

inductive DriftKind where
  | missing
  | untracked
  deriving DecidableEq

structure DriftItem where
  kind : DriftKind
  remoteUserId : Option String
  username : Option String := none
  deriving DecidableEq

structure NodeSyncReport where
  nodeId : String
  nodeName : String
  reachable : Bool
  tracked : Nat := 0
  present : Nat := 0
  missing : List DriftItem := []
  untracked : List DriftItem := []
  error : Option String := none
  deriving DecidableEq

def NodeSyncReport.inSync (report : NodeSyncReport) : Bool :=
  report.reachable && report.missing.isEmpty && report.untracked.isEmpty

-- What the node answers to `list_users`, and the reading of the clock after it.
structure Listing where
  reply : Except String (List UserInfo)
  now : Datetime

-- The dict from id to user: a repeated id keeps its first place and takes the last value.
def nodeUserIds (users : List UserInfo) : List UserInfo :=
  users.foldl (fun rows user => Keyed.upsert UserInfo.id user rows) []

-- The remote id of a placement, where it has one that counts as true.
def tracked? (placement : UserPlacement) : Option String :=
  placement.remoteUserId.filter fun userId => userId ≠ ""

section Node

variable (users : List UserInfo) (now : Datetime)

def listed (userId : String) : Bool := (users.map UserInfo.id).contains userId

def observe (placement : UserPlacement) : UserPlacement :=
  match tracked? placement with
  | none => { placement with lastSyncedAt := some now }
  | some userId =>
      if listed users userId then
        { placement with status := .active, lastError := none, lastSyncedAt := some now }
      else { placement with status := .missing, lastSyncedAt := some now }

def reportOf (node : Node) (placements : List UserPlacement) : NodeSyncReport :=
  let remote := placements.filterMap tracked?
  let trackedRemoteIds := remote.filter (listed users)
  { nodeId := node.id, nodeName := node.name, reachable := true, tracked := placements.length
    present := trackedRemoteIds.length
    missing := (remote.filter fun userId => !listed users userId).map fun userId =>
      { kind := .missing, remoteUserId := some userId }
    untracked :=
      ((nodeUserIds users).filter fun user => !trackedRemoteIds.contains user.id).map fun user =>
        { kind := .untracked, remoteUserId := some user.id, username := some user.name } }

def observed (tables : Tables) (nodeId : String) : Tables :=
  { tables with
    nodes := tables.nodes.map fun node =>
      if node.id = nodeId then { node with lastSyncedAt := some now } else node
    placements := tables.placements.map fun placement =>
      if placement.nodeId = nodeId then observe users now placement else placement }

variable {users now}

@[simp]
theorem observe_key (placement : UserPlacement) :
    (observe users now placement).key = placement.key := by
  unfold observe
  split
  · rfl
  · split <;> rfl

theorem observe_remote (placement : UserPlacement) :
    (observe users now placement).remoteUserId = placement.remoteUserId := by
  unfold observe
  split
  · rfl
  · split <;> rfl

theorem map_key_observed (tables : Tables) (nodeId : String) :
    (observed users now tables nodeId).placements.map UserPlacement.key =
      tables.placements.map UserPlacement.key := by
  simp only [observed, List.map_map]
  apply List.map_congr_left
  intro placement _
  by_cases here : placement.nodeId = nodeId <;> simp [here]

theorem map_id_observed (tables : Tables) (nodeId : String) :
    (observed users now tables nodeId).nodes.map Node.id = tables.nodes.map Node.id := by
  simp only [observed, List.map_map]
  apply List.map_congr_left
  intro node _
  by_cases here : node.id = nodeId <;> simp [here]

-- A sweep rewrites no key, so it commits from whatever is committed.
theorem observed_valid {tables : Tables} (valid : tables.Valid) (nodeId : String) :
    (observed users now tables nodeId).Valid := by
  have keyed (placement : UserPlacement)
      (member : placement ∈ (observed users now tables nodeId).placements) :
      ∃ old ∈ tables.placements, old.key = placement.key := by
    have present : placement.key ∈
        (observed users now tables nodeId).placements.map UserPlacement.key :=
      List.mem_map_of_mem member
    rw [map_key_observed] at present
    exact List.mem_map.1 present
  refine ⟨?_, valid.users, valid.usernames, ?_, fun placement member => ?_,
    fun placement member => ?_⟩
  · rw [Keyed.Unique, map_id_observed]
    exact valid.nodes
  · rw [Keyed.Unique, map_key_observed]
    exact valid.placements
  · obtain ⟨old, inside, same⟩ := keyed placement member
    rw [← (Prod.mk.inj same).1]
    exact valid.owned old inside
  · obtain ⟨old, inside, same⟩ := keyed placement member
    rw [map_id_observed, ← (Prod.mk.inj same).2]
    exact valid.placed old inside

theorem placement?_observed (tables : Tables) (nodeId userId other : String) :
    (observed users now tables nodeId).placement? userId other =
      if other = nodeId then (tables.placement? userId other).map (observe users now)
      else tables.placement? userId other := by
  have rewritten : (observed users now tables nodeId).placement? userId other =
      (tables.placement? userId other).map fun placement =>
        if placement.nodeId = nodeId then observe users now placement else placement := by
    apply Keyed.lookup_map
    intro placement
    by_cases here : placement.nodeId = nodeId <;> simp [here]
  rw [rewritten]
  cases found : tables.placement? userId other with
  | none => simp
  | some placement =>
      have site : placement.nodeId = other := (Prod.mk.inj (Tables.placement?_key found)).2
      by_cases here : other = nodeId <;> simp [site, here]

end Node

def placementsOn (tables : Tables) (nodeId : String) : List UserPlacement :=
  tables.placements.filter fun placement => placement.nodeId = nodeId

def unreachable (node : Node) (tracked : Nat) (text : String) : NodeSyncReport :=
  { nodeId := node.id, nodeName := node.name, reachable := false, tracked := tracked,
    error := some text }

-- An unreachable node is reported without a commit; there is nothing to commit then.
def syncNode (database : Database) (node : Node) (listing : Listing) :
    List Call × Except Error (NodeSyncReport × Database) :=
  let placements := placementsOn database.tables node.id
  match buildAdapterForNode node with
  | .error error => ([], .error error)
  | .ok adapterType =>
      if implements adapterType .listUsers then
        match listing.reply with
        | .error text =>
            ([⟨node.id, .listUsers, .failed text⟩],
              .ok (unreachable node placements.length text, database))
        | .ok users =>
            ([⟨node.id, .listUsers, .done⟩],
              .ok (reportOf users node placements,
                ⟨observed users listing.now database.tables node.id,
                  observed_valid database.valid node.id⟩))
      else ([⟨node.id, .listUsers, .notImplemented⟩], .error .notImplemented)

theorem syncNode_calls (database : Database) (node : Node) (listing : Listing) :
    ∀ call ∈ (syncNode database node listing).1, call.operation = .listUsers := by
  intro call member
  unfold syncNode at member
  dsimp only at member
  split at member
  · cases member
  · split at member
    · split at member <;> simp_all
    · simp_all

-- `str(exc)`; NotImplementedError is raised without arguments.
def errorText : Error → String
  | .adapterError text => text
  | _ => ""

-- One session sweeps the enabled nodes in turn; whatever a node raises becomes its report.
def sweep (listings : String → Listing) :
    Database → List Node → List Call × List NodeSyncReport × Database
  | database, [] => ([], [], database)
  | database, node :: rest =>
      match syncNode database node (listings node.id) with
      | (calls, .ok (report, next)) =>
          let (later, reports, final) := sweep listings next rest
          (calls ++ later, report :: reports, final)
      | (calls, .error error) =>
          let (later, reports, final) := sweep listings database rest
          (calls ++ later, unreachable node 0 (errorText error) :: reports, final)

theorem sweep_calls (listings : String → Listing) (nodes : List Node) (database : Database) :
    ∀ call ∈ (sweep listings database nodes).1, call.operation = .listUsers := by
  induction nodes generalizing database with
  | nil => simp [sweep]
  | cons node rest ih =>
      intro call member
      have first := syncNode_calls database node (listings node.id)
      rw [sweep] at member
      split at member
      all_goals
        next swept =>
          rw [swept] at first
          rcases List.mem_append.1 member with here | later
          · exact first call here
          · exact ih _ call later

def syncAll (database : Database) (listings : String → Listing) :
    List Call × List NodeSyncReport × Database :=
  sweep listings database (database.tables.nodes.filter fun node => node.enabled)

end Fleet.Sync
