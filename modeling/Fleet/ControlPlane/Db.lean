import Fleet.Audit.Log
import Fleet.ControlPlane.Adapter
import Fleet.Shared.Keyed

set_option autoImplicit false

namespace Fleet.Db

open NodeAdapter

inductive HealthStatus where
  | unknown
  | reachable
  | degraded
  | down
  deriving DecidableEq

inductive PlacementStatus where
  | pending
  | active
  | failed
  | revoked
  | missing
  deriving DecidableEq

structure Node where
  id : String
  name : String
  region : String
  endpoint : String
  adapterType : AdapterType
  verifyTls : Bool := true
  enabled : Bool
  -- What the sealed blob opens to.
  credentials : Credentials
  status : HealthStatus
  lastSyncedAt : Option Datetime

structure LogicalUser where
  id : String
  username : String
  email : Option String
  deriving DecidableEq

structure UserPlacement where
  logicalUserId : String
  nodeId : String
  orgId : String
  remoteUserId : Option String := none
  status : PlacementStatus
  lastError : Option String := none
  lastSyncedAt : Option Datetime := none
  deriving DecidableEq

def UserPlacement.key (placement : UserPlacement) : String × String :=
  (placement.logicalUserId, placement.nodeId)

-- The audit log as the arguments of its appends; `AuditLog.record` makes the rows of them.
structure Tables where
  nodes : List Node
  users : List LogicalUser
  placements : List UserPlacement
  audit : List (Datetime × AuditLog.Fields)

/-- The declared primary, unique and foreign keys. -/
structure Tables.Valid (tables : Tables) : Prop where
  nodes : Keyed.Unique Node.id tables.nodes
  users : Keyed.Unique LogicalUser.id tables.users
  usernames : Keyed.Unique LogicalUser.username tables.users
  placements : Keyed.Unique UserPlacement.key tables.placements
  owned : ∀ placement ∈ tables.placements,
    placement.logicalUserId ∈ tables.users.map LogicalUser.id
  placed : ∀ placement ∈ tables.placements, placement.nodeId ∈ tables.nodes.map Node.id

instance (tables : Tables) : Decidable tables.Valid :=
  decidable_of_iff
    ((tables.nodes.map Node.id).Nodup ∧ (tables.users.map LogicalUser.id).Nodup ∧
      (tables.users.map LogicalUser.username).Nodup ∧
      (tables.placements.map UserPlacement.key).Nodup ∧
      (∀ placement ∈ tables.placements,
        placement.logicalUserId ∈ tables.users.map LogicalUser.id) ∧
      ∀ placement ∈ tables.placements, placement.nodeId ∈ tables.nodes.map Node.id)
    ⟨fun ⟨nodes, users, usernames, placements, owned, placed⟩ =>
      ⟨nodes, users, usernames, placements, owned, placed⟩,
     fun valid => ⟨valid.nodes, valid.users, valid.usernames, valid.placements, valid.owned,
      valid.placed⟩⟩

-- What is committed: the engine lets no other tables be.
structure Database where
  tables : Tables
  valid : tables.Valid

inductive Error where
  | adapterError (text : String)
  | notImplemented
  | integrityError
  | lookupError
  deriving DecidableEq

-- A session sees the rows it flushed; autoflush is off, so an added row is pending until an
-- explicit flush or the commit.
structure Session where
  tables : Tables
  pending : List UserPlacement

namespace Tables

variable (tables : Tables)

def node? (id : String) : Option Node := Keyed.lookup Node.id id tables.nodes

def user? (id : String) : Option LogicalUser := Keyed.lookup LogicalUser.id id tables.users

def placement? (userId nodeId : String) : Option UserPlacement :=
  Keyed.lookup UserPlacement.key (userId, nodeId) tables.placements

def placementsOf (userId : String) : List UserPlacement :=
  tables.placements.filter fun placement => placement.logicalUserId = userId

end Tables

namespace Session

def begin (database : Database) : Session := ⟨database.tables, []⟩

def flushed (session : Session) : Tables :=
  { session.tables with placements := session.tables.placements ++ session.pending }

def flush (session : Session) : Except Error Session :=
  if session.flushed.Valid then .ok ⟨session.flushed, []⟩ else .error .integrityError

def commit (session : Session) : Except Error Database :=
  if valid : session.flushed.Valid then .ok ⟨session.flushed, valid⟩ else .error .integrityError

-- Assigning to the attributes of a row that was loaded, or of one that was only added.
def store (session : Session) (placement : UserPlacement) : Session :=
  match Keyed.lookup UserPlacement.key placement.key session.tables.placements with
  | some _ =>
      { session with
        tables := { session.tables with
          placements := Keyed.replace UserPlacement.key placement session.tables.placements } }
  | none => { session with pending := session.pending ++ [placement] }

def append (session : Session) (ts : Datetime) (fields : AuditLog.Fields) : Except Error Session :=
  flush { session with
    tables := { session.tables with audit := session.tables.audit ++ [(ts, fields)] } }

end Session

-- A request through `get_session`: what is committed, what escaped, and the calls it made, which
-- no rollback takes back.
structure Outcome where
  database : Database
  raised : Option Error
  calls : List Call

def finish (database : Database) : List Call × Except Error Session → Outcome
  | (calls, .error error) => ⟨database, some error, calls⟩
  | (calls, .ok session) =>
      match session.commit with
      | .ok committed => ⟨committed, none, calls⟩
      | .error error => ⟨database, some error, calls⟩

-- A loop over items that calls nodes and works on the session; an escaping error ends it.
def forEach {α : Type} (body : Session → α → List Call × Except Error Session) :
    Session → List α → List Call × Except Error Session
  | session, [] => ([], .ok session)
  | session, item :: rest =>
      match body session item with
      | (calls, .error error) => (calls, .error error)
      | (calls, .ok next) =>
          let (later, final) := forEach body next rest
          (calls ++ later, final)

-- Credentials the class rejects fail before the `try` that the call stands in.
def buildAdapterForNode (node : Node) : Except Error AdapterType :=
  match rejects node.adapterType node.endpoint node.credentials with
  | some text => .error (.adapterError text)
  | none => .ok node.adapterType

/-- The adapter of the node can be built and its class has the method. -/
def Node.Serves (node : Node) (operation : Operation) : Prop :=
  rejects node.adapterType node.endpoint node.credentials = none ∧
    implements node.adapterType operation = true

instance (node : Node) (operation : Operation) : Decidable (node.Serves operation) :=
  inferInstanceAs (Decidable (_ ∧ _))

end Fleet.Db
