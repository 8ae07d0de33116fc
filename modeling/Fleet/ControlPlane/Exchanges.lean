import Fleet.ControlPlane.MutationAudit
import Fleet.Shared.Execution

set_option autoImplicit false

namespace Fleet.Exchanges

open Db NodeAdapter Provisioning ShimResponses
open ShimAdapter (base)

-- A mutating call, the audit action it is recorded under, and the HTTP exchange behind it if the
-- class of the adapter has the method.
structure Answered where
  nodeId : String
  action : String
  operation : Operation
  exchange : Option Exchange
  completion : Except Raised (Option String)

structure State where
  database : Database
  -- Every mutating call so far.
  answered : List Answered

section Calls

variable {Moment : Type} (runtime : Runtime Moment)

def idText : Value → String
  | .str text => text
  | value => runtime.format value

-- `getattr(result, "id", None)`.
def resultId : Returned Moment → Option String
  | .user value => some (idText runtime value.id)
  | .server value => some (idText runtime value.id)
  | .org value => some (idText runtime value.id)
  | _ => none

def respond (database : Database) (nodeId : String) (operation : Operation) (exchange : Exchange) :
    Except Raised (Option String) :=
  match database.tables.node? nodeId with
  | some node => (perform runtime (base node.endpoint) operation exchange).map (resultId runtime)
  | none => .error (.escaped (.other "unregistered"))

def ask (database : Database) (nodeId action : String) (operation : Operation)
    (exchange : Exchange) : Answered :=
  match database.tables.node? nodeId with
  | some node =>
      if implements node.adapterType operation then
        ⟨nodeId, action, operation, some exchange, respond runtime database nodeId operation exchange⟩
      else ⟨nodeId, action, operation, none, .error (.escaped .notImplementedError)⟩
  | none => ⟨nodeId, action, operation, none, .error (.escaped (.other "unregistered"))⟩

end Calls

def Answered.escaped (answered : Answered) : Bool :=
  match answered.completion with
  | .error (.escaped _) => true
  | _ => false

def Answered.returned (answered : Answered) : Bool :=
  match answered.completion with
  | .ok _ => true
  | .error _ => false

-- A request ends at its first call that raises anything but AdapterError.
def throughEscape (answered : List Answered) : List Answered :=
  answered.takeWhile (fun call => !call.escaped) ++
    (answered.dropWhile fun call => !call.escaped).take 1

inductive Request where
  | action (actor : String) (request : Actions.Request) (exchanges : Nat → Exchange)
      (clock : Nat → Datetime) (delivery : Actions.Delivery)
  | provision (actor username : String) (email : Option String) (newId : String)
      (targets : List Target) (exchanges : Nat → Exchange) (clock : Nat → Datetime × Datetime)
  | deprovision (actor logicalUserId : String) (hard : Bool) (exchanges : String → Exchange)
      (clock : String → Datetime × Datetime)
  | identityProfiles (actor logicalUserId : String) (exchanges : String → Exchange)
      (ts : Datetime)
  | syncOne (nodeId : String) (listing : Sync.Listing)
  | syncAll (listings : String → Sync.Listing)

section Handlers

variable {Moment : Type} (runtime : Runtime Moment) (database : Database)

def environment (request : Actions.Request) (exchanges : Nat → Exchange)
    (clock : Nat → Datetime) (delivery : Actions.Delivery) : Actions.Environment where
  answers index :=
    ⟨match request.operations[index]? with
      | some operation => respond runtime database request.nodeId operation (exchanges index)
      | none => .ok none,
     clock index⟩
  delivery := delivery

def action (actor : String) (request : Actions.Request) (exchanges : Nat → Exchange)
    (clock : Nat → Datetime) (delivery : Actions.Delivery) : State :=
  let outcome := Actions.handle database actor request
    (environment runtime database request exchanges clock delivery)
  { database := outcome.database
    answered := outcome.calls.mapIdx fun index call =>
      ask runtime database call.nodeId request.action call.operation (exchanges index) }

-- What the fan-out loops see of an answer; one that escapes never gets that far.
def settled {α : Type} (result : Option String → α) (answered : Answered) (clock : Datetime × Datetime) :
    Answer α where
  reply :=
    match answered.completion with
    | .ok id => .ok (result id)
    | .error (.adapterError text) => .error text
    | .error (.escaped _) => .error ""
  now := clock.1
  ts := clock.2

def creationAnswers (username : String) (email : Option String) (targets : List Target)
    (exchanges : Nat → Exchange) : List (Target × Answered) :=
  targets.mapIdx fun index target =>
    (target, ask runtime database target.nodeId "provision_user" (creation username email target)
      (exchanges index))

-- Nothing is committed of a request one of whose calls escapes.
def unlessEscaped (after : Database) (answered : List Answered) : State :=
  if answered.any Answered.escaped then ⟨database, throughEscape answered⟩
  else ⟨after, answered⟩

def provision (actor username : String) (email : Option String) (newId : String)
    (targets : List Target) (exchanges : Nat → Exchange) (clock : Nat → Datetime × Datetime) :
    State :=
  let answers := creationAnswers runtime database username email targets exchanges
  let outcome := Provisioning.provision database actor username email newId
    (answers.mapIdx fun index answer =>
      ⟨answer.1, settled (fun id => id.getD "") answer.2 (clock index)⟩)
  let reached := answers.filter fun answer => (database.tables.node? answer.1.nodeId).isSome
  unlessEscaped database outcome.database ((reached.take outcome.calls.length).map Prod.snd)

def removalAction (hard : Bool) : String :=
  if hard then "deprovision_delete" else "deprovision_revoke"

def askRemoval (hard : Bool) (exchanges : String → Exchange) (placement : UserPlacement)
    (userId : String) : Answered :=
  ask runtime database placement.nodeId (removalAction hard) (removal hard placement userId)
    (exchanges placement.nodeId)

-- A user has one placement a node.
def removalAnswer (logicalUserId : String) (hard : Bool) (exchanges : String → Exchange)
    (clock : String → Datetime × Datetime) (nodeId : String) : Answer Unit :=
  match database.tables.placement? logicalUserId nodeId with
  | some placement =>
      settled (fun _ => ())
        (askRemoval runtime database hard exchanges placement (placement.remoteUserId.getD ""))
        (clock nodeId)
  | none => ⟨.error "", (clock nodeId).1, (clock nodeId).2⟩

def deprovision (actor logicalUserId : String) (hard : Bool) (exchanges : String → Exchange)
    (clock : String → Datetime × Datetime) : State :=
  let outcome := Provisioning.deprovision database actor logicalUserId hard
    (removalAnswer runtime database logicalUserId hard exchanges clock)
  unlessEscaped database outcome.database (outcome.calls.map fun call =>
    ask runtime database call.nodeId (removalAction hard) call.operation (exchanges call.nodeId))

-- A user has one profile a node to fetch.
def profileAnswer (logicalUserId : String) (exchanges : String → Exchange) (nodeId : String) :
    Except String ByteArray :=
  match database.tables.node? nodeId, database.tables.placement? logicalUserId nodeId with
  | some node, some placement =>
      match issueProfile runtime (base node.endpoint) (placement.remoteUserId.getD "") "tar"
          (exchanges nodeId) with
      | .ok content => .ok content
      | .error (.adapterError text) => .error text
      | .error (.escaped _) => .error ""
  | _, _ => .error ""

def downloadEntry (actor logicalUserId : String) : AuditLog.Fields :=
  { actor := actor, action := "download_identity_bundle", result := "success",
    targetType := some "identity", targetId := some logicalUserId }

def identityProfiles (actor logicalUserId : String) (exchanges : String → Exchange)
    (ts : Datetime) : State :=
  let (calls, bundle) := buildIdentityBundle database logicalUserId
    (profileAnswer runtime database logicalUserId exchanges)
  let after :=
    match bundle with
    | .ok _ => Actions.record database [(ts, downloadEntry actor logicalUserId)]
    | .error _ => database
  unlessEscaped database after (calls.map fun call =>
    ask runtime database call.nodeId "download_identity_bundle" call.operation
      (exchanges call.nodeId))

def handle : Request → State
  | .action actor request exchanges clock delivery =>
      action runtime database actor request exchanges clock delivery
  | .provision actor username email newId targets exchanges clock =>
      provision runtime database actor username email newId targets exchanges clock
  | .deprovision actor logicalUserId hard exchanges clock =>
      deprovision runtime database actor logicalUserId hard exchanges clock
  | .identityProfiles actor logicalUserId exchanges ts =>
      identityProfiles runtime database actor logicalUserId exchanges ts
  | .syncOne nodeId listing => ⟨(Operations.syncOne database nodeId listing).database, []⟩
  | .syncAll listings => ⟨(Sync.syncAll database listings).2.2, []⟩

def step (state : State) (request : Request) : Option State :=
  let served := handle runtime state.database request
  some ⟨served.database, state.answered ++ served.answered⟩

end Handlers

end Fleet.Exchanges
