import Fleet.ControlPlane.Auth
import Fleet.ControlPlane.Health

set_option autoImplicit false

namespace Fleet.Api

open Identity Db NodeAdapter

-- The columns the health engine keeps of a node.
structure Vitals where
  nodeId : String
  lastCheckedAt : Option Datetime := none
  lastLatencyMs : Option Nat := none
  consecutiveFailures : Nat := 0
  lastError : Option String := none

structure World where
  accounts : Auth.Accounts
  issued : List Auth.Token
  limits : List RateLimit.Entry
  database : Database
  vitals : List Vitals

structure NodeCreate where
  name : String
  region : String
  endpoint : String
  adapterType : AdapterType := .shim
  verifyTls : Bool := true
  enabled : Bool := true
  credentials : Credentials := []

-- `none` is an unset field, `some none` an explicit null.
structure NodeUpdate where
  name : Option (Option String) := none
  region : Option (Option String) := none
  endpoint : Option (Option String) := none
  adapterType : Option (Option AdapterType) := none
  verifyTls : Option (Option Bool) := none
  enabled : Option (Option Bool) := none
  credentials : Option (Option Credentials) := none

structure RoleBindingIn where
  nodeId : String
  role : Role

-- What a body holds beyond the fields that its route passes on.
inductive Body where
  | empty
  | nodeCreate (payload : NodeCreate)
  | nodeUpdate (payload : NodeUpdate)
  | recipient (address : String)
  | principalCreate (payload : Auth.PrincipalCreateIn)
  | principalUpdate (payload : Auth.PrincipalUpdateIn)
  | roleBinding (payload : RoleBindingIn)

inductive Target where
  | healthz
  | readyz
  | login (username password : String)
  | mfaEnroll
  | mfaVerify (code : String)
  | me
  | guarded (route : Routes.Request) (body : Body)

-- The random values a handler draws, the clock, and what the nodes and the mailer answer it.
structure Environment where
  ts : Datetime
  newId : String
  salt : String
  secret : String
  -- One of its calls raises what no handler catches.
  escapes : Bool
  actions : Actions.Environment
  created : Nat → Provisioning.Answer String
  removed : String → Provisioning.Answer Unit
  profiles : String → Except String ByteArray
  listings : String → Sync.Listing
  visit : Health.Visit

structure Request where
  now : Nat
  bearer : Option Auth.Token := none
  forwarded : String := ""
  peer : Option String := none
  target : Target
  environment : Environment

inductive Reply where
  | done
  | refused (error : Auth.HttpError)
  | auth (reply : Auth.Reply)
  | action (reply : Actions.Reply)
  -- What a reading route sends back or refuses; it is not part of this model.
  | document

structure Outcome where
  world : World
  -- As whom a handler behind a full-scope token ran.
  ranAs : Option Principal := none
  reply : Reply

structure Platform (Moment : Type) where
  primitives : Auth.Primitives
  runtime : ShimResponses.Runtime Moment
  str : ShimResponses.PyException → String
  auth : Auth.Settings
  health : Health.Settings

section Columns

def NodeUpdate.nulls (payload : NodeUpdate) : Bool :=
  payload.name = some none ∨ payload.region = some none ∨ payload.endpoint = some none ∨
    payload.adapterType = some none ∨ payload.verifyTls = some none ∨ payload.enabled = some none

-- Null credentials leave the sealed ones unchanged.
def NodeUpdate.apply (payload : NodeUpdate) (node : Node) : Node :=
  { node with
    name := (payload.name.bind id).getD node.name
    region := (payload.region.bind id).getD node.region
    endpoint := (payload.endpoint.bind id).getD node.endpoint
    adapterType := (payload.adapterType.bind id).getD node.adapterType
    verifyTls := (payload.verifyTls.bind id).getD node.verifyTls
    enabled := (payload.enabled.bind id).getD node.enabled
    credentials := (payload.credentials.bind id).getD node.credentials }

-- The unique name is asked for only if the update changes it.
def NodeUpdate.clashes (payload : NodeUpdate) (node : Node) (nodes : List Node) : Option String :=
  match payload.name with
  | some (some name) =>
      if name ≠ node.name ∧ ∃ other ∈ nodes, other.name = name ∧ other.id ≠ node.id then some name
      else none
  | _ => none

def bound (payload : RoleBindingIn) : Auth.Amendment where
  change := fun principal =>
    { principal with
      bindings :=
        match principal.bindings.find? fun binding => binding.nodeId = payload.nodeId with
        | some _ => principal.bindings.map fun binding =>
            if binding.nodeId = payload.nodeId then { binding with role := payload.role }
            else binding
        | none => principal.bindings ++ [⟨payload.nodeId, payload.role⟩] }
  ids := fun _ => rfl
  usernames := fun _ => rfl

def unbound (nodeId : String) : Auth.Amendment where
  change := fun principal =>
    { principal with
      bindings := principal.bindings.filter fun binding => binding.nodeId ≠ nodeId }
  ids := fun _ => rfl
  usernames := fun _ => rfl

-- The engine refuses tables that break a key.
def store (tables : Tables) : Option Database :=
  if valid : tables.Valid then some ⟨tables, valid⟩ else none

end Columns

abbrev Handled := World × Reply

section Nodes

variable (world : World)

def refuse (error : Auth.HttpError) : Handled := (world, .refused error)

def nodeNotFound : Auth.HttpError := ⟨404, "node not found"⟩

def duplicateNode (name : String) : Auth.HttpError := ⟨409, "node name already exists: " ++ name⟩

def createNode (newId : String) (payload : NodeCreate) : Handled :=
  let tables := world.database.tables
  if payload.name ∈ tables.nodes.map Node.name then refuse world (duplicateNode payload.name)
  else
    let node : Node :=
      { id := newId, name := payload.name, region := payload.region, endpoint := payload.endpoint,
        adapterType := payload.adapterType, verifyTls := payload.verifyTls,
        enabled := payload.enabled, credentials := payload.credentials, status := .unknown,
        lastSyncedAt := none }
    match store { tables with nodes := tables.nodes ++ [node] } with
    | none => refuse world Auth.internalError
    | some database =>
        ({ world with database := database, vitals := world.vitals ++ [{ nodeId := newId }] }, .done)

def updateNode (nodeId : String) (payload : NodeUpdate) : Handled :=
  let tables := world.database.tables
  match tables.node? nodeId with
  | none => refuse world nodeNotFound
  | some node =>
      match payload.clashes node tables.nodes with
      | some name => refuse world (duplicateNode name)
      | none =>
          if payload.nulls then refuse world Auth.internalError
          else
            match store { tables with nodes := Keyed.replace Node.id (payload.apply node) tables.nodes } with
            | none => refuse world Auth.internalError
            | some database => ({ world with database := database }, .done)

-- Placements and role bindings go with their node.
def deleteNode (nodeId : String) : Handled :=
  let tables := world.database.tables
  match tables.node? nodeId with
  | none => refuse world nodeNotFound
  | some _ =>
      let left := { tables with
        nodes := tables.nodes.filter fun node => node.id ≠ nodeId
        placements := tables.placements.filter fun placement => placement.nodeId ≠ nodeId }
      match store left with
      | none => refuse world Auth.internalError
      | some database =>
          ({ world with
              accounts := world.accounts.amendAll (unbound nodeId)
              database := database
              vitals := world.vitals.filter fun vitals => vitals.nodeId ≠ nodeId },
            .done)

def rowOf (node : Node) : Health.NodeRow :=
  let vitals := (Keyed.lookup Vitals.nodeId node.id world.vitals).getD { nodeId := node.id }
  { node with
    lastCheckedAt := vitals.lastCheckedAt, lastLatencyMs := vitals.lastLatencyMs,
    consecutiveFailures := vitals.consecutiveFailures, lastError := vitals.lastError }

def vitalsOf (row : Health.NodeRow) : Vitals where
  nodeId := row.id
  lastCheckedAt := row.lastCheckedAt
  lastLatencyMs := row.lastLatencyMs
  consecutiveFailures := row.consecutiveFailures
  lastError := row.lastError

def checkNode {Moment : Type} (platform : Platform Moment) (nodeId : String)
    (visit : Health.Visit) : Handled :=
  let tables := world.database.tables
  match tables.node? nodeId with
  | none => refuse world nodeNotFound
  | some node =>
      match Health.checkNode platform.runtime platform.str platform.health (rowOf world node) visit with
      | .error _ => refuse world Auth.internalError
      | .ok row =>
          match store { tables with nodes := Keyed.replace Node.id row.toNode tables.nodes } with
          | none => refuse world Auth.internalError
          | some database =>
              ({ world with
                  database := database
                  vitals := Keyed.upsert Vitals.nodeId (vitalsOf row) world.vitals },
                .done)

end Nodes

section Principals

variable (world : World) (ts : Datetime)

-- What the account handlers work on; the entries they append are the whole of this log.
def enter : Auth.World := ⟨world.accounts, world.issued, world.limits, []⟩

def leave (after : Auth.World) : World where
  accounts := after.accounts
  issued := after.issued
  limits := after.limits
  database := Actions.record world.database (after.audit.map fun fields => (ts, fields))
  vitals := world.vitals

def ofAuth (result : Auth.Result) : Handled :=
  (leave world ts result.1,
    match result.2 with
    | .ok reply => .auth reply
    | .error error => .refused error)

def principalNotFound : Auth.HttpError := ⟨404, "principal not found"⟩

def logged (accounts : Auth.Accounts) (fields : AuditLog.Fields) : World :=
  { world with accounts := accounts, database := Actions.record world.database [(ts, fields)] }

def setBinding (actor principalId : String) (payload : RoleBindingIn) : Handled :=
  match world.accounts.find? principalId with
  | none => refuse world principalNotFound
  | some principal =>
      if payload.nodeId ∈ principal.bindings.map RoleBinding.nodeId ∨
          payload.nodeId ∈ world.database.tables.nodes.map Node.id then
        (logged world ts (world.accounts.amend principalId (bound payload))
          { actor := actor, action := "set_role_binding", result := "success",
            nodeId := some payload.nodeId, targetType := some "principal",
            targetId := some principalId, params := some [("role", .str payload.role.value)] },
          .auth (.principal ((bound payload).change principal)))
      else refuse world Auth.internalError

-- Without a binding there is nothing to delete and nothing to record.
def deleteBinding (actor principalId nodeId : String) : Handled :=
  match world.accounts.find? principalId with
  | none => refuse world principalNotFound
  | some principal =>
      if nodeId ∈ principal.bindings.map RoleBinding.nodeId then
        (logged world ts (world.accounts.amend principalId (unbound nodeId))
          { actor := actor, action := "delete_role_binding", result := "success",
            nodeId := some nodeId, targetType := some "principal", targetId := some principalId },
          .auth (.principal ((unbound nodeId).change principal)))
      else (world, .auth (.principal principal))

end Principals

section Fleet

variable (world : World) (environment : Environment)

-- The routes whose bodies the action handlers take, with the one field their guard leaves out.
def actionOf : Routes.Request → Body → Option Actions.Request
  | .createUser nodeId orgId name email, _ => some (.createUser nodeId orgId name email)
  | .setUserDisabled nodeId userId orgId disabled, _ =>
      some (.setUserDisabled nodeId userId orgId disabled)
  | .deleteUser nodeId userId orgId, _ => some (.deleteUser nodeId userId orgId)
  | .issueProfile nodeId userId orgId fmt, _ => some (.issueProfile nodeId userId orgId fmt)
  | .emailProfile nodeId userId orgId fmt, .recipient address =>
      some (.emailProfile nodeId userId orgId address fmt)
  | .revokeProfile nodeId userId orgId, _ => some (.revokeProfile nodeId userId orgId)
  | .bulkCreateUsers nodeId orgId users, _ => some (.bulkCreateUsers nodeId orgId users)
  | .bulkUserAction nodeId orgId action userIds, _ =>
      some (.bulkUserAction nodeId orgId action userIds)
  | .createOrg nodeId name, _ => some (.createOrg nodeId name)
  | .deleteOrg nodeId orgId, _ => some (.deleteOrg nodeId orgId)
  | .setUserPolicy nodeId userId payload, _ => some (.setUserPolicy nodeId userId payload)
  | .serverAction nodeId serverId action, _ => some (.serverAction nodeId serverId action)
  | _, _ => none

-- A missing row is the one error a handler turns into a reply.
def replyOf (missing : String) : Option Error → Reply
  | none => .done
  | some .lookupError => .refused ⟨404, missing⟩
  | some _ => .refused Auth.internalError

-- A call that escapes leaves its handler before the commit.
def settle (missing : String) (database : Database) (raised : Option Error) : Handled :=
  if environment.escapes then refuse world Auth.internalError
  else ({ world with database := database }, replyOf missing raised)

def provision (actor username : String) (email : Option String)
    (targets : List Provisioning.Target) : Handled :=
  let attempts := targets.mapIdx fun index target => ⟨target, environment.created index⟩
  let outcome := Provisioning.provision world.database actor username email environment.newId attempts
  settle world environment "" outcome.database outcome.raised

def deprovision (actor logicalUserId : String) (hard : Bool) : Handled :=
  let outcome :=
    Provisioning.deprovision world.database actor logicalUserId hard environment.removed
  settle world environment "identity not found" outcome.database outcome.raised

def identityProfiles (actor logicalUserId : String) : Handled :=
  match (Provisioning.buildIdentityBundle world.database logicalUserId environment.profiles).2 with
  | .error error => settle world environment "identity not found" world.database (some error)
  | .ok _ =>
      settle world environment ""
        (Actions.record world.database [(environment.ts,
          { actor := actor, action := "download_identity_bundle", result := "success",
            targetType := some "identity", targetId := some logicalUserId })]) none

def syncOne (nodeId : String) : Handled :=
  let response := Operations.syncOne world.database nodeId (environment.listings nodeId)
  settle world environment "node not found" response.database response.raised

-- Each node's failure becomes its report, so nothing escapes.
def syncAll : Handled :=
  ({ world with database := (Sync.syncAll world.database environment.listings).2.2 }, .done)

end Fleet

section Dispatch

variable {Moment : Type} (platform : Platform Moment) (world : World)

-- `none` is a body that does not validate.
def handler (actor : String) (environment : Environment) (route : Routes.Request) (body : Body) :
    Option Handled :=
  match route, body with
  | .createNode, .nodeCreate payload => some (createNode world environment.newId payload)
  | .updateNode nodeId, .nodeUpdate payload => some (updateNode world nodeId payload)
  | .deleteNode nodeId, _ => some (deleteNode world nodeId)
  | .checkNode nodeId, _ => some (checkNode world platform nodeId environment.visit)
  | .provision username email targets, _ =>
      some (provision world environment actor username email targets)
  | .deprovision logicalUserId hard, _ =>
      some (deprovision world environment actor logicalUserId hard)
  | .identityProfiles logicalUserId, _ =>
      some (identityProfiles world environment actor logicalUserId)
  | .syncOne nodeId, _ => some (syncOne world environment nodeId)
  | .syncAll, _ => some (syncAll world environment)
  | .createPrincipal, .principalCreate payload =>
      some (ofAuth world environment.ts (Auth.createPrincipal platform.primitives (enter world) actor
        environment.newId environment.salt payload))
  | .updatePrincipal principalId, .principalUpdate payload =>
      some (ofAuth world environment.ts (Auth.updatePrincipal platform.primitives (enter world) actor
        principalId environment.salt payload))
  | .deletePrincipal principalId, _ =>
      some (ofAuth world environment.ts (Auth.deletePrincipal (enter world) actor principalId))
  | .setBinding principalId, .roleBinding payload =>
      some (setBinding world environment.ts actor principalId payload)
  | .deleteBinding principalId nodeId, _ =>
      some (deleteBinding world environment.ts actor principalId nodeId)
  | .createNode, _ | .updateNode _, _ | .createPrincipal, _ | .updatePrincipal _, _
  | .setBinding _, _ => none
  | route, body =>
      match actionOf route body with
      | some action =>
          let outcome := Actions.handle world.database actor action environment.actions
          some ({ world with database := outcome.database }, .action outcome.reply)
      | none =>
          match route with
          | .emailProfile .. => none
          | _ => some (world, .document)

def unprocessable : Auth.HttpError := ⟨422, "Unprocessable Entity"⟩

def unguarded (handled : Handled) : Outcome := ⟨handled.1, none, handled.2⟩

def handle (request : Request) : Outcome :=
  let environment := request.environment
  let limiterKey := RateLimit.keyFor request.forwarded request.peer
  match request.target with
  | .healthz | .readyz => ⟨world, none, .document⟩
  | .login username password =>
      unguarded (ofAuth world environment.ts (Auth.login platform.primitives platform.auth (enter world)
        request.now (limiterKey username) username password))
  | .mfaEnroll =>
      unguarded (ofAuth world environment.ts (Auth.mfaEnroll platform.primitives (enter world)
        request.now request.bearer environment.secret))
  | .mfaVerify code =>
      unguarded (ofAuth world environment.ts (Auth.mfaVerify platform.primitives platform.auth
        (enter world) request.now request.bearer limiterKey code))
  | .me =>
      match Auth.getCurrentPrincipal (enter world) request.now request.bearer with
      | .error error => unguarded (refuse world error)
      | .ok (principal, _) => ⟨world, some principal, .auth (.principal principal)⟩
  | .guarded route body =>
      match Auth.guarded (enter world) request.now request.bearer route with
      | .error error => unguarded (refuse world error)
      | .ok principal =>
          match handler platform world principal.username environment route body with
          | none => unguarded (refuse world unprocessable)
          | some (after, reply) => ⟨after, some principal, reply⟩

def step (request : Request) : Option World := some (handle platform world request).world

end Dispatch

end Fleet.Api
