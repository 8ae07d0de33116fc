import Mathlib.Data.List.Infix
import Fleet.ControlPlane.Identity
import Fleet.ControlPlane.Operations

set_option autoImplicit false

namespace Fleet.Routes

open Identity Db NodeAdapter Provisioning Sync

inductive Method where
  | get
  | post
  | put
  | patch
  | delete
  deriving DecidableEq

inductive ProfileFormat where
  | ovpn
  | tar
  | key

def ProfileFormat.value : ProfileFormat → String
  | .ovpn => "ovpn"
  | .tar => "tar"
  | .key => "key"

inductive ServerAction where
  | start
  | stop
  | restart

def ServerAction.value : ServerAction → String
  | .start => "start"
  | .stop => "stop"
  | .restart => "restart"

inductive BulkAction where
  | disable
  | enable
  | revoke
  | delete
  deriving DecidableEq

structure BulkUserRow where
  name : String
  email : Option String

structure UserPolicyIn where
  orgId : String
  pin : Option String
  otpAuth : Option Bool
  clientToClient : Option Bool
  disabled : Option Bool
  resetOtp : Option Bool

-- `model_dump(exclude_none=True, exclude={"org_id"})`.
def UserPolicyIn.policy (payload : UserPolicyIn) : List (String × Json) :=
  (payload.pin.map fun pin => ("pin", Json.str pin)).toList ++
    [("otp_auth", payload.otpAuth), ("client_to_client", payload.clientToClient),
      ("disabled", payload.disabled), ("reset_otp", payload.resetOtp)].filterMap
        fun (name, value) => value.map fun flag => (name, Json.bool flag)

-- The guarded routes with their path parameters and what the handlers pass on of the bodies.
inductive Request where
  | listAdapterTypes
  | listNodes
  | createNode
  | getNode (nodeId : String)
  | updateNode (nodeId : String)
  | deleteNode (nodeId : String)
  | checkNode (nodeId : String)
  | nodeServers (nodeId : String)
  | nodeOrgs (nodeId : String)
  | nodeUsers (nodeId : String)
  | nodeSessions (nodeId : String)
  | nodeAdminUrl (nodeId : String)
  | getDashboard
  | listServers
  | searchUsers
  | createUser (nodeId orgId name : String) (email : Option String)
  | setUserDisabled (nodeId userId orgId : String) (disabled : Bool)
  | deleteUser (nodeId userId orgId : String)
  | issueProfile (nodeId userId orgId : String) (fmt : ProfileFormat)
  | emailProfile (nodeId userId orgId : String) (fmt : ProfileFormat)
  | revokeProfile (nodeId userId orgId : String)
  | bulkCreateUsers (nodeId orgId : String) (users : List BulkUserRow)
  | bulkUserAction (nodeId orgId : String) (action : BulkAction) (userIds : List String)
  | createOrg (nodeId name : String)
  | deleteOrg (nodeId orgId : String)
  | setUserPolicy (nodeId userId : String) (payload : UserPolicyIn)
  | serverAction (nodeId serverId : String) (action : ServerAction)
  | listAudit
  | verifyAudit
  | provision (username : String) (email : Option String) (targets : List Target)
  | listIdentities
  | identityProfiles (logicalUserId : String)
  | deprovision (logicalUserId : String) (hard : Bool)
  | syncAll
  | syncOne (nodeId : String)
  | listPrincipals
  | createPrincipal
  | updatePrincipal (principalId : String)
  | deletePrincipal (principalId : String)
  | setBinding (principalId : String)
  | deleteBinding (principalId nodeId : String)

def Request.method : Request → Method
  | .createNode | .checkNode _ | .createUser .. | .setUserDisabled .. | .issueProfile ..
  | .emailProfile .. | .revokeProfile .. | .bulkCreateUsers .. | .bulkUserAction ..
  | .createOrg .. | .serverAction .. | .provision .. | .deprovision .. | .syncAll | .syncOne _
  | .createPrincipal => .post
  | .updateNode _ | .setUserPolicy .. | .updatePrincipal _ => .patch
  | .deleteNode _ | .deleteUser .. | .deleteOrg .. | .deletePrincipal _ | .deleteBinding .. =>
      .delete
  | .setBinding _ => .put
  | _ => .get

def Request.template : Request → String
  | .listAdapterTypes => "/api/v1/nodes/adapters"
  | .listNodes | .createNode => "/api/v1/nodes"
  | .getNode _ | .updateNode _ | .deleteNode _ => "/api/v1/nodes/{node_id}"
  | .checkNode _ => "/api/v1/nodes/{node_id}/check"
  | .nodeServers _ => "/api/v1/nodes/{node_id}/servers"
  | .nodeOrgs _ | .createOrg .. => "/api/v1/nodes/{node_id}/orgs"
  | .nodeUsers _ | .createUser .. => "/api/v1/nodes/{node_id}/users"
  | .nodeSessions _ => "/api/v1/nodes/{node_id}/sessions"
  | .nodeAdminUrl _ => "/api/v1/nodes/{node_id}/admin-url"
  | .getDashboard => "/api/v1/dashboard"
  | .listServers => "/api/v1/servers"
  | .searchUsers => "/api/v1/users"
  | .setUserDisabled .. => "/api/v1/nodes/{node_id}/users/{user_id}/disable"
  | .deleteUser .. => "/api/v1/nodes/{node_id}/users/{user_id}"
  | .issueProfile .. => "/api/v1/nodes/{node_id}/users/{user_id}/profile"
  | .emailProfile .. => "/api/v1/nodes/{node_id}/users/{user_id}/profile/email"
  | .revokeProfile .. => "/api/v1/nodes/{node_id}/users/{user_id}/revoke"
  | .bulkCreateUsers .. => "/api/v1/nodes/{node_id}/users/bulk"
  | .bulkUserAction .. => "/api/v1/nodes/{node_id}/users/bulk-action"
  | .deleteOrg .. => "/api/v1/nodes/{node_id}/orgs/{org_id}"
  | .setUserPolicy .. => "/api/v1/nodes/{node_id}/users/{user_id}/policy"
  | .serverAction .. => "/api/v1/nodes/{node_id}/servers/{server_id}/action"
  | .listAudit => "/api/v1/audit"
  | .verifyAudit => "/api/v1/audit/verify"
  | .provision .. => "/api/v1/provision"
  | .listIdentities => "/api/v1/identities"
  | .identityProfiles _ => "/api/v1/identities/{logical_user_id}/profiles"
  | .deprovision .. => "/api/v1/identities/{logical_user_id}/deprovision"
  | .syncAll => "/api/v1/sync"
  | .syncOne _ => "/api/v1/nodes/{node_id}/sync"
  | .listPrincipals | .createPrincipal => "/api/v1/principals"
  | .updatePrincipal _ | .deletePrincipal _ => "/api/v1/principals/{principal_id}"
  | .setBinding _ => "/api/v1/principals/{principal_id}/bindings"
  | .deleteBinding .. => "/api/v1/principals/{principal_id}/bindings/{node_id}"

-- `path_params.get("node_id")`.
def Request.nodeId? : Request → Option String
  | .getNode nodeId | .updateNode nodeId | .deleteNode nodeId | .checkNode nodeId
  | .nodeServers nodeId | .nodeOrgs nodeId | .nodeUsers nodeId | .nodeSessions nodeId
  | .nodeAdminUrl nodeId | .createUser nodeId .. | .setUserDisabled nodeId ..
  | .deleteUser nodeId .. | .issueProfile nodeId .. | .emailProfile nodeId ..
  | .revokeProfile nodeId .. | .bulkCreateUsers nodeId .. | .bulkUserAction nodeId ..
  | .createOrg nodeId _ | .deleteOrg nodeId _ | .setUserPolicy nodeId .. | .serverAction nodeId ..
  | .syncOne nodeId | .deleteBinding _ nodeId => some nodeId
  | _ => none

def isAdminRoute (method : Method) (template : String) : Bool :=
  if "/principals".toList <:+: template.toList then true
  else if method = .post ∧ "/nodes".toList <:+ template.toList then true
  else if method ∈ [.patch, .delete] ∧ "/nodes/{node_id}".toList <:+ template.toList then true
  else false

def requiredRole (request : Request) : Role :=
  if isAdminRoute request.method request.template then .admin
  else if request.method = .get then .viewer
  else .operator

-- The error is the detail of the 403 response.
def rbacGuard (principal : Principal) (request : Request) : Except String Principal :=
  let need := requiredRole request
  let held := principal.effectiveRole request.nodeId?
  if roleAtLeast held need then .ok principal
  else
    let scope := match request.nodeId? with
      | none | some "" => ""
      | some nodeId => " on node " ++ nodeId
    .error ("requires " ++ need.value ++ scope ++ "; you have " ++ held.value)

theorem rbacGuard_eq_ok {principal granted : Principal} {request : Request} :
    rbacGuard principal request = .ok granted ↔ granted = principal ∧
      roleAtLeast (principal.effectiveRole request.nodeId?) (requiredRole request) = true := by
  unfold rbacGuard
  dsimp only
  split
  next held => simp [held, eq_comm]
  next short => simp [short]

-- What the nodes answer to the calls of one request.
structure Environment where
  newId : String
  created : Nat → Answer String
  removed : String → Answer Unit
  profiles : String → Except String ByteArray
  listings : String → Listing
  replies : Nat → Reply

section Handlers

variable (environment : Environment) (database : Database)

-- AdapterError is caught around each call, NotImplementedError around none.
def invoke (node : Node) (adapterType : AdapterType) : Nat → List Operation → List Call
  | _, [] => []
  | index, operation :: rest =>
      if implements adapterType operation then
        ⟨node.id, operation, environment.replies index⟩ ::
          invoke node adapterType (index + 1) rest
      else [⟨node.id, operation, .notImplemented⟩]

-- The handlers of one node: `_perform`, `_read` and the loops of the bulk routes.
def onNode (nodeId : String) (operations : List Operation) : List Call :=
  match database.tables.node? nodeId with
  | none => []
  | some node =>
      match buildAdapterForNode node with
      | .error _ => []
      | .ok adapterType => invoke environment node adapterType 0 operations

def bulkOperation (orgId : String) (action : BulkAction) (userId : String) : Operation :=
  match action with
  | .delete => .deleteUser userId orgId
  | .revoke => .revokeProfile userId orgId
  | .disable | .enable => .setUserDisabled userId orgId (action = .disable)

-- Both reads of a node are started together.
def fetchNode (node : Node) : List Call :=
  if ¬ node.enabled ∨ node.status = .down then []
  else
    match buildAdapterForNode node with
    | .error _ => []
    | .ok adapterType =>
        [.getState, .listSessions].map fun operation =>
          ⟨node.id, operation, if implements adapterType operation then .done else .notImplemented⟩

def attemptsOf (targets : List Target) : List Attempt :=
  targets.mapIdx fun index target => ⟨target, environment.created index⟩

-- The adapter methods the handler of the request invokes, on which nodes.
def invocations (actor : String) : Request → List Call
  | .checkNode nodeId => onNode environment database nodeId [.health]
  | .nodeServers nodeId => onNode environment database nodeId [.listServers]
  | .nodeOrgs nodeId => onNode environment database nodeId [.listOrgs]
  | .nodeUsers nodeId => onNode environment database nodeId [.listUsers]
  | .nodeSessions nodeId => (database.tables.node? nodeId).elim [] fetchNode
  | .getDashboard => database.tables.nodes.flatMap fetchNode
  | .listServers | .searchUsers =>
      (database.tables.nodes.filter fun node => node.enabled).flatMap fetchNode
  | .createUser nodeId orgId name email =>
      onNode environment database nodeId [.createUser orgId name email]
  | .setUserDisabled nodeId userId orgId disabled =>
      onNode environment database nodeId [.setUserDisabled userId orgId disabled]
  | .deleteUser nodeId userId orgId =>
      onNode environment database nodeId [.deleteUser userId orgId]
  | .issueProfile nodeId userId orgId fmt | .emailProfile nodeId userId orgId fmt =>
      onNode environment database nodeId [.issueProfile userId orgId fmt.value]
  | .revokeProfile nodeId userId orgId =>
      onNode environment database nodeId [.revokeProfile userId orgId]
  | .bulkCreateUsers nodeId orgId users =>
      onNode environment database nodeId
        (users.map fun row => .createUser orgId row.name row.email)
  | .bulkUserAction nodeId orgId action userIds =>
      onNode environment database nodeId (userIds.map (bulkOperation orgId action))
  | .createOrg nodeId name => onNode environment database nodeId [.createOrg name]
  | .deleteOrg nodeId orgId => onNode environment database nodeId [.deleteOrg orgId]
  | .setUserPolicy nodeId userId payload =>
      onNode environment database nodeId [.setUserPolicy userId payload.orgId payload.policy]
  | .serverAction nodeId serverId action =>
      onNode environment database nodeId [.setServerState serverId action.value]
  | .provision username email targets =>
      (Provisioning.provision database actor username email environment.newId
        (attemptsOf environment targets)).calls
  | .identityProfiles logicalUserId =>
      (buildIdentityBundle database logicalUserId environment.profiles).1
  | .deprovision logicalUserId hard =>
      (Provisioning.deprovision database actor logicalUserId hard environment.removed).calls
  | .syncAll => (Sync.syncAll database environment.listings).1
  | .syncOne nodeId =>
      (Operations.syncOne database nodeId (environment.listings nodeId)).calls
  | .listAdapterTypes | .listNodes | .createNode | .getNode _ | .updateNode _ | .deleteNode _
  | .nodeAdminUrl _ | .listAudit | .verifyAudit | .listIdentities | .listPrincipals
  | .createPrincipal | .updatePrincipal _ | .deletePrincipal _ | .setBinding _
  | .deleteBinding .. => []

def handle (principal : Principal) (request : Request) : List Call :=
  match rbacGuard principal request with
  | .error _ => []
  | .ok granted => invocations environment database granted.username request

end Handlers

end Fleet.Routes
