import Fleet.Shared.Json

set_option autoImplicit false

namespace Fleet.NodeAdapter

inductive AdapterType where
  | shim
  | mongo
  | ssh
  deriving DecidableEq

-- The methods of `NodeAdapter` with the arguments a caller passes.
inductive Operation where
  | health
  | getState
  | listServers
  | listOrgs
  | listUsers
  | listSessions
  | createUser (orgId name : String) (email : Option String)
  | setUserDisabled (userId orgId : String) (disabled : Bool)
  | deleteUser (userId orgId : String)
  | issueProfile (userId orgId fmt : String)
  | revokeProfile (userId orgId : String)
  | setServerState (serverId action : String)
  | createOrg (name : String)
  | deleteOrg (orgId : String)
  | setUserPolicy (userId orgId : String) (policy : List (String × Json))

-- The two sections of the interface that change a node: mutations, and orgs with user policy.
def Operation.mutates : Operation → Bool
  | .health | .getState | .listServers | .listOrgs | .listUsers | .listSessions => false
  | _ => true

inductive Reply where
  | created (userId : String)
  | done
  | failed (text : String)
  | notImplemented
  deriving DecidableEq

-- A method invoked on the adapter of a node, with what it returned or raised.
structure Call where
  nodeId : String
  operation : Operation
  reply : Reply

structure UserInfo where
  id : String
  name : String
  disabled : Bool := false
  revoked : Bool := false
  deriving DecidableEq

abbrev Credentials := List (String × Json)

def given (credentials : Credentials) (key : String) : Bool :=
  (Json.get? credentials key).elim false Json.truthy

-- What the constructor of the class checks; `none` where it returns.
def rejects (adapterType : AdapterType) (endpoint : String) (credentials : Credentials) :
    Option String :=
  match adapterType with
  | .shim =>
      if given credentials "token" && given credentials "secret" then none
      else some "shim adapter requires 'token' and 'secret' credentials"
  | .mongo =>
      if given credentials "mongo_uri" || endpoint ≠ "" then none
      else some "mongo adapter requires a 'mongo_uri' credential or endpoint"
  | .ssh =>
      if given credentials "host" && given credentials "private_key" then none
      else some "ssh adapter requires 'host' and 'private_key' credentials"

-- The stubs inherit NotImplementedError for everything but the liveness check.
def implements : AdapterType → Operation → Bool
  | .shim, _ => true
  | _, .health => true
  | _, _ => false

end Fleet.NodeAdapter
