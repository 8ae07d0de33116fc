import Fleet.Shared.Json

set_option autoImplicit false

namespace Fleet.ShimAdapter

-- `endpoint.rstrip("/")`.
def base (endpoint : String) : String :=
  String.ofList ((endpoint.toList.reverse.dropWhile (· = '/')).reverse)

def methods : List String := ["GET", "POST", "DELETE", "PATCH"]

-- The arguments of one `_request`.
structure Request where
  method : String
  path : String
  body : ByteArray
  known : method ∈ methods

def get (path : String) : Request := ⟨"GET", path, .empty, by decide⟩

def payloadBody : Option Json → ByteArray
  | none => .empty
  | some payload => (payload.dumps .default).toUTF8

-- `_mutate`: a payload is sent as JSON, no payload as the empty body.
def mutate (method path : String) (payload : Option Json) (known : method ∈ methods) : Request :=
  ⟨method, path, payloadBody payload, known⟩

def health : Request := get "/v1/ping"

-- get_state, list_servers, list_orgs and list_users all read the one state document.
def getState : Request := get "/v1/state"

def listSessions : Request := get "/v1/sessions"

def createUser (orgId name : String) (email : Option String) : Request :=
  mutate "POST" s!"/v1/orgs/{orgId}/users"
    (some (.obj [("name", .str name), ("email", .ofOption email)])) (by decide)

def setUserDisabled (userId : String) (disabled : Bool) : Request :=
  mutate "POST" s!"/v1/users/{userId}/disable" (some (.obj [("disabled", .bool disabled)]))
    (by decide)

def deleteUser (userId : String) : Request :=
  mutate "DELETE" s!"/v1/users/{userId}" none (by decide)

def issueProfile (userId fmt : String) : Request :=
  mutate "POST" s!"/v1/users/{userId}/profile" (some (.obj [("fmt", .str fmt)])) (by decide)

def revokeProfile (userId : String) : Request :=
  mutate "POST" s!"/v1/users/{userId}/revoke" (some (.obj [])) (by decide)

def setServerState (serverId action : String) : Request :=
  mutate "POST" s!"/v1/servers/{serverId}/state" (some (.obj [("action", .str action)]))
    (by decide)

def createOrg (name : String) : Request :=
  mutate "POST" "/v1/orgs" (some (.obj [("name", .str name)])) (by decide)

def deleteOrg (orgId : String) : Request := mutate "DELETE" s!"/v1/orgs/{orgId}" none (by decide)

def setUserPolicy (userId : String) (policy : List (String × Json)) : Request :=
  mutate "PATCH" s!"/v1/users/{userId}" (some (.obj policy)) (by decide)

end Fleet.ShimAdapter
