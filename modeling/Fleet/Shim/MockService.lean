import Mathlib.Algebra.Ring.Nat
import Fleet.ControlPlane.Documents
import Fleet.Shim.Delivery
import Fleet.Shim.Lifecycle

set_option autoImplicit false

namespace Fleet.MockService

open HmacAuth Lifecycle
open MockNode (User Org Session)
open ShimResponses (Value PyException)

structure Server where
  id : String
  name : String
  status : String
  protocol : String
  port : Nat
  onlineClients : Nat
  orgIds : List String
  deriving DecidableEq

-- STATE.
structure Node where
  servers : List Server
  orgs : List Org
  users : List User
  sessions : List Session

-- What the process reads of its environment.
structure Settings where
  token : String
  secret : String
  nodeName : String
  forceFail : Bool

def version : String := "1.30.3-oss+shim0.1"

structure Platform where
  primitives : Primitives
  python : Documents.Interpreter
  -- How a value is formatted into a text.
  format : Value → String

-- What a handler answers, before it is encoded.
inductive Content where
  | json (value : Value)
  | plain (content : ByteArray)

structure Answer where
  status : Nat
  content : Content

section Views

def Server.document (server : Server) : Value :=
  .obj [("id", .str server.id), ("name", .str server.name), ("status", .str server.status),
    ("protocol", .str server.protocol), ("port", .int server.port),
    ("online_clients", .int server.onlineClients), ("org_ids", .arr (server.orgIds.map .str))]

def userDocument (view : UserView) : Value :=
  .obj [("id", .str view.id), ("name", view.name), ("org_id", .str view.orgId),
    ("org_name", view.orgName.elim .null .str), ("email", view.email),
    ("disabled", .bool view.disabled), ("revoked", .bool view.revoked)]

def orgDocument (view : OrgView) : Value :=
  .obj [("id", .str view.id), ("name", .str view.name), ("user_count", .int view.userCount)]

def sessionDocument (session : Session) : Value :=
  .obj (("user_id", .str session.userId) :: session.fields)

def stateDocument (servers : List Value) (orgs : List OrgView) (users : List UserView) : Value :=
  .obj [("servers", .arr servers), ("orgs", .arr (orgs.map orgDocument)),
    ("users", .arr (users.map userDocument))]

def Answer.crash : Answer := ⟨500, .plain "Internal Server Error".toUTF8⟩

def Answer.json (status : Nat) (members : List (String × Value)) : Answer :=
  ⟨status, .json (.obj members)⟩

def Answer.error (status : Nat) (text : String) : Answer := .json status [("error", .str text)]

def Answer.detail (status : Nat) (text : String) : Answer := .json status [("detail", .str text)]

def answerOf (response : Response) : Answer :=
  match response.body with
  | .error text => .error response.status text
  | .user view => ⟨response.status, .json (userDocument view)⟩
  | .state servers orgs users => ⟨response.status, .json (stateDocument servers orgs users)⟩
  | .deleted id => .json response.status [("status", .str "deleted"), ("id", .str id)]
  | .profile _ content => ⟨response.status, .plain content⟩
  | .link content => ⟨response.status, .json content⟩
  | .internalError => .crash

end Views

section Handlers

variable (settings : Settings) (platform : Platform)

def Node.lifecycle (node : Node) : MockNode.State where
  servers := node.servers.map Server.document
  orgs := node.orgs
  users := node.users
  sessions := node.sessions

-- No request on a user touches the servers.
def Node.after (node : Node) (state : MockNode.State) : Node :=
  { node with orgs := state.orgs, users := state.users, sessions := state.sessions }

def perform (node : Node) (call : MockNode.Call) : Answer × Node :=
  let (response, state) := MockNode.step settings.nodeName (Documents.loads platform.python)
    platform.format node.lifecycle call
  (answerOf response, node.after state)

def online (node : Node) : Nat := node.servers.countP fun server => server.status = "online"

def clients (node : Node) : Nat := (node.servers.map Server.onlineClients).sum

def ping (node : Node) : Answer :=
  .json 200 [("status", .str "ok"), ("node", .str settings.nodeName), ("version", .str version),
    ("servers_total", .int node.servers.length), ("servers_online", .int (online node)),
    ("online_clients", .int (clients node))]

-- Only connected users have live sessions.
def Node.live (node : Node) : List Session :=
  node.sessions.filter fun session => session.userId ∈
    (node.users.filter fun user => !user.disabled && !user.revoked).map User.id

def sessions (node : Node) : Answer :=
  .json 200 [("sessions", .arr (node.live.map sessionDocument))]

def actions : List String := ["start", "stop", "restart"]

def Server.turn (action : String) (server : Server) : Server :=
  if action = "stop" then { server with status := "offline", onlineClients := 0 }
  else { server with status := "online" }

def setServerState (node : Node) (serverId : String) (body : ByteArray) : Answer × Node :=
  match Keyed.lookup Server.id serverId node.servers with
  | none => (.error 404 "server not found", node)
  | some server =>
      match MockNode.fields (Documents.loads platform.python) body with
      | .error _ => (.crash, node)
      | .ok data =>
          match Value.getD data "action" .null with
          -- A list or an object cannot be looked up in a set.
          | .arr _ | .obj _ => (.crash, node)
          | .str action =>
              if action ∈ actions then
                (⟨200, .json (server.turn action).document⟩,
                  { node with
                    servers := Keyed.alter Server.id serverId (Server.turn action) node.servers })
              else (.error 400 "action must be start|stop|restart", node)
          | _ => (.error 400 "action must be start|stop|restart", node)

end Handlers

section Routes

inductive Endpoint where
  | liveness
  | ping
  | state
  | sessions
  | createUser (orgId : String)
  | setDisabled (userId : String)
  | deleteUser (userId : String)
  | issueProfile (userId : String)
  | revokeProfile (userId : String)
  | setServerState (serverId : String)
  deriving DecidableEq

-- A path parameter is what stands between two slashes, and something does.
def segments (path : String) : List String := (path.toList.splitOn '/').map String.ofList

def parameter (given : String) (endpoints : List (String × Endpoint)) : List (String × Endpoint) :=
  if given = "" then [] else endpoints

/-- The endpoints at a path, with their methods. -/
def endpoints : List String → List (String × Endpoint)
  | ["", ""] => [("GET", .liveness)]
  | ["", "v1", "ping"] => [("GET", .ping)]
  | ["", "v1", "state"] => [("GET", .state)]
  | ["", "v1", "sessions"] => [("GET", .sessions)]
  | ["", "v1", "orgs", orgId, "users"] => parameter orgId [("POST", .createUser orgId)]
  | ["", "v1", "users", userId] => parameter userId [("DELETE", .deleteUser userId)]
  | ["", "v1", "users", userId, "disable"] => parameter userId [("POST", .setDisabled userId)]
  | ["", "v1", "users", userId, "profile"] => parameter userId [("POST", .issueProfile userId)]
  | ["", "v1", "users", userId, "revoke"] => parameter userId [("POST", .revokeProfile userId)]
  | ["", "v1", "servers", serverId, "state"] =>
      parameter serverId [("POST", .setServerState serverId)]
  | _ => []

-- With the slashes at its end removed, or one added.
def toggled (path : String) : String :=
  if path.toList.getLast? = some '/' then
    String.ofList (path.toList.reverse.dropWhile (· = '/')).reverse
  else path ++ "/"

inductive Routed where
  | to (endpoint : Endpoint)
  | methodNotAllowed
  | redirect
  | notFound
  deriving DecidableEq

def route (method path : String) : Routed :=
  match endpoints (segments path) with
  | [] => if endpoints (segments (toggled path)) = [] then .notFound else .redirect
  | found =>
      match found.find? fun entry => entry.1 = method with
      | some entry => .to entry.2
      | none => .methodNotAllowed

end Routes

section Application

variable (settings : Settings) (platform : Platform)

-- A request with what its handler draws.
structure Request where
  call : Call
  drawn : String
  keyId : String

abbrev Running := NonceCache × Node

def handle (node : Node) (request : Request) : Endpoint → Answer × Node
  | .liveness =>
      (.json 200 [("node", .str settings.nodeName), ("status", .str "up")], node)
  | .ping => (ping settings node, node)
  | .state => perform settings platform node .state
  | .sessions => (sessions node, node)
  | .createUser orgId =>
      perform settings platform node (.createUser orgId request.call.body request.drawn)
  | .setDisabled userId => perform settings platform node (.setDisabled userId request.call.body)
  | .deleteUser userId => perform settings platform node (.deleteUser userId)
  | .issueProfile userId =>
      perform settings platform node (.issueProfile userId request.call.body request.keyId)
  | .revokeProfile userId => perform settings platform node (.revoke userId)
  | .setServerState serverId => setServerState platform node serverId request.call.body

def orUnauthorized (error : Option String) : String :=
  let text := error.getD ""
  if text = "" then "unauthorized" else text

/-- `_auth`: what is answered in place of the handler. -/
def auth (nonces : NonceCache) (call : Call) : Option Answer × NonceCache :=
  if settings.forceFail then (some (.error 401 "forced failure"), nonces)
  else
    let (verdict, nonces) := Delivery.authorize platform.primitives settings.token settings.secret
      defaultMaxSkew nonces call
    match verdict with
    | .raised => (some .crash, nonces)
    | .returned result =>
        if result.ok then (none, nonces)
        else (some (.error 401 (orUnauthorized result.error)), nonces)

def answer (running : Running) (request : Request) : Answer × Running :=
  match route request.call.method request.call.path with
  | .notFound => (.detail 404 "Not Found", running)
  | .methodNotAllowed => (.detail 405 "Method Not Allowed", running)
  | .redirect => (⟨307, .plain .empty⟩, running)
  | .to .liveness =>
      let (answer, node) := handle settings platform running.2 request .liveness
      (answer, (running.1, node))
  | .to endpoint =>
      match auth settings platform running.1 request.call with
      | (some refusal, nonces) => (refusal, (nonces, running.2))
      | (none, nonces) =>
          let (answer, node) := handle settings platform running.2 request endpoint
          (answer, (nonces, node))

def encode (answer : Answer) : ShimResponses.Response :=
  match answer.content with
  | .json value =>
      if encodable value then
        { status := answer.status, content := Documents.encode platform.python value }
      else { status := 500, content := "Internal Server Error".toUTF8 }
  | .plain content => { status := answer.status, content }

def step (running : Running) (request : Request) : ShimResponses.Response × Running :=
  let (reply, running) := answer settings platform running request
  (encode platform reply, running)

end Application

end Fleet.MockService
