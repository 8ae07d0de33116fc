import Fleet.ControlPlane.Adapter
import Fleet.ControlPlane.ShimAdapter

set_option autoImplicit false

namespace Fleet.ShimResponses

open NodeAdapter ShimAdapter

-- A decoded JSON document; `float` holds no number for nan and the infinities.
inductive Value where
  | null
  | bool (value : Bool)
  | int (value : Int)
  | float (value : Option (Int × Int))
  | str (value : String)
  | arr (items : List Value)
  | obj (members : List (String × Value))

namespace Value

def truthy : Value → Bool
  | .null => false
  | .bool value => value
  | .int value => value ≠ 0
  | .float none => true
  | .float (some (significand, _)) => significand ≠ 0
  | .str value => value ≠ ""
  | .arr items => !items.isEmpty
  | .obj members => !members.isEmpty

def get? (members : List (String × Value)) (key : String) : Option Value :=
  (members.reverse.find? fun member => member.1 == key).map (·.2)

def getD (members : List (String × Value)) (key : String) (default : Value) : Value :=
  (get? members key).getD default

end Value

inductive PyException where
  | valueError
  | keyError
  | attributeError
  | typeError
  | recursionError
  | notImplementedError
  | other (name : String)
  deriving DecidableEq

-- How a method ends when it does not return.
inductive Raised where
  | adapterError (text : String)
  | escaped (exception : PyException)
  deriving DecidableEq

structure Response where
  status : Nat
  charset : Option String := none
  content : ByteArray
  -- What the clock shows between the request and its response.
  latencyMs : Nat := 0

inductive Exchange where
  | httpError (text : String)
  | response (resp : Response)

/-- What the client library does with a body, whatever it is: `resp.json()`, `resp.text`, `str` of
a decoded value and `datetime.fromisoformat`, which refuses a text with ValueError. -/
structure Runtime (Moment : Type) where
  loads : ByteArray → Except PyException Value
  text : Response → String
  format : Value → String
  fromisoformat : String → Option Moment

section Parsers

-- `s[key]`.
def subscript (s : Value) (key : String) : Except Raised Value :=
  match s with
  | .obj members =>
      match Value.get? members key with
      | some value => .ok value
      | none => .error (.escaped .keyError)
  | _ => .error (.escaped .typeError)

-- The receiver of `.get`.
def members (s : Value) : Except Raised (List (String × Value)) :=
  match s with
  | .obj members => .ok members
  | _ => .error (.escaped .attributeError)

-- A text is iterated by character and an object by key.
def iterate : Value → Except Raised (List Value)
  | .arr items => .ok items
  | .str text => .ok (text.toList.map fun c => .str (String.singleton c))
  | .obj members => .ok (members.map fun member => .str member.1)
  | _ => .error (.escaped .typeError)

structure ServerInfo where
  id : Value
  name : Value
  status : Value
  protocol : Value
  port : Value
  onlineClients : Value
  orgIds : List Value

structure OrgInfo where
  id : Value
  name : Value
  userCount : Value

structure UserInfo where
  id : Value
  name : Value
  orgId : Value
  orgName : Value
  disabled : Value
  revoked : Value
  email : Value

structure SessionInfo (Moment : Type) where
  userId : Value
  userName : Value
  serverId : Value
  virtualAddress : Value
  realAddress : Value
  connectedSince : Option Moment
  bytesSent : Value
  bytesReceived : Value

structure NodeState where
  servers : List ServerInfo
  orgs : List OrgInfo
  users : List UserInfo

def parseServer (s : Value) : Except Raised ServerInfo := do
  let id ← subscript s "id"
  let fields ← members s
  let orgIds ← iterate (Value.getD fields "org_ids" (.arr []))
  return {
    id := id
    name := Value.getD fields "name" (.str "")
    status := Value.getD fields "status" (.str "unknown")
    protocol := Value.getD fields "protocol" (.str "openvpn")
    port := Value.getD fields "port" .null
    onlineClients := Value.getD fields "online_clients" (.int 0)
    orgIds := orgIds }

def parseOrg (o : Value) : Except Raised OrgInfo := do
  let id ← subscript o "id"
  let fields ← members o
  return {
    id := id
    name := Value.getD fields "name" (.str "")
    userCount := Value.getD fields "user_count" (.int 0) }

def parseUser (u : Value) : Except Raised UserInfo := do
  let id ← subscript u "id"
  let fields ← members u
  return {
    id := id
    name := Value.getD fields "name" (.str "")
    orgId := Value.getD fields "org_id" (.str "")
    orgName := Value.getD fields "org_name" .null
    disabled := Value.getD fields "disabled" (.bool false)
    revoked := Value.getD fields "revoked" (.bool false)
    email := Value.getD fields "email" .null }

variable {Moment : Type} (runtime : Runtime Moment)

-- Only ValueError is caught around `fromisoformat`, which takes nothing but text.
def connectedSince (ts : Value) : Except Raised (Option Moment) :=
  if ts.truthy then
    match ts with
    | .str text => .ok (runtime.fromisoformat text)
    | _ => .error (.escaped .typeError)
  else .ok none

def parseSession (s : Value) : Except Raised (SessionInfo Moment) := do
  let fields ← members s
  let since ← connectedSince runtime (Value.getD fields "connected_since" .null)
  return {
    userId := Value.getD fields "user_id" (.str "")
    userName := Value.getD fields "user_name" (.str "")
    serverId := Value.getD fields "server_id" (.str "")
    virtualAddress := Value.getD fields "virtual_address" .null
    realAddress := Value.getD fields "real_address" .null
    connectedSince := since
    bytesSent := Value.getD fields "bytes_sent" (.int 0)
    bytesReceived := Value.getD fields "bytes_received" (.int 0) }

-- `[parse(s) for s in data.get(key, [])]`.
def parseAll {Info : Type} (parse : Value → Except Raised Info) (data : Value) (key : String) :
    Except Raised (List Info) := do
  let fields ← members data
  let items ← iterate (Value.getD fields key (.arr []))
  items.mapM parse

end Parsers

section Methods

variable {Moment : Type} (runtime : Runtime Moment) (base : String)

def request (sent : Request) : Exchange → Except Raised Response
  | .httpError text =>
      .error (.adapterError ("transport error to " ++ base ++ sent.path ++ ": " ++ text))
  | .response resp => .ok resp

def json (resp : Response) : Except Raised Value :=
  (runtime.loads resp.content).mapError .escaped

def getJson (sent : Request) (exchange : Exchange) : Except Raised Value := do
  let resp ← request base sent exchange
  if resp.status = 401 then throw (.adapterError "authentication rejected by node shim")
  else if resp.status ≠ 200 then
    throw (.adapterError ("node shim returned " ++ toString resp.status ++ " for " ++ sent.path))
  else
    match runtime.loads resp.content with
    | .ok data => return data
    | .error .valueError => throw (.adapterError ("invalid JSON from " ++ sent.path))
    | .error exception => throw (.escaped exception)

def errorDetail (resp : Response) : Except Raised String :=
  match runtime.loads resp.content with
  | .ok (.obj fields) =>
      .ok ((Value.get? fields "error").elim (runtime.text resp) fun
        | .str text => text
        | value => runtime.format value)
  | .ok _ => .error (.escaped .attributeError)
  | .error .valueError => .ok (runtime.text resp)
  | .error exception => .error (.escaped exception)

def mutate (sent : Request) (exchange : Exchange) : Except Raised Response := do
  let resp ← request base sent exchange
  if resp.status = 401 then throw (.adapterError "authentication rejected by node shim")
  else if 400 ≤ resp.status then
    let detail ← errorDetail runtime resp
    throw (.adapterError ("node shim " ++ toString resp.status ++ ": " ++ detail))
  else return resp

inductive Reachability where
  | reachable
  | degraded
  | down
  deriving DecidableEq

structure NodeHealth where
  reachability : Reachability
  latencyMs : Option Nat := none
  error : Option String := none
  detail : List (String × Value) := []

def healthDetail (fields : List (String × Value)) : List (String × Value) :=
  ["version", "servers_total", "servers_online", "online_clients"].map fun key =>
    (key, Value.getD fields key .null)

def health (exchange : Exchange) : Except Raised NodeHealth :=
  match request base ShimAdapter.health exchange with
  | .error (.adapterError text) => .ok { reachability := .down, error := some text }
  | .error raised => .error raised
  | .ok resp =>
      if resp.status = 401 then
        .ok {
          reachability := .degraded
          latencyMs := some resp.latencyMs
          error := some "authentication rejected by node shim (check token/secret/clock skew)" }
      else if 500 ≤ resp.status then
        .ok {
          reachability := .degraded
          latencyMs := some resp.latencyMs
          error := some ("node shim returned " ++ toString resp.status) }
      else if resp.status ≠ 200 then
        .ok {
          reachability := .degraded
          latencyMs := some resp.latencyMs
          error := some ("unexpected status " ++ toString resp.status) }
      else
        match runtime.loads resp.content with
        | .ok data => (members data).map fun fields =>
            { reachability := .reachable, latencyMs := some resp.latencyMs,
              detail := healthDetail fields }
        | .error .valueError =>
            .ok { reachability := .reachable, latencyMs := some resp.latencyMs,
                  detail := healthDetail [] }
        | .error exception => .error (.escaped exception)

def getState (exchange : Exchange) : Except Raised NodeState := do
  let data ← getJson runtime base ShimAdapter.getState exchange
  let servers ← parseAll parseServer data "servers"
  let orgs ← parseAll parseOrg data "orgs"
  let users ← parseAll parseUser data "users"
  return ⟨servers, orgs, users⟩

def listServers (exchange : Exchange) : Except Raised (List ServerInfo) := do
  let data ← getJson runtime base ShimAdapter.getState exchange
  parseAll parseServer data "servers"

def listOrgs (exchange : Exchange) : Except Raised (List OrgInfo) := do
  let data ← getJson runtime base ShimAdapter.getState exchange
  parseAll parseOrg data "orgs"

def listUsers (exchange : Exchange) : Except Raised (List UserInfo) := do
  let data ← getJson runtime base ShimAdapter.getState exchange
  parseAll parseUser data "users"

def listSessions (exchange : Exchange) : Except Raised (List (SessionInfo Moment)) := do
  let data ← getJson runtime base ShimAdapter.listSessions exchange
  parseAll (parseSession runtime) data "sessions"

-- `_parse(resp.json())` after a mutation; nothing is caught here.
def mutateThen {Info : Type} (parse : Value → Except Raised Info) (sent : Request)
    (exchange : Exchange) : Except Raised Info := do
  let resp ← mutate runtime base sent exchange
  let data ← json runtime resp
  parse data

def createUser (orgId name : String) (email : Option String) :
    Exchange → Except Raised UserInfo :=
  mutateThen runtime base parseUser (ShimAdapter.createUser orgId name email)

def setUserDisabled (userId : String) (disabled : Bool) : Exchange → Except Raised UserInfo :=
  mutateThen runtime base parseUser (ShimAdapter.setUserDisabled userId disabled)

def deleteUser (userId : String) (exchange : Exchange) : Except Raised Unit := do
  let _ ← mutate runtime base (ShimAdapter.deleteUser userId) exchange

def issueProfile (userId fmt : String) (exchange : Exchange) : Except Raised ByteArray := do
  let resp ← mutate runtime base (ShimAdapter.issueProfile userId fmt) exchange
  return resp.content

def revokeProfile (userId : String) (exchange : Exchange) : Except Raised Unit := do
  let _ ← mutate runtime base (ShimAdapter.revokeProfile userId) exchange

def setServerState (serverId action : String) : Exchange → Except Raised ServerInfo :=
  mutateThen runtime base parseServer (ShimAdapter.setServerState serverId action)

def createOrg (name : String) : Exchange → Except Raised OrgInfo :=
  mutateThen runtime base parseOrg (ShimAdapter.createOrg name)

def deleteOrg (orgId : String) (exchange : Exchange) : Except Raised Unit := do
  let _ ← mutate runtime base (ShimAdapter.deleteOrg orgId) exchange

def setUserPolicy (userId : String) (policy : List (String × Json)) :
    Exchange → Except Raised UserInfo :=
  mutateThen runtime base parseUser (ShimAdapter.setUserPolicy userId policy)

inductive Returned (Moment : Type) where
  | health (value : NodeHealth)
  | state (value : NodeState)
  | servers (values : List ServerInfo)
  | orgs (values : List OrgInfo)
  | users (values : List UserInfo)
  | sessions (values : List (SessionInfo Moment))
  | user (value : UserInfo)
  | server (value : ServerInfo)
  | org (value : OrgInfo)
  | content (value : ByteArray)
  | nothing

/-- The method behind an operation, given how its one HTTP exchange went. -/
def perform (operation : Operation) (exchange : Exchange) : Except Raised (Returned Moment) :=
  match operation with
  | .health => (health runtime base exchange).map .health
  | .getState => (getState runtime base exchange).map .state
  | .listServers => (listServers runtime base exchange).map .servers
  | .listOrgs => (listOrgs runtime base exchange).map .orgs
  | .listUsers => (listUsers runtime base exchange).map .users
  | .listSessions => (listSessions runtime base exchange).map .sessions
  | .createUser orgId name email => (createUser runtime base orgId name email exchange).map .user
  | .setUserDisabled userId _ disabled =>
      (setUserDisabled runtime base userId disabled exchange).map .user
  | .deleteUser userId _ => (deleteUser runtime base userId exchange).map fun _ => .nothing
  | .issueProfile userId _ fmt => (issueProfile runtime base userId fmt exchange).map .content
  | .revokeProfile userId _ => (revokeProfile runtime base userId exchange).map fun _ => .nothing
  | .setServerState serverId action =>
      (setServerState runtime base serverId action exchange).map .server
  | .createOrg name => (createOrg runtime base name exchange).map .org
  | .deleteOrg orgId => (deleteOrg runtime base orgId exchange).map fun _ => .nothing
  | .setUserPolicy userId _ policy =>
      (setUserPolicy runtime base userId policy exchange).map .user

end Methods

end Fleet.ShimResponses
