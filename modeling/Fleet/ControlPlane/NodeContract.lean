import Fleet.Shim.MockService

set_option autoImplicit false

namespace Fleet.NodeContract

open MockNode (Org)
open MockService (Server)
open NodeAdapter (Operation)
open ShimResponses

structure Account where
  id : String
  name : String
  orgId : String
  email : Option String
  disabled : Bool
  revoked : Bool
  deriving DecidableEq

structure Connection where
  userId : String
  userName : String
  serverId : String
  virtualAddress : String
  realAddress : String
  connectedSince : String
  bytesSent : Nat
  bytesReceived : Nat
  deriving DecidableEq

/-- A node as the control plane thinks of it. -/
structure Site where
  servers : List Server
  orgs : List Org
  accounts : List Account
  connections : List Connection

-- What one operation takes besides its arguments.
structure Draw where
  drawn : String
  keyId : String
  latencyMs : Nat

section Reports

def ofOption (text : Option String) : Value := text.elim .null .str

def serverInfo (server : Server) : ServerInfo where
  id := .str server.id
  name := .str server.name
  status := .str server.status
  protocol := .str server.protocol
  port := .int server.port
  onlineClients := .int server.onlineClients
  orgIds := server.orgIds.map .str

variable (site : Site)

def Site.orgName (orgId : String) : Option String :=
  (Keyed.lookup Org.id orgId site.orgs).map Org.name

def Site.find (userId : String) : Option Account := Keyed.lookup Account.id userId site.accounts

def Site.userInfo (account : Account) : UserInfo where
  id := .str account.id
  name := .str account.name
  orgId := .str account.orgId
  orgName := ofOption (site.orgName account.orgId)
  disabled := .bool account.disabled
  revoked := .bool account.revoked
  email := ofOption account.email

def Site.members (orgId : String) : Nat := site.accounts.countP fun account => account.orgId = orgId

def Site.orgInfo (org : Org) : OrgInfo where
  id := .str org.id
  name := .str org.name
  userCount := .int (site.members org.id)

-- An account may be connected while it is neither disabled nor revoked.
def Site.connected (connection : Connection) : Bool :=
  decide (connection.userId ∈
    (site.accounts.filter fun account => !account.disabled && !account.revoked).map Account.id)

variable {Moment : Type} (fromisoformat : String → Option Moment)

def sessionInfo (connection : Connection) : SessionInfo Moment where
  userId := .str connection.userId
  userName := .str connection.userName
  serverId := .str connection.serverId
  virtualAddress := .str connection.virtualAddress
  realAddress := .str connection.realAddress
  connectedSince :=
    if connection.connectedSince = "" then none else fromisoformat connection.connectedSince
  bytesSent := .int connection.bytesSent
  bytesReceived := .int connection.bytesReceived

def Site.online : Nat := site.servers.countP fun server => server.status = "online"

def Site.clients : Nat := (site.servers.map Server.onlineClients).sum

def Site.health (latencyMs : Nat) : NodeHealth where
  reachability := .reachable
  latencyMs := some latencyMs
  detail := [("version", .str MockService.version), ("servers_total", .int site.servers.length),
    ("servers_online", .int site.online), ("online_clients", .int site.clients)]

def Site.state : NodeState where
  servers := site.servers.map serverInfo
  orgs := site.orgs.map site.orgInfo
  users := site.accounts.map site.userInfo

end Reports

section Changes

variable (site : Site) (userId : String)

def Site.alter (change : Account → Account) : Site :=
  { site with accounts := Keyed.alter Account.id userId change site.accounts }

def Site.disconnect : Site :=
  { site with
    connections := site.connections.filter fun connection => connection.userId ≠ userId }

def Site.remove : Site :=
  { site with accounts := site.accounts.eraseP fun account => account.id = userId }

def Account.disable (disabled : Bool) (account : Account) : Account := { account with disabled }

def Account.revoke (account : Account) : Account := { account with revoked := true }

end Changes

section Operations

variable {Moment : Type} (nodeName : String) (fromisoformat : String → Option Moment)

abbrev Performed (Moment : Type) := Except String (Returned Moment) × Site

def answered (status : Nat) (text : String) : String :=
  "node shim " ++ toString status ++ ": " ++ text

-- The whole body stands for the error that it does not name.
def detail (text : String) : String := "\x7b\"detail\":\"" ++ text ++ "\"\x7d"

def refuse (site : Site) (status : Nat) (text : String) : Performed Moment :=
  (.error (answered status text), site)

def profile (fmt name keyId : String) : String :=
  "# Pritunl profile (" ++ fmt ++ ") for " ++ name ++ " @ " ++ nodeName ++
    "\nclient\ndev tun\nproto udp\nremote " ++ nodeName ++ ".vpn.example 1194\n# key-id " ++
    keyId ++ "\n"

def createUser (site : Site) (drawn orgId name : String) (email : Option String) :
    Performed Moment :=
  if site.orgName orgId = none then refuse site 404 "org not found"
  else if name = "" then refuse site 400 "name required"
  else
    let account : Account := ⟨"usr-" ++ drawn, name, orgId, email, false, false⟩
    (.ok (.user (site.userInfo account)), { site with accounts := site.accounts ++ [account] })

-- Every operation on one account needs it.
def onAccount (site : Site) (userId : String) (next : Account → Performed Moment) :
    Performed Moment :=
  match site.find userId with
  | none => refuse site 404 "user not found"
  | some account => next account

def setServerState (site : Site) (serverId action : String) : Performed Moment :=
  match Keyed.lookup Server.id serverId site.servers with
  | none => refuse site 404 "server not found"
  | some server =>
      if action ∈ MockService.actions then
        (.ok (.server (serverInfo (server.turn action))),
          { site with servers := Keyed.alter Server.id serverId (Server.turn action) site.servers })
      else refuse site 400 "action must be start|stop|restart"

/-- What each operation of an adapter does on a site, and returns. -/
def perform (site : Site) (draw : Draw) : Operation → Performed Moment
  | .health => (.ok (.health (site.health draw.latencyMs)), site)
  | .getState => (.ok (.state site.state), site)
  | .listServers => (.ok (.servers site.state.servers), site)
  | .listOrgs => (.ok (.orgs site.state.orgs), site)
  | .listUsers => (.ok (.users site.state.users), site)
  | .listSessions =>
      (.ok (.sessions ((site.connections.filter site.connected).map (sessionInfo fromisoformat))),
        site)
  | .createUser orgId name email => createUser site draw.drawn orgId name email
  | .setUserDisabled userId _ disabled => onAccount site userId fun account =>
      (.ok (.user (site.userInfo (account.disable disabled))),
        site.alter userId (Account.disable disabled))
  | .deleteUser userId _ => onAccount site userId fun _ =>
      (.ok .nothing, (site.remove userId).disconnect userId)
  | .issueProfile userId _ fmt => onAccount site userId fun account =>
      if account.revoked then refuse site 409 "user is revoked"
      else (.ok (.content (profile nodeName fmt account.name draw.keyId).toUTF8), site)
  | .revokeProfile userId _ => onAccount site userId fun _ =>
      (.ok .nothing, (site.alter userId Account.revoke).disconnect userId)
  | .setServerState serverId action => setServerState site serverId action
  -- The node has no routes for these.
  | .createOrg _ | .deleteOrg _ => refuse site 404 (detail "Not Found")
  | .setUserPolicy .. => refuse site 405 (detail "Method Not Allowed")

-- What an adapter makes of a refused signature.
def rejected (latencyMs : Nat) : Operation → Except String (Returned Moment)
  | .health => .ok (.health {
      reachability := .degraded
      latencyMs := some latencyMs
      error := some "authentication rejected by node shim (check token/secret/clock skew)" })
  | _ => .error "authentication rejected by node shim"

-- The interpreter writes an integer and reads it back.
def Short (n : Nat) : Prop := (Nat.toDigits 10 n).length ≤ PyInt.maxStrDigits

instance (n : Nat) : Decidable (Short n) := inferInstanceAs (Decidable (_ ≤ _))

theorem Short.mono {few many : Nat} (short : Short many) (fewer : few ≤ many) : Short few := by
  unfold Short at short ⊢
  rw [Nat.length_toDigits_le_iff (by decide) (by decide)] at short ⊢
  exact Nat.lt_of_le_of_lt fewer short

/-- No count the site reports is beyond the interpreter. -/
structure Small (site : Site) : Prop where
  servers : ∀ server ∈ site.servers, Short server.port ∧ Short server.onlineClients
  clients : Short site.clients
  total : Short site.servers.length
  accounts : Short site.accounts.length
  connections : ∀ connection ∈ site.connections,
    Short connection.bytesSent ∧ Short connection.bytesReceived

end Operations

section Sizes

variable {Moment : Type} {nodeName : String} {fromisoformat : String → Option Moment} {site : Site}

-- So many more accounts may be created.
def Roomy (room : Nat) (site : Site) : Prop :=
  Small site ∧ Short (site.accounts.length + room)

theorem turn_clients (action : String) (server : Server) :
    (server.turn action).onlineClients ≤ server.onlineClients := by
  unfold Server.turn
  split
  · exact Nat.zero_le _
  · exact Nat.le_refl _

theorem turn_port (action : String) (server : Server) :
    (server.turn action).port = server.port := by
  unfold Server.turn
  split <;> rfl

theorem clients_turn (action serverId : String) (servers : List Server) :
    ((Keyed.alter Server.id serverId (Server.turn action) servers).map Server.onlineClients).sum ≤
      (servers.map Server.onlineClients).sum := by
  induction servers with
  | nil => exact Nat.le_refl _
  | cons server rest ih =>
      unfold Keyed.alter
      split
      · exact Nat.add_le_add_right (turn_clients action server) _
      · exact Nat.add_le_add_left ih _

theorem Small.turn (small : Small site) (serverId action : String) :
    Small { site with
      servers := Keyed.alter Server.id serverId (Server.turn action) site.servers } where
  servers := by
    intro server member
    obtain ⟨old, inside, rfl | rfl⟩ := Keyed.mem_alter member
    · exact small.servers server inside
    · obtain ⟨port, clients⟩ := small.servers old inside
      rw [turn_port]
      exact ⟨port, clients.mono (turn_clients action old)⟩
  clients := small.clients.mono (clients_turn action serverId site.servers)
  total := by
    rw [Keyed.length_alter]
    exact small.total
  accounts := small.accounts
  connections := small.connections

theorem Small.shrink (small : Small site) {accounts : List Account} {connections : List Connection}
    (fewer : accounts.length ≤ site.accounts.length)
    (kept : ∀ connection ∈ connections, connection ∈ site.connections) :
    Small { site with accounts, connections } :=
  ⟨small.servers, small.clients, small.total, small.accounts.mono fewer,
    fun connection member => small.connections connection (kept connection member)⟩

theorem Roomy.shrink {room : Nat} (roomy : Roomy (room + 1) site) {accounts : List Account}
    {connections : List Connection} (fewer : accounts.length ≤ site.accounts.length)
    (kept : ∀ connection ∈ connections, connection ∈ site.connections) :
    Roomy room { site with accounts, connections } :=
  ⟨roomy.1.shrink fewer kept, roomy.2.mono (Nat.add_le_add fewer (Nat.le_succ room))⟩

theorem Roomy.less {room : Nat} (roomy : Roomy (room + 1) site) : Roomy room site :=
  roomy.shrink (Nat.le_refl _) fun _ member => member

theorem onAccount_roomy {room : Nat} (roomy : Roomy (room + 1) site) (userId : String)
    {next : Account → Performed Moment} (keeps : ∀ account, Roomy room (next account).2) :
    Roomy room (onAccount site userId next).2 := by
  unfold onAccount
  split
  · exact roomy.less
  · exact keeps _

theorem perform_roomy {room : Nat} (roomy : Roomy (room + 1) site) (draw : Draw)
    (operation : Operation) :
    Roomy room (perform nodeName fromisoformat site draw operation).2 := by
  have altered (userId : String) (change : Account → Account) :
      (Keyed.alter Account.id userId change site.accounts).length ≤ site.accounts.length :=
    Nat.le_of_eq (Keyed.length_alter userId change site.accounts)
  cases operation with
  | health | getState | listServers | listOrgs | listUsers | listSessions | createOrg | deleteOrg
  | setUserPolicy => exact roomy.less
  | createUser orgId name email =>
      change Roomy room (createUser site draw.drawn orgId name email : Performed Moment).2
      unfold createUser
      split
      · exact roomy.less
      split
      · exact roomy.less
      · obtain ⟨small, short⟩ := roomy
        have grown (account : Account) :
            (site.accounts ++ [account]).length + room = site.accounts.length + (room + 1) := by
          rw [List.length_append, List.length_singleton]
          omega
        refine ⟨⟨small.servers, small.clients, small.total, ?_, small.connections⟩, ?_⟩
        · exact short.mono (grown _ ▸ Nat.le_add_right _ room)
        · rw [grown]
          exact short
  | setUserDisabled userId orgId disabled =>
      exact onAccount_roomy roomy userId fun _ =>
        roomy.shrink (altered userId _) fun _ member => member
  | deleteUser userId orgId =>
      exact onAccount_roomy roomy userId fun _ =>
        roomy.shrink (List.eraseP_sublist.length_le) fun _ member => (List.mem_filter.1 member).1
  | revokeProfile userId orgId =>
      exact onAccount_roomy roomy userId fun _ =>
        roomy.shrink (altered userId _) fun _ member => (List.mem_filter.1 member).1
  | issueProfile userId orgId fmt =>
      refine onAccount_roomy roomy userId fun account => ?_
      split <;> exact roomy.less
  | setServerState serverId action =>
      change Roomy room (setServerState site serverId action : Performed Moment).2
      unfold setServerState
      split
      · exact roomy.less
      split
      · exact ⟨roomy.1.turn serverId action, roomy.less.2⟩
      · exact roomy.less

end Sizes

end Fleet.NodeContract
