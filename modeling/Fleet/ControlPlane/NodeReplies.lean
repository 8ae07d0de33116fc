import Fleet.ControlPlane.NodeContract
import Fleet.ControlPlane.ResponseContract

set_option autoImplicit false

namespace Fleet.NodeReplies

open Documents (ofJson ofMembers)
open JsonText (Fits FitsItems FitsMembers)
open MockNode (Org)
open MockService (Server Answer)
open NodeAdapter (Operation)
open NodeContract hiding createUser setServerState perform
open ShimResponses

section Documents

variable (site : Site)

def serverMembers (server : Server) : List (String × Json) :=
  [("id", .str server.id), ("name", .str server.name), ("status", .str server.status),
    ("protocol", .str server.protocol), ("port", .int server.port),
    ("online_clients", .int server.onlineClients), ("org_ids", .arr (server.orgIds.map .str))]

def serverJson (server : Server) : Json := .obj (serverMembers server)

def orgJson (org : Org) : Json :=
  .obj [("id", .str org.id), ("name", .str org.name), ("user_count", .int (site.members org.id))]

def accountMembers (account : Account) : List (String × Json) :=
  [("id", .str account.id), ("name", .str account.name), ("org_id", .str account.orgId),
    ("org_name", .ofOption (site.orgName account.orgId)), ("email", .ofOption account.email),
    ("disabled", .bool account.disabled), ("revoked", .bool account.revoked)]

def accountJson (account : Account) : Json := .obj (accountMembers site account)

def connectionFields (connection : Connection) : List (String × Json) :=
  [("user_name", .str connection.userName), ("server_id", .str connection.serverId),
    ("virtual_address", .str connection.virtualAddress),
    ("real_address", .str connection.realAddress),
    ("connected_since", .str connection.connectedSince), ("bytes_sent", .int connection.bytesSent),
    ("bytes_received", .int connection.bytesReceived)]

def connectionJson (connection : Connection) : Json :=
  .obj (("user_id", .str connection.userId) :: connectionFields connection)

def stateMembers : List (String × Json) :=
  [("servers", .arr (site.servers.map serverJson)), ("orgs", .arr (site.orgs.map (orgJson site))),
    ("users", .arr (site.accounts.map (accountJson site)))]

def pingMembers (nodeName : String) : List (String × Json) :=
  [("status", .str "ok"), ("node", .str nodeName), ("version", .str MockService.version),
    ("servers_total", .int site.servers.length), ("servers_online", .int site.online),
    ("online_clients", .int site.clients)]

def sessionsMembers : List (String × Json) :=
  [("sessions", .arr ((site.connections.filter site.connected).map connectionJson))]

end Documents

section Parsing

theorem ofJson_ofOption (text : Option String) : ofJson (.ofOption text) = ofOption text := by
  cases text <;> rfl

theorem getD_ofMembers {members : List (String × Json)} {key : String} {default : Value} :
    Value.getD (ofMembers members) key default =
      ((Json.get? members key).map ofJson).getD default := by
  rw [Value.getD, Documents.get?_ofMembers]

theorem ofItems_map {α : Type} (view : α → Json) (items : List α) :
    Documents.ofItems (items.map view) = items.map fun item => ofJson (view item) := by
  rw [Documents.ofItems_eq_map, List.map_map]
  rfl

theorem parseServer_json (server : Server) :
    parseServer (ofJson (serverJson server)) = .ok (serverInfo server) := by
  simp [parseServer, serverJson, serverMembers, ofJson, ofMembers, subscript, members, iterate, Value.getD,
    Value.get?, ofItems_map, bind, Except.bind, pure, Except.pure, serverInfo]

theorem parseOrg_json (site : Site) (org : Org) :
    parseOrg (ofJson (orgJson site org)) = .ok (site.orgInfo org) := by
  simp [parseOrg, orgJson, ofJson, ofMembers, subscript, members, Value.getD, Value.get?, bind,
    Except.bind, pure, Except.pure, Site.orgInfo]

theorem parseUser_json (site : Site) (account : Account) :
    parseUser (ofJson (accountJson site account)) = .ok (site.userInfo account) := by
  simp [parseUser, accountJson, accountMembers, ofJson, ofMembers, subscript, members, Value.getD, Value.get?,
    ofJson_ofOption, bind, Except.bind, pure, Except.pure, Site.userInfo]

variable {Moment : Type} (runtime : Runtime Moment)

theorem parseSession_json (connection : Connection) :
    parseSession runtime (ofJson (connectionJson connection)) =
      .ok (sessionInfo runtime.fromisoformat connection) := by
  by_cases unknown : connection.connectedSince = "" <;>
    simp [parseSession, connectionJson, connectionFields, ofJson, ofMembers, members, Value.getD,
      Value.get?, connectedSince, Value.truthy, unknown, bind, Except.bind, pure, Except.pure,
      sessionInfo]

theorem mapM_json {α Info : Type} {parse : Value → Except Raised Info} {view : α → Json}
    {info : α → Info} (parses : ∀ item, parse (ofJson (view item)) = .ok (info item))
    (items : List α) :
    (items.map fun item => ofJson (view item)).mapM parse = .ok (items.map info) := by
  induction items with
  | nil => rfl
  | cons item rest ih =>
      rw [List.map_cons, List.mapM_cons, parses, ih]
      rfl

theorem parseAll_json {α Info : Type} {parse : Value → Except Raised Info} {view : α → Json}
    {info : α → Info} (parses : ∀ item, parse (ofJson (view item)) = .ok (info item))
    {document : List (String × Json)} {key : String} {items : List α}
    (listed : Json.get? document key = some (.arr (items.map view))) :
    parseAll parse (ofJson (.obj document)) key = .ok (items.map info) := by
  simp only [parseAll, ofJson, members, getD_ofMembers, listed, Option.map_some, Option.getD_some,
    ofItems_map, iterate, bind, Except.bind]
  exact mapM_json parses items

end Parsing

section Reading

-- What an adapter makes of an answer, decoded by its own interpreter.
structure Reader (Moment : Type) where
  client : Documents.Interpreter
  runtime : Runtime Moment
  base : String
  loads : runtime.loads = Documents.loads client
  -- An answer without a charset is taken for UTF-8.
  text : ∀ status text latencyMs,
    runtime.text { status, content := String.toUTF8 text, latencyMs } = text

variable {Moment : Type} (reader : Reader Moment) (platform : MockService.Platform)

def read (operation : Operation) (answer : Answer) (latencyMs : Nat) :
    Except Raised (Returned Moment) :=
  ShimResponses.perform reader.runtime reader.base operation
    (.response { MockService.encode platform answer with latencyMs })

/-- The adapter takes the answer for the result. -/
def Understood (operation : Operation) (answer : Answer) (latencyMs : Nat)
    (result : Except String (Returned Moment)) : Prop :=
  read reader platform operation answer latencyMs = result.mapError .adapterError

mutual

theorem encodable_ofJson : (json : Json) → Lifecycle.encodable (ofJson json) = true
  | .null | .bool _ | .int _ | .str _ => rfl
  | .arr items => encodableItems_ofJson items
  | .obj members => encodableMembers_ofJson members

theorem encodableItems_ofJson :
    (items : List Json) → Lifecycle.encodableItems (Documents.ofItems items) = true
  | [] => rfl
  | item :: rest => by
      rw [Documents.ofItems, Lifecycle.encodableItems, encodable_ofJson item,
        encodableItems_ofJson rest]
      rfl

theorem encodableMembers_ofJson :
    (members : List (String × Json)) → Lifecycle.encodableMembers (ofMembers members) = true
  | [] => rfl
  | (key, value) :: rest => by
      rw [ofMembers, Lifecycle.encodableMembers, encodable_ofJson value,
        encodableMembers_ofJson rest]
      rfl

end

def answerJson (status : Nat) (members : List (String × Json)) : Answer :=
  .json status (ofMembers members)

variable {reader platform} {members : List (String × Json)} {status : Nat}

theorem encode_json : MockService.encode platform (answerJson status members) =
    { status, content := Documents.encode platform.python (ofJson (.obj members)) } := by
  have finite : Lifecycle.encodable (.obj (ofMembers members)) = true :=
    encodable_ofJson (.obj members)
  rw [MockService.encode, answerJson, Answer.json]
  dsimp only
  rw [if_pos finite]
  rfl

theorem loads_answer (fits : Fits reader.client.limit (.obj members)) :
    reader.runtime.loads (Documents.encode platform.python (ofJson (.obj members))) =
      .ok (ofJson (.obj members)) := by
  rw [reader.loads, Documents.loads_encode fits]

-- A mutation that fails in `_mutate` is nothing but that failure.
theorem perform_failed {runtime : Runtime Moment} {base : String} {operation : Operation}
    (mutates : operation.mutates = true) {exchange : Exchange} {raised : Raised}
    (failed : ∀ sent, mutate runtime base sent exchange = .error raised) :
    ShimResponses.perform runtime base operation exchange = .error raised := by
  cases operation with
  | health | getState | listServers | listOrgs | listUsers | listSessions => cases mutates
  | createUser | setUserDisabled | deleteUser | issueProfile | revokeProfile | setServerState
  | createOrg | deleteOrg | setUserPolicy =>
      simp only [ShimResponses.perform, createUser, setUserDisabled, deleteUser, issueProfile,
        revokeProfile, setServerState, createOrg, deleteOrg, setUserPolicy, mutateThen, failed, bind,
        Except.bind, Except.map]

theorem fits_text {limit : Nat} (deep : 4 ≤ limit) (key text : String) :
    Fits limit (.obj [(key, .str text)]) := by
  obtain ⟨rest, rfl⟩ := Nat.exists_eq_add_of_le' deep
  exact ⟨trivial, trivial⟩

variable (deep : 4 ≤ reader.client.limit) (latencyMs : Nat) {operation : Operation}

include deep

theorem errorDetail_answer (key text : String) :
    errorDetail reader.runtime
        { status, content := Documents.encode platform.python (ofJson (.obj [(key, .str text)])),
          latencyMs } =
      .ok (if key = "error" then text
        else String.ofList (Documents.write platform.python (ofJson (.obj [(key, .str text)])))) := by
  have loaded := @loads_answer _ reader platform _ (fits_text deep key text)
  have shown := reader.text status
    (String.ofList (Documents.write platform.python (ofJson (.obj [(key, .str text)])))) latencyMs
  rw [← Documents.encode] at shown
  unfold errorDetail
  dsimp only
  rw [loaded, shown]
  by_cases named : key = "error" <;> simp [named, ofJson, ofMembers, Value.get?]

theorem mutate_answered (high : 400 ≤ status) (other : status ≠ 401) (key text : String)
    (sent : ShimAdapter.Request) :
    mutate reader.runtime reader.base sent
        (.response { MockService.encode platform (answerJson status [(key, .str text)]) with
          latencyMs }) =
      .error (.adapterError (answered status (if key = "error" then text
        else String.ofList (Documents.write platform.python (ofJson (.obj [(key, .str text)])))))) := by
  rw [encode_json]
  refine (mutate_of_high reader.runtime reader.base high other sent).trans ?_
  rw [errorDetail_answer deep]
  rfl

theorem understood_error (mutates : operation.mutates = true) (high : 400 ≤ status)
    (other : status ≠ 401) (text : String) :
    Understood reader platform operation (.error status text) latencyMs
      (.error (answered status text)) :=
  perform_failed mutates (mutate_answered deep latencyMs high other "error" text)

omit deep in
theorem write_detail (python : Documents.Interpreter) {text : String}
    (plain : ∀ c ∈ text.toList, JsonText.escapeRaw c = [c]) :
    String.ofList (Documents.write python (ofJson (.obj [("detail", .str text)]))) =
      detail text := by
  have body : text.toList.flatMap JsonText.escapeRaw = text.toList := by
    rw [List.flatMap_congr plain]
    simp
  have key : "detail".toList.flatMap JsonText.escapeRaw = "detail".toList := by decide
  apply String.toList_inj.1
  simp only [ofJson, ofMembers, Documents.write, Documents.writeMembers, List.map_cons, List.map_nil,
    JsonText.writeMember, JsonText.writeString, body, key, JsonText.tight, Json.Layout.join,
    List.intercalate]
  simp [JsonText.openBrace, JsonText.closeBrace, JsonText.quote, detail]

theorem understood_detail (mutates : operation.mutates = true) (high : 400 ≤ status)
    (other : status ≠ 401) {text : String}
    (plain : ∀ c ∈ text.toList, JsonText.escapeRaw c = [c]) :
    Understood reader platform operation (.detail status text) latencyMs
      (.error (answered status (detail text))) := by
  rw [← write_detail platform.python plain]
  exact perform_failed mutates (mutate_answered deep latencyMs high other "detail" text)

omit deep in
theorem understood_rejected (text : String) :
    Understood reader platform operation (.error 401 text) latencyMs
      (rejected latencyMs operation) := by
  have status : (MockService.encode platform (Answer.error 401 text)).status = 401 :=
    congrArg Response.status (@encode_json platform [("error", .str text)] 401)
  unfold Understood read
  generalize MockService.encode platform (Answer.error 401 text) = resp at status ⊢
  have refused (sent : ShimAdapter.Request) : mutate reader.runtime reader.base sent
      (.response { resp with latencyMs }) =
        .error (.adapterError "authentication rejected by node shim") := by
    simp [mutate, request, status, bind, Except.bind]
    rfl
  have unread (sent : ShimAdapter.Request) : getJson reader.runtime reader.base sent
      (.response { resp with latencyMs }) =
        .error (.adapterError "authentication rejected by node shim") := by
    simp [getJson, request, status, bind, Except.bind]
    rfl
  cases operation with
  | health =>
      simp [ShimResponses.perform, health, request, status, rejected, Except.map, Except.mapError]
  | getState | listServers | listOrgs | listUsers | listSessions =>
      simp [ShimResponses.perform, getState, listServers, listOrgs, listUsers, listSessions, unread,
        rejected, bind, Except.bind, Except.map, Except.mapError]
  | createUser | setUserDisabled | deleteUser | issueProfile | revokeProfile | setServerState
  | createOrg | deleteOrg | setUserPolicy =>
      rw [perform_failed rfl refused]
      rfl

end Reading

section Fitting

theorem fitsItems_map {α : Type} {depth : Nat} {view : α → Json} {items : List α}
    (each : ∀ item ∈ items, Fits depth (view item)) : FitsItems depth (items.map view) := by
  induction items with
  | nil => trivial
  | cons item rest ih =>
      obtain ⟨here, later⟩ := List.forall_mem_cons.1 each
      exact ⟨here, ih later⟩

theorem fits_ofOption (depth : Nat) (text : Option String) : Fits depth (.ofOption text) := by
  cases text <;> trivial

variable {site : Site} {depth : Nat}

theorem fits_server {server : Server} (port : Short server.port)
    (clients : Short server.onlineClients) : Fits (depth + 2) (serverJson server) :=
  ⟨trivial, trivial, trivial, trivial, port, clients, fitsItems_map fun _ _ => trivial, trivial⟩

theorem fits_account (account : Account) : Fits (depth + 1) (accountJson site account) :=
  ⟨trivial, trivial, trivial, fits_ofOption _ _, fits_ofOption _ _, trivial, trivial, trivial⟩

theorem fits_org (accounts : Short site.accounts.length) (org : Org) :
    Fits (depth + 1) (orgJson site org) :=
  ⟨trivial, trivial, accounts.mono List.countP_le_length, trivial⟩

theorem fits_connection {connection : Connection} (sent : Short connection.bytesSent)
    (received : Short connection.bytesReceived) : Fits (depth + 1) (connectionJson connection) :=
  ⟨trivial, trivial, trivial, trivial, trivial, trivial, sent, received, trivial⟩

variable (small : Small site)

include small

theorem fits_state : Fits (depth + 4) (.obj (stateMembers site)) :=
  ⟨fitsItems_map fun server member => fits_server (small.servers server member).1
      (small.servers server member).2,
    fitsItems_map fun org _ => fits_org small.accounts org,
    fitsItems_map fun account _ => fits_account account, trivial⟩

theorem fits_ping (nodeName : String) : Fits (depth + 1) (.obj (pingMembers site nodeName)) :=
  ⟨trivial, trivial, trivial, small.total, small.total.mono List.countP_le_length, small.clients,
    trivial⟩

theorem fits_sessions : Fits (depth + 3) (.obj (sessionsMembers site)) :=
  ⟨fitsItems_map fun connection member =>
    fits_connection (small.connections connection (List.mem_filter.1 member).1).1
      (small.connections connection (List.mem_filter.1 member).1).2, trivial⟩

end Fitting

section Results

variable {Moment : Type} {reader : Reader Moment} {platform : MockService.Platform}
  {members : List (String × Json)} {status : Nat}

theorem mutate_passed (low : status < 400) (latencyMs : Nat) (sent : ShimAdapter.Request) :
    mutate reader.runtime reader.base sent
        (.response { MockService.encode platform (answerJson status members) with latencyMs }) =
      .ok { status, content := Documents.encode platform.python (ofJson (.obj members)),
            latencyMs } := by
  rw [encode_json]
  exact mutate_of_low reader.runtime reader.base low sent

theorem mutateThen_passed {Info : Type} {parse : Value → Except Raised Info} {info : Info}
    (low : status < 400) (fits : Fits reader.client.limit (.obj members))
    (parses : parse (ofJson (.obj members)) = .ok info) (latencyMs : Nat)
    (sent : ShimAdapter.Request) :
    mutateThen reader.runtime reader.base parse sent
        (.response { MockService.encode platform (answerJson status members) with latencyMs }) =
      .ok info := by
  have loaded := @loads_answer _ reader platform _ fits
  simp only [mutateThen, mutate_passed low, json, loaded, Except.mapError, bind, Except.bind, parses]

theorem getJson_passed (fits : Fits reader.client.limit (.obj members)) (latencyMs : Nat)
    (sent : ShimAdapter.Request) :
    getJson reader.runtime reader.base sent
        (.response { MockService.encode platform (answerJson 200 members) with latencyMs }) =
      .ok (ofJson (.obj members)) := by
  rw [encode_json]
  exact getJson_loaded reader.runtime reader.base rfl (loads_answer fits) sent

variable {site : Site} (latencyMs : Nat) {operation : Operation} {sent : ShimAdapter.Request}

theorem understood_parsed {Info : Type} {parse : Value → Except Raised Info} {info : Info}
    {view : Info → Returned Moment}
    (performs : ∀ exchange, ShimResponses.perform reader.runtime reader.base operation exchange =
      (mutateThen reader.runtime reader.base parse sent exchange).map view)
    (low : status < 400) (fits : Fits reader.client.limit (.obj members))
    (parses : parse (ofJson (.obj members)) = .ok info) :
    Understood reader platform operation (answerJson status members) latencyMs
      (.ok (view info)) := by
  rw [Understood, read, performs, mutateThen_passed low fits parses]
  rfl

theorem understood_nothing
    (performs : ∀ exchange, ShimResponses.perform reader.runtime reader.base operation exchange =
      (mutate reader.runtime reader.base sent exchange >>= fun _ => pure ()).map
        fun _ => .nothing)
    (low : status < 400) :
    Understood reader platform operation (answerJson status members) latencyMs (.ok .nothing) := by
  rw [Understood, read, performs, mutate_passed low]
  rfl

theorem understood_content (userId orgId fmt : String) (content : ByteArray) :
    Understood reader platform (.issueProfile userId orgId fmt) ⟨200, .plain content⟩ latencyMs
      (.ok (.content content)) := by
  have passed : mutate reader.runtime reader.base (ShimAdapter.issueProfile userId fmt)
      (.response { status := 200, content, latencyMs }) =
        .ok { status := 200, content, latencyMs } :=
    mutate_of_low reader.runtime reader.base (show 200 < 400 by decide) _
  rw [Understood, read, ShimResponses.perform, issueProfile, MockService.encode]
  dsimp only
  rw [passed]
  rfl

theorem understood_read {Info : Type} {next : Value → Except Raised Info} {info : Info}
    {view : Info → Returned Moment}
    (performs : ∀ exchange, ShimResponses.perform reader.runtime reader.base operation exchange =
      (getJson reader.runtime reader.base sent exchange >>= next).map view)
    (fits : Fits reader.client.limit (.obj members))
    (parses : next (ofJson (.obj members)) = .ok info) :
    Understood reader platform operation (answerJson 200 members) latencyMs (.ok (view info)) := by
  rw [Understood, read, performs, getJson_passed fits]
  exact congrArg (fun parsed => (parsed.map view)) parses

variable (deep : 4 ≤ reader.client.limit)

include deep

theorem deep_fits {document : Json} (fits : ∀ depth, Fits (depth + 4) document) :
    Fits reader.client.limit document := by
  obtain ⟨rest, enough⟩ := Nat.exists_eq_add_of_le' deep
  rw [enough]
  exact fits rest

theorem understood_createUser (orgId name : String) (email : Option String) (account : Account) :
    Understood reader platform (.createUser orgId name email)
      (answerJson 201 (accountMembers site account)) latencyMs
      (.ok (.user (site.userInfo account))) :=
  understood_parsed latencyMs (fun _ => rfl) (by decide) (deep_fits deep fun _ => fits_account account)
    (parseUser_json site account)

theorem understood_setUserDisabled (userId orgId : String) (disabled : Bool) (account : Account) :
    Understood reader platform (.setUserDisabled userId orgId disabled)
      (answerJson 200 (accountMembers site account)) latencyMs
      (.ok (.user (site.userInfo account))) :=
  understood_parsed latencyMs (fun _ => rfl) (by decide) (deep_fits deep fun _ => fits_account account)
    (parseUser_json site account)

theorem understood_setServerState (serverId action : String) {server : Server}
    (port : Short server.port) (clients : Short server.onlineClients) :
    Understood reader platform (.setServerState serverId action)
      (answerJson 200 (serverMembers server)) latencyMs (.ok (.server (serverInfo server))) :=
  understood_parsed latencyMs (fun _ => rfl) (by decide)
    (deep_fits deep fun _ => fits_server port clients) (parseServer_json server)

section Lists

omit deep

variable (site)

theorem parse_servers : parseAll parseServer (ofJson (.obj (stateMembers site))) "servers" =
    .ok (site.servers.map serverInfo) :=
  parseAll_json parseServer_json rfl

theorem parse_orgs : parseAll parseOrg (ofJson (.obj (stateMembers site))) "orgs" =
    .ok (site.orgs.map site.orgInfo) :=
  parseAll_json (parseOrg_json site) rfl

theorem parse_users : parseAll parseUser (ofJson (.obj (stateMembers site))) "users" =
    .ok (site.accounts.map site.userInfo) :=
  parseAll_json (parseUser_json site) rfl

theorem parse_sessions (runtime : Runtime Moment) :
    parseAll (parseSession runtime) (ofJson (.obj (sessionsMembers site))) "sessions" =
      .ok ((site.connections.filter site.connected).map (sessionInfo runtime.fromisoformat)) :=
  parseAll_json (parseSession_json runtime) rfl

end Lists

variable (small : Small site)

include small

theorem understood_getState :
    Understood reader platform .getState (answerJson 200 (stateMembers site)) latencyMs
      (.ok (.state site.state)) := by
  refine understood_read latencyMs (fun _ => rfl) (deep_fits deep fun _ => fits_state small) ?_
  simp only [parse_servers, parse_orgs, parse_users, bind, Except.bind, pure, Except.pure]
  rfl

theorem understood_listServers :
    Understood reader platform .listServers (answerJson 200 (stateMembers site)) latencyMs
      (.ok (.servers site.state.servers)) :=
  understood_read latencyMs (fun _ => rfl) (deep_fits deep fun _ => fits_state small)
    (parse_servers site)

theorem understood_listOrgs :
    Understood reader platform .listOrgs (answerJson 200 (stateMembers site)) latencyMs
      (.ok (.orgs site.state.orgs)) :=
  understood_read latencyMs (fun _ => rfl) (deep_fits deep fun _ => fits_state small)
    (parse_orgs site)

theorem understood_listUsers :
    Understood reader platform .listUsers (answerJson 200 (stateMembers site)) latencyMs
      (.ok (.users site.state.users)) :=
  understood_read latencyMs (fun _ => rfl) (deep_fits deep fun _ => fits_state small)
    (parse_users site)

theorem understood_listSessions :
    Understood reader platform .listSessions (answerJson 200 (sessionsMembers site)) latencyMs
      (.ok (.sessions ((site.connections.filter site.connected).map
        (sessionInfo reader.runtime.fromisoformat)))) :=
  understood_read latencyMs (fun _ => rfl) (deep_fits deep fun _ => fits_sessions small)
    (parse_sessions site reader.runtime)

theorem understood_health (nodeName : String) :
    Understood reader platform .health (answerJson 200 (pingMembers site nodeName)) latencyMs
      (.ok (.health (site.health latencyMs))) := by
  have loaded := @loads_answer _ reader platform _
    (deep_fits deep fun _ => fits_ping small nodeName)
  rw [Understood, read, encode_json]
  simp only [ShimResponses.perform, health, request, loaded]
  simp [ofJson, ShimResponses.members, healthDetail, pingMembers, ofMembers, Value.getD, Value.get?,
    Site.health, Except.map, Except.mapError]

end Results

end Fleet.NodeReplies
