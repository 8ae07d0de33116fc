import Fleet.ControlPlane.NodeReplies
import Fleet.Shared.Paired
import Fleet.Shared.Simulation

set_option autoImplicit false

namespace Fleet.RemoteCalls

open Documents (ofJson ofMembers)
open MockNode (User)
open MockService (Server Node Answer Endpoint Routed)
open NodeAdapter (Operation)
open NodeContract hiding createUser setServerState
open NodeReplies
open ShimResponses (Value Returned)

section Routing

def requestOf : Operation → ShimAdapter.Request
  | .health => ShimAdapter.health
  | .getState | .listServers | .listOrgs | .listUsers => ShimAdapter.getState
  | .listSessions => ShimAdapter.listSessions
  | .createUser orgId name email => ShimAdapter.createUser orgId name email
  | .setUserDisabled userId _ disabled => ShimAdapter.setUserDisabled userId disabled
  | .deleteUser userId _ => ShimAdapter.deleteUser userId
  | .issueProfile userId _ fmt => ShimAdapter.issueProfile userId fmt
  | .revokeProfile userId _ => ShimAdapter.revokeProfile userId
  | .setServerState serverId action => ShimAdapter.setServerState serverId action
  | .createOrg name => ShimAdapter.createOrg name
  | .deleteOrg orgId => ShimAdapter.deleteOrg orgId
  | .setUserPolicy userId _ policy => ShimAdapter.setUserPolicy userId policy

/-- An id of characters that a path holds as they are. -/
def Plain (id : String) : Prop :=
  id ≠ "" ∧ ∀ c ∈ id.toList, c.isAlphanum = true ∨ c = '-' ∨ c = '_'

def PlainIds : Operation → Prop
  | .createUser orgId .. | .deleteOrg orgId => Plain orgId
  | .setUserDisabled userId .. | .deleteUser userId _ | .issueProfile userId ..
  | .revokeProfile userId _ | .setUserPolicy userId .. => Plain userId
  | .setServerState serverId _ => Plain serverId
  | _ => True

def routedTo : Operation → Routed
  | .health => .to .ping
  | .getState | .listServers | .listOrgs | .listUsers => .to .state
  | .listSessions => .to .sessions
  | .createUser orgId .. => .to (.createUser orgId)
  | .setUserDisabled userId .. => .to (.setDisabled userId)
  | .deleteUser userId _ => .to (.deleteUser userId)
  | .issueProfile userId .. => .to (.issueProfile userId)
  | .revokeProfile userId _ => .to (.revokeProfile userId)
  | .setServerState serverId _ => .to (.setServerState serverId)
  | .createOrg _ | .deleteOrg _ => .notFound
  | .setUserPolicy .. => .methodNotAllowed

theorem segments_joined {path : String} {parts : List String} (nonempty : parts ≠ [])
    (whole : ∀ part ∈ parts, '/' ∉ part.toList)
    (joined : path.toList = ['/'].intercalate (parts.map String.toList)) :
    MockService.segments path = parts := by
  have split : path.toList.splitOn '/' = parts.map String.toList := by
    rw [joined]
    refine List.splitOn_intercalate '/' ?_ (by simpa using nonempty)
    intro part member
    obtain ⟨text, inside, rfl⟩ := List.mem_map.1 member
    exact whole text inside
  rw [MockService.segments, split, List.map_map]
  simp

theorem Plain.whole {id : String} (plain : Plain id) : '/' ∉ id.toList := by
  intro slash
  rcases plain.2 '/' slash with alphanumeric | dash | underscore
  · revert alphanumeric
    decide
  · cases dash
  · cases underscore

theorem segments_user {userId : String} (plain : Plain userId) (before after : List String)
    (wholeBefore : ∀ part ∈ before, '/' ∉ part.toList) (wholeAfter : ∀ part ∈ after, '/' ∉ part.toList)
    {path : String}
    (joined : path.toList =
      ['/'].intercalate ((before ++ userId :: after).map String.toList)) :
    MockService.segments path = before ++ userId :: after := by
  refine segments_joined (by simp) ?_ joined
  simp only [List.mem_append, List.mem_cons]
  rintro part (early | rfl | late)
  · exact wholeBefore part early
  · exact plain.whole
  · exact wholeAfter part late

theorem route_action {userId : String} (plain : Plain userId) (collection action : String)
    {path : String} {endpoint : Endpoint}
    (joined : path.toList =
      ['/'].intercalate (["", "v1", collection, userId, action].map String.toList))
    (wholeCollection : '/' ∉ collection.toList) (whole : '/' ∉ action.toList)
    (there : MockService.endpoints ["", "v1", collection, userId, action] =
      MockService.parameter userId [("POST", endpoint)]) :
    MockService.route "POST" path = .to endpoint := by
  have segments : MockService.segments path = ["", "v1", collection, userId, action] :=
    segments_user plain ["", "v1", collection] [action] (by simp [wholeCollection]) (by simp [whole])
      joined
  rw [MockService.route, segments, there, MockService.parameter, if_neg plain.1]
  rfl

theorem segments_one {id : String} (plain : Plain id) {collection path : String}
    (joined : path.toList = ['/'].intercalate (["", "v1", collection, id].map String.toList))
    (whole : '/' ∉ collection.toList) :
    MockService.segments path = ["", "v1", collection, id] :=
  segments_user plain ["", "v1", collection] [] (by simp [whole]) (by simp) joined

theorem route_missing {orgId : String} (plain : Plain orgId) :
    MockService.route "DELETE" s!"/v1/orgs/{orgId}" = .notFound := by
  have segments : MockService.segments s!"/v1/orgs/{orgId}" = ["", "v1", "orgs", orgId] :=
    segments_one plain (by simp [List.intercalate, toString]) (by decide)
  have unslashed : (s!"/v1/orgs/{orgId}").toList.getLast? ≠ some '/' := by
    intro last
    have characters : orgId.toList ≠ [] := String.toList_eq_nil_iff.not.2 plain.1
    have joined : (s!"/v1/orgs/{orgId}").toList = "/v1/orgs/".toList ++ orgId.toList := by
      simp [toString]
    rw [joined, List.getLast?_append_of_ne_nil _ characters] at last
    exact plain.whole (List.mem_of_getLast? last)
  have toggled : MockService.segments (MockService.toggled s!"/v1/orgs/{orgId}") =
      ["", "v1", "orgs", orgId, ""] := by
    rw [MockService.toggled, if_neg unslashed]
    exact segments_user plain ["", "v1", "orgs"] [""] (by decide) (by decide)
      (by simp [List.intercalate, toString])
  rw [MockService.route, segments, toggled]
  rfl

theorem route_user {userId : String} (plain : Plain userId) (method : String) :
    MockService.route method s!"/v1/users/{userId}" =
      if method = "DELETE" then .to (.deleteUser userId) else .methodNotAllowed := by
  have segments : MockService.segments s!"/v1/users/{userId}" = ["", "v1", "users", userId] :=
    segments_one plain (by simp [List.intercalate, toString]) (by decide)
  have there : MockService.endpoints ["", "v1", "users", userId] =
      [("DELETE", .deleteUser userId)] := if_neg plain.1
  rw [MockService.route, segments, there]
  by_cases deletes : method = "DELETE"
  · simp [deletes]
  · simp [deletes, Ne.symm deletes]

theorem route_request (operation : Operation) (plain : PlainIds operation) :
    MockService.route (requestOf operation).method (requestOf operation).path =
      routedTo operation := by
  cases operation with
  | health | getState | listServers | listOrgs | listUsers | listSessions =>
      exact (by decide)
  | createOrg name => exact (by decide : MockService.route "POST" "/v1/orgs" = .notFound)
  | createUser orgId name email =>
      exact route_action plain "orgs" "users" (by simp [requestOf, ShimAdapter.createUser,
        ShimAdapter.mutate, List.intercalate, toString]) (by decide) (by decide) rfl
  | setUserDisabled userId orgId disabled =>
      exact route_action plain "users" "disable" (by simp [requestOf, ShimAdapter.setUserDisabled,
        ShimAdapter.mutate, List.intercalate, toString]) (by decide) (by decide) rfl
  | issueProfile userId orgId fmt =>
      exact route_action plain "users" "profile" (by simp [requestOf, ShimAdapter.issueProfile,
        ShimAdapter.mutate, List.intercalate, toString]) (by decide) (by decide) rfl
  | revokeProfile userId orgId =>
      exact route_action plain "users" "revoke" (by simp [requestOf, ShimAdapter.revokeProfile,
        ShimAdapter.mutate, List.intercalate, toString]) (by decide) (by decide) rfl
  | setServerState serverId action =>
      exact route_action plain "servers" "state" (by simp [requestOf, ShimAdapter.setServerState,
        ShimAdapter.mutate, List.intercalate, toString]) (by decide) (by decide) rfl
  | deleteUser userId orgId => exact route_user plain "DELETE"
  | deleteOrg orgId => exact route_missing plain
  | setUserPolicy userId orgId policy => exact route_user plain "PATCH"

end Routing

section Correspondence

def Account.user (account : Account) (hasProfile : Bool) : User where
  id := account.id
  name := .str account.name
  orgId := account.orgId
  email := ofOption account.email
  disabled := account.disabled
  revoked := account.revoked
  hasProfile := hasProfile

def record (connection : Connection) : MockNode.Session :=
  ⟨connection.userId, ofMembers (connectionFields connection)⟩

/-- The node holds the account; whether it has a profile nobody is told. -/
def Represents (account : Account) (user : User) : Prop :=
  ∃ hasProfile, user = Account.user account hasProfile

structure Shows (site : Site) (node : Node) : Prop where
  servers : node.servers = site.servers
  orgs : node.orgs = site.orgs
  accounts : List.Forall₂ Represents site.accounts node.users
  sessions : node.sessions = site.connections.map record

theorem Represents.id {account : Account} {user : User} (represents : Represents account user) :
    user.id = account.id := by
  obtain ⟨hasProfile, rfl⟩ := represents
  rfl

variable {site : Site} {node : Node}

theorem Shows.orgName (shows_ : Shows site node) (orgId : String) :
    node.lifecycle.orgName orgId = site.orgName orgId := by
  rw [MockNode.State.orgName, Site.orgName, MockService.Node.lifecycle, shows_.orgs]

theorem Shows.find (shows_ : Shows site node) (userId : String) :
    Option.Rel Represents (site.find userId) (node.lifecycle.findUser userId) :=
  @Keyed.lookup_pairs _ _ _ _ _ _ Represents Represents.id _ _ shows_.accounts userId

theorem Shows.view (shows_ : Shows site node) (account : Account) (hasProfile : Bool) :
    MockService.userDocument (node.lifecycle.userView (Account.user account hasProfile)) =
      ofJson (accountJson site account) := by
  have orgName := shows_.orgName account.orgId
  simp [MockService.userDocument, MockNode.State.userView, Account.user, orgName, accountJson,
    accountMembers, ofJson, ofMembers, ofJson_ofOption, ofOption]

theorem Shows.alter (shows_ : Shows site node) (userId : String) {change : Account → Account}
    {write : User → User}
    (changes : ∀ account hasProfile, Represents (change account)
      (write (Account.user account hasProfile))) :
    Shows (site.alter userId change) (node.after (node.lifecycle.alter userId write)) where
  servers := shows_.servers
  orgs := shows_.orgs
  accounts := by
    refine @Keyed.alter_pairs _ _ _ _ _ _ Represents Represents.id _ _ _ _ _ ?_ shows_.accounts
    rintro account _ ⟨hasProfile, rfl⟩
    exact changes account hasProfile
  sessions := shows_.sessions

-- A write that no account shows.
theorem Shows.unseen (shows_ : Shows site node) (userId : String) {write : User → User}
    (hides : ∀ account hasProfile, Represents account (write (Account.user account hasProfile))) :
    Shows site (node.after (node.lifecycle.alter userId write)) := by
  have altered := shows_.alter userId hides
  have same : site.alter userId (fun account => account) = site := by
    rw [Site.alter, Keyed.alter_same]
  exact same ▸ altered

theorem Shows.remove (shows_ : Shows site node) (userId : String) :
    Shows (site.remove userId)
      { node with users := node.users.eraseP fun user => user.id = userId } where
  servers := shows_.servers
  orgs := shows_.orgs
  accounts := Keyed.eraseP_pairs (fun pair => by rw [Represents.id pair]) shows_.accounts
  sessions := shows_.sessions

theorem Shows.disconnect (shows_ : Shows site node) (userId : String) :
    Shows (site.disconnect userId)
      { node with sessions := node.sessions.filter fun session => session.userId ≠ userId } where
  servers := shows_.servers
  orgs := shows_.orgs
  accounts := shows_.accounts
  sessions := by
    rw [shows_.sessions, List.filter_map]
    rfl

theorem Shows.enlist (shows_ : Shows site node) (account : Account) (hasProfile : Bool) :
    Shows { site with accounts := site.accounts ++ [account] }
      { node with users := node.users ++ [Account.user account hasProfile] } where
  servers := shows_.servers
  orgs := shows_.orgs
  accounts := List.rel_append shows_.accounts (.cons ⟨hasProfile, rfl⟩ .nil)
  sessions := shows_.sessions

theorem encodable_ofOption (text : Option String) : Lifecycle.encodable (ofOption text) = true := by
  cases text <;> rfl

theorem respond_account (shows_ : Shows site node) (status : Nat) (account : Account)
    (hasProfile : Bool) :
    MockService.answerOf
        (MockNode.respond status (node.lifecycle.userView (Account.user account hasProfile))) =
      answerJson status (accountMembers site account) := by
  have finite : (node.lifecycle.userView (Account.user account hasProfile)).encodable = true := by
    rw [Lifecycle.UserView.encodable, Bool.and_eq_true]
    exact ⟨rfl, encodable_ofOption account.email⟩
  rw [MockNode.respond, if_pos finite, MockService.answerOf]
  dsimp only
  rw [shows_.view]
  rfl

end Correspondence

section Handlers

variable {Moment : Type} {settings : MockService.Settings} {platform : MockService.Platform}
  {reader : Reader Moment} {site : Site} {node : Node}

-- Both interpreters decode to some depth, and text is formatted as it is.
structure Compatible (platform : MockService.Platform) (reader : Reader Moment) : Prop where
  server : 4 ≤ platform.python.limit
  client : 4 ≤ reader.client.limit
  format : ∀ text, platform.format (.str text) = text

/-- The node answers what the adapter takes for the result, and is left as the site is. -/
structure Agrees (reader : Reader Moment) (platform : MockService.Platform) (operation : Operation)
    (latencyMs : Nat) (given : Answer × Node) (wanted : Performed Moment) : Prop where
  answer : Understood reader platform operation given.1 latencyMs wanted.1
  node : Shows wanted.2 given.2

variable (compatible : Compatible platform reader)

include compatible

theorem fields_payload {members : List (String × Json)}
    (fits : ∀ depth, JsonText.Fits (depth + 4) (.obj members)) :
    MockNode.fields (Documents.loads platform.python)
        (ShimAdapter.payloadBody (some (.obj members))) = .ok (ofMembers members) := by
  have loaded : Documents.loads platform.python (Json.dumps .default (.obj members)).toUTF8 =
      .ok (ofJson (.obj members)) := by
    obtain ⟨rest, enough⟩ := Nat.exists_eq_add_of_le' compatible.server
    exact Documents.loads_dumps (enough ▸ fits rest)
  have nonempty : (Json.dumps .default (.obj members)).toUTF8.isEmpty = false := by
    rw [Json.dumps, JsonText.render_eq_write]
    exact JsonText.write_object_nonempty JsonText.readable_default members
  rw [MockNode.fields, Lifecycle.orEmptyObject, ShimAdapter.payloadBody, nonempty]
  simp only [Bool.false_eq_true, if_false, loaded, ofJson]

theorem refused_agrees (shows_ : Shows site node) {operation : Operation}
    (mutates : operation.mutates = true) (latencyMs status : Nat) (high : 400 ≤ status)
    (other : status ≠ 401) (text : String) :
    Agrees reader platform operation latencyMs (.error status text, node)
      (NodeContract.refuse site status text) :=
  ⟨understood_error compatible.client latencyMs mutates high other text, shows_⟩

theorem createUser_agrees (shows_ : Shows site node) (orgId name : String) (email : Option String)
    (drawn : String) (latencyMs : Nat) :
    Agrees reader platform (.createUser orgId name email) latencyMs
      (MockService.perform settings platform node
        (.createUser orgId (ShimAdapter.createUser orgId name email).body drawn))
      (NodeContract.createUser site drawn orgId name email) := by
  have orgName := shows_.orgName orgId
  have read := @fields_payload _ platform reader compatible
    [("name", .str name), ("email", .ofOption email)]
    (fun _ => ⟨trivial, fits_ofOption _ _, trivial⟩)
  unfold MockService.perform NodeContract.createUser
  simp only [MockNode.step, MockNode.createUser, ShimAdapter.createUser, ShimAdapter.mutate, orgName,
    read]
  by_cases unknown : site.orgName orgId = none
  · rw [if_pos unknown, if_pos unknown]
    exact refused_agrees compatible shows_ rfl latencyMs 404 (by decide) (by decide) _
  · have named : Value.getD (ofMembers [("name", .str name), ("email", .ofOption email)]) "name"
        .null = .str name := by simp [Value.getD, Value.get?, ofMembers, ofJson]
    have address : Value.getD (ofMembers [("name", .str name), ("email", .ofOption email)]) "email"
        .null = ofOption email := by simp [Value.getD, Value.get?, ofMembers, ofJson_ofOption]
    rw [if_neg unknown, if_neg unknown, named, address]
    by_cases unnamed : name = ""
    · rw [if_pos unnamed, if_neg (by simp [Value.truthy, unnamed])]
      exact refused_agrees compatible shows_ rfl latencyMs 400 (by decide) (by decide) _
    · rw [if_neg unnamed, if_pos (by simp [Value.truthy, unnamed])]
      let account : Account := ⟨"usr-" ++ drawn, name, orgId, email, false, false⟩
      refine ⟨?_, shows_.enlist account false⟩
      change Understood reader platform _ (MockService.answerOf (MockNode.respond 201
        (node.lifecycle.userView (Account.user account false)))) latencyMs _
      rw [respond_account shows_]
      exact understood_createUser latencyMs compatible.client orgId name email account

theorem setUserDisabled_agrees (shows_ : Shows site node) (userId orgId : String) (disabled : Bool)
    (latencyMs : Nat) :
    Agrees reader platform (.setUserDisabled userId orgId disabled) latencyMs
      (MockService.perform settings platform node
        (.setDisabled userId (ShimAdapter.setUserDisabled userId disabled).body))
      (onAccount site userId fun account =>
        (.ok (.user (site.userInfo (account.disable disabled))),
          site.alter userId (Account.disable disabled))) := by
  have row := shows_.find userId
  have read := @fields_payload _ platform reader compatible [("disabled", .bool disabled)]
    (fun _ => ⟨trivial, trivial⟩)
  have asked : (Value.getD (ofMembers [("disabled", .bool disabled)]) "disabled"
      (.bool true)).truthy = disabled := by
    simp [Value.getD, Value.get?, ofMembers, ofJson, Value.truthy]
  unfold MockService.perform onAccount
  simp only [MockNode.step, MockNode.setDisabled, ShimAdapter.setUserDisabled, ShimAdapter.mutate]
  generalize site.find userId = held at row ⊢
  generalize node.lifecycle.findUser userId = found at row ⊢
  cases row with
  | none => exact refused_agrees compatible shows_ rfl latencyMs 404 (by decide) (by decide) _
  | @some account user represents =>
      obtain ⟨hasProfile, rfl⟩ := represents
      simp only [read, asked]
      refine ⟨?_, shows_.alter userId fun _ hasProfile => ⟨hasProfile, rfl⟩⟩
      change Understood reader platform _ (MockService.answerOf (MockNode.respond 200
        (node.lifecycle.userView (Account.user (account.disable disabled) hasProfile)))) latencyMs _
      rw [respond_account shows_]
      exact understood_setUserDisabled latencyMs compatible.client userId orgId disabled _

theorem deleteUser_agrees (shows_ : Shows site node) (userId orgId : String) (latencyMs : Nat) :
    Agrees reader platform (.deleteUser userId orgId) latencyMs
      (MockService.perform settings platform node (.deleteUser userId))
      (onAccount site userId fun _ => (.ok .nothing, (site.remove userId).disconnect userId)) := by
  have row := shows_.find userId
  unfold MockService.perform onAccount
  simp only [MockNode.step, MockNode.deleteUser]
  generalize site.find userId = held at row ⊢
  generalize node.lifecycle.findUser userId = found at row ⊢
  cases row with
  | none => exact refused_agrees compatible shows_ rfl latencyMs 404 (by decide) (by decide) _
  | some =>
      refine ⟨?_, (shows_.remove userId).disconnect userId⟩
      change Understood reader platform _
        (answerJson 200 [("status", .str "deleted"), ("id", .str userId)]) latencyMs _
      exact understood_nothing latencyMs (fun _ => rfl) (by decide)

theorem revokeProfile_agrees (shows_ : Shows site node) (userId orgId : String) (latencyMs : Nat) :
    Agrees reader platform (.revokeProfile userId orgId) latencyMs
      (MockService.perform settings platform node (.revoke userId))
      (onAccount site userId fun _ =>
        (.ok .nothing, (site.alter userId Account.revoke).disconnect userId)) := by
  have row := shows_.find userId
  unfold MockService.perform onAccount
  simp only [MockNode.step, MockNode.revokeProfile]
  generalize site.find userId = held at row ⊢
  generalize node.lifecycle.findUser userId = found at row ⊢
  cases row with
  | none => exact refused_agrees compatible shows_ rfl latencyMs 404 (by decide) (by decide) _
  | @some account user represents =>
      obtain ⟨hasProfile, rfl⟩ := represents
      have altered : Shows (site.alter userId Account.revoke)
          (node.after (node.lifecycle.alter userId User.revoke)) :=
        shows_.alter userId fun _ _ => ⟨false, rfl⟩
      refine ⟨?_, altered.disconnect userId⟩
      change Understood reader platform _ (MockService.answerOf (MockNode.respond 200
        (node.lifecycle.userView (Account.user account.revoke false)))) latencyMs _
      rw [respond_account shows_]
      exact understood_nothing latencyMs (fun _ => rfl) (by decide)

omit compatible in
theorem profile_text {format : Value → String} (plain : ∀ text, format (.str text) = text)
    (nodeName fmt keyId : String) {user : User} {name : String} (named : user.name = .str name) :
    MockNode.profile nodeName format (.str fmt) user keyId =
      NodeContract.profile nodeName fmt name keyId := by
  unfold MockNode.profile NodeContract.profile
  rw [named, plain, plain]

theorem issueProfile_agrees (shows_ : Shows site node) (userId orgId fmt keyId : String)
    (latencyMs : Nat) :
    Agrees reader platform (.issueProfile userId orgId fmt) latencyMs
      (MockService.perform settings platform node
        (.issueProfile userId (ShimAdapter.issueProfile userId fmt).body keyId))
      (onAccount site userId fun account =>
        if account.revoked then NodeContract.refuse site 409 "user is revoked"
        else (.ok (.content
          (NodeContract.profile settings.nodeName fmt account.name keyId).toUTF8), site)) := by
  have row := shows_.find userId
  have read := @fields_payload _ platform reader compatible [("fmt", .str fmt)]
    (fun _ => ⟨trivial, trivial⟩)
  have asked : Value.getD (ofMembers [("fmt", .str fmt)]) "fmt" (.str "ovpn") = .str fmt := by
    simp [Value.getD, Value.get?, ofMembers, ofJson]
  unfold MockService.perform onAccount
  simp only [MockNode.step, MockNode.issueProfile, ShimAdapter.issueProfile, ShimAdapter.mutate]
  generalize site.find userId = held at row ⊢
  generalize node.lifecycle.findUser userId = found at row ⊢
  cases row with
  | none => exact refused_agrees compatible shows_ rfl latencyMs 404 (by decide) (by decide) _
  | @some account user represents =>
      obtain ⟨hasProfile, rfl⟩ := represents
      have content := profile_text compatible.format settings.nodeName fmt keyId
        (@rfl _ (Account.user account hasProfile).name)
      have flag : (Account.user account hasProfile).revoked = account.revoked := rfl
      dsimp only
      rw [flag]
      by_cases revoked : account.revoked = true
      · rw [if_pos revoked, if_pos revoked]
        exact refused_agrees compatible shows_ rfl latencyMs 409 (by decide) (by decide) _
      · rw [if_neg revoked, if_neg revoked]
        simp only [read, asked, content]
        exact ⟨understood_content latencyMs userId orgId fmt _,
          shows_.unseen userId fun _ _ => ⟨true, rfl⟩⟩

omit compatible in
theorem document_server (server : Server) : server.document = ofJson (serverJson server) := by
  simp [Server.document, serverJson, serverMembers, ofJson, ofMembers, ofItems_map]

theorem setServerState_agrees (shows_ : Shows site node) (small : Small site)
    (serverId action : String) (latencyMs : Nat) :
    Agrees reader platform (.setServerState serverId action) latencyMs
      (MockService.setServerState platform node serverId
        (ShimAdapter.setServerState serverId action).body)
      (NodeContract.setServerState site serverId action) := by
  have read := @fields_payload _ platform reader compatible [("action", .str action)]
    (fun _ => ⟨trivial, trivial⟩)
  have asked : Value.getD (ofMembers [("action", .str action)]) "action" .null = .str action := by
    simp [Value.getD, Value.get?, ofMembers, ofJson]
  unfold MockService.setServerState NodeContract.setServerState
  simp only [ShimAdapter.setServerState, ShimAdapter.mutate, shows_.servers, read, asked]
  rcases found : Keyed.lookup Server.id serverId site.servers with _ | server
  · exact refused_agrees compatible shows_ rfl latencyMs 404 (by decide) (by decide) _
  · by_cases known : action ∈ MockService.actions
    · dsimp only
      rw [if_pos known, if_pos known]
      obtain ⟨port, clients⟩ := small.servers server (Keyed.mem_of_lookup found)
      refine ⟨?_, ⟨rfl, shows_.orgs, shows_.accounts, shows_.sessions⟩⟩
      have turned : Short (server.turn action).port ∧ Short (server.turn action).onlineClients := by
        unfold Server.turn
        split
        · exact ⟨port, show Short 0 by decide⟩
        · exact ⟨port, clients⟩
      rw [document_server]
      exact understood_setServerState latencyMs compatible.client serverId action turned.1 turned.2
    · dsimp only
      rw [if_neg known, if_neg known]
      exact refused_agrees compatible shows_ rfl latencyMs 400 (by decide) (by decide) _

omit compatible in
theorem Shows.state (shows_ : Shows site node) :
    (MockService.perform settings platform node .state) =
      (answerJson 200 (stateMembers site), node) := by
  have views : node.lifecycle.views.map MockService.userDocument =
      site.accounts.map fun account => ofJson (accountJson site account) := by
    rw [MockNode.State.views, List.map_map]
    refine @Keyed.map_key_pairs _ _ _ _ _ Represents ?_ _ _ shows_.accounts
    rintro account _ ⟨hasProfile, rfl⟩
    exact shows_.view account hasProfile
  have finite : node.lifecycle.views.all Lifecycle.UserView.encodable = true := by
    rw [List.all_eq_true, MockNode.State.views, List.forall_mem_map]
    intro user member
    obtain ⟨account, -, hasProfile, rfl⟩ := Paired.exists_left shows_.accounts member
    rw [Lifecycle.UserView.encodable, Bool.and_eq_true]
    exact ⟨rfl, encodable_ofOption account.email⟩
  have orgs : node.lifecycle.orgViews.map MockService.orgDocument =
      site.orgs.map fun org => ofJson (orgJson site org) := by
    rw [MockNode.State.orgViews, List.map_map, ← shows_.orgs]
    refine List.map_congr_left fun org _ => ?_
    have count : site.members org.id = node.users.countP fun user => user.orgId = org.id :=
      Keyed.countP_pairs (by rintro account _ ⟨hasProfile, rfl⟩; rfl) shows_.accounts
    simp [MockService.orgDocument, orgJson, ofJson, ofMembers, count, MockService.Node.lifecycle]
  have servers : node.lifecycle.servers = site.servers.map fun server => ofJson (serverJson server) := by
    rw [MockService.Node.lifecycle, shows_.servers]
    exact List.map_congr_left fun server _ => document_server server
  unfold MockService.perform
  simp only [MockNode.step, MockNode.state, finite, if_true, MockService.answerOf,
    MockService.stateDocument, views, orgs, servers, answerJson, Answer.json, stateMembers, ofMembers,
    ofJson, ofItems_map]
  rfl

omit compatible in
theorem Shows.ping (shows_ : Shows site node) :
    MockService.ping settings node = answerJson 200 (pingMembers site settings.nodeName) := by
  simp only [MockService.ping, MockService.online, MockService.clients, shows_.servers, answerJson,
    pingMembers, ofMembers, ofJson, Site.online, Site.clients]

omit compatible in
theorem Shows.sessions_answer (shows_ : Shows site node) :
    MockService.sessions node = answerJson 200 (sessionsMembers site) := by
  have active : (node.users.filter fun user => !user.disabled && !user.revoked).map User.id =
      (site.accounts.filter fun account => !account.disabled && !account.revoked).map Account.id := by
    refine @Keyed.map_key_pairs _ _ _ _ _ Represents Represents.id _ _
      (List.rel_filter ?_ shows_.accounts)
    rintro account _ ⟨hasProfile, rfl⟩
    exact Iff.rfl
  have live : node.live = (site.connections.filter site.connected).map record := by
    rw [MockService.Node.live, active, shows_.sessions, List.filter_map]
    rfl
  have documents : node.live.map MockService.sessionDocument =
      (site.connections.filter site.connected).map fun connection =>
        ofJson (connectionJson connection) := by
    rw [live, List.map_map]
    rfl
  simp only [MockService.sessions, documents, answerJson, Answer.json, sessionsMembers, ofMembers,
    ofJson, ofItems_map]

theorem handle_agrees (shows_ : Shows site node) (small : Small site)
    (request : MockService.Request) (operation : Operation)
    (sent : request.call.body = (requestOf operation).body) {endpoint : Endpoint}
    (routed : routedTo operation = .to endpoint) (latencyMs : Nat) :
    Agrees reader platform operation latencyMs
      (MockService.handle settings platform node request endpoint)
      (NodeContract.perform settings.nodeName reader.runtime.fromisoformat site
        ⟨request.drawn, request.keyId, latencyMs⟩ operation) := by
  cases operation with
  | health =>
      obtain rfl := Routed.to.inj routed
      refine ⟨?_, shows_⟩
      rw [MockService.handle, shows_.ping]
      exact understood_health latencyMs compatible.client small settings.nodeName
  | getState =>
      obtain rfl := Routed.to.inj routed
      rw [MockService.handle, shows_.state]
      exact ⟨understood_getState latencyMs compatible.client small, shows_⟩
  | listServers =>
      obtain rfl := Routed.to.inj routed
      rw [MockService.handle, shows_.state]
      exact ⟨understood_listServers latencyMs compatible.client small, shows_⟩
  | listOrgs =>
      obtain rfl := Routed.to.inj routed
      rw [MockService.handle, shows_.state]
      exact ⟨understood_listOrgs latencyMs compatible.client small, shows_⟩
  | listUsers =>
      obtain rfl := Routed.to.inj routed
      rw [MockService.handle, shows_.state]
      exact ⟨understood_listUsers latencyMs compatible.client small, shows_⟩
  | listSessions =>
      obtain rfl := Routed.to.inj routed
      refine ⟨?_, shows_⟩
      rw [MockService.handle, shows_.sessions_answer]
      exact understood_listSessions latencyMs compatible.client small
  | createUser orgId name email =>
      obtain rfl := Routed.to.inj routed
      rw [MockService.handle, sent]
      exact createUser_agrees compatible shows_ orgId name email request.drawn latencyMs
  | setUserDisabled userId orgId disabled =>
      obtain rfl := Routed.to.inj routed
      rw [MockService.handle, sent]
      exact setUserDisabled_agrees compatible shows_ userId orgId disabled latencyMs
  | deleteUser userId orgId =>
      obtain rfl := Routed.to.inj routed
      rw [MockService.handle]
      exact deleteUser_agrees compatible shows_ userId orgId latencyMs
  | issueProfile userId orgId fmt =>
      obtain rfl := Routed.to.inj routed
      rw [MockService.handle, sent]
      exact issueProfile_agrees compatible shows_ userId orgId fmt request.keyId latencyMs
  | revokeProfile userId orgId =>
      obtain rfl := Routed.to.inj routed
      rw [MockService.handle]
      exact revokeProfile_agrees compatible shows_ userId orgId latencyMs
  | setServerState serverId action =>
      obtain rfl := Routed.to.inj routed
      rw [MockService.handle, sent]
      exact setServerState_agrees compatible shows_ small serverId action latencyMs
  | createOrg | deleteOrg | setUserPolicy => cases routed

end Handlers

section Wire

variable {Moment : Type}

/-- One call of an adapter: what it asks, and what signing it drew. -/
structure Sent where
  operation : Operation
  clock : Int
  random : List UInt8

-- What reaches the node: a copy of a call, or something else.
structure Message where
  request : MockService.Request
  copyOf : Option Sent
  latencyMs : Nat

def Sent.signed (token : String) (sent : Sent) : SignatureBinding.Signed :=
  ⟨token, requestOf sent.operation, sent.clock, sent.random⟩

def Sent.nonce (sent : Sent) : String := HmacAuth.b16encode sent.random

-- The node as the adapters that call it see it: each reads what its own call was answered.
def served (settings : MockService.Settings) (platform : MockService.Platform)
    (reader : Reader Moment) (running : MockService.Running) (message : Message) :
    Option (Except ShimResponses.Raised (Returned Moment)) × MockService.Running :=
  let (response, running) := MockService.step settings platform running message.request
  (message.copyOf.map fun sent =>
    ShimResponses.perform reader.runtime reader.base sent.operation
      (.response { response with latencyMs := message.latencyMs }), running)

structure Ledger where
  site : Site
  done : List Sent
  clock : Int

def supported (operation : Operation) : Bool :=
  !(operation matches .createOrg _ | .deleteOrg _ | .setUserPolicy ..)

variable (settings : MockService.Settings) (reader : Reader Moment)

/-- The abstract node: a call takes effect once, when the first of its copies arrives in time. -/
def executed (ledger : Ledger) (message : Message) :
    Option (Except String (Returned Moment)) × Ledger :=
  let now := message.request.call.now
  let draw : Draw := ⟨message.request.drawn, message.request.keyId, message.latencyMs⟩
  match message.copyOf with
  | none => (none, { ledger with clock := now })
  | some sent =>
      let (result, site) := NodeContract.perform settings.nodeName reader.runtime.fromisoformat
        ledger.site draw sent.operation
      if supported sent.operation then
        if sent.nonce ∉ ledger.done.map Sent.nonce ∧
            Delivery.Timely HmacAuth.defaultMaxSkew (sent.signed settings.token) now then
          (some result, ⟨site, sent :: ledger.done, now⟩)
        else (some (rejected message.latencyMs sent.operation), { ledger with clock := now })
      else (some result, ⟨site, ledger.done, now⟩)

variable (platform : MockService.Platform) (calls : Set Sent)

/-- A copy of one of the calls, as it was sent. -/
structure Copies (sent : Sent) (call : HmacAuth.Call) : Prop where
  asked : sent ∈ calls
  plain : PlainIds sent.operation
  genuine : Delivery.Genuine settings.token (sent.signed settings.token)
  delivers : Delivery.Delivers platform.primitives settings.secret (sent.signed settings.token) call
  method : call.method = (requestOf sent.operation).method

structure Sound (message : Message) : Prop where
  copies : ∀ sent ∈ message.copyOf, Copies settings platform calls sent message.request.call
  foreign : message.copyOf = none → Delivery.Foreign platform.primitives settings.token
    settings.secret HmacAuth.defaultMaxSkew message.request.call

/-- What may reach the node next. -/
structure Allowed (ledger : Ledger) (message : Message) : Prop where
  later : ledger.clock ≤ message.request.call.now
  small : Small ledger.site
  sound : Sound settings platform calls message

structure Follows (ledger : Ledger) (running : MockService.Running) : Prop where
  site : Shows ledger.site running.2
  tracks : Delivery.Tracks HmacAuth.defaultMaxSkew running.1
    (ledger.done.map (Sent.signed settings.token)) ledger.clock
  asked : ∀ sent ∈ ledger.done, sent ∈ calls

def Alike (wanted : Option (Except String (Returned Moment)))
    (given : Option (Except ShimResponses.Raised (Returned Moment))) : Prop :=
  given = wanted.map fun result => result.mapError .adapterError

/-- The two ends share their credentials and the node checks them; what the calls drew tells them
apart. -/
structure Deployed : Prop where
  compatible : Compatible platform reader
  printable : Delivery.Printable platform.primitives
  named : settings.token ≠ ""
  checks : settings.forceFail = false
  apart : Set.InjOn Sent.nonce calls

end Wire

section Simulation

variable {Moment : Type} {settings : MockService.Settings} {platform : MockService.Platform}
  {reader : Reader Moment} {calls : Set Sent}

theorem foreign_unmoved (deployed : Deployed settings reader platform calls)
    {request : MockService.Request}
    (foreign : Delivery.Foreign platform.primitives settings.token settings.secret
      HmacAuth.defaultMaxSkew request.call) (running : MockService.Running) :
    (MockService.step settings platform running request).2 = running := by
  obtain ⟨verdict, admitted, refused⟩ := Delivery.authorize_foreign foreign running.1
  have barred : ∃ refusal, MockService.auth settings platform running.1 request.call =
      (some refusal, running.1) := by
    rw [MockService.auth, if_neg (by simp [deployed.checks]), admitted]
    cases verdict with
    | raised => exact ⟨_, rfl⟩
    | returned result =>
        have unmet : result.ok = false := refused
        simp [unmet]
  obtain ⟨refusal, barred⟩ := barred
  change (MockService.answer settings platform running request).2 = running
  unfold MockService.answer
  split
  · rfl
  · rfl
  · rfl
  · rfl
  · rw [barred]

theorem routed_endpoint {operation : Operation} (takes : supported operation = true) :
    ∃ endpoint, routedTo operation = .to endpoint ∧ endpoint ≠ .liveness := by
  cases operation with
  | createOrg | deleteOrg | setUserPolicy => cases takes
  | health | getState | listServers | listOrgs | listUsers | listSessions | createUser
  | setUserDisabled | deleteUser | issueProfile | revokeProfile | setServerState =>
      exact ⟨_, rfl, by simp⟩

theorem answer_endpoint {running : MockService.Running} {request : MockService.Request}
    {endpoint : Endpoint} (guarded : endpoint ≠ .liveness)
    (routed : MockService.route request.call.method request.call.path = .to endpoint) :
    MockService.answer settings platform running request =
      match MockService.auth settings platform running.1 request.call with
      | (some refusal, nonces) => (refusal, (nonces, running.2))
      | (none, nonces) =>
          ((MockService.handle settings platform running.2 request endpoint).1,
            (nonces, (MockService.handle settings platform running.2 request endpoint).2)) := by
  unfold MockService.answer
  rw [routed]
  cases endpoint with
  | liveness => exact absurd rfl guarded
  | ping | state | sessions | createUser | setDisabled | deleteUser | issueProfile | revokeProfile
  | setServerState => rfl

-- What the adapter of a copy reads, and the node after it.
theorem served_copy {running : MockService.Running} {message : Message} {sent : Sent}
    (copied : message.copyOf = some sent) {answer : Answer} {next : MockService.Running}
    (answered : MockService.answer settings platform running message.request = (answer, next)) :
    served settings platform reader running message =
      (some (NodeReplies.read reader platform sent.operation answer message.latencyMs), next) := by
  rw [served, MockService.step, answered]
  dsimp only
  rw [copied]
  rfl

theorem Copies.routed {sent : Sent} {call : HmacAuth.Call}
    (copies : Copies settings platform calls sent call) :
    MockService.route call.method call.path = routedTo sent.operation := by
  rw [copies.method, copies.delivers.path]
  exact route_request sent.operation copies.plain

theorem unsupported_agrees (deployed : Deployed settings reader platform calls) (site : Site)
    (draw : Draw) {running : MockService.Running} {request : MockService.Request}
    {operation : Operation} (lacks : supported operation = false)
    (routed : MockService.route request.call.method request.call.path = routedTo operation) :
    ∃ answer, MockService.answer settings platform running request = (answer, running) ∧
      Understood reader platform operation answer draw.latencyMs
        (NodeContract.perform settings.nodeName reader.runtime.fromisoformat site draw operation).1 ∧
      (NodeContract.perform settings.nodeName reader.runtime.fromisoformat site draw operation).2 =
        site := by
  have deep := deployed.compatible.client
  cases operation with
  | health | getState | listServers | listOrgs | listUsers | listSessions | createUser
  | setUserDisabled | deleteUser | issueProfile | revokeProfile | setServerState => cases lacks
  | createOrg | deleteOrg =>
      refine ⟨.detail 404 "Not Found", ?_, ?_, rfl⟩
      · rw [MockService.answer, routed]
        rfl
      · exact understood_detail deep draw.latencyMs rfl (by decide) (by decide)
          (List.forall_iff_forall_mem.1 (by decide))
  | setUserPolicy =>
      refine ⟨.detail 405 "Method Not Allowed", ?_, ?_, rfl⟩
      · rw [MockService.answer, routed]
        rfl
      · exact understood_detail deep draw.latencyMs rfl (by decide) (by decide)
          (List.forall_iff_forall_mem.1 (by decide))

theorem auth_admitted (deployed : Deployed settings reader platform calls)
    {nonces next : HmacAuth.NonceCache} {call : HmacAuth.Call} {name : String}
    (admitted : Delivery.authorize platform.primitives settings.token settings.secret
      HmacAuth.defaultMaxSkew nonces call = (.returned { ok := true, token := some name }, next)) :
    MockService.auth settings platform nonces call = (none, next) := by
  rw [MockService.auth, if_neg (by simp [deployed.checks]), admitted]
  rfl

theorem auth_refused (deployed : Deployed settings reader platform calls)
    {nonces : HmacAuth.NonceCache} {call : HmacAuth.Call} {name : Option String} {error : String}
    (admitted : Delivery.authorize platform.primitives settings.token settings.secret
      HmacAuth.defaultMaxSkew nonces call = (HmacAuth.refuse name error, nonces)) :
    ∃ text, MockService.auth settings platform nonces call = (some (.error 401 text), nonces) := by
  rw [MockService.auth, if_neg (by simp [deployed.checks]), admitted]
  exact ⟨_, rfl⟩

variable {ledger : Ledger} {running : MockService.Running} {message : Message}

/-- Both ends of one message: what is read and what is left. -/
def Matches (settings : MockService.Settings) (calls : Set Sent)
    (wanted : Option (Except String (Returned Moment)) × Ledger)
    (given : Option (Except ShimResponses.Raised (Returned Moment)) × MockService.Running) : Prop :=
  Alike wanted.1 given.1 ∧ Follows settings calls wanted.2 given.2

theorem Follows.later (follows : Follows settings calls ledger running) {now : Int}
    (order : ledger.clock ≤ now) : Follows settings calls { ledger with clock := now } running :=
  ⟨follows.site, follows.tracks.later order, follows.asked⟩

theorem foreign_matches (deployed : Deployed settings reader platform calls)
    (follows : Follows settings calls ledger running)
    (allowed : Allowed settings platform calls ledger message) (uncopied : message.copyOf = none) :
    Matches settings calls (executed settings reader ledger message)
      (served settings platform reader running message) := by
  have unmoved : (served settings platform reader running message).2 = running :=
    foreign_unmoved deployed (allowed.sound.foreign uncopied) running
  have unread : (served settings platform reader running message).1 = none := by
    rw [served]
    dsimp only
    rw [uncopied]
    rfl
  rw [Matches, unmoved, unread, executed, uncopied]
  exact ⟨rfl, follows.later allowed.later⟩

theorem unsupported_matches (deployed : Deployed settings reader platform calls)
    (follows : Follows settings calls ledger running)
    (allowed : Allowed settings platform calls ledger message) {sent : Sent}
    (copied : message.copyOf = some sent) (lacks : supported sent.operation = false) :
    Matches settings calls (executed settings reader ledger message)
      (served settings platform reader running message) := by
  have copies := allowed.sound.copies sent copied
  obtain ⟨answer, answered, understood, same⟩ := unsupported_agrees deployed ledger.site
    ⟨message.request.drawn, message.request.keyId, message.latencyMs⟩ lacks copies.routed
  rw [served_copy copied answered, executed, copied]
  dsimp only
  rw [lacks, if_neg (by decide)]
  refine ⟨congrArg some understood, ?_⟩
  dsimp only
  rw [same]
  exact follows.later allowed.later

theorem supported_matches (deployed : Deployed settings reader platform calls)
    (follows : Follows settings calls ledger running)
    (allowed : Allowed settings platform calls ledger message) {sent : Sent}
    (copied : message.copyOf = some sent) (takes : supported sent.operation = true) :
    Matches settings calls (executed settings reader ledger message)
      (served settings platform reader running message) := by
  have copies := allowed.sound.copies sent copied
  obtain ⟨endpoint, routed, guarded⟩ := routed_endpoint takes
  have dispatched : MockService.answer settings platform running message.request = _ :=
    answer_endpoint guarded (copies.routed.trans routed)
  have nonces : (ledger.done.map (Sent.signed settings.token)).map SignatureBinding.Signed.nonce =
      ledger.done.map Sent.nonce := List.map_map
  have apart : ∀ other ∈ ledger.done.map (Sent.signed settings.token),
      other.nonce = (sent.signed settings.token).nonce → other = sent.signed settings.token := by
    intro other member same
    obtain ⟨earlier, done, rfl⟩ := List.mem_map.1 member
    exact congrArg _ (deployed.apart (follows.asked earlier done) copies.asked same)
  have outcome := (follows.tracks.later allowed.later).authorize deployed.printable deployed.named
    copies.genuine copies.delivers apart
  rw [nonces] at outcome
  change if sent.nonce ∉ ledger.done.map Sent.nonce ∧ Delivery.Timely HmacAuth.defaultMaxSkew
    (sent.signed settings.token) message.request.call.now then _ else _ at outcome
  by_cases first : sent.nonce ∉ ledger.done.map Sent.nonce ∧ Delivery.Timely HmacAuth.defaultMaxSkew
    (sent.signed settings.token) message.request.call.now
  · rw [if_pos first] at outcome
    obtain ⟨admitted, tracks⟩ := outcome
    rw [auth_admitted deployed admitted] at dispatched
    have agrees : Agrees reader platform sent.operation message.latencyMs _ _ :=
      @handle_agrees Moment settings platform reader ledger.site running.2 deployed.compatible
        follows.site allowed.small message.request sent.operation copies.delivers.body endpoint routed
        message.latencyMs
    rw [served_copy copied dispatched, executed, copied]
    dsimp only
    rw [if_pos takes, if_pos first]
    refine ⟨congrArg some agrees.answer, ⟨agrees.node, ?_, ?_⟩⟩
    · rw [List.map_cons]
      exact tracks
    · exact List.forall_mem_cons.2 ⟨copies.asked, follows.asked⟩
  · rw [if_neg first] at outcome
    obtain ⟨error, admitted⟩ := outcome
    obtain ⟨text, refused⟩ := auth_refused deployed admitted
    rw [refused] at dispatched
    rw [served_copy copied dispatched, executed, copied]
    dsimp only
    rw [if_pos takes, if_neg first]
    exact ⟨congrArg some (understood_rejected message.latencyMs text), follows.later allowed.later⟩

theorem simulates (deployed : Deployed settings reader platform calls) :
    Mealy.Simulation (executed settings reader) (served settings platform reader)
      (Allowed settings platform calls) (Follows settings calls) Alike := by
  have both (ledger : Ledger) (running : MockService.Running) (message : Message)
      (follows : Follows settings calls ledger running)
      (allowed : Allowed settings platform calls ledger message) :
      Matches settings calls (executed settings reader ledger message)
        (served settings platform reader running message) := by
    rcases copied : message.copyOf with _ | sent
    · exact foreign_matches deployed follows allowed copied
    · cases takes : supported sent.operation with
      | false => exact unsupported_matches deployed follows allowed copied takes
      | true => exact supported_matches deployed follows allowed copied takes
  exact ⟨fun follows allowed => (both _ _ _ follows allowed).1,
    fun follows allowed => (both _ _ _ follows allowed).2⟩

theorem executed_next (ledger : Ledger) (message : Message) :
    (executed settings reader ledger message).2.clock = message.request.call.now ∧
      ((executed settings reader ledger message).2.site = ledger.site ∨
        ∃ draw operation, (executed settings reader ledger message).2.site =
          (NodeContract.perform settings.nodeName reader.runtime.fromisoformat ledger.site draw
            operation).2) := by
  unfold executed
  dsimp only
  split
  · exact ⟨rfl, .inl rfl⟩
  · split
    · split
      · exact ⟨rfl, .inr ⟨_, _, rfl⟩⟩
      · exact ⟨rfl, .inl rfl⟩
    · exact ⟨rfl, .inr ⟨_, _, rfl⟩⟩

theorem executed_roomy {room : Nat} (roomy : Roomy (room + 1) ledger.site) (message : Message) :
    Roomy room (executed settings reader ledger message).2.site := by
  rcases (executed_next ledger message).2 with same | ⟨draw, operation, changed⟩
  · rw [same]
    exact roomy.less
  · rw [changed]
    exact perform_roomy roomy draw operation

theorem throughout_allowed {messages : List Message} (roomy : Roomy messages.length ledger.site)
    (later : ∀ message ∈ messages, ledger.clock ≤ message.request.call.now)
    (ordered : messages.Pairwise fun one other => one.request.call.now ≤ other.request.call.now)
    (sound : ∀ message ∈ messages, Sound settings platform calls message) :
    Mealy.Throughout (executed settings reader) (Allowed settings platform calls) ledger
      messages := by
  induction messages generalizing ledger with
  | nil => trivial
  | cons message rest ih =>
      obtain ⟨after, ordered⟩ := List.pairwise_cons.1 ordered
      obtain ⟨here, sound⟩ := List.forall_mem_cons.1 sound
      refine ⟨⟨later message List.mem_cons_self, roomy.1, here⟩,
        ih (executed_roomy roomy message) ?_ ordered sound⟩
      rw [(executed_next ledger message).1]
      exact after

end Simulation

section Instance

def settings : MockService.Settings := ⟨"t", "s", "ams", false⟩

def python : Documents.Interpreter where
  codecs _ _ := none
  limit := 1000
  parseFloat _ := none
  floatText _ := []

def formatted : Value → String
  | .str text => text
  | _ => ""

def platform : MockService.Platform := ⟨HmacAuth.standard, python, formatted⟩

def reader : Reader Unit where
  client := python
  runtime :=
    { loads := Documents.loads python
      text := fun resp => (String.fromUTF8? resp.content).getD ""
      format := formatted
      fromisoformat := fun _ => some () }
  base := "https://ams"
  loads := rfl
  text _ text _ := congrArg (Option.getD · "") (JsonText.fromUTF8?_toUTF8 text)

def vpn : Server := ⟨"srv-1", "ams-vpn", "online", "openvpn", 1194, 2, ["org-1"]⟩

def site : Site := ⟨[vpn], [⟨"org-1", "ams-corp"⟩], [], []⟩

def node : Node := ⟨[vpn], [⟨"org-1", "ams-corp"⟩], [], []⟩

def create : Sent := ⟨.createUser "org-1" "carol" none, 1000, List.replicate 16 1⟩

def stop : Sent := ⟨.setServerState "srv-1" "stop", 1001, List.replicate 16 2⟩

def copy (sent : Sent) (now : Int) : Message where
  request :=
    { call :=
        { method := (requestOf sent.operation).method, path := (requestOf sent.operation).path
          headers := (sent.signed "t").headers HmacAuth.standard "s"
          body := (requestOf sent.operation).body, now := now }
      drawn := "00000001"
      keyId := "" }
  copyOf := some sent
  latencyMs := 3

-- Without headers.
def probe (now : Int) : Message where
  request :=
    { call := { method := "GET", path := "/v1/state", headers := [], body := .empty, now := now }
      drawn := ""
      keyId := "" }
  copyOf := none
  latencyMs := 0

def messages : List Message := [copy create 1001, probe 1002, copy stop 1002, copy create 1003]

theorem deployed : Deployed settings reader platform {create, stop} where
  compatible := ⟨by decide, by decide, fun _ => rfl⟩
  printable := Delivery.standard_printable
  named := by decide
  checks := rfl
  apart := Set.injOn_pair.2 fun same => absurd same (by decide)

end Instance

end Fleet.RemoteCalls
