import Fleet.Shared.Execution
import Fleet.Shim.MockService

set_option autoImplicit false

namespace Fleet.MockRuns

open MockService Lifecycle Execution
open MockNode (User Org Session)
open ShimResponses (Value)

-- STATE as the process starts, with the two readings of the clock in it.
def seeded (nodeName first second : String) : Node where
  servers := [⟨"srv-1", nodeName ++ "-vpn", "online", "openvpn", 1194, 2, ["org-1"]⟩]
  orgs := [⟨"org-1", nodeName ++ "-corp"⟩]
  users :=
    [⟨"usr-1", .str "alice", "org-1", .str "alice@example.com", false, false, true⟩,
     ⟨"usr-2", .str "bob", "org-1", .str "bob@example.com", false, false, true⟩]
  sessions :=
    [⟨"usr-1", [("user_name", .str "alice"), ("server_id", .str "srv-1"),
        ("virtual_address", .str "10.8.0.2"), ("real_address", .str "203.0.113.7"),
        ("connected_since", .str first), ("bytes_sent", .int 1048576),
        ("bytes_received", .int 5242880)]⟩,
     ⟨"usr-2", [("user_name", .str "bob"), ("server_id", .str "srv-1"),
        ("virtual_address", .str "10.8.0.3"), ("real_address", .str "198.51.100.4"),
        ("connected_since", .str second), ("bytes_sent", .int 2097152),
        ("bytes_received", .int 3145728)]⟩]

structure Consistent (node : Node) : Prop where
  ids : Keyed.Unique User.id node.users
  orgIds : Keyed.Unique Org.id node.orgs
  belong : ∀ user ∈ node.users, user.orgId ∈ node.orgs.map Org.id
  named : ∀ user ∈ node.users, user.name.truthy = true
  profiles : ∀ user ∈ node.users, user.hasProfile = true → user.revoked = false
  connected : ∀ session ∈ node.sessions, ∃ user ∈ node.users,
    user.id = session.userId ∧ user.revoked = false
  servers : ∀ server ∈ node.servers,
    server.status = "online" ∨ server.status = "offline" ∧ server.onlineClients = 0

/-- The same user later: who it is does not change, and a revocation is not taken back. -/
structure Continues (old user : User) : Prop where
  id : user.id = old.id
  name : user.name = old.name
  orgId : user.orgId = old.orgId
  email : user.email = old.email
  revoked : old.revoked = true → user.revoked = true

/-- What a node may become, given the ids it has had: nobody gone comes back, and no session is
made. -/
structure Becomes (issued : List String) (node next : Node) : Prop where
  orgs : next.orgs = node.orgs
  servers : next.servers.map Server.id = node.servers.map Server.id
  sessions : next.sessions ⊆ node.sessions
  users : ∀ user ∈ next.users, user.id ∈ issued → ∃ old ∈ node.users, Continues old user

section Changes

variable {issued : List String} {node : Node}

theorem Continues.refl (user : User) : Continues user user :=
  ⟨rfl, rfl, rfl, rfl, fun gone => gone⟩

theorem Continues.trans {first second third : User} (early : Continues first second)
    (late : Continues second third) : Continues first third where
  id := late.id.trans early.id
  name := late.name.trans early.name
  orgId := late.orgId.trans early.orgId
  email := late.email.trans early.email
  revoked := fun gone => late.revoked (early.revoked gone)

theorem Becomes.refl (issued : List String) (node : Node) : Becomes issued node node :=
  ⟨rfl, rfl, fun _ member => member, fun user member _ => ⟨user, member, .refl user⟩⟩

-- A change of the user of one id, which leaves everybody else alone.
theorem alter_consistent (consistent : Consistent node) {userId : String} {change : User → User}
    (continues : ∀ user, Continues user (change user))
    (profiles : ∀ user ∈ node.users, user.id = userId → (change user).hasProfile = true →
      (change user).revoked = false)
    {sessions : List Session} (kept : sessions ⊆ node.sessions)
    (connected : ∀ session ∈ sessions, session.userId = userId → ∀ user ∈ node.users,
      user.id = userId → user.revoked = false → (change user).revoked = false) :
    Consistent { node with
      users := Keyed.alter User.id userId change node.users, sessions := sessions } where
  ids := by
    rw [Keyed.Unique, Keyed.map_key_alter fun user => (continues user).id]
    exact consistent.ids
  orgIds := consistent.orgIds
  belong := by
    rw [consistent.ids.alter_eq_map, List.forall_mem_map]
    intro user member
    split
    · rw [(continues user).orgId]
      exact consistent.belong user member
    · exact consistent.belong user member
  named := by
    rw [consistent.ids.alter_eq_map, List.forall_mem_map]
    intro user member
    split
    · rw [(continues user).name]
      exact consistent.named user member
    · exact consistent.named user member
  profiles := by
    rw [consistent.ids.alter_eq_map, List.forall_mem_map]
    intro user member
    split
    next here => exact profiles user member here
    · exact consistent.profiles user member
  connected := by
    intro session member
    obtain ⟨user, inside, same, unrevoked⟩ := consistent.connected session (kept member)
    rw [consistent.ids.alter_eq_map]
    refine ⟨_, List.mem_map_of_mem inside, ?_, ?_⟩
    · rw [← same]
      split
      · exact (continues user).id
      · rfl
    · split
      next here => exact connected session member (same.symm.trans here) user inside here unrevoked
      · exact unrevoked
  servers := consistent.servers

theorem alter_becomes {userId : String} {change : User → User}
    (continues : ∀ user, Continues user (change user)) {sessions : List Session}
    (kept : sessions ⊆ node.sessions) :
    Becomes issued node { node with
      users := Keyed.alter User.id userId change node.users, sessions := sessions } := by
  refine ⟨rfl, rfl, kept, fun user member _ => ?_⟩
  obtain ⟨old, inside, rfl | rfl⟩ := Keyed.mem_alter member
  · exact ⟨user, inside, .refl user⟩
  · exact ⟨old, inside, continues old⟩

theorem remove_consistent (consistent : Consistent node) (userId : String) :
    Consistent { node with
      users := node.users.eraseP fun user => user.id = userId
      sessions := node.sessions.filter fun session => session.userId ≠ userId } where
  ids := consistent.ids.sublist (List.eraseP_sublist.map User.id)
  orgIds := consistent.orgIds
  belong := fun user member => consistent.belong user (List.mem_of_mem_eraseP member)
  named := fun user member => consistent.named user (List.mem_of_mem_eraseP member)
  profiles := fun user member => consistent.profiles user (List.mem_of_mem_eraseP member)
  connected := by
    intro session member
    obtain ⟨inside, other⟩ := List.mem_filter.1 member
    obtain ⟨user, present, same, unrevoked⟩ := consistent.connected session inside
    refine ⟨user, (List.mem_eraseP_of_neg ?_).2 present, same, unrevoked⟩
    simpa [same] using other
  servers := consistent.servers

theorem remove_becomes (userId : String) :
    Becomes issued node { node with
      users := node.users.eraseP fun user => user.id = userId
      sessions := node.sessions.filter fun session => session.userId ≠ userId } :=
  ⟨rfl, rfl, fun _ member => (List.mem_filter.1 member).1,
    fun user member _ => ⟨user, List.mem_of_mem_eraseP member, .refl user⟩⟩

theorem enlist_consistent (consistent : Consistent node) {user : User}
    (fresh : ∀ old ∈ node.users, old.id ≠ user.id) (belongs : user.orgId ∈ node.orgs.map Org.id)
    (named : user.name.truthy = true) (bare : user.hasProfile = false) :
    Consistent { node with users := node.users ++ [user] } where
  ids := consistent.ids.concat fresh
  orgIds := consistent.orgIds
  belong := List.forall_mem_append.2 ⟨consistent.belong, List.forall_mem_singleton.2 belongs⟩
  named := List.forall_mem_append.2 ⟨consistent.named, List.forall_mem_singleton.2 named⟩
  profiles := List.forall_mem_append.2
    ⟨consistent.profiles, List.forall_mem_singleton.2 (by simp [bare])⟩
  connected := by
    intro session member
    obtain ⟨old, inside, holds⟩ := consistent.connected session member
    exact ⟨old, List.mem_append_left _ inside, holds⟩
  servers := consistent.servers

theorem enlist_becomes {user : User} (fresh : user.id ∉ issued) :
    Becomes issued node { node with users := node.users ++ [user] } := by
  refine ⟨rfl, rfl, fun _ member => member, fun other member known => ?_⟩
  rcases List.mem_append.1 member with old | new
  · exact ⟨other, old, .refl other⟩
  · obtain rfl := List.mem_singleton.1 new
    exact absurd known fresh

theorem turn_consistent (consistent : Consistent node) (serverId action : String) :
    Consistent { node with
      servers := Keyed.alter Server.id serverId (Server.turn action) node.servers } := by
  refine { consistent with servers := fun server member => ?_ }
  obtain ⟨old, inside, rfl | rfl⟩ := Keyed.mem_alter member
  · exact consistent.servers server inside
  · unfold Server.turn
    split <;> simp

theorem turn_becomes (serverId action : String) :
    Becomes issued node { node with
      servers := Keyed.alter Server.id serverId (Server.turn action) node.servers } := by
  refine { Becomes.refl issued node with servers := Keyed.map_key_alter (fun server => ?_) _ }
  unfold Server.turn
  split <;> rfl

end Changes

section Handlers

variable (settings : Settings) (platform : Platform) {issued : List String} {node : Node}

def Sound (issued : List String) (node next : Node) : Prop :=
  Consistent next ∧ Becomes issued node next

theorem Sound.refl (consistent : Consistent node) : Sound issued node node :=
  ⟨consistent, .refl issued node⟩

theorem created_sound (consistent : Consistent node) (known : ∀ user ∈ node.users, user.id ∈ issued)
    {drawn : String} (fresh : "usr-" ++ drawn ∉ issued) (orgId : String) (body : ByteArray) :
    Sound issued node (perform settings platform node (.createUser orgId body drawn)).2 := by
  change Sound issued node (node.after (MockNode.createUser (Documents.loads platform.python)
    node.lifecycle orgId body drawn).2)
  unfold MockNode.createUser
  split
  · exact .refl consistent
  next found =>
    split
    · exact .refl consistent
    · dsimp only
      split
      next named =>
        have belongs : orgId ∈ node.orgs.map Org.id := by
          obtain ⟨name, lookedUp⟩ := Option.ne_none_iff_exists'.1 found
          obtain ⟨org, present, -⟩ := Option.map_eq_some_iff.1 lookedUp
          exact Keyed.lookup_isSome.1 (Option.isSome_of_eq_some present)
        have other : ∀ old ∈ node.users, old.id ≠ "usr-" ++ drawn := by
          intro old member same
          exact fresh (same ▸ known old member)
        exact ⟨enlist_consistent consistent other belongs named rfl, enlist_becomes fresh⟩
      · exact .refl consistent

theorem disabled_sound (consistent : Consistent node) (userId : String) (body : ByteArray) :
    Sound issued node (perform settings platform node (.setDisabled userId body)).2 := by
  change Sound issued node (node.after (MockNode.setDisabled (Documents.loads platform.python)
    node.lifecycle userId body).2)
  unfold MockNode.setDisabled
  split
  · exact .refl consistent
  · split
    · exact .refl consistent
    · have continues (disabled : Bool) (user : User) : Continues user (user.disable disabled) :=
        ⟨rfl, rfl, rfl, rfl, fun gone => gone⟩
      exact ⟨alter_consistent consistent (continues _)
          (fun user member _ => consistent.profiles user member) (fun _ member => member)
          fun _ _ _ _ _ _ unrevoked => unrevoked,
        alter_becomes (continues _) fun _ member => member⟩

theorem deleted_sound (consistent : Consistent node) (userId : String) :
    Sound issued node (perform settings platform node (.deleteUser userId)).2 := by
  change Sound issued node (node.after (MockNode.deleteUser node.lifecycle userId).2)
  unfold MockNode.deleteUser
  split
  · exact .refl consistent
  · exact ⟨remove_consistent consistent userId, remove_becomes userId⟩

theorem issued_sound (consistent : Consistent node) (userId keyId : String) (body : ByteArray) :
    Sound issued node (perform settings platform node (.issueProfile userId body keyId)).2 := by
  change Sound issued node (node.after (MockNode.issueProfile settings.nodeName
    (Documents.loads platform.python) platform.format node.lifecycle userId body keyId).2)
  unfold MockNode.issueProfile
  split
  · exact .refl consistent
  next found lookedUp =>
    split
    · exact .refl consistent
    next unrevoked =>
      have continues (user : User) : Continues user user.grant :=
        ⟨rfl, rfl, rfl, rfl, fun gone => gone⟩
      -- It is the one user of that id that was found not to be revoked.
      have only (user : User) (member : user ∈ node.users) (here : user.id = userId) :
          user.revoked = false := by
        have same := consistent.ids.lookup_of_mem member
        rw [here] at same
        obtain rfl : found = user := Option.some.inj (lookedUp.symm.trans same)
        simpa using unrevoked
      have granted : Sound issued node { node with
          users := Keyed.alter User.id userId User.grant node.users } :=
        ⟨alter_consistent consistent continues (fun user member here _ => only user member here)
          (fun _ member => member) fun _ _ _ _ _ _ unrevoked => unrevoked,
          alter_becomes continues fun _ member => member⟩
      split <;> exact granted

theorem revoked_sound (consistent : Consistent node) (userId : String) :
    Sound issued node (perform settings platform node (.revoke userId)).2 := by
  change Sound issued node (node.after (MockNode.revokeProfile node.lifecycle userId).2)
  unfold MockNode.revokeProfile
  split
  · exact .refl consistent
  · have continues (user : User) : Continues user user.revoke :=
      ⟨rfl, rfl, rfl, rfl, fun _ => rfl⟩
    have kept : (node.sessions.filter fun session => session.userId ≠ userId) ⊆ node.sessions :=
      fun _ member => (List.mem_filter.1 member).1
    refine ⟨alter_consistent consistent continues (fun _ _ _ profile => by cases profile) kept ?_,
      alter_becomes continues kept⟩
    intro session member same
    simpa [same] using (List.mem_filter.1 member).2

theorem turned_sound (consistent : Consistent node) (serverId : String) (body : ByteArray) :
    Sound issued node (setServerState platform node serverId body).2 := by
  unfold setServerState
  split
  · exact .refl consistent
  · split
    · exact .refl consistent
    · split
      · exact .refl consistent
      · exact .refl consistent
      · split
        · exact ⟨turn_consistent consistent serverId _, turn_becomes serverId _⟩
        · exact .refl consistent
      · exact .refl consistent

theorem state_sound (consistent : Consistent node) :
    Sound issued node (perform settings platform node .state).2 := by
  change Sound issued node (node.after (MockNode.state node.lifecycle).2)
  unfold MockNode.state
  split <;> exact .refl consistent

theorem handle_sound (consistent : Consistent node)
    (known : ∀ user ∈ node.users, user.id ∈ issued) {request : MockService.Request}
    (fresh : "usr-" ++ request.drawn ∉ issued) (endpoint : Endpoint) :
    Sound issued node (handle settings platform node request endpoint).2 := by
  cases endpoint with
  | liveness | ping | sessions => exact .refl consistent
  | state => exact state_sound settings platform consistent
  | createUser orgId => exact created_sound settings platform consistent known fresh orgId _
  | setDisabled userId => exact disabled_sound settings platform consistent userId _
  | deleteUser userId => exact deleted_sound settings platform consistent userId
  | issueProfile userId => exact issued_sound settings platform consistent userId _ _
  | revokeProfile userId => exact revoked_sound settings platform consistent userId
  | setServerState serverId => exact turned_sound platform consistent serverId _

theorem step_sound {nonces : HmacAuth.NonceCache} (consistent : Consistent node)
    (known : ∀ user ∈ node.users, user.id ∈ issued) {request : MockService.Request}
    (fresh : "usr-" ++ request.drawn ∉ issued) :
    Sound issued node (MockService.step settings platform (nonces, node) request).2.2 := by
  change Sound issued node (answer settings platform (nonces, node) request).2.2
  unfold answer
  split
  · exact .refl consistent
  · exact .refl consistent
  · exact .refl consistent
  · exact handle_sound settings platform consistent known fresh .liveness
  · split
    · exact .refl consistent
    · exact handle_sound settings platform consistent known fresh _

end Handlers

section Runs

variable (settings : Settings) (platform : Platform)

/-- The running server with every user id it has had; ids are drawn at random and not drawn
twice. -/
structure Tracked where
  running : Running
  issued : List String
  known : ∀ user ∈ running.2.users, user.id ∈ issued

def start (ttl : Int) (node : Node) : Tracked where
  running := (.create ttl, node)
  issued := node.users.map User.id
  known := fun _ member => List.mem_map_of_mem member

def step (state : Tracked) (request : MockService.Request) : Option Tracked :=
  if "usr-" ++ request.drawn ∈ state.issued then none
  else
    let running := (MockService.step settings platform state.running request).2
    some {
      running := running
      issued := state.issued ++ running.2.users.map User.id
      known := fun _ member => List.mem_append_right _ (List.mem_map_of_mem member) }

theorem taken_sound {state next : Tracked} {request : MockService.Request}
    (consistent : Consistent state.running.2)
    (taken : step settings platform state request = some next) :
    Sound state.issued state.running.2 next.running.2 ∧ state.issued ⊆ next.issued := by
  unfold step at taken
  split at taken
  · cases taken
  next fresh =>
    obtain rfl := Option.some.inj taken
    exact ⟨step_sound settings platform consistent state.known fresh,
      fun _ member => List.mem_append_left _ member⟩

/-- What a later state of the server keeps of an earlier one. -/
structure Later (state next : Tracked) : Prop where
  issued : state.issued ⊆ next.issued
  becomes : Becomes state.issued state.running.2 next.running.2

theorem Later.refl (state : Tracked) : Later state state := ⟨fun _ member => member, .refl _ _⟩

theorem Later.trans {first second third : Tracked} (early : Later first second)
    (late : Later second third) : Later first third where
  issued := fun _ member => late.issued (early.issued member)
  becomes := {
    orgs := late.becomes.orgs.trans early.becomes.orgs
    servers := late.becomes.servers.trans early.becomes.servers
    sessions := fun _ member => early.becomes.sessions (late.becomes.sessions member)
    users := by
      intro user member known
      obtain ⟨between, inside, second⟩ := late.becomes.users user member (early.issued known)
      obtain ⟨old, present, first⟩ := early.becomes.users between inside (second.id ▸ known)
      exact ⟨old, present, first.trans second⟩ }

theorem run_consistent {state final : Tracked} {requests : List MockService.Request}
    (consistent : Consistent state.running.2)
    (reached : run (step settings platform) state requests = some final) :
    Consistent final.running.2 :=
  run_preserves (fun state : Tracked => Consistent state.running.2)
    (fun _ _ _ consistent taken => (taken_sound settings platform consistent taken).1.1)
    consistent reached

theorem run_later {state final : Tracked} {requests : List MockService.Request}
    (consistent : Consistent state.running.2)
    (reached : run (step settings platform) state requests = some final) : Later state final :=
  run_extends (fun state : Tracked => Consistent state.running.2)
    (fun _ _ _ consistent taken => (taken_sound settings platform consistent taken).1.1)
    Later .refl (fun _ _ _ => .trans)
    (fun _ _ _ consistent taken =>
      have sound := taken_sound settings platform consistent taken
      ⟨sound.2, sound.1.2⟩)
    consistent reached

theorem seeded_consistent (nodeName first second : String) :
    Consistent (seeded nodeName first second) where
  ids := by simp [seeded, Keyed.Unique]
  orgIds := by simp [seeded, Keyed.Unique]
  belong := by simp [seeded]
  named := by simp [seeded, Value.truthy]
  profiles := by simp [seeded]
  connected := by simp [seeded]
  servers := by simp [seeded]

-- Every user is counted in one organisation.
theorem counts_sum {node : Node} (consistent : Consistent node) :
    (node.lifecycle.orgViews.map OrgView.userCount).sum = node.users.length := by
  have counted := Keyed.sum_countP consistent.orgIds User.orgId consistent.belong
  rw [List.map_map] at counted
  rw [MockNode.State.orgViews, List.map_map]
  exact counted

def python : Documents.Interpreter where
  codecs _ _ := none
  limit := 1000
  parseFloat _ := none
  floatText _ := []

def lab : Platform := ⟨HmacAuth.standard, python, fun _ => ""⟩

def signed (request : ShimAdapter.Request) (random : UInt8) : MockService.Request where
  call :=
    { method := request.method, path := request.path
      headers := (SignatureBinding.Signed.mk "t" request 1000 (List.replicate 16 random)).headers
        HmacAuth.standard "s"
      body := request.body, now := 1001 }
  drawn := "00c0ffee"
  keyId := ""

def probe : MockService.Request where
  call := { method := "DELETE", path := "/v1/users/usr-1", headers := [], body := .empty, now := 1001 }
  drawn := "00c0ffee"
  keyId := ""

end Runs

end Fleet.MockRuns
