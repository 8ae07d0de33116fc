import Fleet.ControlPlane.DashboardIsolation

set_option autoImplicit false

namespace Fleet.Dashboard

open Db ShimResponses Health Paired
open NodeAdapter hiding UserInfo

/-- `str.lower` and `str.strip`, of which only the empty text is looked into. -/
structure Texts where
  lower : String → String
  strip : String → String
  lower_empty : lower "" = ""
  strip_empty : strip "" = ""

-- What pydantic makes of a decoded value where a bool or an int is declared.
structure Coercion where
  bool : Value → Option Bool
  int : Value → Option Int

structure ServerRead where
  id : String
  name : String
  status : String
  protocol : String
  port : Option Int
  onlineClients : Int
  orgIds : List String
  deriving DecidableEq

structure UserRead where
  id : String
  name : String
  orgId : String
  orgName : Option String
  disabled : Bool
  revoked : Bool
  email : Option String
  deriving DecidableEq

structure SessionRead (Moment : Type) where
  userId : String
  userName : String
  serverId : String
  virtualAddress : Option String
  realAddress : Option String
  connectedSince : Option Moment
  bytesSent : Int
  bytesReceived : Int

-- What a row of another site's list is annotated with.
structure Site where
  nodeId : String
  nodeName : String
  region : String
  deriving DecidableEq

structure ScopedUser extends UserRead, Site
  deriving DecidableEq

structure ScopedServer extends ServerRead, Site
  deriving DecidableEq

section Validation

variable (coercion : Coercion)

def invalid : Raised := .escaped (.other "ValidationError")

def text : Value → Except Raised String
  | .str value => .ok value
  | _ => .error invalid

def textOrNone : Value → Except Raised (Option String)
  | .null => .ok none
  | .str value => .ok (some value)
  | _ => .error invalid

def bool (value : Value) : Except Raised Bool :=
  match coercion.bool value with
  | some read => .ok read
  | none => .error invalid

def int (value : Value) : Except Raised Int :=
  match coercion.int value with
  | some read => .ok read
  | none => .error invalid

def intOrNone : Value → Except Raised (Option Int)
  | .null => .ok none
  | value => (int coercion value).map some

def siteOfNode (node : NodeRow) : Site := ⟨node.id, node.name, node.region⟩

def scopedUser (node : NodeRow) (u : UserInfo) : Except Raised ScopedUser := do
  let id ← text u.id
  let name ← text u.name
  let orgId ← text u.orgId
  let orgName ← textOrNone u.orgName
  let disabled ← bool coercion u.disabled
  let revoked ← bool coercion u.revoked
  let email ← textOrNone u.email
  return { siteOfNode node with id, name, orgId, orgName, disabled, revoked, email }

def scopedServer (node : NodeRow) (s : ServerInfo) : Except Raised ScopedServer := do
  let id ← text s.id
  let name ← text s.name
  let status ← text s.status
  let protocol ← text s.protocol
  let port ← intOrNone coercion s.port
  let onlineClients ← int coercion s.onlineClients
  let orgIds ← s.orgIds.mapM text
  return { siteOfNode node with id, name, status, protocol, port, onlineClients, orgIds }

def sessionRead {Moment : Type} (s : SessionInfo Moment) : Except Raised (SessionRead Moment) := do
  let userId ← text s.userId
  let userName ← text s.userName
  let serverId ← text s.serverId
  let virtualAddress ← textOrNone s.virtualAddress
  let realAddress ← textOrNone s.realAddress
  let bytesSent ← int coercion s.bytesSent
  let bytesReceived ← int coercion s.bytesReceived
  return {
    userId, userName, serverId, virtualAddress, realAddress
    connectedSince := s.connectedSince, bytesSent, bytesReceived }

end Validation

section Reads

variable {Moment : Type} (texts : Texts) (coercion : Coercion)

-- `needle in haystack`.
def contains (haystack needle : String) : Bool := decide (needle.toList <:+: haystack.toList)

-- `value.lower()`.
def lowered : Value → Except Raised String
  | .str value => .ok (texts.lower value)
  | _ => .error (.escaped .attributeError)

def orEmpty (value : Value) : Value := if value.truthy then value else .str ""

def skipped (q : String) (u : UserInfo) : Except Raised Bool :=
  if q = "" then .ok false
  else do
    let name ← lowered texts u.name
    if contains name q then return false
    else
      let email ← lowered texts (orEmpty u.email)
      return !contains email q

def needle (query : Option String) : String := texts.lower (texts.strip (query.getD ""))

-- The query does not order the nodes; the model keeps the order of the table.
def searchUsers (registry : Registry) (visits : String → Visit Moment) (query : Option String) :
    Except Raised (List ScopedUser) := do
  let nodes := enabledNodes registry
  let results ← nodes.mapM fun node => fetchNode node (visits node.id)
  let q := needle texts query
  (nodes.zip results).foldlM (fun found site =>
    match site.2.1 with
    | none => .ok found
    | some state => state.users.foldlM (fun found u => do
        if ← skipped texts q u then return found
        else return found ++ [← scopedUser coercion site.1 u]) found) []

def listServers (registry : Registry) (visits : String → Visit Moment) :
    Except Raised (List ScopedServer) := do
  let nodes := enabledNodes registry
  let results ← nodes.mapM fun node => fetchNode node (visits node.id)
  (nodes.zip results).foldlM (fun servers site =>
    match site.2.1 with
    | none => .ok servers
    | some state => state.servers.foldlM (fun servers s => do
        return servers ++ [← scopedServer coercion site.1 s]) servers) []

inductive SessionsReply (Moment : Type) where
  | listed (sessions : List (SessionRead Moment))
  | httpException (status : Nat) (detail : String)

def nodeSessions (node : NodeRow) (visit : Visit Moment) :
    Except Raised (SessionsReply Moment) := do
  let (_, sessions, error) ← fetchNode node visit
  if error.getD "" ≠ "" then return .httpException 502 (error.getD "")
  else return .listed (← sessions.mapM (sessionRead coercion))

end Reads

section Gathering

variable {Moment Row : Type} {registry : Registry} {visits : String → Visit Moment}
  {rowsOf : NodeRow → Option NodeState → Except Raised (List Row)}
  {perSite : List Row → NodeRow × Fetched Moment → Except Raised (List Row)}

-- A read over all enabled nodes, by what it makes of each.
theorem gathered_iff
    (appends : ∀ found site, perSite found site = (rowsOf site.1 site.2.1).map (found ++ ·))
    (nodes : List NodeRow) (rows : List Row) :
    ((nodes.mapM fun node => fetchNode node (visits node.id)) >>= fun results =>
        (nodes.zip results).foldlM perSite []) = .ok rows ↔
      (∀ node ∈ nodes, Returns (fetchNode node (visits node.id))) ∧
      ∃ lists, List.Forall₂
          (fun node list => rowsOf node (liveState node (visits node.id)) = .ok list) nodes lists ∧
        lists.flatten = rows := by
  have looped (results : List (Fetched Moment)) (fetched : List.Forall₂
      (fun node result => fetchNode node (visits node.id) = .ok result) nodes results) :
      (nodes.zip results).foldlM perSite [] =
        (nodes.mapM fun node => rowsOf node (liveState node (visits node.id))).map
          List.flatten := by
    have each (found : List Row) (node : NodeRow) :
        perSite found (node, fetchedOf node (visits node.id)) =
          (rowsOf node (liveState node (visits node.id))).map (found ++ ·) := by
      rw [appends, fetchedOf_state]
    rw [zip_fetched _ fetched, List.foldlM_map, foldlM_append each]
    simp only [List.nil_append]
  rw [bind_eq_ok, ← returns_mapM]
  constructor
  · rintro ⟨results, fetched, made⟩
    rw [looped results ((mapM_eq_ok _ _ _).1 fetched), map_eq_ok] at made
    obtain ⟨lists, made, flat⟩ := made
    exact ⟨⟨results, fetched⟩, lists, (mapM_eq_ok _ _ _).1 made, flat⟩
  · rintro ⟨⟨results, fetched⟩, lists, made, flat⟩
    refine ⟨results, fetched, ?_⟩
    rw [looped results ((mapM_eq_ok _ _ _).1 fetched), map_eq_ok]
    exact ⟨lists, (mapM_eq_ok _ _ _).2 made, flat⟩

theorem mem_enabledNodes {node : NodeRow} :
    node ∈ enabledNodes registry ↔ node ∈ registry.rows ∧ node.enabled = true := List.mem_filter

theorem enabledNodes_distinct : ((enabledNodes registry).map NodeRow.key).Nodup :=
  registry.unique.sublist (List.filter_sublist.map _)

variable {site : Row → Site}
  (labelled : ∀ node state list, rowsOf node state = .ok list → ∀ row ∈ list,
    site row = siteOfNode node)
  {lists : List (List Row)}
  (paired : List.Forall₂
    (fun node list => rowsOf node (liveState node (visits node.id)) = .ok list)
    (enabledNodes registry) lists)

include labelled paired

theorem row_placed {row : Row} (present : row ∈ lists.flatten) :
    ∃ node ∈ registry.rows, node.enabled = true ∧ site row = siteOfNode node := by
  obtain ⟨list, among, present⟩ := List.mem_flatten.1 present
  obtain ⟨node, read, made⟩ := exists_left paired among
  obtain ⟨member, enabled⟩ := mem_enabledNodes.1 read
  exact ⟨node, member, enabled, labelled node _ list made row present⟩

-- A node's rows among those of all sites; a node that is not read has none.
theorem own_rows (nothing : ∀ node, rowsOf node none = .ok []) {node : NodeRow}
    (member : node ∈ registry.rows) :
    rowsOf node (liveState node (visits node.id)) =
      .ok (lists.flatten.filter fun row => (site row).nodeId = node.id) := by
  by_cases enabled : node.enabled = true
  · have named : ∀ node list, rowsOf node (liveState node (visits node.id)) = .ok list →
        ∀ row ∈ list, (site row).nodeId = node.id := fun node list made row present =>
      congrArg Site.nodeId (labelled node _ list made row present)
    exact flatten_filter paired named enabledNodes_distinct
      (mem_enabledNodes.2 ⟨member, enabled⟩)
  · have dark : liveState node (visits node.id) = none := if_pos (.inl (by simpa using enabled))
    have absent : lists.flatten.filter (fun row => (site row).nodeId = node.id) = [] := by
      refine List.filter_eq_nil_iff.2 fun row present => ?_
      obtain ⟨other, inside, read, placed⟩ := row_placed labelled paired present
      simp only [placed, siteOfNode, decide_eq_true_eq]
      intro same
      rw [registry.unique.eq_of_key inside member same] at read
      exact enabled read
    rw [dark, nothing, absent]

end Gathering

section Rows

variable {Moment : Type} (texts : Texts) (coercion : Coercion)

def serverRows (node : NodeRow) : Option NodeState → Except Raised (List ScopedServer)
  | none => .ok []
  | some state => state.servers.mapM (scopedServer coercion node)

def userRow (q : String) (node : NodeRow) (u : UserInfo) : Except Raised (List ScopedUser) := do
  if ← skipped texts q u then return []
  else return [← scopedUser coercion node u]

def userRows (q : String) (node : NodeRow) : Option NodeState → Except Raised (List ScopedUser)
  | none => .ok []
  | some state => (state.users.mapM (userRow texts coercion q node)).map List.flatten

theorem Texts.needle_none (texts : Texts) : needle texts none = "" := by
  rw [needle, Option.getD_none, texts.strip_empty, texts.lower_empty]

-- What a query selects, told of the rows that are shown.
def matching (q : String) (row : ScopedUser) : Bool :=
  q = "" || contains (texts.lower row.name) q || contains (texts.lower (row.email.getD "")) q

variable {texts coercion} {registry : Registry} {visits : String → Visit Moment}

theorem listServers_iff (servers : List ScopedServer) :
    listServers coercion registry visits = .ok servers ↔
      (∀ node ∈ enabledNodes registry, Returns (fetchNode node (visits node.id))) ∧
      ∃ lists, List.Forall₂ (fun node list =>
          serverRows coercion node (liveState node (visits node.id)) = .ok list)
          (enabledNodes registry) lists ∧ lists.flatten = servers := by
  refine gathered_iff (fun found site => ?_) _ servers
  rcases site with ⟨node, _ | state, sessions, error⟩
  · simp [serverRows, Except.map]
  · have each (found : List ScopedServer) (s : ServerInfo) :
        (do return found ++ [← scopedServer coercion node s]) =
          ((scopedServer coercion node s).map fun row => [row]).map (found ++ ·) := by
      cases scopedServer coercion node s <;> rfl
    refine (foldlM_append each state.servers found).trans ?_
    rw [serverRows, ← mapM_singles (scopedServer coercion node)]
    cases state.servers.mapM fun s => (scopedServer coercion node s).map fun row => [row] <;> rfl

theorem searchUsers_iff (query : Option String) (users : List ScopedUser) :
    searchUsers texts coercion registry visits query = .ok users ↔
      (∀ node ∈ enabledNodes registry, Returns (fetchNode node (visits node.id))) ∧
      ∃ lists, List.Forall₂ (fun node list =>
          userRows texts coercion (needle texts query) node (liveState node (visits node.id)) =
            .ok list) (enabledNodes registry) lists ∧ lists.flatten = users := by
  refine gathered_iff (fun found site => ?_) _ users
  rcases site with ⟨node, _ | state, sessions, error⟩
  · simp [userRows, Except.map]
  · have each (found : List ScopedUser) (u : UserInfo) :
        (do if ← skipped texts (needle texts query) u then return found
            else return found ++ [← scopedUser coercion node u]) =
          (userRow texts coercion (needle texts query) node u).map (found ++ ·) := by
      unfold userRow
      cases skipped texts (needle texts query) u with
      | error raised => rfl
      | ok skip =>
          cases skip with
          | true => simp [bind, Except.bind, pure, Except.pure, Except.map]
          | false => cases scopedUser coercion node u <;> rfl
    refine (foldlM_append each state.users found).trans ?_
    rw [userRows]
    cases state.users.mapM (userRow texts coercion (needle texts query) node) <;> rfl

theorem text_eq_ok {value : Value} {read : String} (ok : text value = .ok read) :
    value = .str read := by
  cases value with
  | str written => rw [Except.ok.inj ok]
  | _ => cases ok

theorem textOrNone_eq_ok {value : Value} {read : Option String}
    (ok : textOrNone value = .ok read) : value = read.elim .null .str := by
  cases value with
  | null => rw [← Except.ok.inj ok]; rfl
  | str written => rw [← Except.ok.inj ok]; rfl
  | _ => cases ok

theorem scopedServer_eq_ok {node : NodeRow} {s : ServerInfo} {row : ScopedServer}
    (made : scopedServer coercion node s = .ok row) :
    row.toSite = siteOfNode node ∧ s.status = .str row.status := by
  simp only [scopedServer, bind_eq_ok] at made
  obtain ⟨id, -, name, -, status, read, protocol, -, port, -, clients, -, orgIds, -, same⟩ := made
  cases same
  exact ⟨rfl, text_eq_ok read⟩

theorem scopedUser_eq_ok {node : NodeRow} {u : UserInfo} {row : ScopedUser}
    (made : scopedUser coercion node u = .ok row) :
    row.toSite = siteOfNode node ∧ u.name = .str row.name ∧
      u.email = row.email.elim .null .str := by
  simp only [scopedUser, bind_eq_ok] at made
  obtain ⟨id, -, name, named, orgId, -, orgName, -, disabled, -, revoked, -, email, mailed, same⟩ :=
    made
  cases same
  exact ⟨rfl, text_eq_ok named, textOrNone_eq_ok mailed⟩

theorem skipped_eq {q : String} {node : NodeRow} {u : UserInfo} {row : ScopedUser}
    (made : scopedUser coercion node u = .ok row) :
    skipped texts q u = .ok (!matching texts q row) := by
  obtain ⟨-, name, email⟩ := scopedUser_eq_ok made
  have mail : lowered texts (orEmpty u.email) = .ok (texts.lower (row.email.getD "")) := by
    rw [email]
    cases row.email with
    | none => rfl
    | some address =>
        by_cases empty : address = "" <;> simp [orEmpty, Value.truthy, empty, lowered]
  unfold skipped matching
  by_cases all : q = ""
  · simp [all]
  · rw [if_neg all, name, mail]
    cases here : contains (texts.lower row.name) q <;>
      simp [lowered, bind, Except.bind, pure, Except.pure, here, all]

theorem userRow_eq {q : String} {node : NodeRow} {u : UserInfo} {row : ScopedUser}
    (made : scopedUser coercion node u = .ok row) :
    userRow texts coercion q node u = .ok ([row].filter (matching texts q)) := by
  unfold userRow
  rw [skipped_eq made]
  cases shown : matching texts q row <;>
    simp [bind, Except.bind, pure, Except.pure, made, shown]

-- An empty query shows every user.
theorem userRow_all {node : NodeRow} {u : UserInfo} :
    userRow texts coercion "" node u = (scopedUser coercion node u).map fun row => [row] := by
  unfold userRow skipped
  cases scopedUser coercion node u <;> rfl

theorem userRows_all {node : NodeRow} {state : NodeState} :
    userRows texts coercion "" node (some state) =
      state.users.mapM (scopedUser coercion node) := by
  have each : userRow texts coercion "" node =
      fun u => (scopedUser coercion node u).map fun row => [row] := funext fun _ => userRow_all
  rw [userRows, each, mapM_singles]

-- A query selects from what the empty one shows.
theorem userRows_matching {q : String} {node : NodeRow} {state : Option NodeState}
    {rows : List ScopedUser} (made : userRows texts coercion "" node state = .ok rows) :
    userRows texts coercion q node state = .ok (rows.filter (matching texts q)) := by
  cases state with
  | none =>
      cases made
      rfl
  | some state =>
      rw [userRows_all, mapM_eq_ok] at made
      rw [userRows, map_eq_ok]
      refine ⟨rows.map fun row => [row].filter (matching texts q), ?_, ?_⟩
      · rw [mapM_eq_ok, List.forall₂_map_right_iff]
        exact made.imp fun _ _ here => userRow_eq here
      · rw [← List.flatMap_def, ← List.filter_flatMap]
        simp

-- A search shows the users of the whole list that it is for, in the same order.
theorem searchUsers_matching {users : List ScopedUser}
    (found : searchUsers texts coercion registry visits none = .ok users)
    (query : Option String) :
    searchUsers texts coercion registry visits query =
      .ok (users.filter (matching texts (needle texts query))) := by
  obtain ⟨fetched, lists, paired, rfl⟩ := (searchUsers_iff none users).1 found
  refine (searchUsers_iff query _).2 ⟨fetched, lists.map fun list =>
    list.filter (matching texts (needle texts query)), ?_, List.filter_flatten.symm⟩
  rw [List.forall₂_map_right_iff]
  refine paired.imp fun node list made => userRows_matching ?_
  rwa [texts.needle_none] at made

end Rows

section Views

variable {Moment : Type} {floats : Floats} {collation : Collation} {texts : Texts}
  {coercion : Coercion} {registry : Registry} {visits : String → Visit Moment}

def serversOf (state : Option NodeState) : List ServerInfo := state.elim [] NodeState.servers

def usersOf (state : Option NodeState) : List UserInfo := state.elim [] NodeState.users

theorem siteOf_counts {node : NodeRow} {visit : Visit Moment} {site : SiteSummary}
    (made : siteOf floats node visit = .ok site) :
    site.serversTotal = (serversOf (liveState node visit)).length ∧
      site.serversOnline = (serversOf (liveState node visit)).countP isOnline ∧
        site.usersTotal = (usersOf (liveState node visit)).length ∧
          site.activeSessions = (fetchedOf node visit).2.1.length := by
  have live := fetchedOf_state node visit
  have silent : liveState node visit = none → (fetchedOf node visit).2.1 = [] := by
    unfold liveState fetchedOf
    split
    · exact fun _ => rfl
    · cases courseOf node visit with
      | fetched state sessions => simp
      | raised text => exact fun _ => rfl
  rw [siteOf] at made
  rcases fetched : fetchedOf node visit with ⟨_ | state, sessions, error⟩
  all_goals
    rw [fetched] at live made silent
    dsimp only at live silent
    rw [← live]
    rw [← live] at silent
  · cases made
    rw [silent rfl]
    exact ⟨rfl, rfl, rfl, rfl⟩
  · obtain ⟨clients, -, same⟩ := (map_eq_ok _ _ _).1 made
    rw [← same]
    exact ⟨rfl, rfl, rfl, rfl⟩

theorem serverRows_iff {node : NodeRow} {state : Option NodeState} {rows : List ScopedServer} :
    serverRows coercion node state = .ok rows ↔
      List.Forall₂ (fun s row => scopedServer coercion node s = .ok row) (serversOf state)
        rows := by
  cases state with
  | none => simp [serverRows, serversOf, eq_comm]
  | some state => exact mapM_eq_ok _ _ _

theorem userRows_iff {node : NodeRow} {state : Option NodeState} {rows : List ScopedUser} :
    userRows texts coercion "" node state = .ok rows ↔
      List.Forall₂ (fun u row => scopedUser coercion node u = .ok row) (usersOf state) rows := by
  cases state with
  | none => simp [userRows, usersOf, eq_comm]
  | some state =>
      rw [userRows_all]
      exact mapM_eq_ok _ _ _

theorem serverRows_labelled (node : NodeRow) (state : Option NodeState)
    (list : List ScopedServer) (made : serverRows coercion node state = .ok list)
    (row : ScopedServer) (present : row ∈ list) : row.toSite = siteOfNode node := by
  obtain ⟨s, -, shown⟩ := exists_left (serverRows_iff.1 made) present
  exact (scopedServer_eq_ok shown).1

theorem userRows_labelled (node : NodeRow) (state : Option NodeState) (list : List ScopedUser)
    (made : userRows texts coercion "" node state = .ok list) (row : ScopedUser)
    (present : row ∈ list) : row.toSite = siteOfNode node := by
  obtain ⟨u, -, shown⟩ := exists_left (userRows_iff.1 made) present
  exact (scopedUser_eq_ok shown).1

/-- Each node's rows are what it answered, and every row is of a registered node. -/
structure Sorted {Row Info : Type} (registry : Registry) (site : Row → Site)
    (show_ : NodeRow → Info → Except Raised Row) (infos : NodeRow → List Info) (rows : List Row) :
    Prop where
  own : ∀ node ∈ registry.rows, List.Forall₂ (fun info row => show_ node info = .ok row)
    (infos node) (rows.filter fun row => (site row).nodeId = node.id)
  placed : ∀ row ∈ rows, ∃ node ∈ registry.rows, site row = siteOfNode node

theorem listServers_sorted {servers : List ScopedServer}
    (listed : listServers coercion registry visits = .ok servers) :
    Sorted registry ScopedServer.toSite (scopedServer coercion)
      (fun node => serversOf (liveState node (visits node.id))) servers := by
  obtain ⟨-, lists, paired, rfl⟩ := (listServers_iff servers).1 listed
  constructor
  · intro node member
    exact serverRows_iff.1 (own_rows serverRows_labelled paired (fun _ => rfl) member)
  · intro row present
    obtain ⟨node, member, -, placed⟩ := row_placed serverRows_labelled paired present
    exact ⟨node, member, placed⟩

theorem searchUsers_sorted {users : List ScopedUser}
    (found : searchUsers texts coercion registry visits none = .ok users) :
    Sorted registry ScopedUser.toSite (scopedUser coercion)
      (fun node => usersOf (liveState node (visits node.id))) users := by
  obtain ⟨-, lists, paired, rfl⟩ := (searchUsers_iff none users).1 found
  rw [texts.needle_none] at paired
  constructor
  · intro node member
    exact userRows_iff.1 (own_rows userRows_labelled paired (fun _ => rfl) member)
  · intro row present
    obtain ⟨node, member, -, placed⟩ := row_placed userRows_labelled paired present
    exact ⟨node, member, placed⟩

section Counts

variable {Row Info : Type} {site : Row → Site} {show_ : NodeRow → Info → Except Raised Row}
  {infos : NodeRow → List Info} {rows : List Row}

theorem Sorted.countP (sorted : Sorted registry site show_ infos rows) {test : Info → Bool}
    {rowTest : Row → Bool}
    (agree : ∀ node info row, show_ node info = .ok row → test info = rowTest row)
    {node : NodeRow} (member : node ∈ registry.rows) :
    (infos node).countP test =
      rows.countP fun row => rowTest row && decide ((site row).nodeId = node.id) := by
  rw [← List.countP_filter]
  exact Keyed.countP_pairs (fun {info row} => agree node info row) (sorted.own node member)

theorem Sorted.length (sorted : Sorted registry site show_ infos rows) {node : NodeRow}
    (member : node ∈ registry.rows) :
    (infos node).length = rows.countP fun row => (site row).nodeId = node.id := by
  rw [List.countP_eq_length_filter]
  exact (sorted.own node member).length_eq

variable (collation)

-- Over all sites every row is counted once.
theorem Sorted.sum (sorted : Sorted registry site show_ infos rows) (rowTest : Row → Bool) :
    ((ordered collation registry).map fun node =>
      rows.countP fun row => rowTest row && decide ((site row).nodeId = node.id)).sum =
        rows.countP rowTest := by
  have distinct : ((ordered collation registry).map NodeRow.key).Nodup :=
    ((List.perm_insertionSort _ registry.rows).map NodeRow.key).nodup_iff.2 registry.unique
  have named : ∀ row ∈ rows.filter rowTest,
      (site row).nodeId ∈ (ordered collation registry).map NodeRow.key := by
    intro row chosen
    obtain ⟨node, member, placed⟩ := sorted.placed row (List.mem_filter.1 chosen).1
    rw [placed]
    exact List.mem_map_of_mem (mem_ordered.2 member)
  rw [List.countP_eq_length_filter,
    ← Keyed.sum_countP distinct (fun row => (site row).nodeId) named, List.map_map]
  refine congrArg List.sum (List.map_congr_left fun node _ => ?_)
  rw [Function.comp_apply, List.countP_filter]
  refine List.countP_congr fun row _ => ?_
  rw [Bool.and_comm]
  exact Iff.rfl

end Counts

-- An error note stands in for the live facts.
theorem dark_of_error {node : NodeRow} {visit : Visit Moment} {text : String}
    (noted : (fetchedOf node visit).2.2 = some text) : liveState node visit = none := by
  unfold fetchedOf at noted
  unfold liveState
  split at noted
  · rename_i skipped
    rw [if_pos skipped]
  · rename_i read
    rw [if_neg read]
    cases course : courseOf node visit with
    | fetched state sessions => simp [course] at noted
    | raised text => rfl

theorem nodeSessions_listed {node : NodeRow} {visit : Visit Moment}
    {listed : List (SessionRead Moment)}
    (answered : nodeSessions coercion node visit = .ok (.listed listed)) :
    (fetchedOf node visit).2.1.length = listed.length := by
  obtain ⟨fetched, returned, answered⟩ := (bind_eq_ok _ _ _).1 answered
  have reached := fetchNode_reached (reached_of_fetchNode ⟨_, returned⟩)
  rw [← Except.ok.inj (returned.symm.trans reached)]
  rcases fetched with ⟨state, sessions, error⟩
  dsimp only at answered ⊢
  split at answered
  · cases answered
  · obtain ⟨read, made, same⟩ := (bind_eq_ok _ _ _).1 answered
    cases same
    exact ((mapM_eq_ok _ _ _).1 made).length_eq

theorem nodeSessions_refused {node : NodeRow} {visit : Visit Moment} {status : Nat}
    {detail : String}
    (answered : nodeSessions coercion node visit = .ok (.httpException status detail)) :
    status = 502 ∧ (fetchedOf node visit).2.2 = some detail := by
  obtain ⟨fetched, returned, answered⟩ := (bind_eq_ok _ _ _).1 answered
  have reached := fetchNode_reached (reached_of_fetchNode ⟨_, returned⟩)
  rw [← Except.ok.inj (returned.symm.trans reached)]
  rcases fetched with ⟨state, sessions, error⟩
  dsimp only at answered ⊢
  split at answered
  · rename_i noted
    cases answered
    cases error with
    | none => exact absurd rfl noted
    | some text => exact ⟨rfl, rfl⟩
  · obtain ⟨read, -, same⟩ := (bind_eq_ok _ _ _).1 answered
    cases same

/-- The counts on the dashboard are those of the lists, site by site and in total; every row
stands for a site that is shown; a site's sessions are as many as are listed of it, and where they
are refused the site is dark with the same note. -/
structure Agree (coercion : Coercion) (registry : Registry) (visits : String → Visit Moment)
    (out : DashboardOut) (servers : List ScopedServer) (users : List ScopedUser) : Prop where
  siteServers : ∀ site ∈ out.sites,
    site.serversTotal = servers.countP fun row => row.nodeId = site.nodeId
  siteOnline : ∀ site ∈ out.sites, site.serversOnline =
    servers.countP fun row => decide (row.status = "online") && decide (row.nodeId = site.nodeId)
  siteUsers : ∀ site ∈ out.sites,
    site.usersTotal = users.countP fun row => row.nodeId = site.nodeId
  allServers : out.totals.serversTotal = servers.length
  allOnline : out.totals.serversOnline = servers.countP fun row => row.status = "online"
  allUsers : out.totals.usersTotal = users.length
  shown : ∀ row ∈ servers.map ScopedServer.toSite ++ users.map ScopedUser.toSite,
    ∃ site ∈ out.sites, row = ⟨site.nodeId, site.name, site.region⟩
  sessions : ∀ node ∈ registry.rows, ∀ site ∈ out.sites, site.nodeId = node.id →
    ∀ listed, nodeSessions coercion node (visits node.id) = .ok (.listed listed) →
      site.activeSessions = listed.length
  refused : ∀ node ∈ registry.rows, ∀ site ∈ out.sites, site.nodeId = node.id →
    ∀ status detail,
      nodeSessions coercion node (visits node.id) = .ok (.httpException status detail) →
        status = 502 ∧ site.error = some detail ∧ site.Dark

theorem isOnline_eq {node : NodeRow} {s : ServerInfo} {row : ScopedServer}
    (made : scopedServer coercion node s = .ok row) :
    isOnline s = decide (row.status = "online") := by
  rw [isOnline, (scopedServer_eq_ok made).2]

section Agreement

variable {summaries : List SiteSummary}
  (paired : List.Forall₂ (fun node site => siteOf floats node (visits node.id) = .ok site)
    (ordered collation registry) summaries)

include paired

theorem of_summary {Wanted : SiteSummary → Prop}
    (each : ∀ node ∈ registry.rows, ∀ site, siteOf floats node (visits node.id) = .ok site →
      site.nodeId = node.id → Wanted site) : ∀ site ∈ summaries, Wanted site := by
  intro site shown
  obtain ⟨node, member, made⟩ := exists_left paired shown
  exact each node (mem_ordered.1 member) site made (siteOf_own made).nodeId

theorem summary_of {row : Site} (placed : ∃ node ∈ registry.rows, row = siteOfNode node) :
    ∃ site ∈ summaries, row = ⟨site.nodeId, site.name, site.region⟩ := by
  obtain ⟨node, member, rfl⟩ := placed
  obtain ⟨site, shown, made⟩ := exists_right paired (mem_ordered.2 member)
  have own := siteOf_own made
  exact ⟨site, shown, by rw [own.nodeId, own.name, own.region, siteOfNode]⟩

theorem sum_summaries {count : SiteSummary → Nat} {counted : NodeRow → Nat}
    (each : ∀ node ∈ registry.rows, ∀ site, siteOf floats node (visits node.id) = .ok site →
      count site = counted node) :
    (summaries.map count).sum = ((ordered collation registry).map counted).sum := by
  have within : ∀ node ∈ ordered collation registry, node ∈ registry.rows :=
    fun node member => mem_ordered.1 member
  generalize ordered collation registry = nodes at paired within ⊢
  induction paired with
  | nil => rfl
  | cons made _ ih =>
      obtain ⟨here, later⟩ := List.forall_mem_cons.1 within
      rw [List.map_cons, List.map_cons, List.sum_cons, List.sum_cons, each _ here _ made, ih later]

end Agreement

theorem views_agree {now : Datetime} {out : DashboardOut} {servers : List ScopedServer}
    {users : List ScopedUser}
    (built : buildDashboard floats collation registry visits now = .ok out)
    (listed : listServers coercion registry visits = .ok servers)
    (found : searchUsers texts coercion registry visits none = .ok users) :
    Agree coercion registry visits out servers users ∧
      ∀ query, searchUsers texts coercion registry visits query =
        .ok (users.filter (matching texts (needle texts query))) := by
  refine ⟨?_, searchUsers_matching found⟩
  obtain ⟨-, summaries, total, paired, -, rfl⟩ := (buildDashboard_ok_iff now out).1 built
  have ofServers := listServers_sorted listed
  have ofUsers := searchUsers_sorted found
  have shownServers {node : NodeRow} (member : node ∈ registry.rows) {site : SiteSummary}
      (made : siteOf floats node (visits node.id) = .ok site) :
      site.serversTotal = servers.countP fun row => row.nodeId = node.id :=
    (siteOf_counts made).1.trans (ofServers.length member)
  have online {node : NodeRow} (member : node ∈ registry.rows) {site : SiteSummary}
      (made : siteOf floats node (visits node.id) = .ok site) : site.serversOnline =
        servers.countP fun row => decide (row.status = "online") && decide (row.nodeId = node.id) :=
    (siteOf_counts made).2.1.trans (ofServers.countP (fun _ _ _ => isOnline_eq) member)
  have shownUsers {node : NodeRow} (member : node ∈ registry.rows) {site : SiteSummary}
      (made : siteOf floats node (visits node.id) = .ok site) :
      site.usersTotal = users.countP fun row => row.nodeId = node.id :=
    (siteOf_counts made).2.2.1.trans (ofUsers.length member)
  refine {
    siteServers := of_summary paired fun node member site made names => ?_
    siteOnline := of_summary paired fun node member site made names => ?_
    siteUsers := of_summary paired fun node member site made names => ?_
    allServers := ?_
    allOnline := ?_
    allUsers := ?_
    shown := ?_
    sessions := fun node member => of_summary paired fun other inside site made names => ?_
    refused := fun node member => of_summary paired fun other inside site made names => ?_ }
  · rw [names, shownServers member made]
  · rw [names, online member made]
  · rw [names, shownUsers member made]
  · have total := ofServers.sum collation fun _ => true
    rw [List.countP_true] at total
    simp only [extended, start, Nat.zero_add]
    rw [sum_summaries paired fun node member site made => shownServers member made, ← total]
    simp only [Bool.true_and]
  · have total := ofServers.sum collation fun row => decide (row.status = "online")
    simp only [extended, start, Nat.zero_add]
    rw [sum_summaries paired fun node member site made => online member made]
    exact total
  · have total := ofUsers.sum collation fun _ => true
    rw [List.countP_true] at total
    simp only [extended, start, Nat.zero_add]
    rw [sum_summaries paired fun node member site made => shownUsers member made, ← total]
    simp only [Bool.true_and]
  · intro row present
    simp only [extended, start, List.nil_append]
    rcases List.mem_append.1 present with ofServer | ofUser
    · obtain ⟨server, among, rfl⟩ := List.mem_map.1 ofServer
      exact summary_of paired (ofServers.placed server among)
    · obtain ⟨user, among, rfl⟩ := List.mem_map.1 ofUser
      exact summary_of paired (ofUsers.placed user among)
  · intro same listed answered
    obtain rfl := registry.unique.eq_of_key inside member (names.symm.trans same)
    rw [(siteOf_counts made).2.2.2, nodeSessions_listed answered]
  · intro same status detail answered
    obtain rfl := registry.unique.eq_of_key inside member (names.symm.trans same)
    have own := siteOf_own made
    obtain ⟨refused, noted⟩ := nodeSessions_refused answered
    exact ⟨refused, own.error.trans noted, own.dark (dark_of_error noted)⟩

end Views

section Answered

def asciiTexts : Texts where
  lower text := String.ofList (text.toList.map Char.toLower)
  strip text := String.ofList
    ((text.toList.dropWhile Char.isWhitespace).reverse.dropWhile Char.isWhitespace).reverse
  lower_empty := rfl
  strip_empty := rfl

-- Of what pydantic takes, the values that need no conversion.
def strict : Coercion where
  bool
    | .bool value => some value
    | _ => none
  int
    | .int value => some value
    | _ => none

def twoSites : Registry where
  rows := [unchecked Actions.hcmc, unchecked { Actions.hcmc with id := "n2", name := "dn-1" }]
  unique := by
    unfold Keyed.Unique
    decide

def account (id name email : String) : UserInfo :=
  ⟨.str id, .str name, .str "org-1", .null, .bool false, .bool false, .str email⟩

-- One site answers, the other times out.
def oneAnswers (nodeId : String) : Visit Unit where
  unsealing := none
  course :=
    if nodeId = "n1" then
      .fetched
        { servers := [⟨.str "s1", .str "vn", .str "online", .str "udp", .int 1194, .int 2, []⟩]
          orgs := []
          users := [account "u1" "Carol" "carol@vpn", account "u2" "dave" "dave@vpn"] } []
    else .raised "timeout"
  closing := none

theorem views_agree_oneAnswers : ∃ out servers users,
    buildDashboard noFloats codePoints twoSites oneAnswers silent.now = .ok out ∧
      listServers strict twoSites oneAnswers = .ok servers ∧
        searchUsers asciiTexts strict twoSites oneAnswers none = .ok users ∧
          out.sites.map SiteSummary.usersTotal = [0, 2] ∧
            Agree strict twoSites oneAnswers out servers users ∧
              ∃ chosen,
                searchUsers asciiTexts strict twoSites oneAnswers (some " CAR") = .ok chosen ∧
                  chosen.map (·.id) = ["u1"] := by
  have agree := @views_agree Unit noFloats codePoints asciiTexts strict twoSites oneAnswers
    silent.now _ _ _ rfl rfl rfl
  exact ⟨_, _, _, rfl, rfl, rfl, rfl, agree.1, _, agree.2 (some " CAR"), rfl⟩

end Answered

end Fleet.Dashboard
