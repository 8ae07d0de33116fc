import Fleet.ControlPlane.Db

set_option autoImplicit false

namespace Fleet.Provisioning

open Db NodeAdapter

structure Target where
  nodeId : String
  orgId : String
  deriving DecidableEq

-- What the node answers to one call, AdapterError as its text, and the two readings of the clock
-- that follow it: for `last_synced_at` and for the audit entry.
structure Answer (α : Type) where
  reply : Except String α
  now : Datetime
  ts : Datetime

structure Attempt where
  target : Target
  answer : Answer String

def Answer.outcome {α : Type} (returned : α → Reply) (answer : Answer α) : Reply :=
  match answer.reply with
  | .ok value => returned value
  | .error text => .failed text

-- `newId` is the uuid the row gets if there is none of that name.
def getOrCreateLogical (session : Session) (username : String) (email : Option String)
    (newId : String) : Except Error (LogicalUser × Session) :=
  match Keyed.lookup LogicalUser.username username session.tables.users with
  | some existing =>
      if email.getD "" ≠ "" ∧ existing.email.getD "" = "" then
        let updated := { existing with email := email }
        .ok (updated, { session with
          tables := { session.tables with
            users := Keyed.replace LogicalUser.id updated session.tables.users } })
      else .ok (existing, session)
  | none =>
      let lu : LogicalUser := ⟨newId, username, email⟩
      match Session.flush { session with
          tables := { session.tables with users := session.tables.users ++ [lu] } } with
      | .ok flushed => .ok (lu, flushed)
      | .error error => .error error

section Provision

variable (actor username : String) (email : Option String) (lu : LogicalUser)

def fresh (target : Target) : UserPlacement :=
  { logicalUserId := lu.id, nodeId := target.nodeId, orgId := target.orgId, status := .pending }

def notFound (placement : UserPlacement) : UserPlacement :=
  { placement with status := .failed, lastError := some "node not found" }

def settle (attempt : Attempt) (placement : UserPlacement) : UserPlacement :=
  match attempt.answer.reply with
  | .ok userId =>
      { placement with
        remoteUserId := some userId, orgId := attempt.target.orgId, status := .active,
        lastError := none, lastSyncedAt := some attempt.answer.now }
  | .error text => { placement with status := .failed, lastError := some text }

def provisionEntry (node : Node) (attempt : Attempt) : Datetime × AuditLog.Fields :=
  let params := [("username", Json.str username), ("org_id", .str attempt.target.orgId)]
  (attempt.answer.ts,
    match attempt.answer.reply with
    | .ok userId =>
        { actor := actor, action := "provision_user", result := "success", nodeId := some node.id,
          nodeName := some node.name, targetType := some "user", targetId := some userId,
          params := some params }
    | .error text =>
        { actor := actor, action := "provision_user", result := "failure", nodeId := some node.id,
          nodeName := some node.name, targetType := some "user", detail := some text,
          params := some params })

def creation (target : Target) : Operation := .createUser target.orgId username email

-- The placement the session finds, or the one it adds.
def placementFor (tables : Tables) (target : Target) : UserPlacement :=
  (tables.placement? lu.id target.nodeId).getD (fresh lu target)

def provisionTarget (session : Session) (attempt : Attempt) : List Call × Except Error Session :=
  let placement := placementFor lu session.tables attempt.target
  match session.tables.node? attempt.target.nodeId with
  | none => ([], .ok (session.store (notFound placement)))
  | some node =>
      match buildAdapterForNode node with
      | .error error => ([], .error error)
      | .ok adapterType =>
          if implements adapterType (creation username email attempt.target) then
            let entry := provisionEntry actor username node attempt
            ([⟨node.id, creation username email attempt.target, attempt.answer.outcome .created⟩],
              (session.store (settle attempt placement)).append entry.1 entry.2)
          else ([⟨node.id, creation username email attempt.target, .notImplemented⟩],
            .error .notImplemented)

end Provision

def provision (database : Database) (actor username : String) (email : Option String)
    (newId : String) (attempts : List Attempt) : Outcome :=
  finish database <|
    match getOrCreateLogical (.begin database) username email newId with
    | .error error => ([], .error error)
    | .ok (lu, session) => forEach (provisionTarget actor username email lu) session attempts

section Deprovision

variable (actor : String) (lu : LogicalUser) (hard : Bool)

def removal (placement : UserPlacement) (userId : String) : Operation :=
  if hard then .deleteUser userId placement.orgId else .revokeProfile userId placement.orgId

def release (answer : Answer Unit) (placement : UserPlacement) : UserPlacement :=
  match answer.reply with
  | .ok () => { placement with status := .revoked, lastError := none }
  | .error text => { placement with lastError := some text }

def deprovisionEntry (node : Node) (userId : String) (answer : Answer Unit) :
    Datetime × AuditLog.Fields :=
  let action := if hard then "deprovision_delete" else "deprovision_revoke"
  let params := [("username", Json.str lu.username)]
  (answer.ts,
    match answer.reply with
    | .ok () =>
        { actor := actor, action := action, result := "success", nodeId := some node.id,
          nodeName := some node.name, targetType := some "user", targetId := some userId,
          params := some params }
    | .error text =>
        { actor := actor, action := action, result := "failure", nodeId := some node.id,
          nodeName := some node.name, targetType := some "user", targetId := some userId,
          detail := some text, params := some params })

-- A user has one placement a node, so the answers are given by node.
def deprovisionPlacement (answers : String → Answer Unit) (session : Session)
    (placement : UserPlacement) : List Call × Except Error Session :=
  match session.tables.node? placement.nodeId, placement.remoteUserId with
  | some node, some userId =>
      match buildAdapterForNode node with
      | .error error => ([], .error error)
      | .ok adapterType =>
          if implements adapterType (removal hard placement userId) then
            let answer := answers placement.nodeId
            let entry := deprovisionEntry actor lu hard node userId answer
            ([⟨node.id, removal hard placement userId, answer.outcome fun _ => .done⟩],
              (session.store (release answer placement)).append entry.1 entry.2)
          else ([⟨node.id, removal hard placement userId, .notImplemented⟩],
            .error .notImplemented)
  | _, _ => ([], .ok session)

end Deprovision

def deprovision (database : Database) (actor logicalUserId : String) (hard : Bool)
    (answers : String → Answer Unit) : Outcome :=
  finish database <|
    match database.tables.user? logicalUserId with
    | none => ([], .error .lookupError)
    | some lu =>
        forEach (deprovisionPlacement actor lu hard answers) (.begin database)
          (database.tables.placementsOf lu.id)

def healthRank : HealthStatus → Nat
  | .reachable => 0
  | .degraded => 1
  | .unknown => 2
  | .down => 3

def bundlePairs (tables : Tables) (userId : String) : List (UserPlacement × Node) :=
  let pairs := (tables.placementsOf userId).filterMap fun placement =>
    if placement.remoteUserId.getD "" = "" ∨ placement.status ≠ .active then none
    else (tables.node? placement.nodeId).map fun node => (placement, node)
  pairs.insertionSort fun a b => healthRank a.2.status ≤ healthRank b.2.status

def profileName (lu : LogicalUser) (index : Nat) (node : Node) : String :=
  String.ofList (Datetime.padded 2 (index + 1)) ++
    "-" ++ node.region ++ "-" ++ node.name ++ "-" ++ lu.username ++ ".tar"

-- The members of the archive; a node that answers AdapterError is left out of it.
def bundleProfiles (lu : LogicalUser) (answers : String → Except String ByteArray) :
    Nat → List (UserPlacement × Node) → List Call × Except Error (List (String × ByteArray))
  | _, [] => ([], .ok [])
  | index, (placement, node) :: rest =>
      let operation := Operation.issueProfile (placement.remoteUserId.getD "") placement.orgId "tar"
      match buildAdapterForNode node with
      | .error error => ([], .error error)
      | .ok adapterType =>
          if implements adapterType operation then
            let (calls, later) := bundleProfiles lu answers (index + 1) rest
            match answers node.id with
            | .ok data =>
                (⟨node.id, operation, .done⟩ :: calls,
                  later.map fun members => (profileName lu index node, data) :: members)
            | .error text => (⟨node.id, operation, .failed text⟩ :: calls, later)
          else ([⟨node.id, operation, .notImplemented⟩], .error .notImplemented)

def bundleReadme (lu : LogicalUser) : String :=
  "VPN profiles for '" ++ lu.username ++ "', one per site (health-ordered).\n" ++
    "Import all into your OpenVPN/Pritunl client; it will fail over across them.\n"

-- The archive as its members in order.
def buildIdentityBundle (database : Database) (logicalUserId : String)
    (answers : String → Except String ByteArray) :
    List Call × Except Error (String × List (String × ByteArray)) :=
  match database.tables.user? logicalUserId with
  | none => ([], .error .lookupError)
  | some lu =>
      let (calls, members) := bundleProfiles lu answers 0 (bundlePairs database.tables lu.id)
      (calls, members.map fun profiles =>
        (lu.username ++ "-profiles.zip", ("README.txt", (bundleReadme lu).toUTF8) :: profiles))

end Fleet.Provisioning
