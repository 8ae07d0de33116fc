import Fleet.ControlPlane.Routes
import Fleet.ControlPlane.ShimResponses

set_option autoImplicit false

namespace Fleet.Actions

open Db NodeAdapter ShimResponses
open Routes hiding Request

-- How one awaited call ended, with the id of what it returned if that has one, and the clock of the
-- audit entry after it.
structure Answer where
  completion : Except Raised (Option String)
  ts : Datetime

structure Call where
  nodeId : String
  operation : Operation
  completion : Except Raised (Option String)

inductive Delivery where
  | notConfigured
  | failed (text : String)
  | sent (messageId : String)

structure Environment where
  answers : Nat → Answer
  delivery : Delivery

inductive Request where
  | createUser (nodeId orgId name : String) (email : Option String)
  | setUserDisabled (nodeId userId orgId : String) (disabled : Bool)
  | deleteUser (nodeId userId orgId : String)
  | issueProfile (nodeId userId orgId : String) (fmt : ProfileFormat)
  | emailProfile (nodeId userId orgId recipient : String) (fmt : ProfileFormat)
  | revokeProfile (nodeId userId orgId : String)
  | bulkCreateUsers (nodeId orgId : String) (users : List BulkUserRow)
  | bulkUserAction (nodeId orgId : String) (action : BulkAction) (userIds : List String)
  | createOrg (nodeId name : String)
  | deleteOrg (nodeId orgId : String)
  | setUserPolicy (nodeId userId : String) (payload : UserPolicyIn)
  | serverAction (nodeId serverId : String) (action : ServerAction)

inductive Reply where
  | returned (id : Option String)
  | body (json : Json)
  | httpException (status : Nat) (detail : String)
  | raised (raised : Raised)

structure Outcome where
  database : Database
  calls : List Call
  reply : Reply

-- Entries that were flushed one by one and are now committed.
def record (database : Database) (entries : List (Datetime × AuditLog.Fields)) : Database where
  tables := { database.tables with audit := database.tables.audit ++ entries }
  valid := ⟨database.valid.nodes, database.valid.users, database.valid.usernames,
    database.valid.placements, database.valid.owned, database.valid.placed⟩

def raisedBy : Error → Raised
  | .adapterError text => .adapterError text
  | .notImplemented => .escaped .notImplementedError
  | .integrityError => .escaped (.other "IntegrityError")
  | .lookupError => .escaped (.other "LookupError")

-- A stub has no method but the liveness check.
def complete (adapterType : AdapterType) (operation : Operation) (answer : Answer) :
    Except Raised (Option String) :=
  if implements adapterType operation then answer.completion
  else .error (.escaped .notImplementedError)

def succeeded (node : Node) (actor action targetType : String) (targetId : Option String)
    (params : List (String × Json)) : AuditLog.Fields :=
  { actor := actor, action := action, result := "success", nodeId := some node.id,
    nodeName := some node.name, targetType := some targetType, targetId := targetId,
    params := some params }

def failed (node : Node) (actor action targetType : String) (targetId : Option String)
    (params : List (String × Json)) (text : String) : AuditLog.Fields :=
  { actor := actor, action := action, result := "failure", nodeId := some node.id,
    nodeName := some node.name, targetType := some targetType, targetId := targetId,
    detail := some text, params := some params }

-- `target_id or _result_id(result)`.
def targetOr (targetId resultId : Option String) : Option String :=
  if targetId.getD "" = "" then resultId else targetId

section Handlers

variable (database : Database) (actor : String) (environment : Environment)

/-- `_perform`: the adapter is built before the `try` in which it is called. -/
def perform (node : Node) (action targetType : String) (targetId : Option String)
    (params : List (String × Json)) (operation : Operation) : Outcome :=
  match buildAdapterForNode node with
  | .error error => ⟨database, [], .raised (raisedBy error)⟩
  | .ok adapterType =>
      let answer := environment.answers 0
      let completion := complete adapterType operation answer
      let call : Call := ⟨node.id, operation, completion⟩
      match completion with
      | .ok id =>
          let entry := succeeded node actor action targetType (targetOr targetId id) params
          ⟨record database [(answer.ts, entry)], [call], .returned id⟩
      | .error (.adapterError text) =>
          let entry := failed node actor action targetType targetId params text
          ⟨record database [(answer.ts, entry)], [call], .httpException 502 text⟩
      | .error raised => ⟨database, [call], .raised raised⟩

def emailProfile (node : Node) (userId orgId recipient : String) (fmt : ProfileFormat) : Outcome :=
  match buildAdapterForNode node with
  | .error error => ⟨database, [], .raised (raisedBy error)⟩
  | .ok adapterType =>
      let answer := environment.answers 0
      let operation := Operation.issueProfile userId orgId fmt.value
      let completion := complete adapterType operation answer
      let call : Call := ⟨node.id, operation, completion⟩
      let params := [("to", Json.str recipient), ("fmt", .str fmt.value)]
      match completion with
      | .error (.adapterError text) => ⟨database, [call], .httpException 502 text⟩
      | .error raised => ⟨database, [call], .raised raised⟩
      | .ok _ =>
          match environment.delivery with
          | .notConfigured =>
              ⟨database, [call], .httpException 501
                "email delivery is not configured (set FLEET_RESEND_API_KEY)"⟩
          | .failed text =>
              let entry := failed node actor "email_profile" "user" (some userId) params text
              ⟨record database [(answer.ts, entry)], [call],
                .httpException 502 ("email failed: " ++ text)⟩
          | .sent messageId =>
              let entry := succeeded node actor "email_profile" "user" (some userId) params
              ⟨record database [(answer.ts, entry)], [call],
                .body (.obj [("status", .str "sent"), ("message_id", .str messageId)])⟩

-- What the two bulk routes do with a row: the call, and the entry and the result of its outcome.
structure RowHandler (Row : Type) where
  operation : Row → Operation
  success : Row → Option String → AuditLog.Fields × Json
  failure : Row → String → AuditLog.Fields × Json

-- Only AdapterError is caught within the loop, and nothing is committed before its end.
def bulkRows {Row : Type} (node : Node) (adapterType : AdapterType) (handler : RowHandler Row) :
    Nat → List Row → List Call × Except Raised (List ((Datetime × AuditLog.Fields) × Json))
  | _, [] => ([], .ok [])
  | index, row :: rest =>
      let answer := environment.answers index
      let completion := complete adapterType (handler.operation row) answer
      let call : Call := ⟨node.id, handler.operation row, completion⟩
      let (calls, later) := bulkRows node adapterType handler (index + 1) rest
      match completion with
      | .ok id =>
          let done := handler.success row id
          (call :: calls, later.map fun rows => ((answer.ts, done.1), done.2) :: rows)
      | .error (.adapterError text) =>
          let done := handler.failure row text
          (call :: calls, later.map fun rows => ((answer.ts, done.1), done.2) :: rows)
      | .error raised => ([call], .error raised)

def hasStatus (status : String) (result : Json) : Bool :=
  match result with
  | .obj members =>
      match Json.get? members "status" with
      | some (.str text) => text = status
      | _ => false
  | _ => false

def bulk {Row : Type} (node : Node) (handler : RowHandler Row) (counted status : String)
    (rows : List Row) : Outcome :=
  match buildAdapterForNode node with
  | .error error => ⟨database, [], .raised (raisedBy error)⟩
  | .ok adapterType =>
      match bulkRows environment node adapterType handler 0 rows with
      | (calls, .error raised) => ⟨database, calls, .raised raised⟩
      | (calls, .ok done) =>
          let results := done.map (·.2)
          ⟨record database (done.map (·.1)), calls,
            .body (.obj [(counted, .int (results.countP (hasStatus status))),
              ("results", .arr results)])⟩

def failedResult (key name text : String) : Json :=
  .obj [(key, .str name), ("status", .str "failed"), ("error", .str text)]

def createRow (node : Node) (orgId : String) : RowHandler BulkUserRow :=
  let params (row : BulkUserRow) : List (String × Json) :=
    [("org_id", .str orgId), ("name", .str row.name), ("bulk", .bool true)]
  { operation := fun row => .createUser orgId row.name row.email
    success := fun row id =>
      (succeeded node actor "create_user" "user" id (params row),
        .obj [("name", .str row.name), ("status", .str "created"), ("id", .ofOption id)])
    failure := fun row text =>
      (failed node actor "create_user" "user" none (params row) text,
        failedResult "name" row.name text) }

def BulkAction.value : BulkAction → String
  | .disable => "disable"
  | .enable => "enable"
  | .revoke => "revoke"
  | .delete => "delete"

def actionRow (node : Node) (orgId : String) (action : BulkAction) : RowHandler String :=
  let params : List (String × Json) := [("org_id", .str orgId)]
  let name := "bulk_" ++ BulkAction.value action
  { operation := bulkOperation orgId action
    success := fun uid _ =>
      (succeeded node actor name "user" (some uid) params,
        .obj [("id", .str uid), ("status", .str "ok")])
    failure := fun uid text =>
      (failed node actor name "user" (some uid) params text, failedResult "id" uid text) }

end Handlers

def Request.nodeId : Request → String
  | .createUser nodeId .. | .setUserDisabled nodeId .. | .deleteUser nodeId ..
  | .issueProfile nodeId .. | .emailProfile nodeId .. | .revokeProfile nodeId ..
  | .bulkCreateUsers nodeId .. | .bulkUserAction nodeId .. | .createOrg nodeId _
  | .deleteOrg nodeId _ | .setUserPolicy nodeId .. | .serverAction nodeId .. => nodeId

section Dispatch

variable (database : Database) (actor : String) (environment : Environment) (node : Node)

def handleOn : Request → Outcome
  | .createUser _ orgId name email =>
      perform database actor environment node "create_user" "user" none
        [("org_id", .str orgId), ("name", .str name)] (.createUser orgId name email)
  | .setUserDisabled _ userId orgId disabled =>
      perform database actor environment node (if disabled then "disable_user" else "enable_user")
        "user" (some userId) [("org_id", .str orgId), ("disabled", .bool disabled)]
        (.setUserDisabled userId orgId disabled)
  | .deleteUser _ userId orgId =>
      perform database actor environment node "delete_user" "user" (some userId)
        [("org_id", .str orgId)] (.deleteUser userId orgId)
  | .issueProfile _ userId orgId fmt =>
      perform database actor environment node "issue_profile" "profile" (some userId)
        [("org_id", .str orgId), ("fmt", .str fmt.value)] (.issueProfile userId orgId fmt.value)
  | .emailProfile _ userId orgId recipient fmt =>
      emailProfile database actor environment node userId orgId recipient fmt
  | .revokeProfile _ userId orgId =>
      perform database actor environment node "revoke_profile" "profile" (some userId)
        [("org_id", .str orgId)] (.revokeProfile userId orgId)
  | .bulkCreateUsers _ orgId users =>
      bulk database environment node (createRow actor node orgId) "created" "created" users
  | .bulkUserAction _ orgId action userIds =>
      bulk database environment node (actionRow actor node orgId action) "ok" "ok" userIds
  | .createOrg _ name =>
      perform database actor environment node "create_org" "org" none [("name", .str name)]
        (.createOrg name)
  | .deleteOrg _ orgId =>
      perform database actor environment node "delete_org" "org" (some orgId) [] (.deleteOrg orgId)
  | .setUserPolicy _ userId payload =>
      perform database actor environment node "set_user_policy" "user" (some userId) payload.policy
        (.setUserPolicy userId payload.orgId payload.policy)
  | .serverAction _ serverId action =>
      perform database actor environment node ("server_" ++ action.value) "server" (some serverId)
        [("action", .str action.value)] (.setServerState serverId action.value)

end Dispatch

def handle (database : Database) (actor : String) (request : Request) (environment : Environment) :
    Outcome :=
  match database.tables.node? request.nodeId with
  | none => ⟨database, [], .httpException 404 "node not found"⟩
  | some node => handleOn database actor environment node request

end Fleet.Actions
