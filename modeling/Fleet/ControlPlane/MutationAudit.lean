import Fleet.ControlPlane.Actions
import Fleet.ControlPlane.ResponseContract

set_option autoImplicit false

namespace Fleet.Actions

open Db NodeAdapter ShimResponses
open Routes hiding Request

/-- The audit action of a request's entries. -/
def Request.action : Request → String
  | .createUser .. | .bulkCreateUsers .. => "create_user"
  | .setUserDisabled _ _ _ disabled => if disabled then "disable_user" else "enable_user"
  | .deleteUser .. => "delete_user"
  | .issueProfile .. => "issue_profile"
  | .emailProfile .. => "email_profile"
  | .revokeProfile .. => "revoke_profile"
  | .bulkUserAction _ _ action _ => "bulk_" ++ BulkAction.value action
  | .createOrg .. => "create_org"
  | .deleteOrg .. => "delete_org"
  | .setUserPolicy .. => "set_user_policy"
  | .serverAction _ _ action => "server_" ++ action.value

/-- The calls a request makes as far as none of them escapes. -/
def Request.operations : Request → List Operation
  | .createUser _ orgId name email => [.createUser orgId name email]
  | .setUserDisabled _ userId orgId disabled => [.setUserDisabled userId orgId disabled]
  | .deleteUser _ userId orgId => [.deleteUser userId orgId]
  | .issueProfile _ userId orgId fmt | .emailProfile _ userId orgId _ fmt =>
      [.issueProfile userId orgId fmt.value]
  | .revokeProfile _ userId orgId => [.revokeProfile userId orgId]
  | .bulkCreateUsers _ orgId users => users.map fun row => .createUser orgId row.name row.email
  | .bulkUserAction _ orgId action userIds => userIds.map (bulkOperation orgId action)
  | .createOrg _ name => [.createOrg name]
  | .deleteOrg _ orgId => [.deleteOrg orgId]
  | .setUserPolicy _ userId payload => [.setUserPolicy userId payload.orgId payload.policy]
  | .serverAction _ serverId action => [.setServerState serverId action.value]

-- One entry for the call: by whom, what, on which node, and a success exactly if the call returned.
structure Records (actor action : String) (call : Call) (fields : AuditLog.Fields) : Prop where
  actor : fields.actor = actor
  action : fields.action = action
  node : fields.nodeId = some call.nodeId
  result : fields.result = "success" ↔ Returns call.completion

/-- What was committed is one entry for each call that was made, in their order. -/
def Audited (database : Database) (actor : String) (request : Request) (outcome : Outcome) : Prop :=
  ∃ entries, outcome.database.tables.audit = database.tables.audit ++ entries ∧
    List.Forall₂ (Records actor request.action) outcome.calls (entries.map Prod.snd)

section Conditions

def Unescaped (completion : Except Raised (Option String)) : Prop :=
  match completion with
  | .error (.escaped _) => False
  | _ => True

variable (environment : Environment)

-- The node has each method and each call from this index on returns or raises AdapterError.
def SettlesFrom (adapterType : AdapterType) (index : Nat) (operations : List Operation) : Prop :=
  ∀ i operation, operations[i]? = some operation →
    implements adapterType operation = true ∧
      Unescaped (environment.answers (index + i)).completion

-- `email_profile` writes its entry about the mail, not about the call.
def Mailed : Request → Prop
  | .emailProfile .. => Returns (environment.answers 0).completion ∧
      ∃ messageId, environment.delivery = .sent messageId
  | _ => True

/-- No call is made, or every one is settled by the code that writes entries. -/
def Clean (database : Database) (request : Request) : Prop :=
  ∀ node, database.tables.node? request.nodeId = some node →
    rejects node.adapterType node.endpoint node.credentials = none →
      SettlesFrom environment node.adapterType 0 request.operations ∧ Mailed environment request

end Conditions

section Entries

variable {database : Database} {actor action : String}

theorem succeeded_records (node : Node) (operation : Operation) (targetType : String)
    (targetId id : Option String) (params : List (String × Json)) :
    Records actor action ⟨node.id, operation, .ok id⟩
      (succeeded node actor action targetType targetId params) :=
  ⟨rfl, rfl, rfl, iff_of_true rfl (returns_ok id)⟩

theorem failed_records (node : Node) (operation : Operation) (targetType : String)
    (targetId : Option String) (params : List (String × Json)) (detail text : String) :
    Records actor action ⟨node.id, operation, .error (.adapterError text)⟩
      (failed node actor action targetType targetId params detail) :=
  ⟨rfl, rfl, rfl, iff_of_false (by simp [failed]) (not_returns_error _)⟩

theorem complete_of_implements {adapterType : AdapterType} {operation : Operation}
    (implemented : implements adapterType operation = true) (answer : Answer) :
    complete adapterType operation answer = answer.completion := if_pos implemented

theorem complete_unescaped {adapterType : AdapterType} {operation : Operation} {answer : Answer} :
    Unescaped (complete adapterType operation answer) ↔
      implements adapterType operation = true ∧ Unescaped answer.completion := by
  by_cases implemented : implements adapterType operation = true
  · simp [complete, implemented]
  · simp [complete, implemented, Unescaped]

theorem buildAdapterForNode_eq {node : Node}
    (built : rejects node.adapterType node.endpoint node.credentials = none) :
    buildAdapterForNode node = .ok node.adapterType := by
  simp [buildAdapterForNode, built]

theorem buildAdapterForNode_rejected {node : Node}
    (rejected : rejects node.adapterType node.endpoint node.credentials ≠ none) :
    ∃ error, buildAdapterForNode node = .error error := by
  obtain ⟨text, found⟩ := Option.ne_none_iff_exists'.1 rejected
  exact ⟨.adapterError text, by simp [buildAdapterForNode, found]⟩

end Entries

theorem settlesFrom_singleton (environment : Environment) (adapterType : AdapterType)
    (operation : Operation) :
    SettlesFrom environment adapterType 0 [operation] ↔
      Unescaped (complete adapterType operation (environment.answers 0)) := by
  rw [complete_unescaped]
  constructor
  · intro settles
    exact settles 0 operation rfl
  · intro settled i other found
    cases i with
    | zero =>
        cases found
        exact settled
    | succ i => cases found

theorem settlesFrom_cons (environment : Environment) (adapterType : AdapterType) (index : Nat)
    (operation : Operation) (rest : List Operation) :
    SettlesFrom environment adapterType index (operation :: rest) ↔
      Unescaped (complete adapterType operation (environment.answers index)) ∧
        SettlesFrom environment adapterType (index + 1) rest := by
  rw [complete_unescaped]
  constructor
  · intro settles
    refine ⟨settles 0 operation rfl, fun i other found => ?_⟩
    have later := settles (i + 1) other found
    rwa [show index + (i + 1) = index + 1 + i by omega] at later
  · rintro ⟨first, later⟩ i other found
    cases i with
    | zero =>
        cases found
        exact first
    | succ i =>
        rw [show index + (i + 1) = index + 1 + i by omega]
        exact later i other found

section Outcomes

variable {database : Database} {actor : String} {request : Request} {environment : Environment}
  {node : Node}

theorem audited_without_calls (reply : Reply) :
    Audited database actor request ⟨database, [], reply⟩ :=
  ⟨[], by simp, .nil⟩

theorem not_audited_of_unrecorded {calls : List Call} (made : calls ≠ []) (reply : Reply) :
    ¬ Audited database actor request ⟨database, calls, reply⟩ := by
  rintro ⟨entries, appended, matched⟩
  obtain rfl : entries = [] := List.append_right_eq_self.1 appended.symm
  exact made (List.forall₂_nil_right_iff.1 matched)

theorem perform_audited_iff (built : rejects node.adapterType node.endpoint node.credentials = none)
    {targetType : String} {targetId : Option String} {params : List (String × Json)}
    {operation : Operation} :
    Audited database actor request
        (perform database actor environment node request.action targetType targetId params
          operation) ↔
      SettlesFrom environment node.adapterType 0 [operation] := by
  rw [settlesFrom_singleton, perform, buildAdapterForNode_eq built]
  simp only
  cases completed : complete node.adapterType operation (environment.answers 0) with
  | ok id =>
      exact iff_of_true ⟨[(_, _)], rfl, .cons (succeeded_records ..) .nil⟩ trivial
  | error raised =>
      cases raised with
      | adapterError text =>
          exact iff_of_true ⟨[(_, _)], rfl, .cons (failed_records ..) .nil⟩ trivial
      | escaped exception =>
          exact iff_of_false (not_audited_of_unrecorded (by simp) _) (fun absent => absent)

theorem emailProfile_audited_iff
    (built : rejects node.adapterType node.endpoint node.credentials = none)
    {nodeId userId orgId recipient : String} {fmt : ProfileFormat}
    (same : request = .emailProfile nodeId userId orgId recipient fmt) :
    Audited database actor request
        (emailProfile database actor environment node userId orgId recipient fmt) ↔
      SettlesFrom environment node.adapterType 0 request.operations ∧
        Mailed environment request := by
  subst same
  rw [Request.operations, settlesFrom_singleton, emailProfile, buildAdapterForNode_eq built]
  simp only
  cases completed : complete node.adapterType (.issueProfile userId orgId fmt.value)
      (environment.answers 0) with
  | ok id =>
      have answered : (environment.answers 0).completion = .ok id := by
        by_cases implemented : implements node.adapterType (.issueProfile userId orgId fmt.value)
        · rwa [complete_of_implements implemented] at completed
        · simp [complete, implemented] at completed
      cases delivery : environment.delivery with
      | notConfigured =>
          refine iff_of_false (not_audited_of_unrecorded (by simp) _) ?_
          simp [Mailed, delivery]
      | failed text =>
          refine iff_of_false ?_ (by simp [Mailed, delivery])
          rintro ⟨entries, appended, matched⟩
          obtain rfl := List.append_cancel_left appended
          simp only [List.map_cons, List.map_nil, List.forall₂_cons] at matched
          exact absurd (matched.1.result.2 (returns_ok id)) (by simp [failed])
      | sent messageId =>
          refine iff_of_true ⟨[(_, _)], rfl, .cons (succeeded_records ..) .nil⟩ ⟨trivial, ?_⟩
          exact ⟨⟨id, answered⟩, messageId, delivery⟩
  | error raised =>
      have refused : ¬ Returns (environment.answers 0).completion ∨
          ¬ Unescaped (complete node.adapterType (.issueProfile userId orgId fmt.value)
            (environment.answers 0)) := by
        by_cases implemented : implements node.adapterType (.issueProfile userId orgId fmt.value)
        · rw [complete_of_implements implemented] at completed
          exact .inl (completed ▸ not_returns_error raised)
        · refine .inr ?_
          simp [complete, implemented, Unescaped]
      have unmailed : ¬ (Unescaped (.error raised : Except Raised (Option String)) ∧
          Mailed environment (.emailProfile nodeId userId orgId recipient fmt)) := by
        rintro ⟨unescaped, returned, -⟩
        rcases refused with missing | escaped
        · exact missing returned
        · exact escaped (completed ▸ unescaped)
      cases raised with
      | adapterError text => exact iff_of_false (not_audited_of_unrecorded (by simp) _) unmailed
      | escaped exception => exact iff_of_false (not_audited_of_unrecorded (by simp) _) unmailed

end Outcomes

section Bulk

variable {Row : Type} {actor action : String} {environment : Environment} {node : Node}
  {adapterType : AdapterType} {handler : RowHandler Row}

-- What the entries of a bulk route's rows say, whatever the calls returned.
structure Faithful (actor action : String) (node : Node) (handler : RowHandler Row) : Prop where
  success : ∀ row id, Records actor action ⟨node.id, handler.operation row, .ok id⟩
    (handler.success row id).1
  failure : ∀ row text, Records actor action
    ⟨node.id, handler.operation row, .error (.adapterError text)⟩ (handler.failure row text).1

theorem bulkRows_settled (faithful : Faithful actor action node handler) (index : Nat)
    (rows : List Row)
    (settles : SettlesFrom environment adapterType index (rows.map handler.operation)) :
    ∃ calls done, bulkRows environment node adapterType handler index rows = (calls, .ok done) ∧
      List.Forall₂ (Records actor action) calls ((done.map (·.1)).map Prod.snd) := by
  induction rows generalizing index with
  | nil => exact ⟨[], [], rfl, .nil⟩
  | cons row rest ih =>
      rw [List.map_cons, settlesFrom_cons] at settles
      obtain ⟨calls, done, looped, matched⟩ := ih (index + 1) settles.2
      have unescaped := settles.1
      rw [bulkRows, looped]
      cases completed : complete adapterType (handler.operation row) (environment.answers index) with
      | ok id => exact ⟨_, _, rfl, .cons (faithful.success row id) matched⟩
      | error raised =>
          cases raised with
          | adapterError text => exact ⟨_, _, rfl, .cons (faithful.failure row text) matched⟩
          | escaped exception =>
              rw [completed] at unescaped
              exact unescaped.elim

-- The call that escapes is the last one, and nothing of the request is kept.
theorem bulkRows_unsettled (node : Node) (index : Nat) (rows : List Row)
    (unsettled : ¬ SettlesFrom environment adapterType index (rows.map handler.operation)) :
    ∃ calls raised, bulkRows environment node adapterType handler index rows =
      (calls, .error raised) ∧ calls ≠ [] := by
  induction rows generalizing index with
  | nil => exact absurd (fun i operation found => by simp at found) unsettled
  | cons row rest ih =>
      rw [List.map_cons, settlesFrom_cons, not_and_or] at unsettled
      rw [bulkRows]
      cases completed : complete adapterType (handler.operation row) (environment.answers index) with
      | ok id =>
          have later := unsettled.resolve_left (not_not.2 (completed ▸ trivial))
          obtain ⟨calls, raised, looped, -⟩ := ih (index + 1) later
          rw [looped]
          exact ⟨_, raised, rfl, by simp⟩
      | error raised =>
          cases raised with
          | adapterError text =>
              have later := unsettled.resolve_left (not_not.2 (completed ▸ trivial))
              obtain ⟨calls, raised, looped, -⟩ := ih (index + 1) later
              rw [looped]
              exact ⟨_, raised, rfl, by simp⟩
          | escaped exception => exact ⟨_, _, rfl, by simp⟩

theorem bulk_audited_iff {database : Database} {request : Request}
    (built : rejects node.adapterType node.endpoint node.credentials = none)
    (faithful : Faithful actor request.action node handler) (counted status : String)
    (rows : List Row) :
    Audited database actor request (bulk database environment node handler counted status rows) ↔
      SettlesFrom environment node.adapterType 0 (rows.map handler.operation) := by
  rw [bulk, buildAdapterForNode_eq built]
  by_cases settles : SettlesFrom environment node.adapterType 0 (rows.map handler.operation)
  · obtain ⟨calls, done, looped, matched⟩ := bulkRows_settled faithful 0 rows settles
    simp only [looped]
    exact iff_of_true ⟨_, rfl, matched⟩ settles
  · obtain ⟨calls, raised, looped, made⟩ := bulkRows_unsettled node 0 rows settles
    simp only [looped]
    exact iff_of_false (not_audited_of_unrecorded made _) settles

theorem createRow_faithful (actor : String) (node : Node) (orgId : String) :
    Faithful actor "create_user" node (createRow actor node orgId) :=
  ⟨fun _ _ => succeeded_records .., fun _ _ => failed_records ..⟩

theorem actionRow_faithful (actor : String) (node : Node) (orgId : String) (action : BulkAction) :
    Faithful actor ("bulk_" ++ BulkAction.value action) node (actionRow actor node orgId action) :=
  ⟨fun _ _ => succeeded_records .., fun _ _ => failed_records ..⟩

end Bulk

theorem handleOn_audited_iff (database : Database) (actor : String) (environment : Environment)
    (node : Node) (built : rejects node.adapterType node.endpoint node.credentials = none)
    (request : Request) :
    Audited database actor request (handleOn database actor environment node request) ↔
      SettlesFrom environment node.adapterType 0 request.operations ∧
        Mailed environment request := by
  cases request with
  | emailProfile nodeId userId orgId recipient fmt => exact emailProfile_audited_iff built rfl
  | bulkCreateUsers nodeId orgId users =>
      exact (bulk_audited_iff built (createRow_faithful actor node orgId) "created" "created"
        users).trans (and_iff_left trivial).symm
  | bulkUserAction nodeId orgId action userIds =>
      exact (bulk_audited_iff built (actionRow_faithful actor node orgId action) "ok" "ok"
        userIds).trans (and_iff_left trivial).symm
  | _ => exact (perform_audited_iff built).trans (and_iff_left trivial).symm

theorem handleOn_rejected (database : Database) (actor : String) (environment : Environment)
    {node : Node} (rejected : rejects node.adapterType node.endpoint node.credentials ≠ none)
    (request : Request) :
    ∃ reply, handleOn database actor environment node request = ⟨database, [], reply⟩ := by
  obtain ⟨error, refused⟩ := buildAdapterForNode_rejected rejected
  cases request <;> simp [handleOn, perform, emailProfile, bulk, refused]

theorem audited_iff_clean (database : Database) (actor : String) (request : Request)
    (environment : Environment) :
    Audited database actor request (handle database actor request environment) ↔
      Clean environment database request := by
  unfold handle Clean
  cases found : database.tables.node? request.nodeId with
  | none => simp [audited_without_calls]
  | some node =>
      simp only [Option.some.injEq, forall_eq']
      by_cases built : rejects node.adapterType node.endpoint node.credentials = none
      · simp only [built, true_implies]
        exact handleOn_audited_iff database actor environment node built request
      · obtain ⟨reply, same⟩ := handleOn_rejected database actor environment built request
        rw [same]
        exact iff_of_true (audited_without_calls reply) fun absurdly => absurd absurdly built

/-- The promise of the module, of every request, fleet and course of its calls. -/
def EveryMutationAudited : Prop :=
  ∀ database actor request environment,
    Audited database actor request (handle database actor request environment)

section BulkEscape

def hcmc : Node where
  id := "n1"
  name := "hcmc-1"
  region := "hcmc"
  endpoint := "https://vpn"
  adapterType := .shim
  enabled := true
  credentials := [("token", .str "t"), ("secret", .str "s")]
  status := .reachable
  lastSyncedAt := none

def registered : Database where
  tables := ⟨[hcmc], [], [], []⟩
  valid := by decide

-- The node answers the second row with 200 and an empty body.
def secondRowEscapes : Environment where
  answers index :=
    ⟨if index = 0 then .ok (some "usr-1") else .error (.escaped .valueError),
      ⟨2026, 9, 22, 12, 0, 0, 0, 0⟩⟩
  delivery := .notConfigured

theorem firstRow_forgotten : ¬ EveryMutationAudited := by
  intro promised
  have audited := promised registered "ops"
    (.bulkCreateUsers "n1" "org-1" [⟨"carol", none⟩, ⟨"dave", none⟩]) secondRowEscapes
  rw [audited_iff_clean] at audited
  obtain ⟨settles, -⟩ := audited hcmc rfl rfl
  exact (settles 1 _ rfl).2

end BulkEscape

end Fleet.Actions
