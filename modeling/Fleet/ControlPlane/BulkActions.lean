import Fleet.ControlPlane.MutationAudit

set_option autoImplicit false

namespace Fleet.Actions.OneByOne

open Db NodeAdapter ShimResponses
open Routes hiding Request

-- The answers from one call on.
def answersFrom (environment : Environment) (index : Nat) : Environment :=
  { environment with answers := fun later => environment.answers (index + later) }

/-- Requests one after another, up to the first that raises. -/
def oneByOne (actor : String) (environment : Environment) :
    Database → Nat → List Request → List Outcome
  | _, _, [] => []
  | database, index, request :: rest =>
      let outcome := handle database actor request (answersFrom environment index)
      match outcome.reply with
      | .raised _ => [outcome]
      | _ => outcome :: oneByOne actor environment outcome.database (index + 1) rest

def left : Database → List Outcome → Database
  | database, [] => database
  | _, outcome :: rest => left outcome.database rest

def returned (outcome : Outcome) : Bool :=
  match outcome.reply with
  | .returned _ => true
  | _ => false

section Rows

def createResult (row : BulkUserRow) : Reply → Json
  | .returned id => .obj [("name", .str row.name), ("status", .str "created"), ("id", .ofOption id)]
  | .httpException _ text => failedResult "name" row.name text
  | _ => .null

def actionResult (uid : String) : Reply → Json
  | .returned _ => .obj [("id", .str uid), ("status", .str "ok")]
  | .httpException _ text => failedResult "id" uid text
  | _ => .null

abbrev Entry := Datetime × AuditLog.Fields

def createEntry (_ : BulkUserRow) (entry : Entry) : Entry :=
  (entry.1, { entry.2 with params := entry.2.params.map (· ++ [("bulk", .bool true)]) })

def actionEntry (orgId : String) (action : BulkAction) (uid : String) (entry : Entry) : Entry :=
  (entry.1, { entry.2 with
    action := "bulk_" ++ BulkAction.value action, targetType := some "user"
    targetId := some uid, params := some [("org_id", .str orgId)] })

def singleCreate (nodeId orgId : String) (row : BulkUserRow) : Request :=
  .createUser nodeId orgId row.name row.email

def singleAction (nodeId orgId : String) (action : BulkAction) (uid : String) : Request :=
  match action with
  | .delete => .deleteUser nodeId uid orgId
  | .revoke => .revokeProfile nodeId uid orgId
  | .disable => .setUserDisabled nodeId uid orgId true
  | .enable => .setUserDisabled nodeId uid orgId false

/-- A bulk request next to the requests for its rows one by one: it makes the same calls. If none
of them raises it writes their entries, restated, and its results are their replies; if one does it
raises as that one does, and undoes the entries of those before it as well. -/
structure AsSingles {Row : Type} (database : Database) (rows : List Row) (outcomes : List Outcome)
    (restate : Row → Entry → Entry) (result : Row → Reply → Json) (counted : String)
    (outcome : Outcome) : Prop where
  calls : outcome.calls = outcomes.flatMap Outcome.calls
  raised : ∀ raised, outcome.reply = .raised raised ↔
    ∃ single ∈ outcomes, single.reply = .raised raised
  undone : (∃ raised, outcome.reply = .raised raised) → outcome.database = database
  kept : (∀ raised, outcome.reply ≠ .raised raised) → ∃ entries,
    entries.length = rows.length ∧ left database outcomes = record database entries ∧
      outcome.database = record database (List.zipWith restate rows entries) ∧
      outcome.reply = .body (.obj [(counted, .int (outcomes.countP returned)),
        ("results", .arr (List.zipWith result rows (outcomes.map Outcome.reply)))])

/-- What the handler of a bulk route does with a row is what the request for that row does. -/
structure Rowwise {Row : Type} (actor : String) (node : Node) (handler : RowHandler Row)
    (single : Row → Request) (restate : Row → Entry → Entry) (result : Row → Reply → Json)
    (status : String) : Prop where
  site : ∀ row, (single row).nodeId = node.id
  performed : ∀ row, ∃ action targetType targetId params,
    (∀ database environment, handleOn database actor environment node (single row) =
      perform database actor environment node action targetType targetId params
        (handler.operation row)) ∧
    (∀ ts id, restate row
      (ts, succeeded node actor action targetType (targetOr targetId id) params) =
        (ts, (handler.success row id).1)) ∧
    ∀ ts text, restate row (ts, failed node actor action targetType targetId params text) =
      (ts, (handler.failure row text).1)
  success : ∀ row id, result row (.returned id) = (handler.success row id).2
  failure : ∀ row text, result row (.httpException 502 text) = (handler.failure row text).2
  counts : ∀ row id, hasStatus status (handler.success row id).2 = true
  skips : ∀ row text, hasStatus status (handler.failure row text).2 = false

end Rows

section Single

variable {Row : Type} {actor status : String} (environment : Environment) {node : Node}
  {handler : RowHandler Row} {single : Row → Request} {restate : Row → Entry → Entry}
  {result : Row → Reply → Json} {database : Database}

/-- How the request for one row ends. -/
inductive Ended (database : Database) (node : Node) (handler : RowHandler Row)
    (restate : Row → Entry → Entry) (answer : Answer) (row : Row) :
    Except Raised (Option String) → Outcome → Prop where
  | returned {id : Option String} {entry : Entry}
      (written : restate row entry = (answer.ts, (handler.success row id).1)) :
      Ended database node handler restate answer row (.ok id)
        ⟨record database [entry], [⟨node.id, handler.operation row, .ok id⟩], .returned id⟩
  | failed {text : String} {entry : Entry}
      (written : restate row entry = (answer.ts, (handler.failure row text).1)) :
      Ended database node handler restate answer row (.error (.adapterError text))
        ⟨record database [entry],
          [⟨node.id, handler.operation row, .error (.adapterError text)⟩], .httpException 502 text⟩
  | escaped {exception : PyException} :
      Ended database node handler restate answer row (.error (.escaped exception))
        ⟨database, [⟨node.id, handler.operation row, .error (.escaped exception)⟩],
          .raised (.escaped exception)⟩

theorem single_ended (built : rejects node.adapterType node.endpoint node.credentials = none)
    (rowwise : Rowwise actor node handler single restate result status)
    (found : database.tables.node? node.id = some node) (index : Nat) (row : Row) :
    Ended database node handler restate (environment.answers index) row
      (complete node.adapterType (handler.operation row) (environment.answers index))
      (handle database actor (single row) (answersFrom environment index)) := by
  obtain ⟨action, targetType, targetId, params, performed, success, failure⟩ :=
    rowwise.performed row
  have handled : handle database actor (single row) (answersFrom environment index) =
      perform database actor (answersFrom environment index) node action targetType targetId params
        (handler.operation row) := by
    rw [handle, rowwise.site row, found]
    exact performed database _
  rw [handled, perform, buildAdapterForNode_eq built]
  simp only [answersFrom, Nat.add_zero]
  cases complete node.adapterType (handler.operation row) (environment.answers index) with
  | ok id => exact .returned (success _ id)
  | error raised =>
      cases raised with
      | adapterError text => exact .failed (failure _ text)
      | escaped exception => exact .escaped

theorem record_record (database : Database) (first second : List Entry) :
    record (record database first) second = record database (first ++ second) := by
  simp [record]

end Single

section Loop

variable {Row : Type} {actor status : String} (environment : Environment) {node : Node}
  {handler : RowHandler Row} {single : Row → Request} {restate : Row → Entry → Entry}
  {result : Row → Reply → Json} {database : Database}

structure Stops (outcomes : List Outcome) (calls : List Call) (raised : Raised) : Prop where
  calls : calls = outcomes.flatMap Outcome.calls
  raised : ∀ other, (∃ single ∈ outcomes, single.reply = .raised other) ↔ other = raised

structure Completes (database : Database) (rows : List Row) (restate : Row → Entry → Entry)
    (result : Row → Reply → Json) (status : String) (outcomes : List Outcome) (calls : List Call)
    (done : List (Entry × Json)) (entries : List Entry) : Prop where
  calls : calls = outcomes.flatMap Outcome.calls
  unraised : ∀ single ∈ outcomes, ∀ raised, single.reply ≠ .raised raised
  each : entries.length = rows.length
  left : left database outcomes = record database entries
  entries : done.map Prod.fst = List.zipWith restate rows entries
  results : done.map Prod.snd = List.zipWith result rows (outcomes.map Outcome.reply)
  counted : (done.map Prod.snd).countP (hasStatus status) = outcomes.countP returned

theorem Stops.later {outcome : Outcome} {outcomes : List Outcome} {calls : List Call} {call : Call}
    {raised : Raised} (stops : Stops outcomes calls raised) (called : outcome.calls = [call])
    (goes : ∀ raised, outcome.reply ≠ .raised raised) :
    Stops (outcome :: outcomes) (call :: calls) raised := by
  refine ⟨by simp [called, stops.calls], fun other => ?_⟩
  rw [List.exists_mem_cons_iff, ← stops.raised other]
  exact or_iff_right (goes other)

theorem Completes.later {rows : List Row} {row : Row} {outcome : Outcome} {outcomes : List Outcome}
    {calls : List Call} {call : Call} {done : List (Entry × Json)} {entries : List Entry}
    {entry written : Entry} {shown : Json} (called : outcome.calls = [call])
    (goes : ∀ raised, outcome.reply ≠ .raised raised)
    (recorded : outcome.database = record database [entry])
    (completes : Completes outcome.database rows restate result status outcomes calls done entries)
    (restated : restate row entry = written) (replied : result row outcome.reply = shown)
    (counted : hasStatus status shown = returned outcome) :
    Completes database (row :: rows) restate result status (outcome :: outcomes) (call :: calls)
      ((written, shown) :: done) (entry :: entries) where
  calls := by simp [called, completes.calls]
  unraised := List.forall_mem_cons.2 ⟨goes, completes.unraised⟩
  each := by simp [completes.each]
  left := by
    rw [OneByOne.left, completes.left, recorded, record_record]
    rfl
  entries := by simp [completes.entries, restated]
  results := by simp [completes.results, replied]
  counted := by rw [List.map_cons, List.countP_cons, List.countP_cons, completes.counted, counted]

theorem rows_one_by_one (built : rejects node.adapterType node.endpoint node.credentials = none)
    (rowwise : Rowwise actor node handler single restate result status)
    (found : database.tables.node? node.id = some node) (index : Nat) (rows : List Row) :
    let outcomes := oneByOne actor environment database index (rows.map single)
    (∃ calls raised, bulkRows environment node node.adapterType handler index rows =
        (calls, .error raised) ∧ Stops outcomes calls raised) ∨
      ∃ calls done entries, bulkRows environment node node.adapterType handler index rows =
        (calls, .ok done) ∧
          Completes database rows restate result status outcomes calls done entries := by
  induction rows generalizing database index with
  | nil =>
      refine .inr ⟨[], [], [], rfl, rfl, by simp [oneByOne], rfl, ?_, rfl, rfl, rfl⟩
      simp [oneByOne, left, record]
  | cons row rest ih =>
      have ended := single_ended environment built rowwise found index row
      dsimp only
      rw [bulkRows, List.map_cons, oneByOne]
      dsimp only
      generalize
        handle database actor (single row) (answersFrom environment index) = outcome at ended ⊢
      generalize complete node.adapterType (handler.operation row) (environment.answers index) =
        completion at ended ⊢
      cases ended with
      | escaped =>
          refine .inl ⟨_, _, rfl, by simp, fun other => ?_⟩
          simp [eq_comm]
      | @returned id entry written =>
          have recorded : (record database [entry]).tables.node? node.id = some node := found
          rcases ih recorded (index + 1) with
            ⟨calls, raised, looped, stops⟩ | ⟨calls, done, entries, looped, completes⟩
          · exact .inl ⟨_, raised, by rw [looped]; rfl, stops.later rfl (by simp)⟩
          · refine .inr ⟨_, _, entry :: entries, by rw [looped]; rfl,
              completes.later rfl (by simp) rfl written (rowwise.success row id) ?_⟩
            rw [rowwise.counts]
            rfl
      | @failed text entry written =>
          have recorded : (record database [entry]).tables.node? node.id = some node := found
          rcases ih recorded (index + 1) with
            ⟨calls, raised, looped, stops⟩ | ⟨calls, done, entries, looped, completes⟩
          · exact .inl ⟨_, raised, by rw [looped]; rfl, stops.later rfl (by simp)⟩
          · refine .inr ⟨_, _, entry :: entries, by rw [looped]; rfl,
              completes.later rfl (by simp) rfl written (rowwise.failure row text) ?_⟩
            rw [rowwise.skips]
            rfl

theorem bulk_singles (built : rejects node.adapterType node.endpoint node.credentials = none)
    (rowwise : Rowwise actor node handler single restate result status)
    (found : database.tables.node? node.id = some node) (rows : List Row) (counted : String) :
    AsSingles database rows (oneByOne actor environment database 0 (rows.map single)) restate result
      counted (bulk database environment node handler counted status rows) := by
  rw [bulk, buildAdapterForNode_eq built]
  dsimp only
  rcases rows_one_by_one environment built rowwise found 0 rows with
    ⟨calls, raised, looped, stops⟩ | ⟨calls, done, entries, looped, completes⟩
  · rw [looped]
    refine ⟨stops.calls, fun other => ?_, fun _ => rfl, fun goes => absurd rfl (goes raised)⟩
    rw [stops.raised other]
    simp [eq_comm]
  · rw [looped]
    refine ⟨completes.calls, fun other => ?_, by simp, fun _ => ⟨entries, completes.each,
      completes.left, ?_, ?_⟩⟩
    · refine iff_of_false (by simp) ?_
      rintro ⟨single, member, same⟩
      exact completes.unraised single member other same
    · rw [← completes.entries]
    · rw [← completes.results, ← completes.counted]

end Loop

section Routes

variable (actor : String) (node : Node) (orgId : String)

theorem createRow_rowwise : Rowwise actor node (createRow actor node orgId)
    (singleCreate node.id orgId) createEntry createResult "created" where
  site _ := rfl
  performed _ := ⟨_, _, _, _, fun _ _ => rfl, fun _ _ => rfl, fun _ _ => rfl⟩
  success _ _ := rfl
  failure _ _ := rfl
  counts _ _ := rfl
  skips _ _ := rfl

theorem actionRow_rowwise (action : BulkAction) :
    Rowwise actor node (actionRow actor node orgId action) (singleAction node.id orgId action)
      (actionEntry orgId action) actionResult "ok" where
  site _ := by cases action <;> rfl
  performed _ := by
    cases action
    all_goals exact ⟨_, _, _, _, fun _ _ => rfl, fun _ _ => rfl, fun _ _ => rfl⟩
  success _ _ := rfl
  failure _ _ := rfl
  counts _ _ := rfl
  skips _ _ := rfl

variable {node}

def twoUsers : List BulkUserRow := [⟨"carol", none⟩, ⟨"dave", none⟩]

end Routes

end Fleet.Actions.OneByOne
