import Fleet.ControlPlane.MutationAudit

set_option autoImplicit false

namespace Fleet.Actions

open Db NodeAdapter ShimResponses
open Routes hiding Request

section Effects

variable (database : Database) (actor action : String) (environment : Environment) (node : Node)

/-- What a request that calls a node can do: its calls are the ones it announces, in their order,
and nothing but entries are written, one a call or none that says a success. -/
structure Effect (operations : List Operation) (outcome : Outcome) : Prop where
  called : ∀ index call, outcome.calls[index]? = some call →
    call.nodeId = node.id ∧ operations[index]? = some call.operation ∧
      call.completion = complete node.adapterType call.operation (environment.answers index)
  recorded : ∃ entries, outcome.database.tables =
      { database.tables with audit := database.tables.audit ++ entries } ∧
    (List.Forall₂ (Records actor action) outcome.calls (entries.map Prod.snd) ∨
      ∀ entry ∈ entries, entry.2.result ≠ "success")

variable {database actor action environment node}

theorem effect_of_unwritten {operations : List Operation} {calls : List Call} (reply : Reply)
    (called : ∀ index call, calls[index]? = some call →
      call.nodeId = node.id ∧ operations[index]? = some call.operation ∧
        call.completion = complete node.adapterType call.operation (environment.answers index)) :
    Effect database actor action environment node operations ⟨database, calls, reply⟩ :=
  ⟨called, [], by simp, .inr (by simp)⟩

theorem called_once {operation : Operation} {completion : Except Raised (Option String)}
    (completed : complete node.adapterType operation (environment.answers 0) = completion)
    (index : Nat) (call : Call)
    (made : [(⟨node.id, operation, completion⟩ : Call)][index]? = some call) :
    call.nodeId = node.id ∧ [operation][index]? = some call.operation ∧
      call.completion = complete node.adapterType call.operation (environment.answers index) := by
  cases index with
  | zero =>
      cases made
      exact ⟨rfl, rfl, completed.symm⟩
  | succ index => cases made

theorem perform_effect (built : rejects node.adapterType node.endpoint node.credentials = none)
    (targetType : String) (targetId : Option String) (params : List (String × Json))
    (operation : Operation) :
    Effect database actor action environment node [operation]
      (perform database actor environment node action targetType targetId params operation) := by
  rw [perform, buildAdapterForNode_eq built]
  simp only
  cases completed : complete node.adapterType operation (environment.answers 0) with
  | ok id =>
      exact ⟨called_once completed, [(_, _)], rfl, .inl (.cons (succeeded_records ..) .nil)⟩
  | error raised =>
      cases raised with
      | adapterError text =>
          exact ⟨called_once completed, [(_, _)], rfl, .inl (.cons (failed_records ..) .nil)⟩
      | escaped exception => exact effect_of_unwritten _ (called_once completed)

theorem emailProfile_effect (built : rejects node.adapterType node.endpoint node.credentials = none)
    (userId orgId recipient : String) (fmt : ProfileFormat) :
    Effect database actor "email_profile" environment node [.issueProfile userId orgId fmt.value]
      (emailProfile database actor environment node userId orgId recipient fmt) := by
  rw [emailProfile, buildAdapterForNode_eq built]
  simp only
  cases completed : complete node.adapterType (.issueProfile userId orgId fmt.value)
      (environment.answers 0) with
  | ok id =>
      cases environment.delivery with
      | notConfigured => exact effect_of_unwritten _ (called_once completed)
      | failed text =>
          exact ⟨called_once completed, [(_, _)], rfl, .inr (by simp [failed])⟩
      | sent messageId =>
          exact ⟨called_once completed, [(_, _)], rfl, .inl (.cons (succeeded_records ..) .nil)⟩
  | error raised =>
      cases raised <;> exact effect_of_unwritten _ (called_once completed)

theorem bulkRows_called (environment : Environment) (node : Node) {Row : Type}
    (handler : RowHandler Row) (adapterType : AdapterType) (start : Nat) (rows : List Row)
    (index : Nat) (call : Call)
    (made : (bulkRows environment node adapterType handler start rows).1[index]? = some call) :
    call.nodeId = node.id ∧ (rows.map handler.operation)[index]? = some call.operation ∧
      call.completion =
        complete adapterType call.operation (environment.answers (start + index)) := by
  induction rows generalizing start index with
  | nil => cases made
  | cons row rest ih =>
      rw [bulkRows] at made
      cases index with
      | zero =>
          have first : call = ⟨node.id, handler.operation row,
              complete adapterType (handler.operation row) (environment.answers start)⟩ := by
            simp only at made
            split at made <;> exact (Option.some.inj made).symm
          subst first
          exact ⟨rfl, rfl, rfl⟩
      | succ index =>
          have later : (bulkRows environment node adapterType handler (start + 1)
              rest).1[index]? = some call := by
            simp only at made
            split at made
            · exact made
            · exact made
            · cases made
          obtain ⟨site, operation, completion⟩ := ih (start + 1) index later
          refine ⟨site, operation, ?_⟩
          rwa [show start + (index + 1) = start + 1 + index by omega]

theorem bulk_effect {Row : Type} {handler : RowHandler Row}
    (built : rejects node.adapterType node.endpoint node.credentials = none)
    (faithful : Faithful actor action node handler) (counted status : String) (rows : List Row) :
    Effect database actor action environment node (rows.map handler.operation)
      (bulk database environment node handler counted status rows) := by
  have called := bulkRows_called environment node handler node.adapterType 0 rows
  simp only [Nat.zero_add] at called
  rw [bulk, buildAdapterForNode_eq built]
  by_cases settles : SettlesFrom environment node.adapterType 0 (rows.map handler.operation)
  · obtain ⟨calls, done, looped, matched⟩ := bulkRows_settled faithful 0 rows settles
    simp only [looped] at called ⊢
    exact ⟨called, _, rfl, .inl matched⟩
  · obtain ⟨calls, raised, looped, -⟩ := bulkRows_unsettled node 0 rows settles
    simp only [looped] at called ⊢
    exact effect_of_unwritten _ called

theorem handleOn_effect (built : rejects node.adapterType node.endpoint node.credentials = none)
    (request : Request) :
    Effect database actor request.action environment node request.operations
      (handleOn database actor environment node request) := by
  cases request with
  | emailProfile nodeId userId orgId recipient fmt => exact emailProfile_effect built ..
  | bulkCreateUsers nodeId orgId users =>
      exact bulk_effect built (createRow_faithful actor node orgId) ..
  | bulkUserAction nodeId orgId action userIds =>
      exact bulk_effect built (actionRow_faithful actor node orgId action) ..
  | _ => exact perform_effect built ..

end Effects

theorem handle_cases (database : Database) (actor : String) (request : Request)
    (environment : Environment) :
    (∃ reply, handle database actor request environment = ⟨database, [], reply⟩) ∨
      ∃ node, database.tables.node? request.nodeId = some node ∧
        Effect database actor request.action environment node request.operations
          (handle database actor request environment) := by
  unfold handle
  cases found : database.tables.node? request.nodeId with
  | none => exact .inl ⟨_, rfl⟩
  | some node =>
      by_cases built : rejects node.adapterType node.endpoint node.credentials = none
      · exact .inr ⟨node, rfl, handleOn_effect built request⟩
      · exact .inl (handleOn_rejected database actor environment built request)

-- The fleet and its placements stay as they are.
theorem handle_tables (database : Database) (actor : String) (request : Request)
    (environment : Environment) :
    ∃ entries, (handle database actor request environment).database.tables =
      { database.tables with audit := database.tables.audit ++ entries } := by
  rcases handle_cases database actor request environment with ⟨reply, same⟩ | ⟨node, -, effect⟩
  · exact ⟨[], by simp [same]⟩
  · obtain ⟨entries, tables, -⟩ := effect.recorded
    exact ⟨entries, tables⟩

end Fleet.Actions
