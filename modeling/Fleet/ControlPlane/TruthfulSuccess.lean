import Fleet.ControlPlane.Backing

set_option autoImplicit false

namespace Fleet.Exchanges

open Db NodeAdapter Provisioning FanOut ShimResponses Execution
open ShimAdapter (base)

def Answered.successful (answered : Answered) : Bool :=
  match answered.exchange with
  | some (.response resp) => 200 ≤ resp.status ∧ resp.status < 300
  | _ => false

/-- No success without a 2xx behind it: neither of a call, nor of a placement or of an entry. -/
structure Truthful (before : Tables) (state : State) : Prop where
  returned : ∀ call ∈ state.answered, call.returned = true → call.successful = true
  backed : Backed Answered.successful before state.database.tables state.answered

section Genuine

variable {Moment : Type} (runtime : Runtime Moment)

-- The node answered below 400, not with a 2xx, and with what the method needs.
def Answered.Mistaken (answered : Answered) : Prop :=
  ∃ exchange, answered.exchange = some exchange ∧
    Mistakable runtime answered.operation exchange

-- The call is what its adapter made of a mutation.
def Answered.Genuine (answered : Answered) : Prop :=
  answered.operation.mutates = true ∧ ∃ database exchange,
    answered = ask runtime database answered.nodeId answered.action answered.operation exchange

variable {runtime}

theorem ask_genuine {operation : Operation} (mutates : operation.mutates = true)
    (database : Database) (nodeId action : String) (exchange : Exchange) :
    (ask runtime database nodeId action operation exchange).Genuine runtime := by
  obtain ⟨site, same⟩ := ask_operation runtime database nodeId action operation exchange
  have about := ask_subject runtime database nodeId action operation exchange
  refine ⟨by rw [same, mutates], database, exchange, ?_⟩
  rw [same, site, (Prod.mk.inj about).2]

theorem Answered.Genuine.unsent {answered : Answered} (genuine : answered.Genuine runtime)
    (unsent : answered.exchange = none) : answered.returned = false := by
  obtain ⟨-, database, exchange, made⟩ := genuine
  rw [made] at unsent ⊢
  unfold ask at unsent ⊢
  split at unsent
  · split at unsent
    · cases unsent
    next missing => simp [missing, Answered.returned]
  · simp [Answered.returned]

theorem returned_respond {database : Database} {nodeId : String} {node : Node}
    (found : database.tables.node? nodeId = some node) (action : String) (operation : Operation)
    (exchange : Exchange) :
    (Answered.mk nodeId action operation (some exchange)
        (respond runtime database nodeId operation exchange)).returned = true ↔
      Returns (perform runtime (base node.endpoint) operation exchange) := by
  simp only [Answered.returned, respond, found]
  cases perform runtime (base node.endpoint) operation exchange with
  | ok value => exact iff_of_true rfl (returns_ok value)
  | error raised => exact iff_of_false (by simp [Except.map]) (not_returns_error raised)

theorem Answered.Genuine.returned_iff {answered : Answered} (genuine : answered.Genuine runtime)
    {exchange : Exchange} (sent : answered.exchange = some exchange) :
    ∃ node : Node, answered.returned = true ↔
      Returns (perform runtime (base node.endpoint) answered.operation exchange) := by
  obtain ⟨-, database, offered, made⟩ := genuine
  generalize answered.nodeId = nodeId, answered.action = action,
    answered.operation = operation at made
  subst made
  unfold ask at sent ⊢
  split at sent
  next node found =>
    split at sent
    next implemented =>
      cases sent
      simp only [implemented, if_true]
      exact ⟨node, returned_respond found action operation exchange⟩
    · cases sent
  · cases sent

theorem successful_of_exchange {answered : Answered} {exchange : Exchange}
    (behind : answered.exchange = some exchange) :
    answered.successful = true ↔ Successful exchange := by
  unfold Answered.successful
  rw [behind]
  cases exchange <;> simp [Successful]

theorem truthful_call {answered : Answered} (genuine : answered.Genuine runtime) :
    (answered.returned = true → answered.successful = true) ↔ ¬ answered.Mistaken runtime := by
  cases sent : answered.exchange with
  | none =>
      refine iff_of_true (fun returned => ?_) ?_
      · rw [genuine.unsent sent] at returned
        cases returned
      · rintro ⟨exchange, found, -⟩
        rw [sent] at found
        cases found
  | some exchange =>
      obtain ⟨node, returned⟩ := genuine.returned_iff sent
      rw [returned, successful_of_exchange sent,
        successful_iff runtime (base node.endpoint) genuine.1 exchange]
      simp [Answered.Mistaken, sent]

theorem mem_throughEscape {answered : List Answered} {call : Answered}
    (member : call ∈ throughEscape answered) : call ∈ answered := by
  rcases List.mem_append.1 member with early | last
  · exact (List.takeWhile_sublist _).subset early
  · exact (List.dropWhile_sublist _).subset (List.mem_of_mem_take last)

theorem mem_unlessEscaped {database after : Database} {answered : List Answered} {call : Answered}
    (member : call ∈ (unlessEscaped database after answered).answered) : call ∈ answered := by
  unfold unlessEscaped at member
  split at member
  · exact mem_throughEscape member
  · exact member

theorem removal_mutates (hard : Bool) (placement : UserPlacement) (userId : String) :
    (removal hard placement userId).mutates = true := by
  cases hard <;> rfl

theorem action_operations_mutate (request : Actions.Request) :
    ∀ operation ∈ request.operations, operation.mutates = true := by
  intro operation member
  cases request with
  | bulkCreateUsers nodeId orgId users =>
      obtain ⟨row, -, rfl⟩ := List.mem_map.1 member
      rfl
  | bulkUserAction nodeId orgId action userIds =>
      obtain ⟨userId, -, rfl⟩ := List.mem_map.1 member
      cases action <;> rfl
  | _ =>
      obtain rfl := List.mem_singleton.1 member
      rfl

theorem handle_genuine (database : Database) (request : Request) :
    ∀ call ∈ (handle runtime database request).answered, call.Genuine runtime := by
  intro call member
  cases request with
  | action actor request exchanges clock delivery =>
      obtain ⟨index, bound, rfl⟩ := List.mem_mapIdx.1 member
      refine ask_genuine ?_ ..
      rcases Actions.handle_cases database actor request
        (environment runtime database request exchanges clock delivery) with
        ⟨reply, same⟩ | ⟨node, -, effect⟩
      · simp [same] at bound
      · obtain ⟨-, announced, -⟩ := effect.called index _ (List.getElem?_eq_getElem bound)
        exact action_operations_mutate request _ (List.mem_of_getElem? announced)
  | provision actor username email newId targets exchanges clock =>
      obtain ⟨answer, reached, rfl⟩ := List.mem_map.1 (mem_unlessEscaped member)
      have among := (List.mem_filter.1 (List.mem_of_mem_take reached)).1
      obtain ⟨index, bound, rfl⟩ := List.mem_mapIdx.1 among
      exact ask_genuine rfl ..
  | deprovision actor logicalUserId hard exchanges clock =>
      obtain ⟨made, called, rfl⟩ := List.mem_map.1 (mem_unlessEscaped member)
      obtain ⟨placement, -, userId, -, -, operation⟩ :=
        deprovision_calls database actor logicalUserId hard _ made called
      exact ask_genuine (by rw [operation, removal_mutates]) ..
  | identityProfiles actor logicalUserId exchanges ts =>
      obtain ⟨made, called, rfl⟩ := List.mem_map.1 (mem_unlessEscaped member)
      obtain ⟨_, pair, -, -, -, operation⟩ :=
        Operations.buildIdentityBundle_calls database logicalUserId _ made called
      exact ask_genuine (by rw [operation]; rfl) ..
  | syncOne nodeId listing => cases member
  | syncAll listings => cases member

end Genuine

section Runs

variable {Moment : Type} (runtime : Runtime Moment)

-- What a run keeps of the fleet it started from.
structure Kept (initial : Database) (state : State) : Prop where
  backed : Backed Answered.returned initial.tables state.database.tables state.answered
  genuine : ∀ call ∈ state.answered, call.Genuine runtime

theorem kept_step (initial : Database) (state : State) (request : Request) (next : State)
    (kept : Kept runtime initial state) (taken : step runtime state request = some next) :
    Kept runtime initial next := by
  cases taken
  refine ⟨kept.backed.trans (handle_backed runtime state.database request), ?_⟩
  intro call member
  rcases List.mem_append.1 member with earlier | here
  · exact kept.genuine call earlier
  · exact handle_genuine state.database request call here

theorem kept_run {initial : Database} {requests : List Request} {final : State}
    (reached : run (step runtime) ⟨initial, []⟩ requests = some final) :
    Kept runtime initial final :=
  run_preserves (Kept runtime initial) (kept_step runtime initial)
    ⟨backed_refl initial.tables, by simp⟩ reached

theorem truthful_iff (initial : Database) (requests : List Request) (final : State)
    (reached : run (step runtime) ⟨initial, []⟩ requests = some final) :
    Truthful initial.tables final ↔ ∀ call ∈ final.answered, ¬ call.Mistaken runtime := by
  have kept := kept_run runtime reached
  constructor
  · intro truthful call member
    exact (truthful_call (kept.genuine call member)).1 (truthful.returned call member)
  · intro clear
    have honest : ∀ call ∈ final.answered, call.returned = true → call.successful = true :=
      fun call member => (truthful_call (kept.genuine call member)).2 (clear call member)
    exact ⟨honest, kept.backed.mono honest⟩

/-- Of every run, whatever the nodes answer. -/
def NoFalseSuccess : Prop :=
  ∀ initial requests final, run (step runtime) ⟨initial, []⟩ requests = some final →
    Truthful initial.tables final

end Runs

section Redirect

def carol : LogicalUser where
  id := "u1"
  username := "carol"
  email := none

def carolOnHcmc : UserPlacement where
  logicalUserId := "u1"
  nodeId := "n1"
  orgId := "org-1"
  remoteUserId := some "usr-1"
  status := .active
  lastError := none
  lastSyncedAt := none

def placed : Database where
  tables := ⟨[Actions.hcmc], [carol], [carolOnHcmc], []⟩
  valid := by decide

def noon : Datetime := ⟨2026, 9, 22, 12, 0, 0, 0, 0⟩

def removeCarol (status : Nat) : Request :=
  .deprovision "ops" "u1" true (fun _ => .response { status := status, content := .empty })
    fun _ => (noon, noon)

-- A proxy in front of the node answers the removal with a redirect.
theorem redirect_revokes : ¬ NoFalseSuccess bareRuntime := by
  intro truthful
  have promised := (truthful placed [removeCarol 302] _ rfl).returned
    (ask bareRuntime placed "n1" "deprovision_delete" (.deleteUser "usr-1" "org-1")
      (.response { status := 302, content := .empty }))
    (List.mem_singleton.2 rfl) rfl
  cases promised

theorem carol_removed : ∃ final,
    run (step bareRuntime) ⟨placed, []⟩ [removeCarol 204] = some final ∧
      Truthful placed.tables final := by
  refine ⟨_, rfl, (truthful_iff bareRuntime placed [removeCarol 204] _ rfl).2 ?_⟩
  intro call member
  obtain rfl : call = ask bareRuntime placed "n1" "deprovision_delete"
      (.deleteUser "usr-1" "org-1") (.response { status := 204, content := .empty }) :=
    List.mem_singleton.1 member
  rintro ⟨exchange, ⟨⟩, -, unsuccessful, -⟩
  exact unsuccessful ⟨by decide, by decide⟩

end Redirect

end Fleet.Exchanges
