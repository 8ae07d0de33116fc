import Fleet.ControlPlane.ActionEffects
import Fleet.ControlPlane.Exchanges
import Fleet.ControlPlane.Isolation
import Fleet.Shared.Paired

set_option autoImplicit false

namespace Fleet.Exchanges

open Db NodeAdapter Provisioning FanOut ShimResponses Execution Paired

def subject (entry : Datetime × AuditLog.Fields) : Option String × String :=
  (entry.2.nodeId, entry.2.action)

-- The download of an identity's profiles is no mutation of a user, an org or a server.
def isSuccess (entry : Datetime × AuditLog.Fields) : Bool :=
  entry.2.result = "success" ∧ entry.2.targetType ≠ some "identity"

def Answered.subject (answered : Answered) : Option String × String :=
  (some answered.nodeId, answered.action)

/-- The call is the removal that the placement records. -/
def Answered.Removes (answered : Answered) (placement : UserPlacement) : Prop :=
  ∃ hard userId, placement.remoteUserId = some userId ∧ answered.nodeId = placement.nodeId ∧
    answered.operation = removal hard placement userId

structure Persists (old new : UserPlacement) : Prop where
  revoked : old.status = .revoked
  key : old.key = new.key
  orgId : old.orgId = new.orgId
  remote : old.remoteUserId = new.remoteUserId

-- What became revoked or was recorded as a success has a good call of its own behind it.
structure Backed (good : Answered → Bool) (before after : Tables) (answered : List Answered) :
    Prop where
  revoked : ∀ placement ∈ after.placements, placement.status = .revoked →
    (∃ old ∈ before.placements, Persists old placement) ∨
      ∃ call ∈ answered, good call = true ∧ call.Removes placement
  recorded : ∃ entries, after.audit = before.audit ++ entries ∧
    ((entries.filter isSuccess).map subject).Sublist ((answered.filter good).map Answered.subject)

section Composition

variable {good : Answered → Bool} {before middle after : Tables}

theorem Answered.Removes.of_persists {call : Answered} {old new : UserPlacement}
    (persists : Persists old new) (removes : call.Removes old) : call.Removes new := by
  obtain ⟨hard, userId, held, node, operation⟩ := removes
  obtain ⟨-, site⟩ := Prod.mk.inj persists.key
  refine ⟨hard, userId, persists.remote.symm.trans held, node.trans site, ?_⟩
  rw [operation, removal, removal, persists.orgId]

theorem Persists.trans {first second third : UserPlacement} (early : Persists first second)
    (late : Persists second third) : Persists first third :=
  ⟨early.revoked, early.key.trans late.key, early.orgId.trans late.orgId,
    early.remote.trans late.remote⟩

theorem backed_refl (tables : Tables) : Backed good tables tables [] where
  revoked placement member revoked := .inl ⟨placement, member, revoked, rfl, rfl, rfl⟩
  recorded := ⟨[], by simp, by simp⟩

theorem Backed.trans {first second : List Answered} (early : Backed good before middle first)
    (late : Backed good middle after second) : Backed good before after (first ++ second) where
  revoked := by
    intro placement member revoked
    rcases late.revoked placement member revoked with ⟨old, present, persists⟩ |
      ⟨call, made, good, removes⟩
    · rcases early.revoked old present persists.revoked with ⟨older, there, earlier⟩ |
        ⟨call, made, good, removes⟩
      · exact .inl ⟨older, there, earlier.trans persists⟩
      · exact .inr ⟨call, List.mem_append_left _ made, good, removes.of_persists persists⟩
    · exact .inr ⟨call, List.mem_append_right _ made, good, removes⟩
  recorded := by
    obtain ⟨entries, appended, matched⟩ := early.recorded
    obtain ⟨entries', appended', matched'⟩ := late.recorded
    refine ⟨entries ++ entries', by rw [appended', appended, List.append_assoc], ?_⟩
    simp only [List.filter_append, List.map_append]
    exact matched.append matched'

theorem Backed.mono {better : Answered → Bool} {answered : List Answered}
    (backed : Backed good before after answered)
    (implied : ∀ call ∈ answered, good call = true → better call = true) :
    Backed better before after answered where
  revoked := by
    intro placement member revoked
    refine (backed.revoked placement member revoked).imp_right ?_
    rintro ⟨call, made, good, removes⟩
    exact ⟨call, made, implied call made good, removes⟩
  recorded := by
    obtain ⟨entries, appended, matched⟩ := backed.recorded
    refine ⟨entries, appended, matched.trans (List.Sublist.map _ ?_)⟩
    have fewer : answered.filter good = (answered.filter better).filter good := by
      rw [List.filter_filter]
      apply List.filter_congr
      intro call made
      cases found : good call with
      | false => rfl
      | true => simp [implied call made found]
    rw [fewer]
    exact List.filter_sublist

theorem backed_of_frame {answered : List Answered} (placements : after.placements = before.placements)
    {entries : List (Datetime × AuditLog.Fields)} (appended : after.audit = before.audit ++ entries)
    (matched : ((entries.filter isSuccess).map subject).Sublist
      ((answered.filter good).map Answered.subject)) : Backed good before after answered where
  revoked placement member revoked :=
    .inl ⟨placement, placements ▸ member, revoked, rfl, rfl, rfl⟩
  recorded := ⟨entries, appended, matched⟩

-- One entry a call, in order.
def Matches (entry : Datetime × AuditLog.Fields) (call : Answered) : Prop :=
  (isSuccess entry = true → call.returned = true) ∧ subject entry = call.subject

theorem matched_sublist {entries : List (Datetime × AuditLog.Fields)} {answered : List Answered}
    (matched : List.Forall₂ Matches entries answered) :
    ((entries.filter isSuccess).map subject).Sublist
      ((answered.filter Answered.returned).map Answered.subject) := by
  induction matched with
  | nil => simp
  | cons same _ ih =>
      obtain ⟨success, subjects⟩ := same
      rw [List.filter_cons, List.filter_cons]
      split
      next recorded =>
        rw [if_pos (success recorded), List.map_cons, List.map_cons, subjects]
        exact ih.cons_cons _
      · split
        · exact ih.trans (List.sublist_cons_self ..)
        · exact ih

theorem unrecorded_sublist {entries : List (Datetime × AuditLog.Fields)} {answered : List Answered}
    (none : ∀ entry ∈ entries, isSuccess entry = false) :
    ((entries.filter isSuccess).map subject).Sublist
      ((answered.filter good).map Answered.subject) := by
  have empty : entries.filter isSuccess = [] :=
    List.filter_eq_nil_iff.2 fun entry member => by simp [none entry member]
  simp [empty]

end Composition

section Sweeps

variable {good : Answered → Bool}

theorem observe_persists {users : List NodeAdapter.UserInfo} {now : Datetime} {placement : UserPlacement}
    (revoked : (Sync.observe users now placement).status = .revoked) :
    Persists placement (Sync.observe users now placement) := by
  unfold Sync.observe at revoked ⊢
  split at revoked
  · exact ⟨revoked, rfl, rfl, rfl⟩
  next userId tracked =>
    split at revoked <;> cases revoked

theorem observed_backed (users : List NodeAdapter.UserInfo) (now : Datetime) (tables : Tables)
    (nodeId : String) : Backed good tables (Sync.observed users now tables nodeId) [] where
  revoked := by
    intro placement member revoked
    obtain ⟨old, present, rfl⟩ := List.mem_map.1 member
    refine .inl ⟨old, present, ?_⟩
    split at revoked
    next here =>
      rw [if_pos here]
      exact observe_persists revoked
    next elsewhere =>
      rw [if_neg elsewhere]
      exact ⟨revoked, rfl, rfl, rfl⟩
  recorded := ⟨[], by simp [Sync.observed], by simp⟩

theorem syncNode_backed {database next : Database} {node : Node} {listing : Sync.Listing}
    {calls : List NodeAdapter.Call} {report : Sync.NodeSyncReport}
    (swept : Sync.syncNode database node listing = (calls, .ok (report, next))) :
    Backed good database.tables next.tables [] := by
  rcases Operations.syncNode_ok swept with ⟨users, -, -, tables⟩ | ⟨_, _, -, rfl⟩
  · rw [tables]
    exact observed_backed users listing.now database.tables node.id
  · exact backed_refl _

theorem sweep_backed (listings : String → Sync.Listing) (nodes : List Node) (database : Database) :
    Backed good database.tables (Sync.sweep listings database nodes).2.2.tables [] := by
  induction nodes generalizing database with
  | nil => exact backed_refl _
  | cons node rest ih =>
      rw [Sync.sweep]
      split
      next swept => exact (syncNode_backed swept).trans (ih _)
      · exact ih database

theorem syncOne_backed (database : Database) (nodeId : String) (listing : Sync.Listing) :
    Backed good database.tables (Operations.syncOne database nodeId listing).database.tables [] := by
  unfold Operations.syncOne
  split
  · exact backed_refl _
  · split
    next swept => exact syncNode_backed swept
    · exact backed_refl _

end Sweeps

section Removals

variable {Moment : Type} (runtime : Runtime Moment) (database : Database)

theorem ask_subject (nodeId action : String) (operation : Operation) (exchange : Exchange) :
    (ask runtime database nodeId action operation exchange).subject = (some nodeId, action) := by
  unfold ask
  split
  · split <;> rfl
  · rfl

theorem ask_operation (nodeId action : String) (operation : Operation) (exchange : Exchange) :
    (ask runtime database nodeId action operation exchange).nodeId = nodeId ∧
      (ask runtime database nodeId action operation exchange).operation = operation := by
  unfold ask
  split
  · split <;> exact ⟨rfl, rfl⟩
  · exact ⟨rfl, rfl⟩

theorem settled_reply {α : Type} (result : Option String → α) {answered : Answered}
    (clock : Datetime × Datetime) :
    (∃ value, (settled result answered clock).reply = .ok value) ↔ answered.returned = true := by
  unfold settled Answered.returned
  cases answered.completion with
  | ok id => simp
  | error raised => cases raised <;> simp

-- A placement that is revoked after the loop was revoked before it or was just released.
theorem mem_retired {actor : String} {lu : LogicalUser} {hard : Bool}
    {answers : String → Answer Unit} {tables : Tables} {placements : List UserPlacement}
    {placement : UserPlacement}
    (member : placement ∈ (placements.foldl (retire actor lu hard answers) tables).placements) :
    placement ∈ tables.placements ∨ ∃ old ∈ placements, ∃ userId, old.remoteUserId = some userId ∧
      placement = release (answers old.nodeId) old := by
  induction placements generalizing tables with
  | nil => exact .inl member
  | cons head rest ih =>
      rw [List.foldl_cons] at member
      rcases ih member with here | ⟨old, later, found⟩
      · unfold retire at here
        split at here
        next node userId _ held =>
          rcases Keyed.mem_upsert here with released | ⟨kept, -⟩
          · exact .inr ⟨head, by simp, userId, held, released⟩
          · exact .inl kept
        · exact .inl here
      · exact .inr ⟨old, by simp [later], found⟩

theorem removalAnswer_of_mem {logicalUserId : String} {hard : Bool}
    {exchanges : String → Exchange} {clock : String → Datetime × Datetime}
    {placement : UserPlacement} (member : placement ∈ database.tables.placementsOf logicalUserId)
    {userId : String} (held : placement.remoteUserId = some userId) :
    removalAnswer runtime database logicalUserId hard exchanges clock placement.nodeId =
      settled (fun _ => ()) (askRemoval runtime database hard exchanges placement userId)
        (clock placement.nodeId) := by
  simp only [removalAnswer, placement?_of_mem database.valid member, held, Option.getD_some]

theorem deprovisionEntry_matches {actor : String} {lu : LogicalUser} {hard : Bool} {node : Node}
    {userId : String} {answered : Answered} {clock : Datetime × Datetime}
    (about : answered.subject = (some node.id, removalAction hard)) :
    Matches (deprovisionEntry actor lu hard node userId (settled (fun _ => ()) answered clock))
      answered := by
  unfold Matches Answered.returned
  rw [about]
  unfold deprovisionEntry settled
  cases answered.completion with
  | ok id => exact ⟨fun _ => rfl, rfl⟩
  | error raised => cases raised <;> exact ⟨by simp [isSuccess], rfl⟩

theorem removals_match (actor : String) {lu : LogicalUser} {hard : Bool}
    {exchanges : String → Exchange} {clock : String → Datetime × Datetime}
    {placements : List UserPlacement}
    (known : ∀ placement ∈ placements, placement ∈ database.tables.placementsOf lu.id) :
    List.Forall₂ Matches
      (placements.filterMap (Isolation.removalRecord database.tables actor lu hard
        (removalAnswer runtime database lu.id hard exchanges clock)))
      ((placements.flatMap (removalCalls hard
        (removalAnswer runtime database lu.id hard exchanges clock))).map fun call =>
          ask runtime database call.nodeId (removalAction hard) call.operation
            (exchanges call.nodeId)) := by
  induction placements with
  | nil => exact .nil
  | cons placement rest ih =>
      have later := ih fun other member => known other (List.mem_cons_of_mem _ member)
      have member := known placement List.mem_cons_self
      cases held : placement.remoteUserId with
      | none => simpa [Isolation.removalRecord, removalCalls, held] using later
      | some userId =>
          obtain ⟨node, found⟩ := Option.isSome_iff_exists.1 (Keyed.lookup_isSome.2
            (database.valid.placed placement (List.mem_filter.1 member).1))
          have registered : database.tables.node? placement.nodeId = some node := found
          have entry : Isolation.removalRecord database.tables actor lu hard
              (removalAnswer runtime database lu.id hard exchanges clock) placement =
                some (deprovisionEntry actor lu hard node userId
                  (settled (fun _ => ()) (askRemoval runtime database hard exchanges placement userId)
                    (clock placement.nodeId))) := by
            rw [Isolation.removalRecord, held, registered,
              removalAnswer_of_mem runtime database member held]
            rfl
          rw [List.filterMap_cons_some entry, List.flatMap_cons, List.map_append]
          simp only [removalCalls, held, Option.toList_some, List.map_cons, List.map_nil,
            List.singleton_append]
          refine .cons (deprovisionEntry_matches ?_) later
          rw [askRemoval, ask_subject, Tables.node?_id registered]

theorem removes_release {call : Answered} {placement : UserPlacement}
    (removes : call.Removes placement) (answer : Answer Unit) :
    call.Removes (release answer placement) := by
  unfold release
  split <;> exact removes

theorem askRemoval_mem {hard : Bool} {exchanges : String → Exchange}
    {answers : String → Answer Unit} {placements : List UserPlacement} {placement : UserPlacement}
    (member : placement ∈ placements) {userId : String}
    (held : placement.remoteUserId = some userId) :
    askRemoval runtime database hard exchanges placement userId ∈
      (placements.flatMap (removalCalls hard answers)).map fun call =>
        ask runtime database call.nodeId (removalAction hard) call.operation
          (exchanges call.nodeId) := by
  have called : (⟨placement.nodeId, removal hard placement userId,
      (answers placement.nodeId).outcome fun _ => .done⟩ : NodeAdapter.Call) ∈
        removalCalls hard answers placement := by simp [removalCalls, held]
  exact List.mem_map.2 ⟨_, List.mem_flatMap.2 ⟨placement, member, called⟩, rfl⟩

theorem unlessEscaped_backed {after : Database} {answered : List Answered}
    (backed : Backed Answered.returned database.tables after.tables answered) :
    Backed Answered.returned database.tables
      (unlessEscaped database after answered).database.tables
      (unlessEscaped database after answered).answered := by
  unfold unlessEscaped
  split
  · exact backed_of_frame rfl (List.append_nil _).symm (unrecorded_sublist (by simp))
  · exact backed

theorem backed_of_unchanged {outcome : Outcome} (same : outcome.database = database)
    (answered : List Answered) :
    Backed Answered.returned database.tables outcome.database.tables answered := by
  rw [same]
  exact backed_of_frame rfl (List.append_nil _).symm (unrecorded_sublist (by simp))

theorem deprovision_backed (actor logicalUserId : String) (hard : Bool)
    (exchanges : String → Exchange) (clock : String → Datetime × Datetime) :
    Backed Answered.returned database.tables
      (deprovision runtime database actor logicalUserId hard exchanges clock).database.tables
      (deprovision runtime database actor logicalUserId hard exchanges clock).answered := by
  apply unlessEscaped_backed
  rcases deprovision_cases database actor logicalUserId hard
    (removalAnswer runtime database logicalUserId hard exchanges clock) with
    ⟨-, same, -⟩ | ⟨lu, retired⟩
  · exact backed_of_unchanged database same _
  · obtain rfl : lu.id = logicalUserId := Keyed.lookup_key retired.found
    rw [retired.called]
    constructor
    · intro placement member revoked
      rw [retired.tables] at member
      rcases mem_retired member with before | ⟨old, present, userId, held, rfl⟩
      · exact .inl ⟨placement, before, revoked, rfl, rfl, rfl⟩
      · rw [removalAnswer_of_mem runtime database present held] at revoked ⊢
        cases reply : (settled (fun _ => ()) (askRemoval runtime database hard exchanges old userId)
            (clock old.nodeId)).reply with
        | ok value =>
            refine .inr ⟨askRemoval runtime database hard exchanges old userId, ?_, ?_, ?_⟩
            · exact askRemoval_mem runtime database present held
            · exact (settled_reply _ _).1 ⟨value, reply⟩
            · obtain ⟨site, operation⟩ := ask_operation runtime database old.nodeId
                (removalAction hard) (removal hard old userId) (exchanges old.nodeId)
              exact removes_release ⟨hard, userId, held, site, operation⟩ _
        | error text =>
            refine .inl ⟨old, (List.mem_filter.1 present).1, ?_⟩
            simp only [release, reply] at revoked ⊢
            exact ⟨revoked, rfl, rfl, rfl⟩
    · refine ⟨_, ?_, matched_sublist (removals_match runtime database actor fun _ member => member)⟩
      rw [retired.tables, Isolation.retire_audit]

end Removals

section Creations

variable {Moment : Type} (runtime : Runtime Moment) (database : Database)

theorem settle_unrevoked (attempt : Attempt) (placement : UserPlacement) :
    (settle attempt placement).status ≠ .revoked := by
  unfold settle
  split <;> simp

theorem mem_advanced {actor username : String} {lu : LogicalUser} {tables : Tables}
    {attempts : List Attempt} {placement : UserPlacement} (revoked : placement.status = .revoked)
    (member : placement ∈ (attempts.foldl (advance actor username lu) tables).placements) :
    placement ∈ tables.placements := by
  induction attempts generalizing tables with
  | nil => exact member
  | cons attempt rest ih =>
      rw [List.foldl_cons] at member
      have here := ih member
      unfold advance at here
      split at here
      · rcases Keyed.mem_upsert here with rfl | ⟨kept, -⟩
        · exact absurd revoked (settle_unrevoked _ _)
        · exact kept
      · exact here

theorem provisionEntry_matches {actor username : String} {node : Node} {target : Target}
    {answered : Answered} {clock : Datetime × Datetime}
    (about : answered.subject = (some node.id, "provision_user")) :
    Matches (provisionEntry actor username node
      ⟨target, settled (fun id => id.getD "") answered clock⟩) answered := by
  unfold Matches Answered.returned
  rw [about]
  unfold provisionEntry settled
  cases answered.completion with
  | ok id => exact ⟨fun _ => rfl, rfl⟩
  | error raised => cases raised <;> exact ⟨by simp [isSuccess], rfl⟩

-- An attempt and the call it stands for.
def Attempts (answer : Target × Answered) (attempt : Attempt) : Prop :=
  attempt.target = answer.1 ∧
    answer.2.subject = (some answer.1.nodeId, "provision_user") ∧
    ∃ clock, attempt.answer = settled (fun id => id.getD "") answer.2 clock

theorem creations_match (actor username : String) {answers : List (Target × Answered)}
    {attempts : List Attempt} (paired : List.Forall₂ Attempts answers attempts)
    (known : ∀ attempt ∈ attempts, (database.tables.node? attempt.target.nodeId).isSome) :
    List.Forall₂ Matches
      (attempts.filterMap (Isolation.provisionRecord database.tables actor username))
      (answers.map Prod.snd) := by
  induction paired with
  | nil => exact .nil
  | @cons answer attempt answers attempts first _ ih =>
      obtain ⟨target, about, clock, settled⟩ := first
      obtain ⟨node, found⟩ := Option.isSome_iff_exists.1 (known attempt List.mem_cons_self)
      have entry : Isolation.provisionRecord database.tables actor username attempt =
          some (provisionEntry actor username node attempt) := by
        rw [Isolation.provisionRecord, found]
        rfl
      rw [List.filterMap_cons_some entry, List.map_cons]
      refine .cons ?_ (ih fun other member => known other (List.mem_cons_of_mem _ member))
      obtain ⟨target', answer'⟩ := attempt
      subst settled
      rw [← target, ← Tables.node?_id found] at about
      exact provisionEntry_matches about

theorem provision_backed (actor username : String) (email : Option String) (newId : String)
    (targets : List Target) (exchanges : Nat → Exchange) (clock : Nat → Datetime × Datetime) :
    Backed Answered.returned database.tables
      (provision runtime database actor username email newId targets exchanges clock).database.tables
      (provision runtime database actor username email newId targets exchanges clock).answered := by
  apply unlessEscaped_backed
  have subjects : ∀ answer ∈ creationAnswers runtime database username email targets exchanges,
      answer.2.subject = (some answer.1.nodeId, "provision_user") := by
    intro answer member
    obtain ⟨index, bound, rfl⟩ := List.mem_mapIdx.1 member
    exact ask_subject runtime database _ _ _ _
  generalize creationAnswers runtime database username email targets exchanges = answers at subjects ⊢
  have paired : List.Forall₂ Attempts answers (answers.mapIdx fun index answer =>
      ⟨answer.1, settled (fun id => id.getD "") answer.2 (clock index)⟩) :=
    forall₂_mapIdx _ _ fun index answer found =>
      ⟨rfl, subjects answer (List.mem_of_getElem? found), clock index, rfl⟩
  generalize answers.mapIdx (fun index answer =>
    (⟨answer.1, settled (fun id => id.getD "") answer.2 (clock index)⟩ : Attempt)) = attempts
    at paired ⊢
  rcases provision_cases database actor username email newId attempts with
    ⟨-, same, -⟩ | ⟨lu, after, -, completed⟩
  · exact backed_of_unchanged database same _
  · have known : ∀ attempt ∈ attempts,
        (database.tables.node? attempt.target.nodeId).isSome := by
      intro attempt member
      obtain ⟨node, found, -⟩ := completed.served attempt member
      simp [found]
    have reached : (answers.filter fun answer =>
        (database.tables.node? answer.1.nodeId).isSome) = answers := by
      refine List.filter_eq_self.2 fun answer member => ?_
      obtain ⟨attempt, present, target, -⟩ := exists_right paired member
      rw [← target]
      exact known attempt present
    have all : (answers.take (Provisioning.provision database actor username email newId
        attempts).calls.length) = answers := by
      rw [completed.called, List.length_map, ← paired.length_eq, List.take_length]
    rw [reached, all]
    constructor
    · intro placement member revoked
      rw [completed.tables] at member
      have before := mem_advanced revoked member
      rw [completed.identified.placements] at before
      exact .inl ⟨placement, before, revoked, rfl, rfl, rfl⟩
    · refine ⟨_, ?_, matched_sublist (creations_match database actor username paired known)⟩
      rw [completed.tables, Isolation.advance_audit,
        Isolation.provisionRecord_congr completed.identified.nodes, completed.identified.audit]

end Creations

section Actions

variable {Moment : Type} (runtime : Runtime Moment) (database : Database)

theorem ask_completion {nodeId : String} {node : Node}
    (found : database.tables.node? nodeId = some node) (action : String) (operation : Operation)
    (exchange : Exchange) (answer : Actions.Answer)
    (responded : answer.completion = respond runtime database nodeId operation exchange) :
    (ask runtime database nodeId action operation exchange).completion =
      Actions.complete node.adapterType operation answer := by
  simp only [ask, found, Actions.complete, responded]
  split <;> rfl

theorem recorded_matches {actor action : String} {entry : Datetime × AuditLog.Fields}
    {call : Actions.Call} {answered : Answered}
    (records : Actions.Records actor action call entry.2)
    (subject : answered.subject = (some call.nodeId, action))
    (completion : answered.completion = call.completion) : Matches entry answered := by
  refine ⟨fun success => ?_, ?_⟩
  · have recorded : entry.2.result = "success" := by
      simp only [isSuccess, decide_eq_true_eq] at success
      exact success.1
    obtain ⟨id, returned⟩ := records.result.1 recorded
    rw [Answered.returned, completion, returned]
  · rw [subject, Exchanges.subject, records.node, records.action]

theorem action_backed (actor : String) (request : Actions.Request) (exchanges : Nat → Exchange)
    (clock : Nat → Datetime) (delivery : Actions.Delivery) :
    Backed Answered.returned database.tables
      (action runtime database actor request exchanges clock delivery).database.tables
      (action runtime database actor request exchanges clock delivery).answered := by
  unfold action
  rcases Actions.handle_cases database actor request
    (environment runtime database request exchanges clock delivery) with
    ⟨reply, same⟩ | ⟨node, found, effect⟩
  · rw [same]
    exact backed_refl _
  · obtain ⟨entries, tables, recorded⟩ := effect.recorded
    have site : node.id = request.nodeId := Tables.node?_id found
    refine backed_of_frame (by rw [tables]) (by rw [tables]) ?_
    rcases recorded with matched | silent
    · apply matched_sublist
      have asked : List.Forall₂ (fun (call : Actions.Call) (answered : Answered) =>
          answered.subject = (some call.nodeId, request.action) ∧
            answered.completion = call.completion)
          (Actions.handle database actor request
            (environment runtime database request exchanges clock delivery)).calls _ :=
        forall₂_mapIdx (fun index (call : Actions.Call) =>
          ask runtime database call.nodeId request.action call.operation (exchanges index)) _
          fun index call made => ?_
      · exact joined asked (List.forall₂_map_right_iff.1 matched)
          fun call answered entry ⟨subject, completion⟩ records =>
            recorded_matches records subject completion
      · obtain ⟨here, operation, completion⟩ := effect.called index call made
        have registered : database.tables.node? call.nodeId = some node := by
          rw [here, site, found]
        refine ⟨ask_subject runtime database _ _ _ _, ?_⟩
        rw [completion]
        apply ask_completion runtime database registered
        simp only [environment, operation, here, site]
    · exact unrecorded_sublist fun entry member => by simp [isSuccess, silent entry member]

theorem identityProfiles_backed (actor logicalUserId : String) (exchanges : String → Exchange)
    (ts : Datetime) :
    Backed Answered.returned database.tables
      (identityProfiles runtime database actor logicalUserId exchanges ts).database.tables
      (identityProfiles runtime database actor logicalUserId exchanges ts).answered := by
  apply unlessEscaped_backed
  split
  · exact backed_of_frame rfl rfl (unrecorded_sublist (by simp [isSuccess, downloadEntry]))
  · exact backed_of_frame rfl (List.append_nil _).symm (unrecorded_sublist (by simp))

end Actions

theorem handle_backed {Moment : Type} (runtime : Runtime Moment) (database : Database)
    (request : Request) :
    Backed Answered.returned database.tables (handle runtime database request).database.tables
      (handle runtime database request).answered := by
  cases request with
  | action => exact action_backed ..
  | provision => exact provision_backed ..
  | deprovision => exact deprovision_backed ..
  | identityProfiles => exact identityProfiles_backed ..
  | syncOne nodeId listing => exact syncOne_backed database nodeId listing
  | syncAll listings => exact sweep_backed listings _ database

end Fleet.Exchanges
