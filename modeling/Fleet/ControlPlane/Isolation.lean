import Fleet.ControlPlane.DeprovisionLoop
import Fleet.ControlPlane.ProvisionLoop

set_option autoImplicit false

namespace Fleet.Isolation

open Db NodeAdapter Provisioning FanOut

def Settled (attempt : Attempt) (placement : UserPlacement) : Prop :=
  match attempt.answer.reply with
  | .ok userId => placement.status = .active ∧ placement.remoteUserId = some userId
  | .error _ => placement.status = .failed ∧ placement.lastError ≠ none

def Agree (first second : Attempt) : Prop :=
  match first.answer.reply, second.answer.reply with
  | .ok userId, .ok other => userId = other
  | .error _, .error _ => True
  | _, _ => False

-- The audit entry of one target, from the registry and its own answer alone.
def provisionRecord (tables : Tables) (actor username : String) (attempt : Attempt) :
    Option (Datetime × AuditLog.Fields) :=
  (tables.node? attempt.target.nodeId).map fun node => provisionEntry actor username node attempt

structure Isolated (database : Database) (actor username : String) (email : Option String)
    (attempts : List Attempt) (outcome : Outcome) : Prop where
  committed : outcome.raised = none
  called : outcome.calls = attempts.map (creationCall username email)
  settled : ∀ attempt ∈ attempts, ∃ lu ∈ outcome.database.tables.users, lu.username = username ∧
    ∃ placement,
      outcome.database.tables.placement? lu.id attempt.target.nodeId = some placement ∧
        Settled attempt placement
  recorded : outcome.database.tables.audit =
    database.tables.audit ++ attempts.filterMap (provisionRecord database.tables actor username)

/-- Every target can be called, and targets of one node answer alike. -/
structure Separable (database : Database) (username : String) (email : Option String)
    (attempts : List Attempt) : Prop where
  served : ∀ attempt ∈ attempts, Served username email database.tables attempt
  agree : ∀ first ∈ attempts, ∀ second ∈ attempts,
    first.target.nodeId = second.target.nodeId → Agree first second

def Withdrawn (answer : Answer Unit) (before after : UserPlacement) : Prop :=
  match answer.reply with
  | .ok () => after.status = .revoked ∧ after.lastError = none
  | .error text => after.status = before.status ∧ after.lastError = some text

def removalRecord (tables : Tables) (actor : String) (lu : LogicalUser) (hard : Bool)
    (answers : String → Answer Unit) (placement : UserPlacement) :
    Option (Datetime × AuditLog.Fields) :=
  placement.remoteUserId.bind fun userId => (tables.node? placement.nodeId).map fun node =>
    deprovisionEntry actor lu hard node userId (answers placement.nodeId)

structure Released (database : Database) (actor : String) (lu : LogicalUser) (hard : Bool)
    (answers : String → Answer Unit) (outcome : Outcome) : Prop where
  committed : outcome.raised = none
  called : outcome.calls =
    (database.tables.placementsOf lu.id).flatMap (removalCalls hard answers)
  withdrawn : ∀ placement ∈ database.tables.placementsOf lu.id, ∃ after,
    outcome.database.tables.placement? lu.id placement.nodeId = some after ∧
      if placement.remoteUserId = none then after = placement
      else Withdrawn (answers placement.nodeId) placement after
  recorded : outcome.database.tables.audit = database.tables.audit ++
    (database.tables.placementsOf lu.id).filterMap
      (removalRecord database.tables actor lu hard answers)

section Targets

variable {actor username : String} {email : Option String} {lu : LogicalUser}

theorem settled_settle (attempt : Attempt) (placement : UserPlacement) :
    Settled attempt (settle attempt placement) := by
  unfold Settled settle
  cases attempt.answer.reply <;> simp

theorem Settled.agree {first second : Attempt} {placement : UserPlacement}
    (settled : Settled first placement) (other : Settled second placement) :
    Agree first second := by
  unfold Settled at settled other
  unfold Agree
  split at settled <;> split at other <;> simp_all

theorem Settled.of_agree {first second : Attempt} {placement : UserPlacement}
    (agree : Agree first second) (settled : Settled second placement) :
    Settled first placement := by
  unfold Settled at settled ⊢
  unfold Agree at agree
  split <;> split at settled <;> simp_all

-- Once a target is settled, only a later target of its node can unsettle it, and not if it agrees.
theorem settled_later {tables : Tables} {attempt : Attempt} {rest : List Attempt}
    (agree : ∀ other ∈ rest, other.target.nodeId = attempt.target.nodeId → Agree attempt other)
    (settled : ∃ placement, tables.placement? lu.id attempt.target.nodeId = some placement ∧
      Settled attempt placement) :
    ∃ placement,
      (rest.foldl (advance actor username lu) tables).placement? lu.id attempt.target.nodeId =
          some placement ∧ Settled attempt placement := by
  induction rest generalizing tables with
  | nil => exact settled
  | cons other rest ih =>
      apply ih fun later member => agree later (List.mem_cons_of_mem _ member)
      rw [placement?_advance]
      split
      next here =>
        have alike := agree other List.mem_cons_self here.1
        exact ⟨_, rfl, (settled_settle other _).of_agree alike⟩
      next => exact settled

theorem settled_all {tables : Tables} {attempts : List Attempt}
    (served : ∀ attempt ∈ attempts, Served username email tables attempt)
    (agree : ∀ first ∈ attempts, ∀ second ∈ attempts,
      first.target.nodeId = second.target.nodeId → Agree first second) :
    ∀ attempt ∈ attempts, ∃ placement,
      (attempts.foldl (advance actor username lu) tables).placement? lu.id
          attempt.target.nodeId = some placement ∧ Settled attempt placement := by
  induction attempts generalizing tables with
  | nil => simp
  | cons head rest ih =>
      intro attempt member
      rcases List.mem_cons.1 member with rfl | later
      · obtain ⟨node, found, -⟩ := served attempt member
        rw [List.foldl_cons]
        apply settled_later
        · intro other inRest same
          exact agree attempt member other (List.mem_cons_of_mem _ inRest) same.symm
        · rw [placement?_advance, if_pos ⟨rfl, by simp [found]⟩]
          exact ⟨_, rfl, settled_settle attempt _⟩
      · exact ih
          (fun other inRest => (served other (List.mem_cons_of_mem _ inRest)).congr (by simp))
          (fun first inFirst second inSecond => agree first (List.mem_cons_of_mem _ inFirst) second
            (List.mem_cons_of_mem _ inSecond)) attempt later

theorem provisionRecord_congr {tables other : Tables} (same : other.nodes = tables.nodes) :
    provisionRecord other actor username = provisionRecord tables actor username := by
  funext attempt
  rw [provisionRecord, provisionRecord, Tables.node?_congr same]

theorem advance_audit (tables : Tables) (attempts : List Attempt) :
    (attempts.foldl (advance actor username lu) tables).audit =
      tables.audit ++ attempts.filterMap (provisionRecord tables actor username) := by
  induction attempts generalizing tables with
  | nil => simp
  | cons attempt rest ih =>
      rw [List.foldl_cons, ih, provisionRecord_congr (advance_nodes tables attempt)]
      cases found : tables.node? attempt.target.nodeId <;>
        simp [advance, provisionRecord, found]

end Targets

section Placements

variable {actor : String} {lu : LogicalUser} {hard : Bool} {answers : String → Answer Unit}

theorem withdrawn_release (answer : Answer Unit) (placement : UserPlacement) :
    Withdrawn answer placement (release answer placement) := by
  unfold Withdrawn release
  cases answer.reply <;> simp

theorem removalRecord_congr {tables other : Tables} (same : other.nodes = tables.nodes) :
    removalRecord other actor lu hard answers = removalRecord tables actor lu hard answers := by
  funext placement
  rw [removalRecord, removalRecord, Tables.node?_congr same]

theorem retire_audit (tables : Tables) (placements : List UserPlacement) :
    (placements.foldl (retire actor lu hard answers) tables).audit =
      tables.audit ++ placements.filterMap (removalRecord tables actor lu hard answers) := by
  induction placements generalizing tables with
  | nil => simp
  | cons placement rest ih =>
      rw [List.foldl_cons, ih, removalRecord_congr (retire_nodes tables placement)]
      cases found : tables.node? placement.nodeId <;> cases remote : placement.remoteUserId <;>
        simp [retire, removalRecord, found, remote]

end Placements

theorem isolated_iff (database : Database) (actor username : String) (email : Option String)
    {newId : String} (unused : newId ∉ database.tables.users.map LogicalUser.id)
    (attempts : List Attempt) :
    Isolated database actor username email attempts
        (provision database actor username email newId attempts) ↔
      Separable database username email attempts := by
  rcases provision_cases database actor username email newId attempts with
    ⟨raised, -, ⟨used, -⟩ | ⟨attempt, member, unserved⟩⟩ | ⟨lu, after, -, completed⟩
  · exact absurd used unused
  · exact ⟨fun isolated => absurd isolated.committed raised,
      fun separable => absurd (separable.served attempt member) unserved⟩
  · constructor
    · intro isolated
      refine ⟨completed.served, fun first inFirst second inSecond same => ?_⟩
      obtain ⟨lu, known, named, placement, found, settled⟩ := isolated.settled first inFirst
      obtain ⟨other, otherKnown, otherNamed, placement', found', settled'⟩ :=
        isolated.settled second inSecond
      obtain rfl := completed.rooted.valid.usernames.eq_of_key known otherKnown
        (named.trans otherNamed.symm)
      rw [← same, found] at found'
      obtain rfl := Option.some.inj found'
      exact settled.agree settled'
    · intro separable
      refine ⟨completed.committed, completed.called, fun attempt member => ?_, ?_⟩
      · have member' : lu ∈
            (provision database actor username email newId attempts).database.tables.users := by
          rw [completed.rooted.users]
          exact completed.identified.member
        refine ⟨lu, member', completed.identified.username, ?_⟩
        rw [completed.tables]
        exact settled_all (fun attempt member => (separable.served attempt member).congr
          completed.identified.nodes) separable.agree attempt member
      · rw [completed.tables, advance_audit, provisionRecord_congr completed.identified.nodes,
          completed.identified.audit]

theorem released_iff (database : Database) (actor logicalUserId : String) (hard : Bool)
    (answers : String → Answer Unit) {lu : LogicalUser}
    (found : database.tables.user? logicalUserId = some lu) :
    Released database actor lu hard answers
        (deprovision database actor logicalUserId hard answers) ↔
      ∀ placement ∈ database.tables.placementsOf lu.id,
        Removable hard database.tables placement := by
  rcases deprovision_cases database actor logicalUserId hard answers with
    ⟨raised, -, stuck⟩ | ⟨other, retired⟩
  · obtain ⟨placement, member, unremovable⟩ := stuck lu found
    exact ⟨fun released => absurd released.committed raised,
      fun removable => absurd (removable placement member) unremovable⟩
  · obtain rfl := Option.some.inj (found.symm.trans retired.found)
    refine ⟨fun _ => retired.removable, fun _ => ⟨retired.committed, retired.called, ?_, ?_⟩⟩
    · intro placement member
      refine ⟨_, retired.placement? member, ?_⟩
      by_cases held : placement.remoteUserId = none
      · simp [removed, held]
      · simpa [removed, held] using withdrawn_release (answers placement.nodeId) placement
    · rw [retired.tables, retire_audit]

theorem fanOut_isolated_iff (database : Database) (actor : String) :
    (∀ (username : String) (email : Option String) (newId : String) (attempts : List Attempt),
      newId ∉ database.tables.users.map LogicalUser.id →
        (Isolated database actor username email attempts
            (provision database actor username email newId attempts) ↔
          Separable database username email attempts)) ∧
      ∀ (logicalUserId : String) (hard : Bool) (answers : String → Answer Unit)
        (lu : LogicalUser), database.tables.user? logicalUserId = some lu →
          (Released database actor lu hard answers
              (deprovision database actor logicalUserId hard answers) ↔
            ∀ placement ∈ database.tables.placementsOf lu.id,
              Removable hard database.tables placement) :=
  ⟨fun username email _ attempts unused =>
    isolated_iff database actor username email unused attempts,
   fun logicalUserId hard answers _ found =>
    released_iff database actor logicalUserId hard answers found⟩

section Sites

def FanOutIsolates : Prop :=
  ∀ (database : Database) (actor username : String) (email : Option String) (newId : String)
    (attempts : List Attempt), newId ∉ database.tables.users.map LogicalUser.id →
      Isolated database actor username email attempts
        (provision database actor username email newId attempts)

def site (id : String) (credentials : Credentials) : Node :=
  { id := id, name := "vpn-" ++ id, region := "SG", endpoint := "https://" ++ id,
    adapterType := .shim, enabled := true, credentials := credentials, status := .reachable,
    lastSyncedAt := none }

def shimCredentials : Credentials := [("token", .str "t"), ("secret", .str "s")]

def noon : Datetime := ⟨2026, 9, 22, 12, 0, 0, 0, 0⟩

def attempt (nodeId : String) (reply : Except String String) : Attempt :=
  ⟨⟨nodeId, "org-1"⟩, ⟨reply, noon, noon⟩⟩

-- The registry accepts a node without credentials; the adapter class does not.
def halfRegistered : Database :=
  ⟨⟨[site "n1" shimCredentials, site "n2" []], [], [], []⟩, by decide⟩

def bothSites : List Attempt := [attempt "n1" (.ok "usr-1"), attempt "n2" (.ok "usr-2")]

-- The user made on the first site stays; its placement and audit entry are rolled back.
theorem halfRegistered_aborts :
    (provision halfRegistered "root" "carol" none "lu-1" bothSites).raised =
        some (.adapterError "shim adapter requires 'token' and 'secret' credentials") ∧
      (provision halfRegistered "root" "carol" none "lu-1" bothSites).calls.length = 1 := by
  decide +kernel

theorem fanOut_not_isolated : ¬ FanOutIsolates := by
  intro isolates
  have committed :=
    (isolates halfRegistered "root" "carol" none "lu-1" bothSites (by decide)).committed
  rw [halfRegistered_aborts.1] at committed
  cases committed

def registered : Database :=
  ⟨⟨[site "n1" shimCredentials, site "n2" shimCredentials], [⟨"lu-2", "dave", none⟩],
    [{ logicalUserId := "lu-2", nodeId := "n1", orgId := "org-1", remoteUserId := some "usr-9",
       status := .active }], []⟩, by decide⟩

def oneFails : List Attempt := [attempt "n1" (.error "node shim 500"), attempt "n2" (.ok "usr-2")]

theorem registered_served (nodeId : String) (known : nodeId = "n1" ∨ nodeId = "n2")
    (operation : Operation) :
    ∃ node, registered.tables.node? nodeId = some node ∧ node.Serves operation := by
  rcases known with rfl | rfl <;> exact ⟨_, rfl, rfl, rfl⟩

theorem registered_isolated :
    Isolated registered "root" "carol" none oneFails
        (provision registered "root" "carol" none "lu-1" oneFails) ∧
      Released registered "root" ⟨"lu-2", "dave", none⟩ true (fun _ => ⟨.ok (), noon, noon⟩)
        (deprovision registered "root" "lu-2" true fun _ => ⟨.ok (), noon, noon⟩) := by
  obtain ⟨provisions, deprovisions⟩ := fanOut_isolated_iff registered "root"
  constructor
  · apply (provisions "carol" none "lu-1" oneFails (by decide)).2
    refine ⟨fun attempt member => ?_, fun first inFirst second inSecond same => ?_⟩
    · apply registered_served
      rcases List.mem_pair.1 member with rfl | rfl
      · exact .inl rfl
      · exact .inr rfl
    · rcases List.mem_pair.1 inFirst with rfl | rfl <;>
        rcases List.mem_pair.1 inSecond with rfl | rfl
      · trivial
      · exact absurd same (by decide)
      · exact absurd same (by decide)
      · rfl
  · apply (deprovisions "lu-2" true _ ⟨"lu-2", "dave", none⟩ rfl).2
    intro placement member userId remote
    apply registered_served
    obtain rfl := List.mem_singleton.1 member
    exact .inl rfl

end Sites

end Fleet.Isolation
