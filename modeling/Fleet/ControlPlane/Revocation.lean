import Fleet.ControlPlane.Operations

set_option autoImplicit false

namespace Fleet.Revocation

open Db NodeAdapter Provisioning FanOut Sync Operations Execution

section Placement

variable (userId nodeId name remote : String)

/-- The placement is revoked, and there is an id to revoke. -/
structure Revoked (database : Database) : Prop where
  named : database.tables.Named userId name
  placed : ∃ placement, database.tables.placement? userId nodeId = some placement ∧
    placement.status = .revoked ∧ placement.remoteUserId = some remote

-- A provision call for the user and the node.
def Reprovisions : Request → Prop
  | .provision _ username _ _ attempts =>
      username = name ∧ ∃ attempt ∈ attempts, attempt.target.nodeId = nodeId
  | _ => False

structure Kept (database : Database) (request : Request) : Prop where
  status : ∃ placement,
    (handle database request).database.tables.placement? userId nodeId = some placement ∧
      placement.status = .revoked
  unrequested : ∀ answers, request = .identityProfiles userId answers →
    ∀ call ∈ (handle database request).calls, call.nodeId ≠ nodeId
  unreported : ∀ report ∈ (handle database request).reports, report.nodeId = nodeId →
    ∀ item ∈ report.missing, item.remoteUserId ≠ some remote

/-- The request is no sweep that obtains the node's user list. -/
def Blind (database : Database) : Request → Prop
  | .syncOne id listing => id = nodeId →
      ∀ node, database.tables.node? nodeId = some node → ¬ ∃ users, Lists node listing users
  | .syncAll listings =>
      ∀ node, database.tables.node? nodeId = some node → node.enabled = true →
        ¬ ∃ users, Lists node (listings nodeId) users
  | _ => True

variable {userId nodeId name remote}

theorem observe_status (users : List UserInfo) (now : Datetime) {placement : UserPlacement}
    (held : placement.remoteUserId = some remote) :
    if remote = "" then (observe users now placement).status = placement.status
    else (observe users now placement).status ≠ .revoked := by
  by_cases blank : remote = ""
  · simp [observe, tracked?, held, blank, Option.filter_some]
  · by_cases present : listed users remote = true <;>
      simp [observe, tracked?, held, blank, present, Option.filter_some]

theorem Revoked.of_placement? {database next : Database}
    (revoked : Revoked userId nodeId name remote database)
    (named : next.tables.Named userId name)
    (same : next.tables.placement? userId nodeId = database.tables.placement? userId nodeId) :
    Revoked userId nodeId name remote next :=
  ⟨named, same ▸ revoked.placed⟩

theorem Revoked.kept {database : Database} {request : Request}
    (revoked : Revoked userId nodeId name remote (handle database request).database)
    (unrequested : ∀ answers, request = .identityProfiles userId answers →
      ∀ call ∈ (handle database request).calls, call.nodeId ≠ nodeId)
    (unreported : ∀ report ∈ (handle database request).reports, report.nodeId = nodeId →
      ∀ item ∈ report.missing, item.remoteUserId ≠ some remote) :
    Kept userId nodeId remote database request := by
  obtain ⟨placement, found, status, -⟩ := revoked.placed
  exact ⟨⟨placement, found, status⟩, unrequested, unreported⟩

theorem provision_revoked {database : Database}
    (revoked : Revoked userId nodeId name remote database) (actor username : String)
    (email : Option String) (newId : String) (attempts : List Attempt)
    (untouched : ¬ Reprovisions nodeId name (.provision actor username email newId attempts)) :
    Revoked userId nodeId name remote
      (provision database actor username email newId attempts).database := by
  rcases provision_cases database actor username email newId attempts with
    ⟨-, same, -⟩ | ⟨lu, after, -, completed⟩
  · rw [same]
    exact revoked
  · obtain ⟨named, sameName⟩ := completed.named revoked.named
    apply revoked.of_placement? named
    apply completed.placement?_frame
    rintro attempt member ⟨sameUser, sameNode⟩
    exact untouched ⟨sameName sameUser, attempt, member, sameNode⟩

theorem deprovision_revokes {database : Database} {actor logicalUserId : String} {hard : Bool}
    {answers : String → Answer Unit} {lu : LogicalUser} {outcome : Outcome}
    (retired : Retired database actor logicalUserId hard answers lu outcome)
    {placement : UserPlacement} (member : placement ∈ database.tables.placementsOf lu.id)
    (held : placement.remoteUserId = some remote)
    (released : (answers placement.nodeId).reply = .ok ()) :
    Revoked lu.id placement.nodeId lu.username remote outcome.database where
  named := by
    rw [Tables.Named, retired.rooted.users]
    exact ⟨lu, Keyed.mem_of_lookup retired.found, rfl, rfl⟩
  placed := ⟨_, retired.placement? member, by simp [removed, release, held, released]⟩

theorem deprovision_revoked {database : Database}
    (revoked : Revoked userId nodeId name remote database) (actor logicalUserId : String)
    (hard : Bool) (answers : String → Answer Unit) :
    Revoked userId nodeId name remote
      (deprovision database actor logicalUserId hard answers).database := by
  rcases deprovision_cases database actor logicalUserId hard answers with
    ⟨-, same, -⟩ | ⟨lu, retired⟩
  · rw [same]
    exact revoked
  · have named : (deprovision database actor logicalUserId hard answers).database.tables.Named
        userId name := by
      rw [Tables.Named, retired.rooted.users]
      exact revoked.named
    by_cases mine : lu.id = userId
    · -- Removing it again leaves it revoked whether or not the node agrees.
      subst userId
      obtain ⟨placement, found, status, held⟩ := revoked.placed
      obtain ⟨owned, rfl⟩ := Prod.mk.inj (Tables.placement?_key found)
      have member : placement ∈ database.tables.placementsOf lu.id :=
        List.mem_filter.2 ⟨Keyed.mem_of_lookup found, by simpa using owned⟩
      refine ⟨named, _, retired.placement? member, ?_⟩
      unfold removed release
      cases (answers placement.nodeId).reply <;> simp [held, status]
    · exact revoked.of_placement? named (retired.placement?_frame mine nodeId)

theorem bundle_unrequested {database : Database}
    (revoked : Revoked userId nodeId name remote database)
    (answers : String → Except String ByteArray) :
    ∀ call ∈ (buildIdentityBundle database userId answers).1, call.nodeId ≠ nodeId := by
  rintro call present rfl
  obtain ⟨lu, pair, known, asked, site, -⟩ :=
    buildIdentityBundle_calls database userId answers call present
  obtain rfl : lu.id = userId := Keyed.lookup_key known
  obtain ⟨member, active, same, -⟩ := bundlePairs_active pair asked.mem
  obtain ⟨placement, found, status, -⟩ := revoked.placed
  have stored := placement?_of_mem database.valid member
  rw [← same, ← site, found] at stored
  obtain rfl := Option.some.inj stored
  rw [status] at active
  cases active

section Sweeps

/-- A placement that still names its user and is no longer revoked. -/
def Overwritten (userId nodeId remote : String) (database : Database) : Prop :=
  ∃ placement, database.tables.placement? userId nodeId = some placement ∧
    placement.remoteUserId = some remote ∧ placement.status ≠ .revoked

def Unlisted (nodeId remote : String) (report : NodeSyncReport) : Prop :=
  report.nodeId = nodeId → ∀ item ∈ report.missing, item.remoteUserId ≠ some remote

theorem unreachable_unlisted (node : Node) (tracked : Nat) (text : String) :
    Unlisted nodeId remote (unreachable node tracked text) := by
  simp [Unlisted, unreachable]

variable {database next : Database} {node : Node} {listing : Listing} {calls : List Call}
  {report : NodeSyncReport}

theorem observed_at {users : List UserInfo} {now : Datetime} {placement : UserPlacement}
    (written : next.tables = observed users now database.tables nodeId)
    (found : database.tables.placement? userId nodeId = some placement) :
    next.tables.placement? userId nodeId = some (observe users now placement) := by
  rw [written, placement?_observed, if_pos rfl, found]
  rfl

-- A listing overwrites whatever the status was, unless the remote id counts as absent.
theorem observed_overwritten {users : List UserInfo} {now : Datetime} {placement : UserPlacement}
    (written : next.tables = observed users now database.tables nodeId)
    (found : database.tables.placement? userId nodeId = some placement)
    (held : placement.remoteUserId = some remote) (nonempty : remote ≠ "") :
    Overwritten userId nodeId remote next := by
  have changed := observe_status users now held
  rw [if_neg nonempty] at changed
  exact ⟨observe users now placement, observed_at written found, by rw [observe_remote, held],
    changed⟩

theorem syncNode_quiet (revoked : Revoked userId nodeId name remote database)
    (quiet : node.id = nodeId → remote = "" ∨ ¬ ∃ users, Lists node listing users)
    (swept : syncNode database node listing = (calls, .ok (report, next))) :
    Revoked userId nodeId name remote next ∧ Unlisted nodeId remote report := by
  rcases syncNode_ok swept with ⟨users, lists, rfl, written⟩ | ⟨tracked, text, rfl, rfl⟩
  · have named : next.tables.Named userId name := by
      rw [written]
      exact revoked.named
    by_cases here : node.id = nodeId
    · obtain blank : remote = "" := (quiet here).resolve_right fun silent => silent ⟨users, lists⟩
      obtain ⟨placement, found, status, held⟩ := revoked.placed
      have kept := observe_status users listing.now held
      rw [if_pos blank, status] at kept
      rw [here] at written
      refine ⟨⟨named, _, observed_at written found, kept, by rw [observe_remote, held]⟩, ?_⟩
      intro _ item listed
      rw [blank]
      exact reportOf_missing item listed
    · refine ⟨revoked.of_placement? named ?_, fun site => absurd site here⟩
      rw [written, placement?_observed, if_neg (Ne.symm here)]
  · exact ⟨revoked, unreachable_unlisted node tracked text⟩

theorem syncNode_overwritten (overwritten : Overwritten userId nodeId remote database)
    (swept : syncNode database node listing = (calls, .ok (report, next)))
    (nonempty : remote ≠ "") : Overwritten userId nodeId remote next := by
  rcases syncNode_ok swept with ⟨users, -, -, written⟩ | ⟨tracked, text, -, rfl⟩
  · obtain ⟨placement, found, held, status⟩ := overwritten
    by_cases here : node.id = nodeId
    · rw [here] at written
      exact observed_overwritten written found held nonempty
    · refine ⟨placement, ?_, held, status⟩
      rw [written, placement?_observed, if_neg (Ne.symm here), found]
  · exact overwritten

theorem syncNode_overwrites (revoked : Revoked userId node.id name remote database)
    {users : List UserInfo} (lists : Lists node listing users) (nonempty : remote ≠ "") :
    ∃ calls report next, syncNode database node listing = (calls, .ok (report, next)) ∧
      Overwritten userId node.id remote next := by
  rcases syncNode_cases database node listing with
    ⟨users, made, -, taken⟩ | ⟨silent, -⟩
  · obtain ⟨placement, found, -, held⟩ := revoked.placed
    exact ⟨_, _, _, taken, observed_overwritten rfl found held nonempty⟩
  · exact absurd ⟨users, lists⟩ silent

theorem sweep_quiet {listings : String → Listing} {nodes : List Node}
    (revoked : Revoked userId nodeId name remote database)
    (quiet : ∀ node ∈ nodes, node.id = nodeId →
      remote = "" ∨ ¬ ∃ users, Lists node (listings node.id) users) :
    Revoked userId nodeId name remote (sweep listings database nodes).2.2 ∧
      ∀ report ∈ (sweep listings database nodes).2.1, Unlisted nodeId remote report := by
  induction nodes generalizing database with
  | nil => exact ⟨revoked, by simp [sweep]⟩
  | cons node rest ih =>
      have later : ∀ node ∈ rest, node.id = nodeId →
          remote = "" ∨ ¬ ∃ users, Lists node (listings node.id) users :=
        fun node member => quiet node (List.mem_cons_of_mem _ member)
      rw [sweep]
      split
      next calls report next swept =>
        obtain ⟨kept, unlisted⟩ := syncNode_quiet revoked (quiet node List.mem_cons_self) swept
        obtain ⟨final, reports⟩ := ih kept later
        exact ⟨final, List.forall_mem_cons.2 ⟨unlisted, reports⟩⟩
      next calls error swept =>
        obtain ⟨final, reports⟩ := ih revoked later
        exact ⟨final, List.forall_mem_cons.2 ⟨unreachable_unlisted node 0 _, reports⟩⟩

theorem sweep_overwritten {listings : String → Listing} {nodes : List Node}
    (overwritten : Overwritten userId nodeId remote database) (nonempty : remote ≠ "") :
    Overwritten userId nodeId remote (sweep listings database nodes).2.2 := by
  induction nodes generalizing database with
  | nil => exact overwritten
  | cons node rest ih =>
      rw [sweep]
      split
      next calls report next swept => exact ih (syncNode_overwritten overwritten swept nonempty)
      · exact ih overwritten

theorem sweep_overwrites {listings : String → Listing} {nodes : List Node}
    (revoked : Revoked userId nodeId name remote database) (nonempty : remote ≠ "")
    (obtains : ∃ node ∈ nodes, node.id = nodeId ∧ ∃ users, Lists node (listings node.id) users) :
    Overwritten userId nodeId remote (sweep listings database nodes).2.2 := by
  induction nodes generalizing database with
  | nil => simp at obtains
  | cons node rest ih =>
      obtain ⟨other, member, here, users, lists⟩ := obtains
      by_cases first : node.id = nodeId ∧ ∃ users, Lists node (listings node.id) users
      · obtain ⟨rfl, users, lists⟩ := first
        obtain ⟨calls, report, next, swept, overwritten⟩ :=
          syncNode_overwrites revoked lists nonempty
        rw [sweep, swept]
        exact sweep_overwritten overwritten nonempty
      · have later : ∃ node ∈ rest, node.id = nodeId ∧
            ∃ users, Lists node (listings node.id) users := by
          rcases List.mem_cons.1 member with rfl | later
          · exact absurd ⟨here, users, lists⟩ first
          · exact ⟨other, later, here, users, lists⟩
        rw [sweep]
        split
        next calls report next swept =>
          have silent : node.id = nodeId → remote = "" ∨
              ¬ ∃ users, Lists node (listings node.id) users :=
            fun same => .inr fun listing => first ⟨same, listing⟩
          exact ih (syncNode_quiet revoked silent swept).1 later
        · exact ih revoked later

end Sweeps

variable {database : Database} {request : Request}

theorem unprompted_kept (revoked : Revoked userId nodeId name remote (handle database request).database)
    (silent : (handle database request).reports = [])
    (unrequested : ∀ answers, request ≠ .identityProfiles userId answers) :
    Kept userId nodeId remote database request :=
  revoked.kept (fun answers same => absurd same (unrequested answers)) (by simp [silent])

theorem syncOne_quiet (revoked : Revoked userId nodeId name remote database) (id : String)
    (listing : Listing)
    (quiet : remote = "" ∨ Blind nodeId database (.syncOne id listing)) :
    Revoked userId nodeId name remote (syncOne database id listing).database ∧
      ∀ report ∈ (syncOne database id listing).reports, Unlisted nodeId remote report := by
  unfold Operations.syncOne
  cases found : database.tables.node? id with
  | none => exact ⟨revoked, by simp⟩
  | some node =>
      obtain rfl := Tables.node?_id found
      have silent : node.id = nodeId → remote = "" ∨ ¬ ∃ users, Lists node listing users := by
        rintro rfl
        exact quiet.imp_right fun blind => blind rfl node found
      dsimp only
      split
      next calls report next swept =>
        obtain ⟨kept, unlisted⟩ := syncNode_quiet revoked silent swept
        exact ⟨kept, by simpa using unlisted⟩
      · exact ⟨revoked, by simp⟩

theorem syncAll_quiet (revoked : Revoked userId nodeId name remote database)
    (listings : String → Listing)
    (quiet : remote = "" ∨ Blind nodeId database (.syncAll listings)) :
    Revoked userId nodeId name remote (syncAll database listings).2.2 ∧
      ∀ report ∈ (syncAll database listings).2.1, Unlisted nodeId remote report := by
  apply sweep_quiet revoked
  rintro node member rfl
  obtain ⟨registered, enabled⟩ := List.mem_filter.1 member
  exact quiet.imp_right fun blind =>
    blind node (database.valid.nodes.lookup_of_mem registered) enabled

theorem handle_quiet (revoked : Revoked userId nodeId name remote database)
    (untouched : ¬ Reprovisions nodeId name request)
    (quiet : remote = "" ∨ Blind nodeId database request) :
    Revoked userId nodeId name remote (handle database request).database ∧
      Kept userId nodeId remote database request := by
  cases request with
  | provision actor username email newId attempts =>
      have after := provision_revoked revoked actor username email newId attempts untouched
      exact ⟨after, unprompted_kept after rfl fun _ => Request.noConfusion⟩
  | deprovision actor logicalUserId hard answers =>
      have after := deprovision_revoked revoked actor logicalUserId hard answers
      exact ⟨after, unprompted_kept after rfl fun _ => Request.noConfusion⟩
  | identityProfiles logicalUserId answers =>
      have same : (handle database (.identityProfiles logicalUserId answers)).database = database ∧
          (handle database (.identityProfiles logicalUserId answers)).reports = [] ∧
          (handle database (.identityProfiles logicalUserId answers)).calls =
            (buildIdentityBundle database logicalUserId answers).1 := by
        unfold handle
        dsimp only
        split <;> simp_all
      have after : Revoked userId nodeId name remote
          (handle database (.identityProfiles logicalUserId answers)).database := by
        rw [same.1]
        exact revoked
      refine ⟨after, after.kept ?_ (by simp [same.2.1])⟩
      intro given mine
      obtain ⟨rfl, rfl⟩ := Request.identityProfiles.inj mine
      rw [same.2.2]
      exact bundle_unrequested revoked answers
  | syncOne id listing =>
      obtain ⟨after, unlisted⟩ := syncOne_quiet revoked id listing quiet
      exact ⟨after, after.kept (fun _ => Request.noConfusion) unlisted⟩
  | syncAll listings =>
      obtain ⟨after, unlisted⟩ := syncAll_quiet revoked listings quiet
      exact ⟨after, after.kept (fun _ => Request.noConfusion) unlisted⟩

-- A sweep that obtains the list leaves the placement active or missing.
theorem handle_overwrites (revoked : Revoked userId nodeId name remote database)
    (nonempty : remote ≠ "") (obtains : ¬ Blind nodeId database request) :
    Overwritten userId nodeId remote (handle database request).database := by
  cases request with
  | provision | deprovision | identityProfiles => exact absurd trivial obtains
  | syncOne id listing =>
      simp only [Blind, not_forall, not_not] at obtains
      obtain ⟨rfl, node, found, users, lists⟩ := obtains
      obtain rfl := Tables.node?_id found
      obtain ⟨calls, report, next, swept, overwritten⟩ :=
        syncNode_overwrites revoked lists nonempty
      simpa [handle, Operations.syncOne, found, swept] using overwritten
  | syncAll listings =>
      simp only [Blind, not_forall, not_not] at obtains
      obtain ⟨node, found, enabled, users, lists⟩ := obtains
      have here := Tables.node?_id found
      apply sweep_overwrites revoked nonempty
      exact ⟨node, List.mem_filter.2 ⟨Keyed.mem_of_lookup found, by simpa using enabled⟩, here,
        users, here ▸ lists⟩

theorem kept_iff_quiet (revoked : Revoked userId nodeId name remote database)
    (untouched : ¬ Reprovisions nodeId name request) :
    Kept userId nodeId remote database request ↔ remote = "" ∨ Blind nodeId database request := by
  constructor
  · intro kept
    by_contra loud
    obtain ⟨nonempty, obtains⟩ := not_or.1 loud
    obtain ⟨placement, found, status⟩ := kept.status
    obtain ⟨other, present, -, changed⟩ := handle_overwrites revoked nonempty obtains
    rw [found] at present
    exact changed (Option.some.inj present ▸ status)
  · exact fun quiet => (handle_quiet revoked untouched quiet).2

end Placement

section Sweep

-- A revoked user stays listed with its flag, a deleted one is absent.
def Unchanged (hard : Bool) (remote : String) (users : List UserInfo) : Prop :=
  if hard then ∀ user ∈ users, user.id ≠ remote
  else ∃ user ∈ users, user.id = remote ∧ (user.revoked = true ∨ user.disabled = true)

def Steady (hard : Bool) (nodeId remote : String) : Request → Prop
  | .syncOne id listing =>
      id = nodeId → ∀ users, listing.reply = .ok users → Unchanged hard remote users
  | .syncAll listings => ∀ users, (listings nodeId).reply = .ok users → Unchanged hard remote users
  | _ => True

def RevocationSurvives : Prop :=
  ∀ (database : Database) (actor : String) (lu : LogicalUser) (placement : UserPlacement)
    (hard : Bool) (answers : String → Answer Unit) (remote : String) (requests : List Request),
    database.tables.user? lu.id = some lu →
    placement ∈ database.tables.placementsOf lu.id → placement.remoteUserId = some remote →
    (answers placement.nodeId).reply = .ok () →
    (deprovision database actor lu.id hard answers).raised = none →
    (∀ request ∈ requests, ¬ Reprovisions placement.nodeId lu.username request ∧
      Steady hard placement.nodeId remote request) →
    Along (Kept lu.id placement.nodeId remote) step
      (deprovision database actor lu.id hard answers).database requests

def noon : Datetime := ⟨2026, 9, 22, 12, 0, 0, 0, 0⟩

def vpn : Node :=
  { id := "n1", name := "vpn-1", region := "SG", endpoint := "https://n1", adapterType := .shim,
    enabled := true, credentials := [("token", .str "t"), ("secret", .str "s")],
    status := .reachable, lastSyncedAt := none }

def dave : LogicalUser := ⟨"lu-2", "dave", none⟩

def connected : UserPlacement :=
  { logicalUserId := "lu-2", nodeId := "n1", orgId := "org-1", remoteUserId := some "usr-9",
    status := .active }

def provisioned : Database := ⟨⟨[vpn], [dave], [connected], []⟩, by decide⟩

def softRevoked : Database :=
  (deprovision provisioned "root" "lu-2" false fun _ => ⟨.ok (), noon, noon⟩).database

-- The node still lists the user, with the flag that `sync_node` does not read.
def flagged : Listing := ⟨.ok [{ id := "usr-9", name := "dave", revoked := true }], noon⟩

theorem flagged_sweep_activates :
    ((handle softRevoked (.syncOne "n1" flagged)).database.tables.placement? "lu-2" "n1").map
      UserPlacement.status = some .active := by
  decide +kernel

-- The node is down for a while: its sweeps fail, and a bundle is asked for in between.
def outage : List Request :=
  [.syncAll fun _ => ⟨.error "connect timeout", noon⟩,
    .identityProfiles "lu-2" fun _ => .error "connect timeout",
    .syncOne "n1" ⟨.error "connect timeout", noon⟩]

end Sweep

end Fleet.Revocation
