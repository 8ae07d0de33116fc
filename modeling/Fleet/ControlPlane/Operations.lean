import Fleet.ControlPlane.DeprovisionLoop
import Fleet.ControlPlane.ProvisionLoop
import Fleet.ControlPlane.Sync
import Fleet.Shared.Execution

set_option autoImplicit false

namespace Fleet.Operations

open Db NodeAdapter Provisioning FanOut Sync

-- What reads or writes placements, each with the answers of the nodes it calls.
inductive Request where
  | provision (actor username : String) (email : Option String) (newId : String)
      (attempts : List Attempt)
  | deprovision (actor logicalUserId : String) (hard : Bool) (answers : String → Answer Unit)
  | identityProfiles (logicalUserId : String) (answers : String → Except String ByteArray)
  | syncOne (nodeId : String) (listing : Listing)
  | syncAll (listings : String → Listing)

structure Response where
  database : Database
  calls : List Call
  reports : List NodeSyncReport := []
  raised : Option Error := none

def ofOutcome (outcome : Outcome) : Response :=
  { database := outcome.database, calls := outcome.calls, raised := outcome.raised }

def syncOne (database : Database) (nodeId : String) (listing : Listing) : Response :=
  match database.tables.node? nodeId with
  | none => { database := database, calls := [], raised := some .lookupError }
  | some node =>
      match syncNode database node listing with
      | (calls, .ok (report, next)) => { database := next, calls := calls, reports := [report] }
      | (calls, .error error) => { database := database, calls := calls, raised := some error }

def handle (database : Database) : Request → Response
  | .provision actor username email newId attempts =>
      ofOutcome (provision database actor username email newId attempts)
  | .deprovision actor logicalUserId hard answers =>
      ofOutcome (deprovision database actor logicalUserId hard answers)
  | .identityProfiles logicalUserId answers =>
      match buildIdentityBundle database logicalUserId answers with
      | (calls, .ok _) => { database := database, calls := calls }
      | (calls, .error error) => { database := database, calls := calls, raised := some error }
  | .syncOne nodeId listing => syncOne database nodeId listing
  | .syncAll listings =>
      let (calls, reports, next) := syncAll database listings
      { database := next, calls := calls, reports := reports }

def step (database : Database) (request : Request) : Option Database :=
  some (handle database request).database

/-- The node's adapter can be built, lists users, and the node answers with its users. -/
def Lists (node : Node) (listing : Listing) (users : List UserInfo) : Prop :=
  node.Serves .listUsers ∧ listing.reply = .ok users

-- A sweep of one node rewrites its placements if the node lists its users, and nothing otherwise.
theorem syncNode_cases (database : Database) (node : Node) (listing : Listing) :
    (∃ users calls, Lists node listing users ∧
        syncNode database node listing =
          (calls, .ok (reportOf users node (placementsOn database.tables node.id),
            ⟨observed users listing.now database.tables node.id,
              observed_valid database.valid node.id⟩))) ∨
      ((¬ ∃ users, Lists node listing users) ∧ ∃ calls,
        (∃ error, syncNode database node listing = (calls, .error error)) ∨
          ∃ tracked text, syncNode database node listing =
            (calls, .ok (unreachable node tracked text, database))) := by
  cases built : rejects node.adapterType node.endpoint node.credentials with
  | some text =>
      refine .inr ⟨?_, [], .inl ⟨.adapterError text, ?_⟩⟩
      · rintro ⟨users, serves, -⟩
        simp [Node.Serves, built] at serves
      · simp [syncNode, buildAdapterForNode, built]
  | none =>
      cases implemented : implements node.adapterType .listUsers with
      | false =>
          refine .inr ⟨?_, [⟨node.id, .listUsers, .notImplemented⟩], .inl ⟨.notImplemented, ?_⟩⟩
          · rintro ⟨users, serves, -⟩
            simp [Node.Serves, implemented] at serves
          · simp [syncNode, buildAdapterForNode, built, implemented]
      | true =>
          cases reply : listing.reply with
          | error text =>
              refine .inr ⟨?_, [⟨node.id, .listUsers, .failed text⟩], .inr
                ⟨(placementsOn database.tables node.id).length, text, ?_⟩⟩
              · rintro ⟨users, -, ok⟩
                simp [reply] at ok
              · simp [syncNode, buildAdapterForNode, built, implemented, reply]
          | ok users =>
              refine .inl ⟨users, [⟨node.id, .listUsers, .done⟩], ⟨⟨built, implemented⟩, reply⟩, ?_⟩
              simp [syncNode, buildAdapterForNode, built, implemented, reply]

theorem syncNode_ok {database next : Database} {node : Node} {listing : Listing}
    {calls : List Call} {report : NodeSyncReport}
    (swept : syncNode database node listing = (calls, .ok (report, next))) :
    (∃ users, Lists node listing users ∧
        report = reportOf users node (placementsOn database.tables node.id) ∧
        next.tables = observed users listing.now database.tables node.id) ∨
      ∃ tracked text, report = unreachable node tracked text ∧ next = database := by
  rcases syncNode_cases database node listing with
    ⟨users, made, lists, taken⟩ | ⟨-, made, ⟨error, taken⟩ | ⟨tracked, text, taken⟩⟩
  · obtain ⟨-, same⟩ := Prod.mk.inj (taken.symm.trans swept)
    obtain ⟨rfl, rfl⟩ := Prod.mk.inj (Except.ok.inj same)
    exact .inl ⟨users, lists, rfl, rfl⟩
  · rw [taken] at swept
    cases swept
  · obtain ⟨-, same⟩ := Prod.mk.inj (taken.symm.trans swept)
    obtain ⟨rfl, rfl⟩ := Prod.mk.inj (Except.ok.inj same)
    exact .inr ⟨tracked, text, rfl, rfl⟩

theorem syncOne_calls (database : Database) (nodeId : String) (listing : Listing) :
    ∀ call ∈ (syncOne database nodeId listing).calls, call.operation = .listUsers := by
  unfold syncOne
  split
  · simp
  next node _ =>
    have listed := syncNode_calls database node listing
    split
    all_goals
      next swept =>
        rw [swept] at listed
        exact listed

theorem reportOf_missing {users : List UserInfo} {node : Node} {placements : List UserPlacement} :
    ∀ item ∈ (reportOf users node placements).missing, item.remoteUserId ≠ some "" := by
  intro item listed
  simp only [reportOf, List.mem_map, List.mem_filter, List.mem_filterMap] at listed
  obtain ⟨userId, ⟨⟨placement, -, tracked⟩, -⟩, rfl⟩ := listed
  have nonempty := (Option.filter_eq_some_iff.1 tracked).2
  simpa using nonempty

theorem bundlePairs_active {tables : Tables} {userId : String} :
    ∀ pair ∈ bundlePairs tables userId,
      pair.1 ∈ tables.placementsOf userId ∧ pair.1.status = .active ∧
        pair.2.id = pair.1.nodeId ∧ tables.node? pair.1.nodeId = some pair.2 := by
  intro pair present
  have sorted := (List.perm_insertionSort _ _).mem_iff.1 present
  simp only [List.mem_filterMap] at sorted
  obtain ⟨placement, member, kept⟩ := sorted
  split at kept
  · cases kept
  next wanted =>
    obtain ⟨node, found, rfl⟩ := Option.map_eq_some_iff.1 kept
    refine ⟨member, ?_, Tables.node?_id found, found⟩
    by_contra inactive
    exact wanted (.inr inactive)

def issuing (placement : UserPlacement) : Operation :=
  .issueProfile (placement.remoteUserId.getD "") placement.orgId "tar"

/-- The loop of the bundle reaches the pair and builds the adapter of its node. -/
inductive Asked : List (UserPlacement × Node) → UserPlacement × Node → Prop where
  | here {pair : UserPlacement × Node} {rest : List (UserPlacement × Node)}
      (builds : rejects pair.2.adapterType pair.2.endpoint pair.2.credentials = none) :
      Asked (pair :: rest) pair
  | later {first pair : UserPlacement × Node} {rest : List (UserPlacement × Node)}
      (served : first.2.Serves (issuing first.1)) (asked : Asked rest pair) :
      Asked (first :: rest) pair

theorem Asked.mem {pairs : List (UserPlacement × Node)} {pair : UserPlacement × Node}
    (asked : Asked pairs pair) : pair ∈ pairs := by
  induction asked with
  | here => exact List.mem_cons_self
  | later _ _ ih => exact List.mem_cons_of_mem _ ih

theorem bundleProfiles_calls {lu : LogicalUser} {answers : String → Except String ByteArray}
    (index : Nat) (pairs : List (UserPlacement × Node)) :
    ∀ call ∈ (bundleProfiles lu answers index pairs).1,
      ∃ pair, Asked pairs pair ∧ call.nodeId = pair.2.id ∧ call.operation = issuing pair.1 := by
  induction pairs generalizing index with
  | nil => simp [bundleProfiles]
  | cons pair rest ih =>
      intro call present
      cases built : rejects pair.2.adapterType pair.2.endpoint pair.2.credentials with
      | some text => simp [bundleProfiles, buildAdapterForNode, built] at present
      | none =>
          have here : ∃ asked, Asked (pair :: rest) asked ∧ pair.2.id = asked.2.id ∧
              issuing pair.1 = issuing asked.1 := ⟨pair, .here built, rfl, rfl⟩
          cases implemented : implements pair.2.adapterType (issuing pair.1) with
          | false =>
              rw [issuing] at implemented
              simp only [bundleProfiles, buildAdapterForNode, built, implemented] at present
              obtain rfl := List.mem_singleton.1 present
              exact here
          | true =>
              have served : pair.2.Serves (issuing pair.1) := ⟨built, implemented⟩
              rw [issuing] at implemented
              simp only [bundleProfiles, buildAdapterForNode, built, implemented] at present
              cases reply : answers pair.2.id <;> simp only [reply] at present
              all_goals
                rcases List.mem_cons.1 present with rfl | later
                · exact here
                · obtain ⟨other, asked, found⟩ := ih (index + 1) call later
                  exact ⟨other, .later served asked, found⟩

theorem bundleProfiles_asked {lu : LogicalUser} {answers : String → Except String ByteArray}
    {pairs : List (UserPlacement × Node)} {pair : UserPlacement × Node} (asked : Asked pairs pair)
    (index : Nat) :
    ∃ call ∈ (bundleProfiles lu answers index pairs).1,
      call.nodeId = pair.2.id ∧ call.operation = issuing pair.1 := by
  induction asked generalizing index with
  | @here pair rest builds =>
      cases implemented : implements pair.2.adapterType (issuing pair.1) with
      | false =>
          rw [issuing] at implemented
          simp [bundleProfiles, buildAdapterForNode, builds, implemented, issuing]
      | true =>
          rw [issuing] at implemented
          cases reply : answers pair.2.id <;>
            simp [bundleProfiles, buildAdapterForNode, builds, implemented, reply, issuing]
  | @later first pair rest served _ ih =>
      obtain ⟨builds, implemented⟩ := served
      obtain ⟨call, member, found⟩ := ih (index + 1)
      rw [issuing] at implemented
      refine ⟨call, ?_, found⟩
      cases reply : answers first.2.id <;>
        simp [bundleProfiles, buildAdapterForNode, builds, implemented, reply, member]

theorem buildIdentityBundle_calls (database : Database) (logicalUserId : String)
    (answers : String → Except String ByteArray) :
    ∀ call ∈ (buildIdentityBundle database logicalUserId answers).1,
      ∃ lu pair, database.tables.user? logicalUserId = some lu ∧
        Asked (bundlePairs database.tables lu.id) pair ∧
          call.nodeId = pair.2.id ∧ call.operation = issuing pair.1 := by
  intro call present
  unfold buildIdentityBundle at present
  split at present
  · cases present
  next lu found =>
    obtain ⟨pair, asked, same⟩ := bundleProfiles_calls 0 _ call present
    exact ⟨lu, pair, found, asked, same⟩

theorem buildIdentityBundle_asked {database : Database} {logicalUserId : String}
    {lu : LogicalUser} {pair : UserPlacement × Node}
    (found : database.tables.user? logicalUserId = some lu)
    (asked : Asked (bundlePairs database.tables lu.id) pair)
    (answers : String → Except String ByteArray) :
    ∃ call ∈ (buildIdentityBundle database logicalUserId answers).1,
      call.nodeId = pair.2.id ∧ call.operation = issuing pair.1 := by
  unfold buildIdentityBundle
  rw [found]
  exact bundleProfiles_asked asked 0

end Fleet.Operations
