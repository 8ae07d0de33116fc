import Fleet.ControlPlane.Operations

set_option autoImplicit false

namespace Fleet.Tracking

open Db NodeAdapter Provisioning FanOut Sync Operations Execution

-- A user a node keeps since `create_user` returned its id, with the identity it was made for.
structure Held where
  username : String
  nodeId : String
  remoteId : String
  deriving DecidableEq

structure World where
  database : Database
  held : List Held

def created (call : Call) : Option Held :=
  match call.operation, call.reply with
  | .createUser _ name _, .created userId => some ⟨name, call.nodeId, userId⟩
  | _, _ => none

def deletes (call : Call) (item : Held) : Bool :=
  match call.operation, call.reply with
  | .deleteUser userId _, .done => item.nodeId = call.nodeId && item.remoteId = userId
  | _, _ => false

def heldAfter (held : List Held) (call : Call) : List Held :=
  held.filter (fun item => !deletes call item) ++ (created call).toList

def step (world : World) (request : Request) : Option World :=
  let response := handle world.database request
  some ⟨response.database, response.calls.foldl heldAfter world.held⟩

def remoteAt (tables : Tables) (userId nodeId : String) : Option String :=
  (tables.placement? userId nodeId).bind UserPlacement.remoteUserId

/-- Every user a node holds is the one the placement of its identity there names. -/
def Tracked (world : World) : Prop :=
  ∀ item ∈ world.held, ∃ user ∈ world.database.tables.users,
    user.username = item.username ∧
      remoteAt world.database.tables user.id item.nodeId = some item.remoteId

-- What the request leaves: all is tracked, and a full deletion leaves nothing of the user.
structure Complete (world : World) (request : Request) : Prop where
  tracked : ∀ next, step world request = some next → Tracked next
  deleted : ∀ actor logicalUserId answers lu, request = .deprovision actor logicalUserId true answers →
    world.database.tables.user? logicalUserId = some lu →
    (∀ call ∈ (handle world.database request).calls, call.reply = .done) →
    ∀ next, step world request = some next → ∀ item ∈ next.held, item.username ≠ lu.username

/-- A user is made only where none of its name is held, and no rollback can follow one. -/
def Issued (world : World) (username : String) (email : Option String)
    (attempts : List Attempt) (attempt : Attempt) (userId : String) : Prop :=
  (∀ other ∈ attempts, Served username email world.database.tables other) ∧
    (∀ item ∈ world.held, item.username = username → item.nodeId = attempt.target.nodeId →
      item.remoteId = userId) ∧
    ∀ other ∈ attempts, other.target.nodeId = attempt.target.nodeId →
      ∀ otherId, other.answer.reply = .ok otherId → otherId = userId

def Deletable (tables : Tables) (logicalUserId : String) : Prop :=
  ∀ lu, tables.user? logicalUserId = some lu →
    ∀ placement ∈ tables.placementsOf lu.id, Removable true tables placement

def Allowed (world : World) : Request → Prop
  | .provision _ username email _ attempts =>
      ∀ attempt ∈ attempts, ∀ userId, attempt.answer.reply = .ok userId →
        Issued world username email attempts attempt userId
  | .deprovision _ logicalUserId true _ => Deletable world.database.tables logicalUserId
  | _ => True

section Decide

instance decidableOfReply {ε α : Type} (reply : Except ε α) (holds : α → Prop)
    [DecidablePred holds] :
    Decidable (∀ value, reply = .ok value → holds value) :=
  match reply with
  | .ok value => decidable_of_iff (holds value) (by simp)
  | .error _ => .isTrue (by simp)

instance (world : World) (username : String) (email : Option String) (attempts : List Attempt)
    (attempt : Attempt) (userId : String) :
    Decidable (Issued world username email attempts attempt userId) :=
  inferInstanceAs (Decidable (_ ∧ _ ∧ _))

instance (tables : Tables) (logicalUserId : String) : Decidable (Deletable tables logicalUserId) :=
  match found : tables.user? logicalUserId with
  | none => .isTrue (by simp [Deletable, found])
  | some lu =>
      decidable_of_iff
        (∀ placement ∈ tables.placementsOf lu.id, Removable true tables placement)
        (by simp [Deletable, found])

instance (world : World) : (request : Request) → Decidable (Allowed world request)
  | .provision _ username email _ attempts =>
      inferInstanceAs (Decidable (∀ attempt ∈ attempts, ∀ userId,
        attempt.answer.reply = .ok userId → Issued world username email attempts attempt userId))
  | .deprovision _ logicalUserId true _ =>
      inferInstanceAs (Decidable (Deletable world.database.tables logicalUserId))
  | .deprovision _ _ false _ | .identityProfiles _ _ | .syncOne _ _ | .syncAll _ => .isTrue trivial

end Decide

/-- The users and the remote ids of their placements are as before. -/
structure Unmoved (before after : Tables) : Prop where
  users : after.users = before.users
  remotes : ∀ userId nodeId, remoteAt after userId nodeId = remoteAt before userId nodeId

theorem Unmoved.refl (tables : Tables) : Unmoved tables tables := ⟨rfl, fun _ _ => rfl⟩

theorem Unmoved.trans {first second third : Tables} (early : Unmoved first second)
    (late : Unmoved second third) : Unmoved first third :=
  ⟨late.users.trans early.users,
    fun userId nodeId => (late.remotes userId nodeId).trans (early.remotes userId nodeId)⟩

section Held

variable {held : List Held} {calls : List Call}

theorem heldAfter_mem {item : Held} (present : item ∈ calls.foldl heldAfter held) :
    (item ∈ held ∧ ∀ call ∈ calls, deletes call item = false) ∨
      ∃ call ∈ calls, created call = some item := by
  induction calls generalizing held with
  | nil => exact .inl ⟨present, by simp⟩
  | cons call rest ih =>
      rcases ih present with ⟨early, spared⟩ | ⟨maker, member, made⟩
      · rcases List.mem_append.1 early with old | new
        · obtain ⟨inside, kept⟩ := List.mem_filter.1 old
          exact .inl ⟨inside, List.forall_mem_cons.2 ⟨by simpa using kept, spared⟩⟩
        · exact .inr ⟨call, List.mem_cons_self, by simpa using new⟩
      · exact .inr ⟨maker, List.mem_cons_of_mem _ member, made⟩

-- Calls that create no user leave at most what was held.
theorem held_of_uncreated (uncreated : ∀ call ∈ calls, created call = none) {item : Held}
    (present : item ∈ calls.foldl heldAfter held) :
    item ∈ held ∧ ∀ call ∈ calls, deletes call item = false := by
  rcases heldAfter_mem present with kept | ⟨call, member, made⟩
  · exact kept
  · rw [uncreated call member] at made
    cases made

theorem Tracked.of_unmoved {world : World} {database : Database} (tracked : Tracked world)
    (unmoved : Unmoved world.database.tables database.tables)
    (uncreated : ∀ call ∈ calls, created call = none) :
    Tracked ⟨database, calls.foldl heldAfter world.held⟩ := by
  intro item member
  obtain ⟨user, known, named, remote⟩ := tracked item (held_of_uncreated uncreated member).1
  refine ⟨user, ?_, named, ?_⟩
  · rw [unmoved.users]
    exact known
  · rw [unmoved.remotes]
    exact remote

end Held

section Provision

variable {actor username : String} {email : Option String} {lu : LogicalUser}

theorem settle_remote (attempt : Attempt) (placement : UserPlacement) :
    (settle attempt placement).remoteUserId =
      match attempt.answer.reply with
      | .ok userId => some userId
      | .error _ => placement.remoteUserId := by
  unfold settle
  split <;> simp_all

theorem placementFor_remote (tables : Tables) (target : Target) :
    (placementFor lu tables target).remoteUserId = remoteAt tables lu.id target.nodeId := by
  unfold placementFor remoteAt
  cases tables.placement? lu.id target.nodeId <;> rfl

theorem remoteAt_advance (actor : String) (lu : LogicalUser) {tables : Tables}
    {attempt : Attempt} (served : Served username email tables attempt) (nodeId : String) :
    remoteAt (advance actor username lu tables attempt) lu.id nodeId =
      match attempt.answer.reply with
      | .ok userId =>
          if attempt.target.nodeId = nodeId then some userId else remoteAt tables lu.id nodeId
      | .error _ => remoteAt tables lu.id nodeId := by
  obtain ⟨node, found, -⟩ := served
  unfold remoteAt
  rw [placement?_advance]
  by_cases here : attempt.target.nodeId = nodeId
  · subst nodeId
    have settled := settle_remote attempt (placementFor lu tables attempt.target)
    rw [placementFor_remote] at settled
    cases reply : attempt.answer.reply <;> simp_all [remoteAt]
  · cases attempt.answer.reply <;> simp [here]

-- One id for all the users a call makes on a node is the id its placement ends with.
theorem remoteAt_targets {tables : Tables} {attempts : List Attempt} {nodeId userId : String}
    (served : ∀ attempt ∈ attempts, Served username email tables attempt)
    (agree : ∀ attempt ∈ attempts, attempt.target.nodeId = nodeId →
      ∀ otherId, attempt.answer.reply = .ok otherId → otherId = userId)
    (named : remoteAt tables lu.id nodeId = some userId ∨
      ∃ attempt ∈ attempts, attempt.target.nodeId = nodeId ∧ attempt.answer.reply = .ok userId) :
    remoteAt (attempts.foldl (advance actor username lu) tables) lu.id nodeId = some userId := by
  induction attempts generalizing tables with
  | nil => simpa using named
  | cons attempt rest ih =>
      have first := served attempt List.mem_cons_self
      have advanced := remoteAt_advance actor lu first nodeId
      apply ih
      · intro other member
        exact (served other (List.mem_cons_of_mem _ member)).congr (advance_nodes tables attempt)
      · exact fun other member => agree other (List.mem_cons_of_mem _ member)
      · rw [advanced]
        rcases named with before | ⟨maker, member, here, made⟩
        · refine .inl ?_
          cases reply : attempt.answer.reply with
          | error text => exact before
          | ok otherId =>
              by_cases here : attempt.target.nodeId = nodeId
              · obtain rfl := agree attempt List.mem_cons_self here otherId reply
                simp [here]
              · simpa [here] using before
        · rcases List.mem_cons.1 member with rfl | later
          · exact .inl (by simp [made, here])
          · exact .inr ⟨maker, later, here, made⟩

theorem created_of_creates {attempt : Attempt} {call : Call} {item : Held}
    (creates : Creates username email attempt call) (made : created call = some item) :
    ∃ userId, attempt.answer.reply = .ok userId ∧
      item = ⟨username, attempt.target.nodeId, userId⟩ := by
  unfold created at made
  rw [creates.site, creates.operation, creation] at made
  rcases creates.reply with answered | missing
  · rw [answered, Answer.outcome] at made
    cases reply : attempt.answer.reply with
    | ok userId => exact ⟨userId, rfl, by simpa [reply] using made.symm⟩
    | error text => simp [reply] at made
  · simp [missing] at made

theorem uncreated_of_refused {attempts : List Attempt} {calls : List Call}
    (refused : ∀ attempt ∈ attempts, ∀ userId, attempt.answer.reply ≠ .ok userId)
    (made : ∀ call ∈ calls, ∃ attempt ∈ attempts, Creates username email attempt call) :
    ∀ call ∈ calls, created call = none := by
  intro call member
  obtain ⟨attempt, inside, creates⟩ := made call member
  by_contra held
  obtain ⟨item, held⟩ := Option.ne_none_iff_exists'.1 held
  obtain ⟨userId, reply, -⟩ := created_of_creates creates held
  exact refused attempt inside userId reply

variable {world : World} {newId : String} {attempts : List Attempt}

theorem completed_tracked {after : Tables} {outcome : Outcome} (tracked : Tracked world)
    (allowed : Allowed world (.provision actor username email newId attempts))
    (completed : Completed world.database actor username email attempts lu after outcome) :
    Tracked ⟨outcome.database, outcome.calls.foldl heldAfter world.held⟩ := by
  have servedAfter : ∀ attempt ∈ attempts, Served username email after attempt :=
    fun attempt member => (completed.served attempt member).congr completed.identified.nodes
  have named : lu.username = username := completed.identified.username
  have ending (nodeId userId : String)
      (agree : ∀ attempt ∈ attempts, attempt.target.nodeId = nodeId →
        ∀ otherId, attempt.answer.reply = .ok otherId → otherId = userId)
      (source : remoteAt after lu.id nodeId = some userId ∨
        ∃ attempt ∈ attempts, attempt.target.nodeId = nodeId ∧
          attempt.answer.reply = .ok userId) :
      remoteAt outcome.database.tables lu.id nodeId = some userId := by
    rw [completed.tables]
    exact remoteAt_targets servedAfter agree source
  intro item member
  rcases heldAfter_mem member with ⟨old, -⟩ | ⟨call, inCalls, made⟩
  · obtain ⟨user, known, sameName, remote⟩ := tracked item old
    obtain ⟨later, present, sameId, sameUsername⟩ := completed.identified.kept user known
    have stays : later ∈ outcome.database.tables.users := by
      rw [completed.rooted.users]
      exact present
    refine ⟨later, stays, sameUsername.trans sameName, ?_⟩
    rw [← sameId] at remote
    by_cases mine : item.username = username
    · obtain rfl : later = lu := completed.identified.valid.usernames.eq_of_key present
        completed.identified.member ((sameUsername.trans sameName).trans (mine.trans named.symm))
      refine ending item.nodeId item.remoteId ?_ (.inl ?_)
      · intro attempt inside here otherId reply
        exact ((allowed attempt inside otherId reply).2.1 item old mine here.symm).symm
      · rw [← remote, remoteAt, remoteAt, Tables.placement?, completed.identified.placements]
        rfl
    · have apart : lu.id ≠ later.id := fun same =>
        mine ((completed.named ⟨user, known, sameId.symm, sameName⟩).2 same).symm
      rw [remoteAt, completed.placement?_frame fun _ _ same => apart same.1]
      exact remote
  · rw [completed.called] at inCalls
    obtain ⟨attempt, inside, rfl⟩ := List.mem_map.1 inCalls
    have creates : Creates username email attempt (creationCall username email attempt) :=
      ⟨rfl, rfl, .inl rfl⟩
    obtain ⟨userId, reply, rfl⟩ := created_of_creates creates made
    obtain ⟨-, -, agree⟩ := allowed attempt inside userId reply
    refine ⟨lu, ?_, named, ?_⟩
    · rw [completed.rooted.users]
      exact completed.identified.member
    · exact ending attempt.target.nodeId userId agree (.inr ⟨attempt, inside, rfl, reply⟩)

end Provision

theorem provision_tracked {world : World} (tracked : Tracked world) (actor username : String)
    (email : Option String) (newId : String) (attempts : List Attempt)
    (allowed : Allowed world (.provision actor username email newId attempts)) :
    let outcome := provision world.database actor username email newId attempts
    Tracked ⟨outcome.database, outcome.calls.foldl heldAfter world.held⟩ := by
  intro outcome
  rcases provision_cases world.database actor username email newId attempts with
    ⟨-, same, rolledBack⟩ | ⟨lu, after, -, completed⟩
  · -- Nothing was made before the rollback: no call, or none that a node granted.
    have uncreated : ∀ call ∈ outcome.calls, created call = none := by
      rcases rolledBack with ⟨-, silent⟩ | ⟨attempt, member, unserved⟩
      · simp [outcome, silent]
      · refine uncreated_of_refused (fun other inside userId reply => ?_)
          (provision_calls world.database actor username email newId attempts)
        exact unserved ((allowed other inside userId reply).1 attempt member)
    refine tracked.of_unmoved ?_ uncreated
    rw [same]
    exact Unmoved.refl _
  · exact completed_tracked tracked allowed completed

section Deprovision

variable {world : World} {actor logicalUserId : String} {hard : Bool}
  {answers : String → Answer Unit}

theorem release_remote (answer : Answer Unit) (placement : UserPlacement) :
    (release answer placement).remoteUserId = placement.remoteUserId := by
  unfold release
  split <;> rfl

theorem removed_remote (placement : UserPlacement) :
    (removed answers placement).remoteUserId = placement.remoteUserId := by
  unfold removed
  split
  · rfl
  · exact release_remote _ placement

theorem retired_remoteAt {lu : LogicalUser} {outcome : Outcome}
    (retired : Retired world.database actor logicalUserId hard answers lu outcome)
    (userId nodeId : String) :
    remoteAt outcome.database.tables userId nodeId =
      remoteAt world.database.tables userId nodeId := by
  unfold remoteAt
  by_cases mine : lu.id = userId
  · subst userId
    cases found : world.database.tables.placement? lu.id nodeId with
    | some placement =>
        obtain ⟨owned, rfl⟩ := Prod.mk.inj (Tables.placement?_key found)
        have member : placement ∈ world.database.tables.placementsOf lu.id :=
          List.mem_filter.2 ⟨Keyed.mem_of_lookup found, by simpa using owned⟩
        rw [retired.placement? member]
        exact removed_remote placement
    | none =>
        rw [retired.tables, placement?_retired_frame, found]
        rintro placement member ⟨-, rfl⟩
        rw [placement?_of_mem world.database.valid member] at found
        cases found
  · rw [retired.placement?_frame mine]

theorem deprovision_uncreated (database : Database) (actor logicalUserId : String) (hard : Bool)
    (answers : String → Answer Unit) :
    ∀ call ∈ (deprovision database actor logicalUserId hard answers).calls,
      created call = none := by
  intro call member
  obtain ⟨placement, -, userId, -, -, operation⟩ :=
    deprovision_calls database actor logicalUserId hard answers call member
  cases hard <;> simp [created, operation, removal]

theorem deprovision_tracked (tracked : Tracked world) (actor logicalUserId : String) (hard : Bool)
    (answers : String → Answer Unit) :
    let outcome := deprovision world.database actor logicalUserId hard answers
    Tracked ⟨outcome.database, outcome.calls.foldl heldAfter world.held⟩ := by
  intro outcome
  refine tracked.of_unmoved ?_
    (deprovision_uncreated world.database actor logicalUserId hard answers)
  rcases deprovision_cases world.database actor logicalUserId hard answers with
    ⟨-, same, -⟩ | ⟨lu, retired⟩
  · rw [same]
    exact Unmoved.refl _
  · exact ⟨retired.rooted.users, retired_remoteAt retired⟩

-- Each id held for the user is the one its placement names, so a deletion that succeeds frees it.
theorem deprovision_deletes (tracked : Tracked world) {lu : LogicalUser}
    (found : world.database.tables.user? logicalUserId = some lu)
    (removable : ∀ placement ∈ world.database.tables.placementsOf lu.id,
      Removable true world.database.tables placement)
    (done : ∀ call ∈ (deprovision world.database actor logicalUserId true answers).calls,
      call.reply = .done) :
    ∀ item ∈ (deprovision world.database actor logicalUserId true answers).calls.foldl heldAfter
      world.held, item.username ≠ lu.username := by
  intro item member mine
  obtain ⟨old, spared⟩ := held_of_uncreated
    (deprovision_uncreated world.database actor logicalUserId true answers) member
  rcases deprovision_cases world.database actor logicalUserId true answers with
    ⟨-, -, stuck⟩ | ⟨other, retired⟩
  · obtain ⟨placement, inside, unremovable⟩ := stuck lu found
    exact unremovable (removable placement inside)
  · obtain rfl := Option.some.inj (found.symm.trans retired.found)
    obtain ⟨user, known, named, remote⟩ := tracked item old
    obtain rfl : user = lu := world.database.valid.usernames.eq_of_key known
      (Keyed.mem_of_lookup found) (named.trans mine)
    obtain ⟨placement, stored, held⟩ := Option.bind_eq_some_iff.1 remote
    obtain ⟨owned, site⟩ := Prod.mk.inj (Tables.placement?_key stored)
    have inside : placement ∈ world.database.tables.placementsOf user.id :=
      List.mem_filter.2 ⟨Keyed.mem_of_lookup stored, by simpa using owned⟩
    let call : Call := ⟨placement.nodeId, .deleteUser item.remoteId placement.orgId,
      (answers placement.nodeId).outcome fun _ => .done⟩
    have made : call ∈ (deprovision world.database actor logicalUserId true answers).calls := by
      rw [retired.called]
      refine List.mem_flatMap.2 ⟨placement, inside, ?_⟩
      simp [removalCalls, held, removal, call]
    have kept := spared call made
    have agreed : call.reply = .done := done call made
    have freed : deletes call item = true := by
      unfold deletes
      rw [agreed]
      simp [call, site]
    rw [freed] at kept
    cases kept

end Deprovision

section Sweeps

theorem uncreated_of_listing {calls : List Call}
    (listing : ∀ call ∈ calls, call.operation = .listUsers) :
    ∀ call ∈ calls, created call = none := by
  intro call member
  simp [created, listing call member]

theorem syncNode_unmoved {database next : Database} {node : Node} {listing : Listing}
    {calls : List Call} {report : NodeSyncReport}
    (swept : syncNode database node listing = (calls, .ok (report, next))) :
    Unmoved database.tables next.tables := by
  rcases syncNode_ok swept with ⟨users, -, -, written⟩ | ⟨tracked, text, -, rfl⟩
  · rw [written]
    refine ⟨rfl, fun userId nodeId => ?_⟩
    unfold remoteAt
    rw [placement?_observed]
    split
    · cases database.tables.placement? userId nodeId with
      | none => rfl
      | some placement => exact observe_remote placement
    · rfl
  · exact Unmoved.refl _

theorem sweep_unmoved (listings : String → Listing) (nodes : List Node) (database : Database) :
    Unmoved database.tables (sweep listings database nodes).2.2.tables := by
  induction nodes generalizing database with
  | nil => exact Unmoved.refl _
  | cons node rest ih =>
      rw [sweep]
      split
      next swept => exact (syncNode_unmoved swept).trans (ih _)
      · exact ih database

theorem syncOne_unmoved (database : Database) (nodeId : String) (listing : Listing) :
    Unmoved database.tables (syncOne database nodeId listing).database.tables := by
  unfold Operations.syncOne
  split
  · exact Unmoved.refl _
  · split
    next swept => exact syncNode_unmoved swept
    · exact Unmoved.refl _

theorem identityProfiles_unmoved (database : Database) (logicalUserId : String)
    (answers : String → Except String ByteArray) :
    let response := handle database (.identityProfiles logicalUserId answers)
    Unmoved database.tables response.database.tables ∧
      ∀ call ∈ response.calls, created call = none := by
  have issued : ∀ call ∈ (buildIdentityBundle database logicalUserId answers).1,
      created call = none := by
    intro call member
    obtain ⟨-, pair, -, -, -, issues⟩ :=
      buildIdentityBundle_calls database logicalUserId answers call member
    simp [created, issues, issuing]
  unfold handle
  dsimp only
  split
  all_goals
    next built =>
      rw [built] at issued
      exact ⟨Unmoved.refl _, issued⟩

end Sweeps

variable {world next : World} {request : Request}

theorem step_tracked (tracked : Tracked world) (allowed : Allowed world request)
    (taken : step world request = some next) : Tracked next := by
  obtain rfl := Option.some.inj taken
  cases request with
  | provision actor username email newId attempts =>
      exact provision_tracked tracked actor username email newId attempts allowed
  | deprovision actor logicalUserId hard answers =>
      exact deprovision_tracked tracked actor logicalUserId hard answers
  | identityProfiles logicalUserId answers =>
      obtain ⟨unmoved, uncreated⟩ :=
        identityProfiles_unmoved world.database logicalUserId answers
      exact tracked.of_unmoved unmoved uncreated
  | syncOne nodeId listing =>
      exact tracked.of_unmoved (syncOne_unmoved world.database nodeId listing)
        (uncreated_of_listing (syncOne_calls world.database nodeId listing))
  | syncAll listings =>
      exact tracked.of_unmoved (sweep_unmoved listings _ world.database)
        (uncreated_of_listing (sweep_calls listings _ world.database))

theorem step_complete (tracked : Tracked world) (allowed : Allowed world request) :
    Complete world request where
  tracked := fun _ taken => step_tracked tracked allowed taken
  deleted := by
    rintro actor logicalUserId answers lu rfl found done next taken
    obtain rfl := Option.some.inj taken
    exact deprovision_deletes tracked found (allowed lu found) done

theorem deprovision_complete (database : Database) (requests : List Request)
    (allowed : Along Allowed step ⟨database, []⟩ requests) :
    Along Complete step ⟨database, []⟩ requests :=
  along_of_invariant Tracked (fun _ _ _ => step_tracked) (fun _ _ => step_complete)
    (by simp [Tracked]) allowed

section Retries

def DeprovisionCompletes : Prop :=
  ∀ (database : Database) (requests : List Request), Along Complete step ⟨database, []⟩ requests

def noon : Datetime := ⟨2026, 9, 22, 12, 0, 0, 0, 0⟩

def vpn (id : String) : Node :=
  { id := id, name := "vpn-" ++ id, region := "SG", endpoint := "https://" ++ id,
    adapterType := .shim, enabled := true,
    credentials := [("token", .str "t"), ("secret", .str "s")], status := .reachable,
    lastSyncedAt := none }

def sites : Database := ⟨⟨[vpn "n1", vpn "n2"], [], [], []⟩, by decide⟩

def carol : LogicalUser := ⟨"lu-1", "carol", none⟩

def target (nodeId : String) (reply : Except String String) : Attempt :=
  ⟨⟨nodeId, "org-1"⟩, ⟨reply, noon, noon⟩⟩

def provisionCarol (attempts : List Attempt) : Request :=
  .provision "root" "carol" none "lu-1" attempts

def deleteCarol : Request := .deprovision "root" "lu-1" true fun _ => ⟨.ok (), noon, noon⟩

-- The second call makes a second user on the node and overwrites the id of the first.
def twice : List Request :=
  [provisionCarol [target "n1" (.ok "usr-1")], provisionCarol [target "n1" (.ok "usr-2")]]

def carolTwice : World := (run step ⟨sites, []⟩ twice).getD ⟨sites, []⟩

theorem deletion_leaves_first_user :
    ((step carolTwice deleteCarol).map World.held) = some [⟨"carol", "n1", "usr-1"⟩] := by
  decide +kernel

theorem deprovision_incomplete : ¬ DeprovisionCompletes := by
  intro completes
  have along := completes sites (twice ++ [deleteCarol])
  obtain ⟨-, late⟩ := (along_append _ _ _ _ _).1 along
  have complete : Complete carolTwice deleteCarol := (late carolTwice rfl).1
  obtain ⟨next, taken, held⟩ := Option.map_eq_some_iff.1 deletion_leaves_first_user
  have gone := complete.deleted "root" "lu-1" _ carol rfl (by decide +kernel) (by decide +kernel)
    next taken ⟨"carol", "n1", "usr-1"⟩ (by simp [held])
  exact gone rfl

-- The second site refuses at first; only it is asked again.
def retried : List Request :=
  [provisionCarol [target "n1" (.ok "usr-1"), target "n2" (.error "node shim 503")],
    .syncAll fun _ => ⟨.ok [{ id := "usr-1", name := "carol" }], noon⟩,
    provisionCarol [target "n2" (.ok "usr-2")], deleteCarol]

theorem retried_complete : Along Complete step ⟨sites, []⟩ retried :=
  deprovision_complete sites retried (by decide +kernel)

end Retries

end Fleet.Tracking
