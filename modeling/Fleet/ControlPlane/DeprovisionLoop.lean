import Fleet.ControlPlane.Provisioning
import Fleet.ControlPlane.Transactions

set_option autoImplicit false

namespace Fleet.FanOut

open Db NodeAdapter Provisioning

section Deprovision

theorem placementsOf_owned {tables : Tables} {userId : String} :
    ∀ placement ∈ tables.placementsOf userId, placement.logicalUserId = userId := by
  simp [Tables.placementsOf]

theorem placementsOf_distinct {tables : Tables} (valid : tables.Valid) (userId : String) :
    (tables.placementsOf userId).Pairwise fun first second => first.nodeId ≠ second.nodeId := by
  have keys : (tables.placementsOf userId).Pairwise fun first second => first.key ≠ second.key :=
    (List.pairwise_map.1 valid.placements).sublist List.filter_sublist
  refine keys.imp_of_mem fun {first second} inFirst inSecond different same => different ?_
  simp [UserPlacement.key, same, placementsOf_owned first inFirst,
    placementsOf_owned second inSecond]

theorem placement?_of_mem {tables : Tables} (valid : tables.Valid) {userId : String}
    {placement : UserPlacement} (member : placement ∈ tables.placementsOf userId) :
    tables.placement? userId placement.nodeId = some placement := by
  have owned := placementsOf_owned placement member
  have found := valid.placements.lookup_of_mem (List.mem_filter.1 member).1
  rwa [UserPlacement.key, owned] at found

variable (actor : String) (lu : LogicalUser) (hard : Bool) (answers : String → Answer Unit)

def Removable (tables : Tables) (placement : UserPlacement) : Prop :=
  ∀ userId, placement.remoteUserId = some userId →
    ∃ node, tables.node? placement.nodeId = some node ∧
      node.Serves (removal hard placement userId)

instance (tables : Tables) (placement : UserPlacement) :
    Decidable (Removable hard tables placement) :=
  match held : placement.remoteUserId, found : tables.node? placement.nodeId with
  | none, _ => .isTrue (by simp [Removable, held])
  | some _, none => .isFalse (by simp [Removable, held, found])
  | some userId, some node =>
      decidable_of_iff (node.Serves (removal hard placement userId))
        (by simp [Removable, held, found])

/-- The call is an attempt to remove the user the placement names. -/
def Removes (placement : UserPlacement) (call : Call) : Prop :=
  ∃ userId, placement.remoteUserId = some userId ∧ call.nodeId = placement.nodeId ∧
    call.operation = removal hard placement userId

def removalCalls (placement : UserPlacement) : List Call :=
  placement.remoteUserId.toList.map fun userId =>
    ⟨placement.nodeId, removal hard placement userId,
      (answers placement.nodeId).outcome fun _ => .done⟩

def retire (tables : Tables) (placement : UserPlacement) : Tables :=
  match tables.node? placement.nodeId, placement.remoteUserId with
  | some node, some userId =>
      (tables.put (release (answers placement.nodeId) placement)).log
        (deprovisionEntry actor lu hard node userId (answers placement.nodeId))
  | _, _ => tables

variable {actor lu hard answers}

theorem release_key (answer : Answer Unit) (placement : UserPlacement) :
    (release answer placement).key = placement.key := by
  unfold release
  split <;> rfl

theorem rooted_retire {start tables : Tables} (rooted : Rooted lu start tables) (actor : String)
    (hard : Bool) (answers : String → Answer Unit) {placement : UserPlacement}
    (owned : placement.logicalUserId = lu.id) :
    Rooted lu start (retire actor lu hard answers tables placement) := by
  unfold FanOut.retire
  split
  next node userId found _ =>
    obtain ⟨ownerKey, siteKey⟩ :=
      Prod.mk.inj (release_key (answers placement.nodeId) placement)
    refine ⟨(rooted.valid.put ?_ ?_).log _, rooted.owner, rooted.nodes, rooted.users⟩
    · rw [ownerKey, owned]
      exact rooted.owner
    · rw [siteKey]
      exact Tables.node?_mem found
  · exact rooted

theorem deprovisionPlacement_removable {tables : Tables} (rooted : Rooted lu tables tables)
    {placement : UserPlacement} (owned : placement.logicalUserId = lu.id)
    (removable : Removable hard tables placement) :
    deprovisionPlacement actor lu hard answers ⟨tables, []⟩ placement =
      (removalCalls hard answers placement,
        .ok ⟨retire actor lu hard answers tables placement, []⟩) := by
  cases remote : placement.remoteUserId with
  | none => simp [deprovisionPlacement, removalCalls, retire, remote]
  | some userId =>
      obtain ⟨node, found, builds, implemented⟩ := removable userId remote
      obtain ⟨ownerKey, siteKey⟩ :=
        Prod.mk.inj (release_key (answers placement.nodeId) placement)
      have appended (ts : Datetime) (fields : AuditLog.Fields) := Session.store_append rooted.valid
        (release (answers placement.nodeId) placement)
        (by rw [ownerKey, owned]; exact rooted.owner)
        (by rw [siteKey]; exact Tables.node?_mem found) ts fields
      simp only [deprovisionPlacement, found, remote, buildAdapterForNode, builds, implemented,
        if_true, appended, removalCalls, retire, Option.toList_some, List.map_cons, List.map_nil,
        Tables.node?_id found]

theorem deprovisionPlacement_unremovable {session : Session} {placement : UserPlacement}
    (placed : placement.nodeId ∈ session.tables.nodes.map Node.id)
    (unremovable : ¬ Removable hard session.tables placement) (next : Session) :
    (deprovisionPlacement actor lu hard answers session placement).2 ≠ .ok next := by
  intro taken
  apply unremovable
  intro userId remote
  cases found : session.tables.node? placement.nodeId with
  | none => exact absurd placed (Tables.node?_eq_none.1 found)
  | some node =>
      simp only [deprovisionPlacement, found, remote, buildAdapterForNode] at taken
      split at taken
      · cases taken
      next adapterType built =>
        split at built
        · cases built
        next builds =>
          cases built
          split at taken
          next implemented => exact ⟨node, rfl, builds, implemented⟩
          · cases taken

theorem Removable.congr {tables other : Tables} {placement : UserPlacement}
    (same : other.nodes = tables.nodes) (removable : Removable hard tables placement) :
    Removable hard other placement := by
  intro userId remote
  obtain ⟨node, found, serves⟩ := removable userId remote
  exact ⟨node, (Tables.node?_congr same _).trans found, serves⟩

theorem placements_removable {tables : Tables} (rooted : Rooted lu tables tables)
    (actor : String) (answers : String → Answer Unit) {placements : List UserPlacement}
    (owned : ∀ placement ∈ placements, placement.logicalUserId = lu.id)
    (removable : ∀ placement ∈ placements, Removable hard tables placement) :
    forEach (deprovisionPlacement actor lu hard answers) ⟨tables, []⟩ placements =
        (placements.flatMap (removalCalls hard answers),
          .ok ⟨placements.foldl (retire actor lu hard answers) tables, []⟩) ∧
      Rooted lu tables (placements.foldl (retire actor lu hard answers) tables) := by
  refine forEach_flushed (retire actor lu hard answers) (removalCalls hard answers)
    (Rooted lu tables) ?_
    (fun _ kept placement member => rooted_retire kept actor hard answers (owned placement member))
    rooted
  intro current kept placement member
  exact deprovisionPlacement_removable ⟨kept.valid, kept.owner, rfl, rfl⟩ (owned placement member)
    ((removable placement member).congr kept.nodes)

theorem placements_unremovable {tables : Tables} (rooted : Rooted lu tables tables)
    (actor : String) (answers : String → Answer Unit) {placements : List UserPlacement}
    (owned : ∀ placement ∈ placements, placement.logicalUserId = lu.id)
    (placed : ∀ placement ∈ placements, placement.nodeId ∈ tables.nodes.map Node.id)
    (unremovable : ∃ placement ∈ placements, ¬ Removable hard tables placement)
    (final : Session) :
    (forEach (deprovisionPlacement actor lu hard answers) ⟨tables, []⟩ placements).2 ≠
      .ok final := by
  refine forEach_breaks (retire actor lu hard answers) (removalCalls hard answers)
    (Rooted lu tables) (Removable hard tables) (fun _ => False) ?_
    (fun _ kept placement member => rooted_retire kept actor hard answers (owned placement member)) ?_
    (fun _ _ _ impossible => impossible.elim) rooted unremovable final
  · intro current kept placement member removable
    exact deprovisionPlacement_removable ⟨kept.valid, kept.owner, rfl, rfl⟩
      (owned placement member) (removable.congr kept.nodes)
  · intro current kept placement member failing next
    apply deprovisionPlacement_unremovable
    · rw [kept.nodes]
      exact placed placement member
    · exact fun removable => failing (removable.congr kept.nodes.symm)

theorem deprovisionPlacement_calls (session : Session) (placement : UserPlacement) :
    ∀ call ∈ (deprovisionPlacement actor lu hard answers session placement).1,
      Removes hard placement call := by
  intro call present
  unfold deprovisionPlacement at present
  split at present
  next node userId found remote =>
    split at present
    · cases present
    · split at present
      all_goals
        obtain rfl := List.mem_singleton.1 present
        exact ⟨userId, remote, Tables.node?_id found, rfl⟩
  · cases present

@[simp]
theorem retire_nodes (tables : Tables) (placement : UserPlacement) :
    (retire actor lu hard answers tables placement).nodes = tables.nodes := by
  unfold retire
  split <;> rfl

theorem placement?_retire (tables : Tables) {placement : UserPlacement}
    (owned : placement.logicalUserId = lu.id) (nodeId : String) :
    (retire actor lu hard answers tables placement).placement? lu.id nodeId =
      if placement.nodeId = nodeId ∧ (tables.node? nodeId).isSome ∧
          placement.remoteUserId ≠ none then
        some (release (answers nodeId) placement)
      else tables.placement? lu.id nodeId := by
  have key : (release (answers placement.nodeId) placement).key =
      (lu.id, placement.nodeId) := by
    rw [release_key, ← owned]
    rfl
  unfold retire
  split
  next node userId found remote =>
    rw [Tables.placement?_log, Tables.placement?_put, key]
    by_cases same : placement.nodeId = nodeId
    · subst nodeId
      simp [found, remote]
    · simp [same]
  next incomplete =>
    rw [if_neg]
    rintro ⟨rfl, registered, held⟩
    obtain ⟨node, found⟩ := Option.isSome_iff_exists.1 registered
    obtain ⟨userId, remote⟩ := Option.ne_none_iff_exists'.1 held
    exact incomplete node userId found remote

theorem placement?_retire_frame (tables : Tables) {placement : UserPlacement}
    {userId nodeId : String}
    (elsewhere : ¬ (placement.logicalUserId = userId ∧ placement.nodeId = nodeId)) :
    (retire actor lu hard answers tables placement).placement? userId nodeId =
      tables.placement? userId nodeId := by
  unfold retire
  split
  · rw [Tables.placement?_log, Tables.placement?_put, release_key, UserPlacement.key, if_neg]
    simpa using elsewhere
  · rfl

theorem placement?_retired_frame (tables : Tables) {userId nodeId : String}
    {placements : List UserPlacement}
    (elsewhere : ∀ placement ∈ placements,
      ¬ (placement.logicalUserId = userId ∧ placement.nodeId = nodeId)) :
    (placements.foldl (retire actor lu hard answers) tables).placement? userId nodeId =
      tables.placement? userId nodeId :=
  foldl_frame (fun tables => tables.placement? userId nodeId)
    (fun tables placement member => placement?_retire_frame tables (elsewhere placement member))
    tables

-- What the removal leaves of a placement: one without a remote id is passed over.
def removed (answers : String → Answer Unit) (placement : UserPlacement) :
    UserPlacement :=
  if placement.remoteUserId = none then placement else release (answers placement.nodeId) placement

theorem retired_all {tables : Tables} {placements : List UserPlacement}
    (owned : ∀ placement ∈ placements, placement.logicalUserId = lu.id)
    (placed : ∀ placement ∈ placements, (tables.node? placement.nodeId).isSome)
    (stored : ∀ placement ∈ placements,
      tables.placement? lu.id placement.nodeId = some placement)
    (distinct : placements.Pairwise fun first second => first.nodeId ≠ second.nodeId) :
    ∀ placement ∈ placements,
      (placements.foldl (retire actor lu hard answers) tables).placement? lu.id
        placement.nodeId = some (removed answers placement) := by
  induction placements generalizing tables with
  | nil => simp
  | cons head rest ih =>
      obtain ⟨apart, distinct⟩ := List.pairwise_cons.1 distinct
      have ownedRest : ∀ placement ∈ rest, placement.logicalUserId = lu.id :=
        fun placement member => owned placement (List.mem_cons_of_mem _ member)
      have headOwned := owned head List.mem_cons_self
      intro placement member
      rw [List.foldl_cons]
      rcases List.mem_cons.1 member with rfl | later
      · rw [placement?_retired_frame _ fun other inRest here => apart other inRest here.2.symm,
          placement?_retire tables headOwned]
        by_cases held : placement.remoteUserId = none
        · simp [removed, held, stored placement member]
        · simp [removed, held, placed placement member]
      · apply ih ownedRest _ _ distinct placement later
        · intro other inRest
          rw [Tables.node?_congr (retire_nodes tables head)]
          exact placed other (List.mem_cons_of_mem _ inRest)
        · intro other inRest
          rw [placement?_retire tables headOwned, if_neg fun here => apart other inRest here.1]
          exact stored other (List.mem_cons_of_mem _ inRest)

end Deprovision

section Requests

variable (database : Database) (actor logicalUserId : String) (hard : Bool)
  (answers : String → Answer Unit)

theorem user?_rooted {lu : LogicalUser}
    (found : database.tables.user? logicalUserId = some lu) :
    Rooted lu database.tables database.tables :=
  ⟨database.valid, List.mem_map_of_mem (Keyed.mem_of_lookup found), rfl, rfl⟩

/-- A deprovision that commits has handled every placement in turn. -/
structure Retired (lu : LogicalUser) (outcome : Outcome) : Prop where
  found : database.tables.user? logicalUserId = some lu
  removable : ∀ placement ∈ database.tables.placementsOf lu.id,
    Removable hard database.tables placement
  committed : outcome.raised = none
  called : outcome.calls =
    (database.tables.placementsOf lu.id).flatMap (removalCalls hard answers)
  rooted : Rooted lu database.tables outcome.database.tables
  tables : outcome.database.tables =
    (database.tables.placementsOf lu.id).foldl (retire actor lu hard answers) database.tables

theorem deprovision_cases :
    ((deprovision database actor logicalUserId hard answers).raised ≠ none ∧
        (deprovision database actor logicalUserId hard answers).database = database ∧
        ∀ lu, database.tables.user? logicalUserId = some lu →
          ∃ placement ∈ database.tables.placementsOf lu.id,
            ¬ Removable hard database.tables placement) ∨
      ∃ lu, Retired database actor logicalUserId hard answers lu
        (deprovision database actor logicalUserId hard answers) := by
  cases found : database.tables.user? logicalUserId with
  | none => exact .inl (by simp [deprovision, found, finish])
  | some lu =>
      by_cases removable : ∀ placement ∈ database.tables.placementsOf lu.id,
          Removable hard database.tables placement
      · obtain ⟨completed, rooted⟩ := placements_removable
          (user?_rooted database logicalUserId found) actor answers placementsOf_owned removable
        refine .inr ⟨lu, found, removable, ?_, ?_, ?_, ?_⟩ <;>
          simp only [deprovision, found, Session.begin, completed, finish_clean _ _ rooted.valid]
        exact rooted
      · have unremovable : ∃ placement ∈ database.tables.placementsOf lu.id,
            ¬ Removable hard database.tables placement := by simpa using removable
        have stuck := placements_unremovable (user?_rooted database logicalUserId found) actor
          answers placementsOf_owned
          (fun placement member => database.valid.placed placement (List.mem_filter.1 member).1)
          unremovable
        refine .inl ?_
        unfold deprovision
        rw [found]
        dsimp only [Session.begin]
        generalize forEach (deprovisionPlacement actor lu hard answers) ⟨database.tables, []⟩
          (database.tables.placementsOf lu.id) = completed at stuck ⊢
        obtain ⟨calls, error | final⟩ := completed
        · refine ⟨by simp [finish], rfl, ?_⟩
          intro other same
          obtain rfl := Option.some.inj same
          exact unremovable
        · exact absurd rfl (stuck final)

variable {database actor logicalUserId hard answers}

theorem Retired.placement? {lu : LogicalUser} {outcome : Outcome}
    (retired : Retired database actor logicalUserId hard answers lu outcome)
    {placement : UserPlacement} (member : placement ∈ database.tables.placementsOf lu.id) :
    outcome.database.tables.placement? lu.id placement.nodeId =
      some (removed answers placement) := by
  rw [retired.tables]
  apply retired_all placementsOf_owned _ _ (placementsOf_distinct database.valid lu.id) _ member
  · intro placement member
    exact Keyed.lookup_isSome.2 (database.valid.placed placement (List.mem_filter.1 member).1)
  · exact fun placement member => placement?_of_mem database.valid member

theorem Retired.placement?_frame {lu : LogicalUser} {outcome : Outcome}
    (retired : Retired database actor logicalUserId hard answers lu outcome) {userId : String}
    (other : lu.id ≠ userId) (nodeId : String) :
    outcome.database.tables.placement? userId nodeId =
      database.tables.placement? userId nodeId := by
  rw [retired.tables]
  apply placement?_retired_frame
  rintro placement member ⟨owned, -⟩
  exact other ((placementsOf_owned placement member).symm.trans owned)

variable (database actor logicalUserId hard answers)

theorem deprovision_calls :
    ∀ call ∈ (deprovision database actor logicalUserId hard answers).calls,
      ∃ placement ∈ database.tables.placementsOf logicalUserId,
        Removes hard placement call := by
  unfold deprovision
  cases found : database.tables.user? logicalUserId with
  | none => simp [finish]
  | some lu =>
      have made := forEach_calls (deprovisionPlacement actor lu hard answers)
        (Removes hard) deprovisionPlacement_calls (.begin database) (database.tables.placementsOf lu.id)
      obtain rfl : lu.id = logicalUserId := Keyed.lookup_key found
      dsimp only
      rw [finish_calls]
      exact made

end Requests

end Fleet.FanOut
