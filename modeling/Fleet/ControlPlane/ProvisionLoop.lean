import Fleet.ControlPlane.Provisioning
import Fleet.ControlPlane.Transactions

set_option autoImplicit false

namespace Fleet.FanOut

open Db NodeAdapter Provisioning

/-- What resolving the identity may change: a user of that name is there, nothing else moves. -/
structure Identified (before after : Tables) (username : String) (lu : LogicalUser) : Prop where
  valid : after.Valid
  member : lu ∈ after.users
  username : lu.username = username
  kept : ∀ user ∈ before.users,
    ∃ later ∈ after.users, later.id = user.id ∧ later.username = user.username
  nodes : after.nodes = before.nodes
  placements : after.placements = before.placements
  audit : after.audit = before.audit

theorem Identified.owner {before after : Tables} {username : String} {lu : LogicalUser}
    (identified : Identified before after username lu) :
    lu.id ∈ after.users.map LogicalUser.id := List.mem_map_of_mem identified.member

theorem identified_of_address {tables : Tables} (valid : tables.Valid) {existing : LogicalUser}
    (member : existing ∈ tables.users) (email : Option String) :
    Identified tables
      { tables with users :=
          Keyed.replace LogicalUser.id { existing with email := email } tables.users }
      existing.username { existing with email := email } := by
  have same (user : LogicalUser) (present : user ∈ tables.users) :
      (if user.id = existing.id then { existing with email := email } else user).id = user.id ∧
        (if user.id = existing.id then { existing with email := email } else user).username =
          user.username := by
    by_cases here : user.id = existing.id
    · obtain rfl := valid.users.eq_of_key present member here
      simp
    · simp [here]
  refine ⟨valid.renew (Keyed.map_key_replace _ _) ?_, ?_, rfl, ?_, rfl, rfl, rfl⟩
  · simp only [Keyed.replace, List.map_map]
    apply List.map_congr_left
    exact fun user present => (same user present).2
  · exact List.mem_map.2 ⟨existing, member, by simp⟩
  · intro user present
    exact ⟨_, List.mem_map_of_mem present, same user present⟩

theorem getOrCreateLogical_cases (database : Database) (username : String)
    (email : Option String) (newId : String) :
    (newId ∈ database.tables.users.map LogicalUser.id ∧
        getOrCreateLogical (.begin database) username email newId = .error .integrityError) ∨
      ∃ lu after,
        getOrCreateLogical (.begin database) username email newId = .ok (lu, ⟨after, []⟩) ∧
          Identified database.tables after username lu := by
  obtain ⟨tables, valid⟩ := database
  cases found : Keyed.lookup LogicalUser.username username tables.users with
  | some existing =>
      obtain rfl := Keyed.lookup_key found
      have member := Keyed.mem_of_lookup found
      by_cases fills : email.getD "" ≠ "" ∧ existing.email.getD "" = ""
      · refine .inr ⟨_, _, ?_, identified_of_address valid member email⟩
        simp [getOrCreateLogical, Session.begin, found, fills]
      · refine .inr ⟨existing, tables,
          by simp [getOrCreateLogical, Session.begin, found, fills], ?_⟩
        exact ⟨valid, member, rfl, fun user present => ⟨user, present, rfl, rfl⟩, rfl, rfl, rfl⟩
  | none =>
      by_cases used : newId ∈ tables.users.map LogicalUser.id
      · have clash : ¬ Tables.Valid
            { tables with users := tables.users ++ [⟨newId, username, email⟩] } := by
          intro sound
          have ids := sound.users
          rw [Keyed.Unique, List.map_append, List.nodup_append] at ids
          exact ids.2.2 newId used newId (by simp) rfl
        refine .inl ⟨used, ?_⟩
        simp [getOrCreateLogical, Session.begin, found, Session.flush, clash]
      · have sound := valid.enlist ⟨newId, username, email⟩ used (Keyed.lookup_eq_none.1 found)
        refine .inr ⟨⟨newId, username, email⟩, _, ?_, sound, by simp, rfl, fun user present => ?_,
          rfl, rfl, rfl⟩
        · simp [getOrCreateLogical, Session.begin, found, Session.flush, sound]
        · exact ⟨user, List.mem_append_left _ present, rfl, rfl⟩

-- No other user than the one it resolves is touched.
theorem getOrCreateLogical_frame {database : Database} {username : String} {email : Option String}
    {newId : String} {lu : LogicalUser} {after : Tables}
    (resolved : getOrCreateLogical (.begin database) username email newId = .ok (lu, ⟨after, []⟩))
    {id : String} (other : lu.id ≠ id) : after.user? id = database.tables.user? id := by
  unfold getOrCreateLogical Session.begin at resolved
  dsimp only at resolved
  split at resolved
  next existing found =>
    split at resolved
    · cases resolved
      exact (Keyed.lookup_replace ..).trans (if_neg other)
    · cases resolved
      rfl
  next missing =>
    split at resolved
    next flushed taken =>
      unfold Session.flush at taken
      split at taken
      · cases taken
        cases resolved
        simp [Tables.user?, Keyed.lookup, Session.flushed, List.find?_append, other]
      · cases taken
    · cases resolved

section Provision

variable (actor username : String) (email : Option String) (lu : LogicalUser)

def Served (tables : Tables) (attempt : Attempt) : Prop :=
  ∃ node, tables.node? attempt.target.nodeId = some node ∧
    node.Serves (creation username email attempt.target)

instance (tables : Tables) (attempt : Attempt) : Decidable (Served username email tables attempt) :=
  match found : tables.node? attempt.target.nodeId with
  | none => .isFalse (by simp [Served, found])
  | some node =>
      decidable_of_iff (node.Serves (creation username email attempt.target))
        (by simp [Served, found])

def creationCall (attempt : Attempt) : Call :=
  ⟨attempt.target.nodeId, creation username email attempt.target, attempt.answer.outcome .created⟩

/-- The call is an attempt to create the user of the target. -/
structure Creates (attempt : Attempt) (call : Call) : Prop where
  site : call.nodeId = attempt.target.nodeId
  operation : call.operation = creation username email attempt.target
  reply : call.reply = attempt.answer.outcome .created ∨ call.reply = .notImplemented

-- What one target leaves in the tables when its node is registered and can be called.
def advance (tables : Tables) (attempt : Attempt) : Tables :=
  match tables.node? attempt.target.nodeId with
  | some node =>
      (tables.put (settle attempt (placementFor lu tables attempt.target))).log
        (provisionEntry actor username node attempt)
  | none => tables

variable {actor username email lu}

theorem placementFor_key (tables : Tables) (target : Target) :
    (placementFor lu tables target).key = (lu.id, target.nodeId) := by
  unfold placementFor
  cases found : tables.placement? lu.id target.nodeId with
  | none => rfl
  | some placement => exact Tables.placement?_key found

theorem settle_key (attempt : Attempt) (placement : UserPlacement) :
    (settle attempt placement).key = placement.key := by
  unfold settle
  split <;> rfl

theorem settled_key (lu : LogicalUser) (tables : Tables) (attempt : Attempt) :
    (settle attempt (placementFor lu tables attempt.target)).key =
      (lu.id, attempt.target.nodeId) := by
  rw [settle_key, placementFor_key]

theorem advance_valid {tables : Tables} (valid : tables.Valid)
    (owner : lu.id ∈ tables.users.map LogicalUser.id) (attempt : Attempt) :
    (advance actor username lu tables attempt).Valid := by
  unfold advance
  split
  next node found =>
    obtain ⟨ownerKey, siteKey⟩ := Prod.mk.inj (settled_key lu tables attempt)
    apply (valid.put _ _).log
    · rw [ownerKey]
      exact owner
    · rw [siteKey]
      exact Tables.node?_mem found
  · exact valid

theorem provisionTarget_served {tables : Tables} (valid : tables.Valid)
    (owner : lu.id ∈ tables.users.map LogicalUser.id) {attempt : Attempt}
    (served : Served username email tables attempt) :
    provisionTarget actor username email lu ⟨tables, []⟩ attempt =
      ([creationCall username email attempt],
        .ok ⟨advance actor username lu tables attempt, []⟩) := by
  obtain ⟨node, found, builds, implemented⟩ := served
  obtain ⟨ownerKey, siteKey⟩ := Prod.mk.inj (settled_key lu tables attempt)
  have appended := Session.store_append valid
    (settle attempt (placementFor lu tables attempt.target))
    (by rw [ownerKey]; exact owner) (by rw [siteKey]; exact Tables.node?_mem found)
    (provisionEntry actor username node attempt).1 (provisionEntry actor username node attempt).2
  simp only [provisionTarget, found, buildAdapterForNode, builds, implemented, if_true, appended,
    creationCall, advance, Tables.node?_id found]

theorem provisionTarget_unserved {tables : Tables} (valid : tables.Valid) {attempt : Attempt}
    (unserved : ¬ Served username email tables attempt) {next : Session}
    (taken : (provisionTarget actor username email lu ⟨tables, []⟩ attempt).2 = .ok next) :
    next.Poisoned := by
  cases found : tables.node? attempt.target.nodeId with
  | some node =>
      exfalso
      unfold provisionTarget at taken
      simp only [found, buildAdapterForNode] at taken
      split at taken
      · cases taken
      next adapterType built =>
        split at built
        · cases built
        next builds =>
          cases built
          split at taken
          next implemented => exact unserved ⟨node, found, builds, implemented⟩
          · cases taken
  | none =>
      -- No row can hold an unregistered node, so the placement is a new one.
      have unknown := Tables.node?_eq_none.1 found
      have new : tables.placement? lu.id attempt.target.nodeId = none := by
        cases old : tables.placement? lu.id attempt.target.nodeId with
        | none => rfl
        | some placement =>
            have placed := valid.placed placement (Keyed.mem_of_lookup old)
            obtain ⟨-, site⟩ := Prod.mk.inj (Tables.placement?_key old)
            exact absurd (site ▸ placed) unknown
      simp only [provisionTarget, placementFor, found, new, Option.getD_none,
        Except.ok.injEq] at taken
      subst taken
      have absent : Keyed.lookup UserPlacement.key
          (notFound (fresh lu attempt.target)).key tables.placements = none := new
      unfold Session.store
      rw [absent]
      exact ⟨_, List.mem_append_right _ (List.mem_singleton_self _), unknown⟩

theorem provisionTarget_poisoned (session : Session) (attempt : Attempt) (next : Session)
    (poisoned : session.Poisoned)
    (taken : (provisionTarget actor username email lu session attempt).2 = .ok next) :
    next.Poisoned := by
  unfold provisionTarget at taken
  split at taken
  · cases taken
    exact poisoned.store _
  · split at taken
    · cases taken
    · split at taken
      · dsimp only at taken
        rw [(poisoned.store _).append] at taken
        cases taken
      · cases taken

theorem provisionTarget_calls (session : Session) (attempt : Attempt) :
    ∀ call ∈ (provisionTarget actor username email lu session attempt).1,
      Creates username email attempt call := by
  intro call present
  unfold provisionTarget at present
  split at present
  · cases present
  next node found =>
    have site := Tables.node?_id found
    split at present
    · cases present
    · split at present
      all_goals obtain rfl := List.mem_singleton.1 present
      · exact ⟨site, rfl, .inl rfl⟩
      · exact ⟨site, rfl, .inr rfl⟩

theorem Served.congr {tables other : Tables} {attempt : Attempt}
    (same : other.nodes = tables.nodes) (served : Served username email tables attempt) :
    Served username email other attempt := by
  obtain ⟨node, found, serves⟩ := served
  exact ⟨node, (Tables.node?_congr same _).trans found, serves⟩

@[simp]
theorem advance_nodes (tables : Tables) (attempt : Attempt) :
    (advance actor username lu tables attempt).nodes = tables.nodes := by
  unfold advance
  split <;> rfl

@[simp]
theorem advance_users (tables : Tables) (attempt : Attempt) :
    (advance actor username lu tables attempt).users = tables.users := by
  unfold advance
  split <;> rfl

theorem rooted_advance {start tables : Tables} (rooted : Rooted lu start tables)
    (actor username : String) (attempt : Attempt) :
    Rooted lu start (advance actor username lu tables attempt) where
  valid := advance_valid rooted.valid rooted.owner attempt
  owner := by simpa using rooted.owner
  nodes := (advance_nodes tables attempt).trans rooted.nodes
  users := (advance_users tables attempt).trans rooted.users

theorem targets_served {tables : Tables} (rooted : Rooted lu tables tables) (actor : String)
    {attempts : List Attempt}
    (served : ∀ attempt ∈ attempts, Served username email tables attempt) :
    forEach (provisionTarget actor username email lu) ⟨tables, []⟩ attempts =
        (attempts.map (creationCall username email),
          .ok ⟨attempts.foldl (advance actor username lu) tables, []⟩) ∧
      Rooted lu tables (attempts.foldl (advance actor username lu) tables) := by
  rw [List.map_eq_flatMap]
  refine forEach_flushed (advance actor username lu)
    (fun attempt => [creationCall username email attempt]) (Rooted lu tables) ?_
    (fun _ kept attempt _ => rooted_advance kept actor username attempt) rooted
  intro current kept attempt member
  exact provisionTarget_served kept.valid kept.owner ((served attempt member).congr kept.nodes)

theorem targets_unserved {tables : Tables} (rooted : Rooted lu tables tables) (actor : String)
    {attempts : List Attempt}
    (unserved : ∃ attempt ∈ attempts, ¬ Served username email tables attempt) (final : Session)
    (completed : (forEach (provisionTarget actor username email lu) ⟨tables, []⟩ attempts).2 =
      .ok final) : final.Poisoned := by
  refine forEach_breaks (advance actor username lu)
    (fun attempt => [creationCall username email attempt]) (Rooted lu tables)
    (Served username email tables) Session.Poisoned ?_
    (fun _ kept attempt _ => rooted_advance kept actor username attempt) ?_ provisionTarget_poisoned
    rooted unserved final completed
  · intro current kept attempt _ served
    exact provisionTarget_served kept.valid kept.owner (served.congr kept.nodes)
  · intro current kept attempt _ failing next taken
    exact provisionTarget_unserved kept.valid
      (fun served => failing (served.congr kept.nodes.symm)) taken

theorem placement?_advance (tables : Tables) (attempt : Attempt) (nodeId : String) :
    (advance actor username lu tables attempt).placement? lu.id nodeId =
      if attempt.target.nodeId = nodeId ∧ (tables.node? nodeId).isSome then
        some (settle attempt (placementFor lu tables attempt.target))
      else tables.placement? lu.id nodeId := by
  unfold advance
  split
  next node found =>
    rw [Tables.placement?_log, Tables.placement?_put, settled_key]
    by_cases same : attempt.target.nodeId = nodeId
    · simp [← same, found]
    · simp [same]
  next missing =>
    rw [if_neg]
    rintro ⟨rfl, registered⟩
    simp [missing] at registered

theorem placement?_advance_frame (tables : Tables) {attempt : Attempt} {userId nodeId : String}
    (elsewhere : ¬ (lu.id = userId ∧ attempt.target.nodeId = nodeId)) :
    (advance actor username lu tables attempt).placement? userId nodeId =
      tables.placement? userId nodeId := by
  unfold advance
  split
  · rw [Tables.placement?_log, Tables.placement?_put, settled_key, if_neg]
    simpa using elsewhere
  · rfl

theorem placement?_targets_frame (tables : Tables) {attempts : List Attempt}
    {userId nodeId : String}
    (elsewhere : ∀ attempt ∈ attempts, ¬ (lu.id = userId ∧ attempt.target.nodeId = nodeId)) :
    (attempts.foldl (advance actor username lu) tables).placement? userId nodeId =
      tables.placement? userId nodeId :=
  foldl_frame (fun tables => tables.placement? userId nodeId)
    (fun tables attempt member => placement?_advance_frame tables (elsewhere attempt member)) tables

end Provision

section Requests

variable (database : Database) (actor username : String) (email : Option String) (newId : String)
  (attempts : List Attempt)

theorem Identified.rooted {before after : Tables} {username : String} {lu : LogicalUser}
    (identified : Identified before after username lu) : Rooted lu after after :=
  ⟨identified.valid, identified.owner, rfl, rfl⟩

/-- A provision that commits has handled every target in turn. -/
structure Completed (lu : LogicalUser) (after : Tables) (outcome : Outcome) : Prop where
  identified : Identified database.tables after username lu
  served : ∀ attempt ∈ attempts, Served username email database.tables attempt
  rooted : Rooted lu after outcome.database.tables
  committed : outcome.raised = none
  called : outcome.calls = attempts.map (creationCall username email)
  tables : outcome.database.tables = attempts.foldl (advance actor username lu) after

theorem provision_cases :
    ((provision database actor username email newId attempts).raised ≠ none ∧
        (provision database actor username email newId attempts).database = database ∧
        ((newId ∈ database.tables.users.map LogicalUser.id ∧
            (provision database actor username email newId attempts).calls = []) ∨
          ∃ attempt ∈ attempts, ¬ Served username email database.tables attempt)) ∨
      ∃ lu after,
        getOrCreateLogical (.begin database) username email newId = .ok (lu, ⟨after, []⟩) ∧
          Completed database actor username email attempts lu after
            (provision database actor username email newId attempts) := by
  rcases getOrCreateLogical_cases database username email newId with
    ⟨used, clash⟩ | ⟨lu, after, resolved, identified⟩
  · exact .inl (by simp [provision, clash, finish, used])
  · by_cases served : ∀ attempt ∈ attempts, Served username email database.tables attempt
    · obtain ⟨completed, rooted⟩ := targets_served identified.rooted actor
        fun attempt member => (served attempt member).congr identified.nodes
      refine .inr ⟨lu, after, resolved, identified, served, ?_, ?_, ?_, ?_⟩ <;>
        simp only [provision, resolved, completed, finish_clean _ _ rooted.valid]
      exact rooted
    · have unserved : ∃ attempt ∈ attempts, ¬ Served username email database.tables attempt := by
        simpa using served
      have poisons := targets_unserved identified.rooted actor (by
        obtain ⟨attempt, member, failing⟩ := unserved
        exact ⟨attempt, member, fun served => failing (served.congr identified.nodes.symm)⟩)
      refine .inl ?_
      unfold provision
      rw [resolved]
      dsimp only
      generalize forEach (provisionTarget actor username email lu) ⟨after, []⟩ attempts =
        completed at poisons ⊢
      obtain ⟨calls, error | final⟩ := completed
      · simpa [finish] using .inr unserved
      · rw [(poisons final rfl).finish]
        simpa using .inr unserved

variable {database actor username email attempts}

theorem Completed.named {lu : LogicalUser} {after : Tables} {outcome : Outcome}
    (completed : Completed database actor username email attempts lu after outcome)
    {userId name : String} (named : database.tables.Named userId name) :
    outcome.database.tables.Named userId name ∧ (lu.id = userId → username = name) := by
  obtain ⟨user, member, rfl, rfl⟩ := named
  obtain ⟨later, present, sameId, sameName⟩ := completed.identified.kept user member
  constructor
  · rw [Tables.Named, completed.rooted.users]
    exact ⟨later, present, sameId, sameName⟩
  · intro same
    have unique := completed.identified.valid.users
    rw [← completed.identified.username, ← sameName,
      unique.eq_of_key completed.identified.member present (same.trans sameId.symm)]

theorem Completed.placement?_frame {lu : LogicalUser} {after : Tables} {outcome : Outcome}
    (completed : Completed database actor username email attempts lu after outcome)
    {userId nodeId : String}
    (elsewhere : ∀ attempt ∈ attempts, ¬ (lu.id = userId ∧ attempt.target.nodeId = nodeId)) :
    outcome.database.tables.placement? userId nodeId =
      database.tables.placement? userId nodeId := by
  rw [completed.tables, placement?_targets_frame after elsewhere, Tables.placement?,
    completed.identified.placements]
  rfl

variable (database actor username email attempts)

theorem provision_calls :
    ∀ call ∈ (provision database actor username email newId attempts).calls,
      ∃ attempt ∈ attempts, Creates username email attempt call := by
  unfold provision
  cases getOrCreateLogical (.begin database) username email newId with
  | error error => simp [finish]
  | ok resolved =>
      obtain ⟨lu, session⟩ := resolved
      have made := forEach_calls
        (provisionTarget actor username email lu)
        (Creates username email) provisionTarget_calls session attempts
      dsimp only
      rw [finish_calls]
      exact made

end Requests

end Fleet.FanOut
