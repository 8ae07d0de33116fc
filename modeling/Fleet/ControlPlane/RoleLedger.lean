import Fleet.ControlPlane.ActionEffects
import Fleet.ControlPlane.ChangeAudit

set_option autoImplicit false

namespace Fleet.RoleLedger

open Identity Db Api Execution

-- What a log can tell of a principal.
structure Holder where
  id : String
  username : String
  bindings : List RoleBinding
  deriving DecidableEq

def holderOf (principal : Principal) : Holder :=
  ⟨principal.id, principal.username, principal.bindings⟩

def holders (accounts : Auth.Accounts) : List Holder := accounts.principals.map holderOf

section Replay

def roles : List Role := [.viewer, .operator, .admin]

def roleOf (value : String) : Option Role := roles.find? fun role => role.value = value

def textParam (key : String) (fields : AuditLog.Fields) : String :=
  match (fields.params.getD []).lookup key with
  | some (.str text) => text
  | _ => ""

def Holder.granted (nodeId : String) (role : Role) (holder : Holder) : Holder :=
  { holder with
    bindings :=
      match holder.bindings.find? fun binding => binding.nodeId = nodeId with
      | some _ => holder.bindings.map fun binding =>
          if binding.nodeId = nodeId then { binding with role := role } else binding
      | none => holder.bindings ++ [⟨nodeId, role⟩] }

def Holder.withdrawn (nodeId : String) (holder : Holder) : Holder :=
  { holder with bindings := holder.bindings.filter fun binding => binding.nodeId ≠ nodeId }

def alter (id : String) (change : Holder → Holder) (book : List Holder) : List Holder :=
  book.map fun holder => if holder.id = id then change holder else holder

def written : List String :=
  ["create_principal", "delete_principal", "set_role_binding", "delete_role_binding"]

/-- The entry tells of a principal or of a binding. -/
def Tells (fields : AuditLog.Fields) : Prop :=
  fields.result = "success" ∧ fields.action ∈ written

instance (fields : AuditLog.Fields) : Decidable (Tells fields) :=
  inferInstanceAs (Decidable (_ ∧ _))

-- Rebuilds the principals and their bindings from the entries alone.
def replay (book : List Holder) (fields : AuditLog.Fields) : List Holder :=
  if Tells fields then
    let id := fields.targetId.getD ""
    let nodeId := fields.nodeId.getD ""
    if fields.action = "create_principal" then book ++ [⟨id, textParam "username" fields, []⟩]
    else if fields.action = "delete_principal" then book.filter fun holder => holder.id ≠ id
    else if fields.action = "set_role_binding" then
      match roleOf (textParam "role" fields) with
      | some role => alter id (Holder.granted nodeId role) book
      | none => book
    else alter id (Holder.withdrawn nodeId) book
  else book

def replayed (book : List Holder) (entries : List (Datetime × AuditLog.Fields)) : List Holder :=
  entries.foldl (fun book entry => replay book entry.2) book

theorem replayed_append (book : List Holder) (early late : List (Datetime × AuditLog.Fields)) :
    replayed book (early ++ late) = replayed (replayed book early) late := List.foldl_append

theorem replayed_untold {book : List Holder} {entries : List (Datetime × AuditLog.Fields)}
    (untold : ∀ entry ∈ entries, ¬ Tells entry.2) : replayed book entries = book := by
  induction entries with
  | nil => rfl
  | cons entry rest ih =>
      obtain ⟨here, later⟩ := List.forall_mem_cons.1 untold
      rw [replayed, List.foldl_cons, replay, if_neg here]
      exact ih later

theorem untold_of_action {fields : AuditLog.Fields} (other : fields.action ∉ written) :
    ¬ Tells fields := fun tells => other tells.2

theorem roleOf_value (role : Role) : roleOf role.value = some role := by
  cases role <;> decide

end Replay

section Shown

-- The bindings to nodes that are gone went with them.
def Holder.shown (ids : List String) (holder : Holder) : Holder :=
  { holder with bindings := holder.bindings.filter fun binding => binding.nodeId ∈ ids }

theorem shown_granted {ids : List String} {nodeId : String} (kept : nodeId ∈ ids) (role : Role)
    (holder : Holder) :
    (holder.granted nodeId role).shown ids = (holder.shown ids).granted nodeId role := by
  have same : (holder.bindings.filter fun binding => binding.nodeId ∈ ids).find?
      (fun binding => binding.nodeId = nodeId) =
        holder.bindings.find? fun binding => binding.nodeId = nodeId := by
    rw [List.find?_filter]
    congr 1
    funext binding
    by_cases here : binding.nodeId = nodeId <;> simp [here, kept]
  unfold Holder.granted Holder.shown
  dsimp only
  rw [same]
  cases holder.bindings.find? fun binding => binding.nodeId = nodeId with
  | none => simp [kept]
  | some found =>
      dsimp only
      rw [List.filter_map]
      congr 3
      funext binding
      by_cases here : binding.nodeId = nodeId <;> simp [here]

theorem shown_withdrawn (ids : List String) (nodeId : String) (holder : Holder) :
    (holder.withdrawn nodeId).shown ids = (holder.shown ids).withdrawn nodeId := by
  unfold Holder.withdrawn Holder.shown
  simp only [List.filter_filter, Bool.and_comm]

theorem shown_erased (ids : List String) (nodeId : String) (holder : Holder) :
    holder.shown (ids.filter (· ≠ nodeId)) = (holder.shown ids).withdrawn nodeId := by
  unfold Holder.withdrawn Holder.shown
  simp only [List.filter_filter, List.mem_filter, Bool.decide_and, Bool.and_comm]
  simp

theorem shown_concat {ids : List String} {nodeId : String} {holder : Holder}
    (unbound : ∀ binding ∈ holder.bindings, binding.nodeId ≠ nodeId) :
    holder.shown (ids ++ [nodeId]) = holder.shown ids := by
  unfold Holder.shown
  congr 1
  apply List.filter_congr
  intro binding member
  simp [unbound binding member]

theorem alter_shown {ids : List String} {change : Holder → Holder}
    (through : ∀ holder : Holder, (change holder).shown ids = change (holder.shown ids))
    (id : String) (book : List Holder) :
    alter id change (book.map (Holder.shown ids)) = (alter id change book).map (Holder.shown ids) := by
  simp only [alter, List.map_map]
  apply List.map_congr_left
  intro holder _
  change (if holder.id = id then change (holder.shown ids) else holder.shown ids) =
    Holder.shown ids (if holder.id = id then change holder else holder)
  split
  · exact (through holder).symm
  · rfl

end Shown

def nodeIds (world : World) : List String := world.database.tables.nodes.map Node.id

/-- The accounts are the book as far as its nodes are still there. -/
def Sourced (world : World) (book : List Holder) : Prop :=
  holders world.accounts = book.map (Holder.shown (nodeIds world))

def Known (ids : List String) (book : List Holder) (id : String) : Prop :=
  id ∈ ids ∨ ∃ holder ∈ book, ∃ binding ∈ holder.bindings, binding.nodeId = id

/-- The entries written lead the book to the accounts that are left, and name no other new node. -/
def Follows (newId : String) (world after : World) (book : List Holder) : Prop :=
  ∃ entries, after.database.tables.audit = world.database.tables.audit ++ entries ∧
    Sourced after (replayed book entries) ∧
      ∀ id, Known (nodeIds after) (replayed book entries) id →
        Known (nodeIds world) book id ∨ id = newId

/-- Neither the principals nor the nodes are others, and no entry tells of any. -/
structure Quiet (world after : World) : Prop where
  holders : holders after.accounts = holders world.accounts
  nodes : nodeIds after = nodeIds world
  recorded : ∃ entries, after.database.tables.audit = world.database.tables.audit ++ entries ∧
    ∀ entry ∈ entries, ¬ Tells entry.2

section Steps

variable {world after : World} {book : List Holder} {newId : String}

theorem Quiet.follows (quiet : Quiet world after) (sourced : Sourced world book) :
    Follows newId world after book := by
  obtain ⟨entries, appended, untold⟩ := quiet.recorded
  refine ⟨entries, appended, ?_, ?_⟩
  · rw [Sourced, quiet.holders, sourced, replayed_untold untold, quiet.nodes]
  · rw [replayed_untold untold, quiet.nodes]
    exact fun id known => .inl known

theorem quiet_refl (world : World) : Quiet world world :=
  ⟨rfl, rfl, [], by simp, by simp⟩

theorem quiet_of_keepsLog (keeps : KeepsLog world after) (nodes : nodeIds after = nodeIds world) :
    Quiet world after :=
  ⟨by rw [keeps.accounts], nodes, [], by simp [keeps.audit], by simp⟩

-- One entry that tells of a change of the book is written with that change.
theorem follows_of_told (changed : List Holder) {ts : Datetime} {fields : AuditLog.Fields}
    (appended : after.database.tables.audit = world.database.tables.audit ++ [(ts, fields)])
    (nodes : nodeIds after = nodeIds world) (told : replay book fields = changed)
    (shows_ : holders after.accounts = changed.map (Holder.shown (nodeIds world)))
    (bindings : ∀ holder ∈ changed, ∀ binding ∈ holder.bindings,
      Known (nodeIds world) book binding.nodeId) : Follows newId world after book := by
  have single : replayed book [(ts, fields)] = changed := told
  refine ⟨[(ts, fields)], appended, ?_, ?_⟩
  · rw [Sourced, single, nodes, shows_]
  · rw [single, nodes]
    rintro id (node | ⟨holder, member, binding, bound, rfl⟩)
    · exact .inl (.inl node)
    · exact .inl (bindings holder member binding bound)

theorem known_of_mem {ids : List String} {holder : Holder} (member : holder ∈ book)
    {binding : RoleBinding} (bound : binding ∈ holder.bindings) : Known ids book binding.nodeId :=
  .inr ⟨holder, member, binding, bound, rfl⟩

theorem known_of_alter {ids : List String} {id : String} {change : Holder → Holder}
    (narrow : ∀ holder, ∀ binding ∈ (change holder).bindings,
      binding.nodeId ∈ ids ∨ ∃ old ∈ holder.bindings, old.nodeId = binding.nodeId) :
    ∀ holder ∈ alter id change book, ∀ binding ∈ holder.bindings,
      Known ids book binding.nodeId := by
  intro holder member binding bound
  obtain ⟨old, present, rfl⟩ := List.mem_map.1 member
  split at bound
  · rcases narrow old binding bound with node | ⟨other, held, same⟩
    · exact .inl node
    · exact same ▸ known_of_mem present held
  · exact known_of_mem present bound

theorem holders_amend (accounts : Auth.Accounts) (id : String) {amendment : Auth.Amendment}
    {change : Holder → Holder}
    (same : ∀ principal, holderOf (amendment.change principal) = change (holderOf principal)) :
    holders (accounts.amend id amendment) = alter id change (holders accounts) := by
  simp only [holders, Auth.Accounts.amend, alter, List.map_map]
  apply List.map_congr_left
  intro principal _
  change holderOf (if principal.id = id then _ else principal) =
    if principal.id = id then change (holderOf principal) else holderOf principal
  split
  · exact same principal
  · rfl

theorem holders_kept (accounts : Auth.Accounts) (id : String) {amendment : Auth.Amendment}
    (same : ∀ principal, (amendment.change principal).bindings = principal.bindings) :
    holders (accounts.amend id amendment) = holders accounts := by
  have rewritten := @holders_amend accounts id amendment (fun holder => holder) fun principal => by
    simp [holderOf, amendment.ids, amendment.usernames, same]
  rw [rewritten]
  simp [alter]

end Steps

section Registry

variable {world : World} {book : List Holder}

theorem createNode_follows (sourced : Sourced world book) {newId : String}
    (unknown : ¬ Known (nodeIds world) book newId) (payload : NodeCreate) :
    Follows newId world (createNode world newId payload).1 book := by
  unfold createNode
  dsimp only
  split
  · exact (quiet_refl world).follows sourced
  · split
    · exact (quiet_refl world).follows sourced
    next database stored =>
      have tables := store_tables stored
      have nodes : database.tables.nodes.map Node.id = nodeIds world ++ [newId] := by
        rw [tables, List.map_append]
        rfl
      refine ⟨[], by simp [tables], ?_, ?_⟩
      · rw [Sourced, nodeIds, nodes]
        refine sourced.trans (List.map_congr_left fun holder member => (shown_concat ?_).symm)
        exact fun binding bound same => unknown (same ▸ known_of_mem member bound)
      · rintro id (node | held)
        · rw [nodeIds, nodes, List.mem_append, List.mem_singleton] at node
          exact node.imp_left .inl
        · exact .inl (.inr held)

theorem updateNode_quiet (nodeId : String) (payload : NodeUpdate) :
    Quiet world (updateNode world nodeId payload).1 := by
  refine quiet_of_keepsLog (updateNode_keeps nodeId payload) ?_
  unfold updateNode
  dsimp only
  split
  · rfl
  · split
    · rfl
    · split
      · rfl
      · split
        · rfl
        next stored =>
          rw [nodeIds, store_tables stored]
          exact Keyed.map_key_replace ..

theorem checkNode_quiet {Moment : Type} (platform : Platform Moment) (nodeId : String)
    (visit : Health.Visit) : Quiet world (checkNode world platform nodeId visit).1 := by
  refine quiet_of_keepsLog (checkNode_keeps platform nodeId visit) ?_
  unfold checkNode
  dsimp only
  split
  · rfl
  · split
    · rfl
    · split
      · rfl
      next stored =>
        rw [nodeIds, store_tables stored]
        exact Keyed.map_key_replace ..

theorem deleteNode_follows (sourced : Sourced world book) (newId nodeId : String) :
    Follows newId world (deleteNode world nodeId).1 book := by
  unfold deleteNode
  dsimp only
  split
  · exact (quiet_refl world).follows sourced
  · split
    · exact (quiet_refl world).follows sourced
    next database stored =>
      have tables := store_tables stored
      have nodes : database.tables.nodes.map Node.id = (nodeIds world).filter (· ≠ nodeId) := by
        rw [tables, nodeIds, List.filter_map]
        rfl
      refine ⟨[], by simp [tables], ?_, ?_⟩
      · have left : holders (world.accounts.amendAll (unbound nodeId)) =
            (holders world.accounts).map (Holder.withdrawn nodeId) := by
          simp only [holders, Auth.Accounts.amendAll, List.map_map]
          rfl
        rw [Sourced, nodeIds, nodes, left, sourced, List.map_map]
        exact List.map_congr_left fun holder _ => (shown_erased _ nodeId holder).symm
      · rintro id (node | held)
        · rw [nodeIds, nodes] at node
          exact .inl (.inl (List.mem_of_mem_filter node))
        · exact .inl (.inr held)

end Registry

section Accounts

variable {world : World} {book : List Holder} {ts : Datetime}

theorem ofAuth_quiet {result : Auth.Result}
    (same : holders result.1.accounts = holders world.accounts)
    (untold : ∀ fields ∈ result.1.audit, ¬ Tells fields) :
    Quiet world (ofAuth world ts result).1 := by
  refine ⟨same, rfl, result.1.audit.map fun fields => (ts, fields), rfl, ?_⟩
  intro entry member
  obtain ⟨fields, present, rfl⟩ := List.mem_map.1 member
  exact untold fields present

variable {primitives : Auth.Primitives} {settings : Auth.Settings} {now : Nat}
  {bearer : Option Auth.Token}

theorem login_quiet (limiterKey username password : String) :
    Quiet world (ofAuth world ts
      (Auth.login primitives settings (enter world) now limiterKey username password)).1 := by
  apply ofAuth_quiet
  · unfold Auth.login
    dsimp only
    split
    · rfl
    · split <;> rfl
  · unfold Auth.login
    dsimp only
    split
    · simp [enter]
    · split
      · simp [enter, Auth.World.log, Tells]
      · simp [enter]

theorem mfaEnroll_quiet (secret : String) :
    Quiet world (ofAuth world ts (Auth.mfaEnroll primitives (enter world) now bearer secret)).1 := by
  apply ofAuth_quiet
  · unfold Auth.mfaEnroll
    split
    · rfl
    · split
      · rfl
      · exact holders_kept _ _ fun _ => rfl
  · unfold Auth.mfaEnroll
    split
    · simp [enter]
    · split <;> simp [enter]

theorem mfaVerify_quiet (limiterKey : String → String) (code : String) :
    Quiet world (ofAuth world ts
      (Auth.mfaVerify primitives settings (enter world) now bearer limiterKey code)).1 := by
  apply ofAuth_quiet
  · unfold Auth.mfaVerify
    split
    · rfl
    · dsimp only
      split
      · rfl
      · split
        · rfl
        next checked =>
          rcases MfaEnrollment.checkCode_cases checked with rfl | rfl
          · rfl
          · exact holders_kept _ _ fun _ => rfl
  · unfold Auth.mfaVerify
    split
    · simp [enter]
    · dsimp only
      split
      · simp [enter]
      · split
        · simp [enter, Auth.World.log, Tells]
        · simp [enter, Auth.World.log, Tells, written]

theorem updatePrincipal_quiet (actor principalId salt : String)
    (payload : Auth.PrincipalUpdateIn) :
    Quiet world (ofAuth world ts
      (Auth.updatePrincipal primitives (enter world) actor principalId salt payload)).1 := by
  apply ofAuth_quiet
  · unfold Auth.updatePrincipal
    split
    · rfl
    · split
      · rfl
      · exact holders_kept _ _ fun _ => rfl
  · unfold Auth.updatePrincipal
    split
    · simp [enter]
    · split
      · simp [enter]
      · simp [enter, Auth.World.log, Tells, written]

theorem createPrincipal_follows (sourced : Sourced world book) (actor newId salt : String)
    (payload : Auth.PrincipalCreateIn) :
    Follows newId world (ofAuth world ts
      (Auth.createPrincipal primitives (enter world) actor newId salt payload)).1 book := by
  unfold Auth.createPrincipal
  split
  · exact (ofAuth_quiet rfl (by simp [enter])).follows sourced
  · dsimp only
    split
    · exact (ofAuth_quiet rfl (by simp [enter])).follows sourced
    next accounts inserted =>
      refine follows_of_told (book ++ [⟨newId, payload.username, []⟩]) rfl rfl ?_ ?_ ?_
      · simp [replay, Tells, written, textParam]
      · unfold Auth.Accounts.insert at inserted
        split at inserted
        · obtain rfl := Option.some.inj inserted
          rw [List.map_append, ← sourced]
          simp [ofAuth, leave, Auth.World.log, holders, holderOf, Holder.shown, enter]
        · cases inserted
      · intro holder member binding bound
        rcases List.mem_append.1 member with old | new
        · exact known_of_mem old bound
        · obtain rfl := List.mem_singleton.1 new
          cases bound

theorem deletePrincipal_follows (sourced : Sourced world book) (newId actor principalId : String) :
    Follows newId world (ofAuth world ts
      (Auth.deletePrincipal (enter world) actor principalId)).1 book := by
  unfold Auth.deletePrincipal
  split
  · exact (ofAuth_quiet rfl (by simp [enter])).follows sourced
  next principal found =>
    refine follows_of_told (book.filter fun holder => holder.id ≠ principalId) rfl rfl ?_ ?_ ?_
    · simp [replay, Tells, written]
    · have left : holders (world.accounts.remove principalId) =
          (holders world.accounts).filter fun holder => holder.id ≠ principalId := by
        simp only [holders, Auth.Accounts.remove, List.filter_map]
        rfl
      refine left.trans ?_
      rw [sourced, List.filter_map]
      rfl
    · exact fun holder member binding bound => known_of_mem (List.mem_of_mem_filter member) bound

theorem bound_of_sourced (sourced : Sourced world book) {principalId : String}
    {principal : Principal} (found : world.accounts.find? principalId = some principal)
    {binding : RoleBinding} (held : binding ∈ principal.bindings) :
    binding.nodeId ∈ nodeIds world := by
  have member : holderOf principal ∈ holders world.accounts :=
    List.mem_map_of_mem (Keyed.mem_of_lookup found)
  rw [sourced] at member
  obtain ⟨holder, -, same⟩ := List.mem_map.1 member
  have kept : binding ∈ (holder.shown (nodeIds world)).bindings := same ▸ held
  simpa using (List.mem_filter.1 kept).2

theorem setBinding_follows (sourced : Sourced world book) (newId actor principalId : String)
    (payload : RoleBindingIn) :
    Follows newId world (setBinding world ts actor principalId payload).1 book := by
  unfold setBinding
  split
  · exact (quiet_refl world).follows sourced
  next principal found =>
    split
    next placed =>
      have here : payload.nodeId ∈ nodeIds world := by
        rcases placed with bound | registered
        · obtain ⟨binding, held, same⟩ := List.mem_map.1 bound
          exact same ▸ bound_of_sourced sourced found held
        · exact registered
      refine follows_of_told (alter principalId (Holder.granted payload.nodeId payload.role) book)
        rfl rfl ?_ ?_ ?_
      · simp [replay, Tells, written, textParam, roleOf_value]
      · rw [← alter_shown (shown_granted here payload.role), ← sourced]
        exact holders_amend _ _ fun _ => rfl
      · apply known_of_alter
        intro holder binding bound
        unfold Holder.granted at bound
        dsimp only at bound
        split at bound
        · obtain ⟨old, present, rfl⟩ := List.mem_map.1 bound
          refine .inr ⟨old, present, ?_⟩
          split <;> rfl
        · rcases List.mem_append.1 bound with old | new
          · exact .inr ⟨binding, old, rfl⟩
          · obtain rfl := List.mem_singleton.1 new
            exact .inl here
    · exact (quiet_refl world).follows sourced

theorem deleteBinding_follows (sourced : Sourced world book)
    (newId actor principalId nodeId : String) :
    Follows newId world (deleteBinding world ts actor principalId nodeId).1 book := by
  unfold deleteBinding
  split
  · exact (quiet_refl world).follows sourced
  · split
    · refine follows_of_told (alter principalId (Holder.withdrawn nodeId) book) rfl rfl ?_ ?_ ?_
      · simp [replay, Tells, written]
      · rw [← alter_shown (fun holder => shown_withdrawn _ nodeId holder), ← sourced]
        exact holders_amend _ _ fun _ => rfl
      · apply known_of_alter
        exact fun holder binding bound => .inr ⟨binding, List.mem_of_mem_filter bound, rfl⟩
    · exact (quiet_refl world).follows sourced

end Accounts

section Fleet

open Provisioning FanOut

variable {world : World}

theorem quiet_of_database {database : Database}
    (nodes : database.tables.nodes.map Node.id = nodeIds world)
    {entries : List (Datetime × AuditLog.Fields)}
    (appended : database.tables.audit = world.database.tables.audit ++ entries)
    (untold : ∀ entry ∈ entries, ¬ Tells entry.2) :
    Quiet world { world with database := database } :=
  ⟨rfl, nodes, entries, appended, untold⟩

theorem settle_quiet (environment : Environment) (missing : String) {database : Database}
    (raised : Option Error) (quiet : Quiet world { world with database := database }) :
    Quiet world (Api.settle world environment missing database raised).1 := by
  unfold Api.settle
  split
  · exact quiet_refl world
  · exact quiet

theorem provision_quiet (environment : Environment) (actor username : String)
    (email : Option String) (targets : List Provisioning.Target) :
    Quiet world (Api.provision world environment actor username email targets).1 := by
  refine settle_quiet _ _ _ ?_
  generalize targets.mapIdx (fun index target => (⟨target, environment.created index⟩ : Attempt)) =
    attempts
  rcases provision_cases world.database actor username email environment.newId attempts with
    ⟨-, kept, -⟩ | ⟨lu, after, -, completed⟩
  · rw [kept]
    exact quiet_refl world
  · obtain ⟨appended, -⟩ := ChangeAudit.recorded_of_completed completed
    refine quiet_of_database ?_ appended ?_
    · rw [completed.rooted.nodes, completed.identified.nodes]
      rfl
    · intro entry member
      obtain ⟨attempt, -, recorded⟩ := List.mem_filterMap.1 member
      obtain ⟨node, -, rfl⟩ := Option.map_eq_some_iff.1 recorded
      apply untold_of_action
      unfold provisionEntry
      dsimp only
      split <;> simp [written]

theorem deprovision_quiet (environment : Environment) (actor logicalUserId : String)
    (hard : Bool) :
    Quiet world (Api.deprovision world environment actor logicalUserId hard).1 := by
  refine settle_quiet _ _ _ ?_
  rcases deprovision_cases world.database actor logicalUserId hard environment.removed with
    ⟨-, kept, -⟩ | ⟨lu, retired⟩
  · rw [kept]
    exact quiet_refl world
  · refine quiet_of_database ?_ (retired.tables ▸ Isolation.retire_audit ..) ?_
    · rw [retired.rooted.nodes]
      rfl
    · intro entry member
      obtain ⟨placement, -, recorded⟩ := List.mem_filterMap.1 member
      obtain ⟨userId, -, found⟩ := Option.bind_eq_some_iff.1 recorded
      obtain ⟨node, -, rfl⟩ := Option.map_eq_some_iff.1 found
      apply untold_of_action
      unfold deprovisionEntry
      cases hard <;> dsimp only <;> split <;> simp [written]

theorem identityProfiles_quiet (environment : Environment) (actor logicalUserId : String) :
    Quiet world (Api.identityProfiles world environment actor logicalUserId).1 := by
  unfold Api.identityProfiles
  split
  · exact settle_quiet _ _ _ (quiet_refl world)
  · refine settle_quiet _ _ _ (quiet_of_database rfl rfl ?_)
    simp [Tells, written]

theorem syncNode_kept {database next : Database} {node : Node} {listing : Sync.Listing}
    {calls : List NodeAdapter.Call} {report : Sync.NodeSyncReport}
    (swept : Sync.syncNode database node listing = (calls, .ok (report, next))) :
    next.tables.nodes.map Node.id = database.tables.nodes.map Node.id ∧
      next.tables.audit = database.tables.audit := by
  rcases Operations.syncNode_ok swept with ⟨users, -, -, tables⟩ | ⟨_, _, -, rfl⟩
  · rw [tables]
    exact ⟨Sync.map_id_observed database.tables node.id, rfl⟩
  · exact ⟨rfl, rfl⟩

theorem sweep_kept (listings : String → Sync.Listing) (nodes : List Node) (database : Database) :
    (Sync.sweep listings database nodes).2.2.tables.nodes.map Node.id =
        database.tables.nodes.map Node.id ∧
      (Sync.sweep listings database nodes).2.2.tables.audit = database.tables.audit := by
  induction nodes generalizing database with
  | nil => exact ⟨rfl, rfl⟩
  | cons node rest ih =>
      rw [Sync.sweep]
      split
      next next swept =>
        have here := syncNode_kept swept
        have later := ih next
        exact ⟨later.1.trans here.1, later.2.trans here.2⟩
      · exact ih database

theorem syncOne_kept (database : Database) (nodeId : String) (listing : Sync.Listing) :
    (Operations.syncOne database nodeId listing).database.tables.nodes.map Node.id =
        database.tables.nodes.map Node.id ∧
      (Operations.syncOne database nodeId listing).database.tables.audit =
        database.tables.audit := by
  unfold Operations.syncOne
  split
  · exact ⟨rfl, rfl⟩
  · split
    next swept => exact syncNode_kept swept
    · exact ⟨rfl, rfl⟩

theorem quiet_of_swept {database : Database}
    (kept : database.tables.nodes.map Node.id = world.database.tables.nodes.map Node.id ∧
      database.tables.audit = world.database.tables.audit) :
    Quiet world { world with database := database } :=
  quiet_of_database kept.1 (kept.2.trans (List.append_nil _).symm) (by simp)

theorem action_unwritten (request : Actions.Request) : request.action ∉ written := by
  cases request with
  | setUserDisabled nodeId userId orgId disabled =>
      cases disabled <;> simp [Actions.Request.action, written]
  | bulkUserAction nodeId orgId action userIds =>
      change "bulk_" ++ Actions.BulkAction.value action ∉ written
      cases action <;> decide
  | serverAction nodeId serverId action =>
      change "server_" ++ action.value ∉ written
      cases action <;> decide
  | createUser | deleteUser | issueProfile | emailProfile | revokeProfile | bulkCreateUsers
  | createOrg | deleteOrg | setUserPolicy => simp [Actions.Request.action, written]

theorem action_quiet (actor : String) (request : Actions.Request)
    (environment : Actions.Environment) :
    Quiet world { world with
      database := (Actions.handle world.database actor request environment).database } := by
  rcases Actions.handle_cases world.database actor request environment with
    ⟨reply, same⟩ | ⟨node, -, effect⟩
  · rw [same]
    exact quiet_refl world
  · obtain ⟨entries, tables, recorded⟩ := effect.recorded
    refine quiet_of_database (by rw [tables]; rfl) (by rw [tables]) ?_
    intro entry member
    rcases recorded with matched | failures
    · have each : List.Forall₂ (fun fields _ => ¬ Tells fields ∧ True) (entries.map Prod.snd) _ :=
        (matched.imp fun _ _ records =>
          ⟨untold_of_action (records.action ▸ action_unwritten request), trivial⟩).flip
      exact ((List.forall₂_and_left _ _).1 each).1 entry.2 (List.mem_map_of_mem member)
    · exact fun tells => failures entry member tells.1

end Fleet

section Dispatch

variable {Moment : Type} {platform : Platform Moment} {world after : World} {book : List Holder}
  {newId : String}

theorem follows_of_ran {handled : Handled} {reply : Reply}
    (follows : Follows newId world handled.1 book) (ran : some handled = some (after, reply)) :
    Follows newId world after book := by
  cases ran
  exact follows

theorem handler_follows (sourced : Sourced world book) {environment : Environment}
    (unknown : ¬ Known (nodeIds world) book environment.newId) {actor : String}
    {route : Routes.Request} {body : Body} {reply : Reply}
    (ran : handler platform world actor environment route body = some (after, reply)) :
    Follows environment.newId world after book := by
  have silent {handled : Handled} (quiet : Quiet world handled.1)
      (ran : some handled = some (after, reply)) : Follows environment.newId world after book :=
    follows_of_ran (quiet.follows sourced) ran
  unfold handler at ran
  split at ran
  · exact follows_of_ran (createNode_follows sourced unknown _) ran
  · exact silent (updateNode_quiet ..) ran
  · exact follows_of_ran (deleteNode_follows sourced ..) ran
  · exact silent (checkNode_quiet ..) ran
  · exact silent (provision_quiet ..) ran
  · exact silent (deprovision_quiet ..) ran
  · exact silent (identityProfiles_quiet ..) ran
  · exact silent (settle_quiet _ _ _ (quiet_of_swept (syncOne_kept ..))) ran
  · exact silent (quiet_of_swept (sweep_kept ..)) ran
  · exact follows_of_ran (createPrincipal_follows sourced ..) ran
  · exact silent (updatePrincipal_quiet ..) ran
  · exact follows_of_ran (deletePrincipal_follows sourced ..) ran
  · exact follows_of_ran (setBinding_follows sourced ..) ran
  · exact follows_of_ran (deleteBinding_follows sourced ..) ran
  -- A body that does not validate, then the action handlers and the reading routes.
  · cases ran
  · cases ran
  · cases ran
  · cases ran
  · cases ran
  · split at ran
    · exact silent (action_quiet ..) ran
    · split at ran
      · cases ran
      · exact silent (quiet_refl world) ran

theorem handle_follows (platform : Platform Moment) (sourced : Sourced world book)
    {request : Request} (unknown : ¬ Known (nodeIds world) book request.environment.newId) :
    Follows request.environment.newId world (handle platform world request).world book := by
  unfold handle
  dsimp only
  split
  · exact (quiet_refl world).follows sourced
  · exact (quiet_refl world).follows sourced
  · exact (login_quiet ..).follows sourced
  · exact (mfaEnroll_quiet ..).follows sourced
  · exact (mfaVerify_quiet ..).follows sourced
  · split <;> exact (quiet_refl world).follows sourced
  · split
    · exact (quiet_refl world).follows sourced
    · split
      · exact (quiet_refl world).follows sourced
      next ran => exact handler_follows sourced unknown ran

-- An id that is drawn once is not known before.
theorem run_follows (platform : Platform Moment) {final : World} {requests : List Request}
    (sourced : Sourced world book)
    (unknown : ∀ request ∈ requests, ¬ Known (nodeIds world) book request.environment.newId)
    (distinct : (requests.map fun request => request.environment.newId).Nodup)
    (reached : run (step platform) world requests = some final) :
    ∃ entries, final.database.tables.audit = world.database.tables.audit ++ entries ∧
      Sourced final (replayed book entries) := by
  induction requests generalizing world book with
  | nil =>
      obtain rfl := Option.some.inj reached
      exact ⟨[], by simp, sourced⟩
  | cons request rest ih =>
      obtain ⟨next, taken, tail⟩ := (run_cons_eq_some ..).1 reached
      obtain rfl := Option.some.inj taken
      obtain ⟨fresh, distinct⟩ := List.nodup_cons.1 distinct
      obtain ⟨here, later⟩ := List.forall_mem_cons.1 unknown
      obtain ⟨early, written, led, known⟩ := handle_follows platform sourced here
      have unseen (other : Request) (member : other ∈ rest) :
          ¬ Known (nodeIds (handle platform world request).world) (replayed book early)
            other.environment.newId := by
        intro seen
        rcases known _ seen with before | same
        · exact later other member before
        · exact fresh (List.mem_map.2 ⟨other, member, same⟩)
      obtain ⟨late, appended, ends⟩ := ih led unseen distinct tail
      refine ⟨early ++ late, by rw [appended, written, List.append_assoc], ?_⟩
      rwa [replayed_append]

end Dispatch

section Instance

open TwoFactor (platform signIn asked fullToken)

def root : Principal :=
  { MfaEnrollment.newcomer with globalRole := .admin, bindings := [⟨"n2", .operator⟩] }

def site : World :=
  { TwoFactor.fresh with
    accounts := ⟨[root], by simp [Keyed.Unique], by simp [Keyed.Unique]⟩
    database := Isolation.registered }

def drawing (request : Request) (newId : String) : Request :=
  { request with environment := { request.environment with newId := newId } }

-- A new principal is bound to two nodes, of which one is unregistered afterwards.
def requests : List Request :=
  (signIn ++
    [asked 1100 (some fullToken)
        (.guarded .createPrincipal (.principalCreate ⟨"ops", none, "pw", .viewer⟩)),
      asked 1110 (some fullToken)
        (.guarded (.setBinding "u-4") (.roleBinding ⟨"n1", .operator⟩)),
      asked 1120 (some fullToken) (.guarded (.setBinding "u-4") (.roleBinding ⟨"n2", .admin⟩)),
      asked 1130 (some fullToken) (.guarded (.deleteNode "n1") .empty),
      asked 1140 (some fullToken) (.guarded (.deleteBinding "p-1" "n2") .empty)]).zipWith drawing
    ["u-1", "u-2", "u-3", "u-4", "u-5", "u-6", "u-7", "u-8"]

def outcome : World := (run (step platform) site requests).getD site

example : holders outcome.accounts =
    [⟨"p-1", "eve", []⟩, ⟨"u-4", "ops", [⟨"n2", .admin⟩]⟩] := by decide +kernel

end Instance

end Fleet.RoleLedger
