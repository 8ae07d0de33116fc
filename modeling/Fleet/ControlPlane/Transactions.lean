import Fleet.ControlPlane.Db

set_option autoImplicit false

namespace Fleet.Db

open NodeAdapter

theorem forEach_invariant {α : Type} {body : Session → α → List Call × Except Error Session}
    (kept : Session → Prop)
    (preserved : ∀ session item next, kept session → (body session item).2 = .ok next → kept next)
    {session final : Session} {items : List α} (initial : kept session)
    (completed : (forEach body session items).2 = .ok final) : kept final := by
  induction items generalizing session with
  | nil =>
      obtain rfl : session = final := by simpa [forEach] using completed
      exact initial
  | cons item rest ih =>
      rw [forEach] at completed
      split at completed
      · cases completed
      next calls next taken =>
        exact ih (preserved session item next initial (by rw [taken])) completed

theorem forEach_calls {α : Type} (body : Session → α → List Call × Except Error Session)
    (made : α → Call → Prop)
    (each : ∀ session item, ∀ call ∈ (body session item).1, made item call)
    (session : Session) (items : List α) :
    ∀ call ∈ (forEach body session items).1, ∃ item ∈ items, made item call := by
  induction items generalizing session with
  | nil => simp [forEach]
  | cons item rest ih =>
      intro call present
      rw [forEach] at present
      split at present
      next calls error taken =>
        exact ⟨item, List.mem_cons_self, each session item call (by rw [taken]; exact present)⟩
      next calls next taken =>
        rcases List.mem_append.1 present with here | later
        · exact ⟨item, List.mem_cons_self, each session item call (by rw [taken]; exact here)⟩
        · obtain ⟨other, member, found⟩ := ih next call later
          exact ⟨other, List.mem_cons_of_mem _ member, found⟩

-- Where the body keeps the session flushed, a loop is a fold over the tables.
theorem forEach_flushed {α : Type} {body : Session → α → List Call × Except Error Session}
    (advance : Tables → α → Tables) (calls : α → List Call) (kept : Tables → Prop)
    {items : List α}
    (taken : ∀ tables, kept tables → ∀ item ∈ items,
      body ⟨tables, []⟩ item = (calls item, .ok ⟨advance tables item, []⟩))
    (preserved : ∀ tables, kept tables → ∀ item ∈ items, kept (advance tables item))
    {tables : Tables} (initial : kept tables) :
    forEach body ⟨tables, []⟩ items =
        (items.flatMap calls, .ok ⟨items.foldl advance tables, []⟩) ∧
      kept (items.foldl advance tables) := by
  induction items generalizing tables with
  | nil => exact ⟨rfl, initial⟩
  | cons item rest ih =>
      have next := preserved tables initial item List.mem_cons_self
      obtain ⟨later, final⟩ := ih
        (fun tables kept item member => taken tables kept item (List.mem_cons_of_mem _ member))
        (fun tables kept item member => preserved tables kept item (List.mem_cons_of_mem _ member))
        next
      rw [forEach, taken tables initial item List.mem_cons_self]
      simp only [later]
      exact ⟨rfl, final⟩

-- An item the loop cannot handle ends it, or leaves the session in a state no later item mends.
theorem forEach_breaks {α : Type} {body : Session → α → List Call × Except Error Session}
    (advance : Tables → α → Tables) (calls : α → List Call) (kept : Tables → Prop)
    (good : α → Prop) (bad : Session → Prop) {items : List α}
    (taken : ∀ tables, kept tables → ∀ item ∈ items, good item →
      body ⟨tables, []⟩ item = (calls item, .ok ⟨advance tables item, []⟩))
    (preserved : ∀ tables, kept tables → ∀ item ∈ items, kept (advance tables item))
    (breaks : ∀ tables, kept tables → ∀ item ∈ items, ¬ good item →
      ∀ next, (body ⟨tables, []⟩ item).2 = .ok next → bad next)
    (spreads : ∀ session item next, bad session → (body session item).2 = .ok next → bad next)
    {tables : Tables} (initial : kept tables) (broken : ∃ item ∈ items, ¬ good item)
    (final : Session) (completed : (forEach body ⟨tables, []⟩ items).2 = .ok final) :
    bad final := by
  induction items generalizing tables with
  | nil => simp at broken
  | cons item rest ih =>
      by_cases handled : good item
      · rw [forEach, taken tables initial item List.mem_cons_self handled] at completed
        have later : ∃ item ∈ rest, ¬ good item := by
          obtain ⟨other, member, failing⟩ := broken
          rcases List.mem_cons.1 member with rfl | later
          · exact absurd handled failing
          · exact ⟨other, later, failing⟩
        exact ih
          (fun tables kept item member => taken tables kept item (List.mem_cons_of_mem _ member))
          (fun tables kept item member => preserved tables kept item (List.mem_cons_of_mem _ member))
          (fun tables kept item member => breaks tables kept item (List.mem_cons_of_mem _ member))
          (preserved tables initial item List.mem_cons_self) later completed
      · rw [forEach] at completed
        split at completed
        · cases completed
        next calls next outcome =>
          have broke := breaks tables initial item List.mem_cons_self handled next (by rw [outcome])
          exact forEach_invariant bad spreads broke completed

theorem foldl_frame {α β : Type} {advance : Tables → α → Tables} (view : Tables → β)
    {items : List α}
    (frame : ∀ tables, ∀ item ∈ items, view (advance tables item) = view tables)
    (tables : Tables) : view (items.foldl advance tables) = view tables := by
  induction items generalizing tables with
  | nil => rfl
  | cons item rest ih =>
      rw [List.foldl_cons, ih fun tables other member =>
        frame tables other (List.mem_cons_of_mem _ member)]
      exact frame tables item List.mem_cons_self

namespace Tables

variable (tables : Tables)

def put (placement : UserPlacement) : Tables :=
  { tables with placements := Keyed.upsert UserPlacement.key placement tables.placements }

def log (entry : Datetime × AuditLog.Fields) : Tables :=
  { tables with audit := tables.audit ++ [entry] }

@[simp]
theorem put_nodes (placement : UserPlacement) : (tables.put placement).nodes = tables.nodes := rfl

@[simp]
theorem put_users (placement : UserPlacement) : (tables.put placement).users = tables.users := rfl

@[simp]
theorem put_audit (placement : UserPlacement) : (tables.put placement).audit = tables.audit := rfl

@[simp]
theorem log_nodes (entry : Datetime × AuditLog.Fields) :
    (tables.log entry).nodes = tables.nodes := rfl

@[simp]
theorem log_users (entry : Datetime × AuditLog.Fields) :
    (tables.log entry).users = tables.users := rfl

@[simp]
theorem log_audit (entry : Datetime × AuditLog.Fields) :
    (tables.log entry).audit = tables.audit ++ [entry] := rfl

@[simp]
theorem node?_put (placement : UserPlacement) (id : String) :
    (tables.put placement).node? id = tables.node? id := rfl

@[simp]
theorem node?_log (entry : Datetime × AuditLog.Fields) (id : String) :
    (tables.log entry).node? id = tables.node? id := rfl

theorem placement?_put (placement : UserPlacement) (userId nodeId : String) :
    (tables.put placement).placement? userId nodeId =
      if placement.key = (userId, nodeId) then some placement
      else tables.placement? userId nodeId :=
  Keyed.lookup_upsert placement tables.placements (userId, nodeId)

@[simp]
theorem placement?_log (entry : Datetime × AuditLog.Fields) (userId nodeId : String) :
    (tables.log entry).placement? userId nodeId = tables.placement? userId nodeId := rfl

def Named (userId name : String) : Prop :=
  ∃ user ∈ tables.users, user.id = userId ∧ user.username = name

variable {tables}

theorem placement?_key {userId nodeId : String} {placement : UserPlacement}
    (found : tables.placement? userId nodeId = some placement) :
    placement.key = (userId, nodeId) := Keyed.lookup_key found

theorem node?_id {id : String} {node : Node} (found : tables.node? id = some node) :
    node.id = id := Keyed.lookup_key found

theorem node?_mem {id : String} {node : Node} (found : tables.node? id = some node) :
    id ∈ tables.nodes.map Node.id := by
  rw [← node?_id found]
  exact List.mem_map_of_mem (Keyed.mem_of_lookup found)

theorem node?_congr {other : Tables} (same : other.nodes = tables.nodes) (id : String) :
    other.node? id = tables.node? id := by
  rw [node?, node?, same]

theorem node?_eq_none {id : String} :
    tables.node? id = none ↔ id ∉ tables.nodes.map Node.id := by
  simp [node?, Keyed.lookup_eq_none]

theorem Valid.put (valid : tables.Valid) {placement : UserPlacement}
    (owner : placement.logicalUserId ∈ tables.users.map LogicalUser.id)
    (site : placement.nodeId ∈ tables.nodes.map Node.id) : (tables.put placement).Valid where
  nodes := valid.nodes
  users := valid.users
  usernames := valid.usernames
  placements := valid.placements.upsert placement
  owned := by
    intro row present
    rcases Keyed.mem_upsert present with rfl | ⟨old, -⟩
    · exact owner
    · exact valid.owned row old
  placed := by
    intro row present
    rcases Keyed.mem_upsert present with rfl | ⟨old, -⟩
    · exact site
    · exact valid.placed row old

theorem Valid.log (valid : tables.Valid) (entry : Datetime × AuditLog.Fields) :
    (tables.log entry).Valid :=
  ⟨valid.nodes, valid.users, valid.usernames, valid.placements, valid.owned, valid.placed⟩

theorem Valid.renew (valid : tables.Valid) {users : List LogicalUser}
    (ids : users.map LogicalUser.id = tables.users.map LogicalUser.id)
    (names : users.map LogicalUser.username = tables.users.map LogicalUser.username) :
    Valid { tables with users := users } where
  nodes := valid.nodes
  users := by
    rw [Keyed.Unique, ids]
    exact valid.users
  usernames := by
    rw [Keyed.Unique, names]
    exact valid.usernames
  placements := valid.placements
  owned := by
    rw [ids]
    exact valid.owned
  placed := valid.placed

theorem Valid.enlist (valid : tables.Valid) (lu : LogicalUser)
    (unused : lu.id ∉ tables.users.map LogicalUser.id)
    (unnamed : ∀ user ∈ tables.users, user.username ≠ lu.username) :
    Valid { tables with users := tables.users ++ [lu] } where
  nodes := valid.nodes
  users := valid.users.concat fun user member same => unused (same ▸ List.mem_map_of_mem member)
  usernames := valid.usernames.concat unnamed
  placements := valid.placements
  owned := by
    intro placement present
    rw [List.map_append]
    exact List.mem_append_left _ (valid.owned placement present)
  placed := valid.placed

theorem Valid.register (valid : tables.Valid) {node : Node}
    (unused : node.id ∉ tables.nodes.map Node.id) :
    Valid { tables with nodes := tables.nodes ++ [node] } where
  nodes := valid.nodes.concat fun old member same => unused (same ▸ List.mem_map_of_mem member)
  users := valid.users
  usernames := valid.usernames
  placements := valid.placements
  owned := valid.owned
  placed := by
    intro placement present
    rw [List.map_append]
    exact List.mem_append_left _ (valid.placed placement present)

theorem Valid.revise (valid : tables.Valid) (node : Node) :
    Valid { tables with nodes := Keyed.replace Node.id node tables.nodes } where
  nodes := by
    rw [Keyed.Unique, Keyed.map_key_replace]
    exact valid.nodes
  users := valid.users
  usernames := valid.usernames
  placements := valid.placements
  owned := valid.owned
  placed := by
    rw [Keyed.map_key_replace]
    exact valid.placed

theorem Valid.unregister (valid : tables.Valid) (nodeId : String) :
    Valid
      { tables with
        nodes := tables.nodes.filter fun node => node.id ≠ nodeId
        placements := tables.placements.filter fun placement => placement.nodeId ≠ nodeId } where
  nodes := valid.nodes.sublist (List.filter_sublist.map _)
  users := valid.users
  usernames := valid.usernames
  placements := valid.placements.sublist (List.filter_sublist.map _)
  owned := fun placement present => valid.owned placement (List.mem_filter.1 present).1
  placed := by
    intro placement present
    obtain ⟨stored, elsewhere⟩ := List.mem_filter.1 present
    obtain ⟨node, registered, same⟩ := List.mem_map.1 (valid.placed placement stored)
    refine List.mem_map.2 ⟨node, List.mem_filter.2 ⟨registered, ?_⟩, same⟩
    rw [same]
    exact elsewhere

end Tables

namespace Session

@[simp]
theorem flushed_clean (tables : Tables) : flushed ⟨tables, []⟩ = tables := by simp [flushed]

theorem flushed_store (tables : Tables) (placement : UserPlacement) :
    (store ⟨tables, []⟩ placement).flushed = tables.put placement := by
  cases found : Keyed.lookup UserPlacement.key placement.key tables.placements <;>
    simp [store, flushed, Tables.put, Keyed.upsert, found]

theorem store_append {tables : Tables} (valid : tables.Valid) (placement : UserPlacement)
    (owner : placement.logicalUserId ∈ tables.users.map LogicalUser.id)
    (site : placement.nodeId ∈ tables.nodes.map Node.id) (ts : Datetime)
    (fields : AuditLog.Fields) :
    (store ⟨tables, []⟩ placement).append ts fields =
      .ok ⟨(tables.put placement).log (ts, fields), []⟩ := by
  have merged : flushed { store ⟨tables, []⟩ placement with
      tables := (store ⟨tables, []⟩ placement).tables.log (ts, fields) } =
        (tables.put placement).log (ts, fields) := by
    rw [← flushed_store]
    rfl
  have sound : ((tables.put placement).log (ts, fields)).Valid := (valid.put owner site).log _
  unfold append flush
  rw [← Tables.log, merged, if_pos sound]

/-- An added row refers to a node that is not registered, so no flush can succeed any more. -/
def Poisoned (session : Session) : Prop :=
  ∃ placement ∈ session.pending, placement.nodeId ∉ session.tables.nodes.map Node.id

theorem Poisoned.invalid {session : Session} (poisoned : session.Poisoned) :
    ¬ session.flushed.Valid := by
  obtain ⟨placement, added, unknown⟩ := poisoned
  intro valid
  exact unknown (valid.placed placement (List.mem_append_right _ added))

theorem Poisoned.store {session : Session} (poisoned : session.Poisoned)
    (placement : UserPlacement) : (session.store placement).Poisoned := by
  obtain ⟨row, added, unknown⟩ := poisoned
  unfold Session.store
  split
  · exact ⟨row, added, unknown⟩
  · exact ⟨row, List.mem_append_left _ added, unknown⟩

theorem Poisoned.append {session : Session} (poisoned : session.Poisoned) (ts : Datetime)
    (fields : AuditLog.Fields) : session.append ts fields = .error .integrityError := by
  have logged : Poisoned { session with tables := session.tables.log (ts, fields) } := poisoned
  exact if_neg logged.invalid

theorem Poisoned.finish {session : Session} (poisoned : session.Poisoned) (database : Database)
    (calls : List Call) :
    Db.finish database (calls, .ok session) = ⟨database, some .integrityError, calls⟩ := by
  simp [Db.finish, commit, poisoned.invalid]

end Session

@[simp]
theorem finish_calls (database : Database) (completed : List Call × Except Error Session) :
    (finish database completed).calls = completed.1 := by
  obtain ⟨calls, error | session⟩ := completed
  · rfl
  · unfold finish
    dsimp only
    split <;> rfl

theorem finish_clean (database : Database) (calls : List Call) {tables : Tables}
    (valid : tables.Valid) :
    finish database (calls, .ok ⟨tables, []⟩) = ⟨⟨tables, valid⟩, none, calls⟩ := by
  simp [finish, Session.commit, valid]

/-- What a loop over one user's placements keeps of the tables it started with. -/
structure Rooted (lu : LogicalUser) (start tables : Tables) : Prop where
  valid : tables.Valid
  owner : lu.id ∈ tables.users.map LogicalUser.id
  nodes : tables.nodes = start.nodes
  users : tables.users = start.users

end Fleet.Db
