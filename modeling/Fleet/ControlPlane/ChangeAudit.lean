import Fleet.ControlPlane.Isolation
import Fleet.ControlPlane.TwoFactor

set_option autoImplicit false

namespace Fleet.ChangeAudit

open Identity Db Api Execution

-- A principal stands with its role bindings and its stored TOTP secret.
inductive Record where
  | node (id : String)
  | principal (id : String)
  | user (id : String)
  | placement (userId nodeId : String)

def registers : Target → Bool
  | .guarded .createNode _ | .guarded (.updateNode _) _ | .guarded (.deleteNode _) _ => true
  | _ => false

def provisions : Target → Bool
  | .guarded (.provision ..) _ | .guarded (.deprovision ..) _ => true
  | _ => false

-- Neither nodes nor users are written there, and no secret is sealed.
structure Aside (target : Target) : Prop where
  unregistered : registers target = false
  unprovisioned : provisions target = false
  stays : target ≠ .mfaEnroll

section Promise

variable {Moment : Type} (platform : Platform Moment) (world : World) (request : Request)

/-- Who acts: the holder of the step token where one is asked for, else of the full one. -/
def Acts (principal : Principal) : Prop :=
  match request.target with
  | .mfaEnroll | .mfaVerify _ =>
      ∃ scope, Auth.getPreauthPrincipal (enter world) request.now request.bearer =
        .ok (principal, scope)
  | .guarded route _ =>
      Auth.guarded (enter world) request.now request.bearer route = .ok principal
  | _ => False

-- Sealing draws a new data key, so the row changes even if it is given the secret it holds.
def Reseals (reply : Reply) : Record → Prop
  | .node id =>
      reply = .done ∧ ∃ payload credentials,
        request.target = .guarded (.updateNode id) (.nodeUpdate payload) ∧
          payload.credentials = some (some credentials)
  | .principal id =>
      (∃ secret uri, reply = .auth (.enroll secret uri)) ∧ request.target = .mfaEnroll ∧
        ∃ principal, Acts world request principal ∧ principal.id = id
  | _ => False

/-- The changes of a request that the log is to cover. -/
def Changed (outcome : Api.Outcome) : Record → Prop
  | .node id =>
      registers request.target = true ∧
          outcome.world.database.tables.node? id ≠ world.database.tables.node? id ∨
        Reseals world request outcome.reply (.node id)
  | .principal id =>
      outcome.world.accounts.find? id ≠ world.accounts.find? id ∨
        Reseals world request outcome.reply (.principal id)
  | .user id =>
      provisions request.target = true ∧
        outcome.world.database.tables.user? id ≠ world.database.tables.user? id
  | .placement userId nodeId =>
      provisions request.target = true ∧
        outcome.world.database.tables.placement? userId nodeId ≠
          world.database.tables.placement? userId nodeId

def NamesUser (tables : Tables) (id : String) (fields : AuditLog.Fields) : Prop :=
  ∃ user, tables.user? id = some user ∧
    ("username", Json.str user.username) ∈ fields.params.getD []

def Names (tables : Tables) (fields : AuditLog.Fields) : Record → Prop
  | .node id => fields.nodeId = some id ∨ fields.targetId = some id
  | .principal id => fields.targetId = some id
  | .user id => NamesUser tables id fields
  | .placement userId nodeId => fields.nodeId = some nodeId ∧ NamesUser tables userId fields

-- The entries that are committed with what the request changed.
def entries (before after : World) : List AuditLog.Fields :=
  (after.database.tables.audit.drop before.database.tables.audit.length).map Prod.snd

/-- Each record a request changes is named by an entry of who acts. -/
def Covers (outcome : Api.Outcome) : Prop :=
  ∀ record, Changed world request outcome record → ∃ principal, Acts world request principal ∧
    ∃ fields ∈ entries world outcome.world, fields.actor = principal.username ∧
      Names outcome.world.database.tables fields record

def Covered : Prop := Covers world request (handle platform world request)

end Promise

section Condition

def Sets {Value : Type} (given : Option (Option Value)) (held : Value) : Prop :=
  ∃ value, given = some (some value) ∧ value ≠ held

/-- The update gives a column another value, or credentials to seal. -/
def Alters (payload : NodeUpdate) (node : Node) : Prop :=
  Sets payload.name node.name ∨ Sets payload.region node.region ∨
    Sets payload.endpoint node.endpoint ∨ Sets payload.adapterType node.adapterType ∨
      Sets payload.verifyTls node.verifyTls ∨ Sets payload.enabled node.enabled ∨
        ∃ credentials, payload.credentials = some (some credentials)

/-- The user is new, or is given the address it lacks. -/
def Renews (tables : Tables) (username : String) (email : Option String) (newId : String) : Prop :=
  match Keyed.lookup LogicalUser.username username tables.users with
  | none => newId ∉ tables.users.map LogicalUser.id
  | some existing => email.getD "" ≠ "" ∧ existing.email.getD "" = ""

-- What commits without an entry; the schema asks for a target, so the last case is refused there.
def Forgets (world : World) (environment : Environment) (route : Routes.Request) (body : Body) :
    Prop :=
  let tables := world.database.tables
  match route, body with
  | .createNode, .nodeCreate payload =>
      payload.name ∉ tables.nodes.map Node.name ∧ environment.newId ∉ tables.nodes.map Node.id
  | .updateNode nodeId, .nodeUpdate payload =>
      ∃ node, tables.node? nodeId = some node ∧ payload.clashes node tables.nodes = none ∧
        payload.nulls = false ∧ Alters payload node
  | .deleteNode nodeId, _ => nodeId ∈ tables.nodes.map Node.id
  | .provision username email targets, _ =>
      targets = [] ∧ environment.escapes = false ∧
        Renews tables username email environment.newId
  | _, _ => False

def Unrecorded (world : World) (request : Request) : Prop :=
  match request.target with
  | .mfaEnroll =>
      ∃ principal, Auth.getPreauthPrincipal (enter world) request.now request.bearer =
        .ok (principal, .enroll)
  | .guarded route body =>
      (∃ principal, Auth.guarded (enter world) request.now request.bearer route = .ok principal) ∧
        Forgets world request.environment route body
  | _ => False

end Condition

section Covering

variable {world : World} {request : Request} {outcome : Api.Outcome}

theorem entries_appended {before after : World} {added : List (Datetime × AuditLog.Fields)}
    (appended : after.database.tables.audit = before.database.tables.audit ++ added) :
    entries before after = added.map Prod.snd := by
  rw [entries, appended, List.drop_left]

theorem not_covers (record : Record) (changed : Changed world request outcome record)
    (silent : outcome.world.database.tables.audit.length =
      world.database.tables.audit.length) : ¬ Covers world request outcome := by
  intro covers
  obtain ⟨principal, -, fields, member, -⟩ := covers record changed
  rw [entries, ← silent, List.drop_length] at member
  exact absurd member List.not_mem_nil

theorem not_reseals {reply : Reply} (unregistered : registers request.target = false)
    (stays : request.target ≠ .mfaEnroll) (record : Record) :
    ¬ Reseals world request reply record := by
  cases record with
  | node id =>
      rintro ⟨-, payload, credentials, asked, -⟩
      rw [asked] at unregistered
      cases unregistered
  | principal id => exact fun reseals => stays reseals.2.1
  | user id => exact not_false
  | placement userId nodeId => exact not_false

theorem not_reseals_refused (error : Auth.HttpError) (record : Record) :
    ¬ Reseals world request (.refused error) record := by
  cases record with
  | node id =>
      rintro ⟨done, -⟩
      cases done
  | principal id =>
      rintro ⟨⟨secret, uri, enrolled⟩, -⟩
      cases enrolled
  | user id => exact not_false
  | placement userId nodeId => exact not_false

theorem covers_of_kept (accounts : outcome.world.accounts = world.accounts)
    (nodes : registers request.target = true → ∀ id,
      outcome.world.database.tables.node? id = world.database.tables.node? id)
    (fleet : provisions request.target = true →
      outcome.world.database.tables = world.database.tables)
    (sealed : ∀ record, ¬ Reseals world request outcome.reply record) :
    Covers world request outcome := by
  intro record changed
  exfalso
  cases record with
  | node id =>
      rcases changed with ⟨registry, differs⟩ | reseals
      · exact differs (nodes registry id)
      · exact sealed _ reseals
  | principal id =>
      rcases changed with differs | reseals
      · exact differs (by rw [accounts])
      · exact sealed _ reseals
  | user id => exact changed.2 (by rw [fleet changed.1])
  | placement userId nodeId => exact changed.2 (by rw [fleet changed.1])

theorem covers_refused (ranAs : Option Principal) (error : Auth.HttpError) :
    Covers world request ⟨world, ranAs, .refused error⟩ :=
  covers_of_kept rfl (fun _ _ => rfl) (fun _ => rfl) (not_reseals_refused error)

theorem covers_of_accounts (aside : Aside request.target)
    (accounts : outcome.world.accounts = world.accounts) : Covers world request outcome := by
  refine covers_of_kept accounts (fun registry => ?_) (fun fleet => ?_)
    (not_reseals aside.unregistered aside.stays)
  · exact absurd registry (by simp [aside.unregistered])
  · exact absurd fleet (by simp [aside.unprovisioned])

-- One principal is changed, under an entry that has its id.
theorem covers_of_logged (aside : Aside request.target) {principal : Principal}
    (acts : Acts world request principal) {principalId : String}
    (others : ∀ id, id ≠ principalId →
      outcome.world.accounts.find? id = world.accounts.find? id)
    {ts : Datetime} {fields : AuditLog.Fields}
    (logged : outcome.world.database.tables.audit = world.database.tables.audit ++ [(ts, fields)])
    (actor : fields.actor = principal.username) (target : fields.targetId = some principalId) :
    Covers world request outcome := by
  intro record changed
  cases record with
  | node id =>
      rcases changed with ⟨registry, -⟩ | reseals
      · exact absurd registry (by simp [aside.unregistered])
      · exact absurd reseals (not_reseals aside.unregistered aside.stays _)
  | principal id =>
      rcases changed with differs | reseals
      · obtain rfl : id = principalId := by
          by_contra other
          exact differs (others id other)
        refine ⟨principal, acts, fields, ?_, actor, target⟩
        rw [entries_appended logged]
        exact List.mem_singleton_self fields
      · exact absurd reseals (not_reseals aside.unregistered aside.stays _)
  | user id => exact absurd changed.1 (by simp [aside.unprovisioned])
  | placement userId nodeId => exact absurd changed.1 (by simp [aside.unprovisioned])

-- A route that works on the users: what differs of them is named by an entry of the actor.
theorem covers_of_named (unregistered : registers request.target = false)
    (stays : request.target ≠ .mfaEnroll)
    (accounts : outcome.world.accounts = world.accounts) {principal : Principal}
    (acts : Acts world request principal)
    (users : ∀ id,
      outcome.world.database.tables.user? id ≠ world.database.tables.user? id →
        ∃ fields ∈ entries world outcome.world, fields.actor = principal.username ∧
          NamesUser outcome.world.database.tables id fields)
    (placements : ∀ userId nodeId,
      outcome.world.database.tables.placement? userId nodeId ≠
          world.database.tables.placement? userId nodeId →
        ∃ fields ∈ entries world outcome.world, fields.actor = principal.username ∧
          fields.nodeId = some nodeId ∧ NamesUser outcome.world.database.tables userId fields) :
    Covers world request outcome := by
  intro record changed
  cases record with
  | node id =>
      rcases changed with ⟨registry, -⟩ | reseals
      · exact absurd registry (by simp [unregistered])
      · exact absurd reseals (not_reseals unregistered stays _)
  | principal id =>
      rcases changed with differs | reseals
      · exact absurd (by rw [accounts]) differs
      · exact absurd reseals (not_reseals unregistered stays _)
  | user id => exact ⟨principal, acts, users id changed.2⟩
  | placement userId nodeId => exact ⟨principal, acts, placements userId nodeId changed.2⟩

end Covering

section Registry

variable {world : World} {request : Request} {ranAs : Option Principal}

theorem store_valid {tables : Tables} (valid : tables.Valid) :
    store tables = some ⟨tables, valid⟩ := dif_pos valid

theorem createNode_covers_iff {payload : NodeCreate} {newId : String}
    (asks : request.target = .guarded .createNode (.nodeCreate payload)) :
    Covers world request
        ⟨(createNode world newId payload).1, ranAs, (createNode world newId payload).2⟩ ↔
      ¬ (payload.name ∉ world.database.tables.nodes.map Node.name ∧
        newId ∉ world.database.tables.nodes.map Node.id) := by
  unfold createNode
  dsimp only
  split
  next taken =>
    refine iff_of_true (covers_refused ranAs _) ?_
    exact fun fresh => fresh.1 taken
  next named =>
    by_cases used : newId ∈ world.database.tables.nodes.map Node.id
    · refine iff_of_true ?_ fun fresh => fresh.2 used
      split
      · exact covers_refused ranAs _
      next database stored =>
        exfalso
        have ids := database.valid.nodes
        rw [store_tables stored, Keyed.Unique, List.map_append, List.nodup_append] at ids
        exact ids.2.2 newId used newId (by simp) rfl
    · rw [store_valid (world.database.valid.register used)]
      refine iff_of_false (not_covers (.node newId) (.inl ⟨?_, ?_⟩) rfl) ?_
      · rw [asks]
        rfl
      · have absent := Tables.node?_eq_none.2 used
        dsimp only
        rw [absent]
        simp [Tables.node?, Keyed.lookup]
      · exact not_not_intro ⟨named, used⟩

theorem sets_iff {Value : Type} (given : Option (Option Value)) (held : Value) :
    Sets given held ↔ (given.bind id).getD held ≠ held := by
  rcases given with _ | _ | value <;> simp [Sets]

theorem apply_of_not_alters {payload : NodeUpdate} {node : Node} (same : ¬ Alters payload node) :
    payload.apply node = node := by
  simp only [Alters, sets_iff, not_or, not_not] at same
  obtain ⟨name, region, endpoint, adapterType, verifyTls, enabled, unsealed⟩ := same
  have credentials : (payload.credentials.bind id).getD node.credentials = node.credentials := by
    rcases given : payload.credentials with _ | _ | value
    · rfl
    · rfl
    · exact absurd ⟨value, given⟩ unsealed
  rw [NodeUpdate.apply, name, region, endpoint, adapterType, verifyTls, enabled, credentials]

theorem Alters.changes {payload : NodeUpdate} {node : Node} (alters : Alters payload node) :
    payload.apply node ≠ node ∨ ∃ credentials, payload.credentials = some (some credentials) := by
  simp only [Alters, sets_iff] at alters
  rcases alters with name | region | endpoint | adapterType | verifyTls | enabled | sealed
  · exact .inl fun same => name (congrArg Node.name same)
  · exact .inl fun same => region (congrArg Node.region same)
  · exact .inl fun same => endpoint (congrArg Node.endpoint same)
  · exact .inl fun same => adapterType (congrArg Node.adapterType same)
  · exact .inl fun same => verifyTls (congrArg Node.verifyTls same)
  · exact .inl fun same => enabled (congrArg Node.enabled same)
  · exact .inr sealed

theorem updateNode_refuses {payload : NodeUpdate} {nodeId : String}
    (unfit : ¬ ∃ node, world.database.tables.node? nodeId = some node ∧
      payload.clashes node world.database.tables.nodes = none ∧ payload.nulls = false) :
    ∃ error, updateNode world nodeId payload = refuse world error := by
  unfold updateNode
  dsimp only
  split
  · exact ⟨_, rfl⟩
  next node found =>
    split
    · exact ⟨_, rfl⟩
    next fits =>
      split
      · exact ⟨_, rfl⟩
      next full => exact absurd ⟨node, found, fits, Bool.eq_false_iff.2 full⟩ unfit

theorem updateNode_stores {payload : NodeUpdate} {nodeId : String} {node : Node}
    (found : world.database.tables.node? nodeId = some node)
    (fits : payload.clashes node world.database.tables.nodes = none)
    (full : payload.nulls = false) :
    updateNode world nodeId payload =
      ({ world with database := ⟨_, world.database.valid.revise (payload.apply node)⟩ },
        .done) := by
  simp only [updateNode, found, fits, full, Bool.false_eq_true, if_false,
    store_valid (world.database.valid.revise (payload.apply node))]

theorem node?_revised {tables : Tables} {nodeId : String} {node : Node} (payload : NodeUpdate)
    (found : tables.node? nodeId = some node) (id : String) :
    Tables.node? { tables with nodes := Keyed.replace Node.id (payload.apply node) tables.nodes }
        id =
      if nodeId = id then some (payload.apply node) else tables.node? id := by
  have site : (payload.apply node).id = nodeId := by
    change node.id = nodeId
    exact Tables.node?_id found
  rw [Tables.node?, Keyed.lookup_replace, site]
  by_cases here : nodeId = id
  · subst here
    rw [if_pos rfl, if_pos rfl, ← Tables.node?, found]
    rfl
  · rw [if_neg here, if_neg here]
    rfl

theorem updateNode_covers_iff {payload : NodeUpdate} {nodeId : String}
    (asks : request.target = .guarded (.updateNode nodeId) (.nodeUpdate payload)) :
    Covers world request
        ⟨(updateNode world nodeId payload).1, ranAs, (updateNode world nodeId payload).2⟩ ↔
      ¬ ∃ node, world.database.tables.node? nodeId = some node ∧
        payload.clashes node world.database.tables.nodes = none ∧ payload.nulls = false ∧
          Alters payload node := by
  have registry : registers request.target = true := by
    rw [asks]
    rfl
  by_cases fit : ∃ node, world.database.tables.node? nodeId = some node ∧
      payload.clashes node world.database.tables.nodes = none ∧ payload.nulls = false
  · obtain ⟨node, found, fits, full⟩ := fit
    have revised := node?_revised payload found
    rw [updateNode_stores found fits full]
    simp only [found, Option.some.injEq, exists_eq_left', fits, full, true_and]
    by_cases alters : Alters payload node
    · refine iff_of_false (not_covers (.node nodeId) ?_ rfl) (not_not_intro alters)
      rcases alters.changes with differs | ⟨credentials, given⟩
      · refine .inl ⟨registry, ?_⟩
        rw [revised, if_pos rfl, found]
        exact fun same => differs (Option.some.inj same)
      · exact .inr ⟨rfl, payload, credentials, asks, given⟩
    · refine iff_of_true (covers_of_kept rfl (fun _ id => ?_) (fun fleet => ?_) ?_) alters
      · rw [revised, apply_of_not_alters alters]
        split
        next here => rw [← here, found]
        next => rfl
      · rw [asks] at fleet
        cases fleet
      · rintro (id | id | id | ⟨userId, siteId⟩) reseals
        · obtain ⟨-, other, credentials, same, given⟩ := reseals
          rw [asks] at same
          cases same
          exact alters (by simp [Alters, given])
        · obtain ⟨-, enrols, -⟩ := reseals
          rw [asks] at enrols
          cases enrols
        · exact reseals
        · exact reseals
  · obtain ⟨error, refused⟩ := updateNode_refuses fit
    rw [refused]
    refine iff_of_true (covers_refused ranAs error) ?_
    rintro ⟨node, found, fits, full, -⟩
    exact fit ⟨node, found, fits, full⟩

theorem deleteNode_covers_iff {nodeId : String} {body : Body}
    (asks : request.target = .guarded (.deleteNode nodeId) body) :
    Covers world request
        ⟨(deleteNode world nodeId).1, ranAs, (deleteNode world nodeId).2⟩ ↔
      nodeId ∉ world.database.tables.nodes.map Node.id := by
  rw [← Tables.node?_eq_none]
  unfold deleteNode
  dsimp only
  split
  next absent => exact iff_of_true (covers_refused ranAs _) absent
  next node found =>
    rw [store_valid (world.database.valid.unregister nodeId)]
    refine iff_of_false (not_covers (.node nodeId) (.inl ⟨?_, ?_⟩) rfl) (by simp [found])
    · rw [asks]
      rfl
    · intro same
      exact absurd (Tables.node?_mem (same.trans found)) (by simp)

end Registry

section Accounts

/-- One principal changes, under an entry of the actor that has its id. -/
structure Signs (actor principalId : String) (before after : Auth.World) : Prop where
  others : ∀ id, id ≠ principalId → after.accounts.find? id = before.accounts.find? id
  signed : ∃ fields : AuditLog.Fields, after.audit = before.audit ++ [fields] ∧
    fields.actor = actor ∧ fields.targetId = some principalId

variable {primitives : Auth.Primitives} {before : Auth.World} {actor : String}

theorem find?_insert_other {accounts after : Auth.Accounts} {principal : Principal}
    (inserted : accounts.insert principal = some after) {id : String} (other : id ≠ principal.id) :
    after.find? id = accounts.find? id := by
  unfold Auth.Accounts.insert at inserted
  split at inserted
  next fresh =>
    cases inserted
    refine (Keyed.lookup_concat (Keyed.lookup_eq_none.2 fun row member same => ?_) id).trans
      (if_neg other)
    exact fresh.1 (same ▸ List.mem_map_of_mem member)
  · cases inserted

theorem createPrincipal_signs (newId salt : String) (payload : Auth.PrincipalCreateIn) :
    (Auth.createPrincipal primitives before actor newId salt payload).1.accounts =
        before.accounts ∨
      Signs actor newId before
        (Auth.createPrincipal primitives before actor newId salt payload).1 := by
  unfold Auth.createPrincipal
  split
  · exact .inl rfl
  · dsimp only
    split
    · exact .inl rfl
    next inserted =>
      exact .inr ⟨fun id other => find?_insert_other inserted other, _, rfl, rfl, rfl⟩

theorem updatePrincipal_signs (principalId salt : String) (payload : Auth.PrincipalUpdateIn) :
    (Auth.updatePrincipal primitives before actor principalId salt payload).1.accounts =
        before.accounts ∨
      Signs actor principalId before
        (Auth.updatePrincipal primitives before actor principalId salt payload).1 := by
  unfold Auth.updatePrincipal
  split
  · exact .inl rfl
  · split
    · exact .inl rfl
    · refine .inr ⟨fun id other => ?_, _, rfl, rfl, rfl⟩
      exact (Auth.Accounts.find?_amend ..).trans (if_neg other)

theorem deletePrincipal_signs (principalId : String) :
    (Auth.deletePrincipal before actor principalId).1.accounts = before.accounts ∨
      Signs actor principalId before (Auth.deletePrincipal before actor principalId).1 := by
  unfold Auth.deletePrincipal
  split
  · exact .inl rfl
  · exact .inr ⟨fun id other => Auth.Accounts.find?_remove _ _ _ other, _, rfl, rfl, rfl⟩

-- Who verifies signs for itself.
theorem mfaVerify_signs {settings : Auth.Settings} {now : Nat} {bearer : Option Auth.Token}
    {limiterKey : String → String} {code : String} :
    (Auth.mfaVerify primitives settings before now bearer limiterKey code).1.accounts =
        before.accounts ∨
      ∃ principal scope, Auth.getPreauthPrincipal before now bearer = .ok (principal, scope) ∧
        Signs principal.username principal.id before
          (Auth.mfaVerify primitives settings before now bearer limiterKey code).1 := by
  unfold Auth.mfaVerify
  split
  · exact .inl rfl
  next principal scope admitted =>
    dsimp only
    split
    · exact .inl rfl
    · split
      · exact .inl rfl
      next accounts checked =>
        refine .inr ⟨principal, scope, admitted, fun id other => ?_, _, rfl, rfl, rfl⟩
        rcases MfaEnrollment.checkCode_cases checked with rfl | rfl
        · rfl
        · exact (Auth.Accounts.find?_amend ..).trans (if_neg other)

variable {world : World} {request : Request} {ranAs : Option Principal} {ts : Datetime}

theorem ofAuth_covers (aside : Aside request.target) {principal : Principal}
    (acts : Acts world request principal) {principalId : String} {result : Auth.Result}
    (signs : result.1.accounts = world.accounts ∨
      Signs principal.username principalId (enter world) result.1) :
    Covers world request ⟨(ofAuth world ts result).1, ranAs, (ofAuth world ts result).2⟩ := by
  rcases signs with same | ⟨others, fields, appended, actor, target⟩
  · exact covers_of_accounts aside same
  · have only : result.1.audit = [fields] := appended
    have logged : (ofAuth world ts result).1.database.tables.audit =
        world.database.tables.audit ++ [(ts, fields)] := by
      simp only [ofAuth, leave, only, List.map_cons, List.map_nil]
      rfl
    exact covers_of_logged aside acts others logged actor target

theorem mfaEnroll_refuses (primitives : Auth.Primitives) {now : Nat} {bearer : Option Auth.Token}
    (unadmitted : ¬ ∃ principal,
      Auth.getPreauthPrincipal before now bearer = .ok (principal, .enroll)) (secret : String) :
    ∃ error, Auth.mfaEnroll primitives before now bearer secret = (before, .error error) := by
  unfold Auth.mfaEnroll
  split
  · exact ⟨_, rfl⟩
  next principal scope admitted =>
    split
    · exact ⟨_, rfl⟩
    next enrolls =>
      obtain rfl : scope = .enroll := not_not.1 enrolls
      exact absurd ⟨principal, admitted⟩ unadmitted

theorem mfaEnroll_enrolls (primitives : Auth.Primitives) {now : Nat} {bearer : Option Auth.Token}
    {principal : Principal}
    (admitted : Auth.getPreauthPrincipal before now bearer = .ok (principal, .enroll))
    (secret : String) :
    ∃ accounts uri, Auth.mfaEnroll primitives before now bearer secret =
      ({ before with accounts := accounts }, .ok (.enroll secret uri)) := by
  unfold Auth.mfaEnroll
  rw [admitted]
  exact ⟨_, _, rfl⟩

theorem mfaEnroll_covers_iff (primitives : Auth.Primitives) (secret : String)
    (asks : request.target = .mfaEnroll) :
    let result := Auth.mfaEnroll primitives (enter world) request.now request.bearer secret
    Covers world request ⟨(ofAuth world ts result).1, ranAs, (ofAuth world ts result).2⟩ ↔
      ¬ ∃ principal, Auth.getPreauthPrincipal (enter world) request.now request.bearer =
        .ok (principal, .enroll) := by
  intro result
  by_cases admitted : ∃ principal,
      Auth.getPreauthPrincipal (enter world) request.now request.bearer = .ok (principal, .enroll)
  · obtain ⟨principal, enrols⟩ := admitted
    obtain ⟨accounts, uri, enrolled⟩ := mfaEnroll_enrolls primitives enrols secret
    have same : result = ({ enter world with accounts := accounts }, .ok (.enroll secret uri)) :=
      enrolled
    rw [same]
    refine iff_of_false (not_covers (.principal principal.id) (.inr ?_) ?_) ?_
    · refine ⟨⟨secret, uri, rfl⟩, asks, principal, ?_, rfl⟩
      rw [Acts, asks]
      exact ⟨.enroll, enrols⟩
    · exact congrArg List.length (List.append_nil _)
    · exact not_not_intro ⟨principal, enrols⟩
  · obtain ⟨error, refused⟩ := mfaEnroll_refuses primitives admitted secret
    have same : result = (enter world, .error error) := refused
    rw [same]
    refine iff_of_true (covers_of_kept rfl (fun registry => ?_) (fun fleet => ?_)
      (not_reseals_refused error)) admitted
    · rw [asks] at registry
      cases registry
    · rw [asks] at fleet
      cases fleet

theorem setBinding_covers (aside : Aside request.target) {principal : Principal}
    (acts : Acts world request principal) (principalId : String) (payload : RoleBindingIn) :
    let handled := setBinding world ts principal.username principalId payload
    Covers world request ⟨handled.1, ranAs, handled.2⟩ := by
  unfold setBinding
  split
  · exact covers_refused ranAs _
  · split
    · refine covers_of_logged aside acts (fun id other => ?_) rfl rfl rfl
      exact (Auth.Accounts.find?_amend ..).trans (if_neg other)
    · exact covers_refused ranAs _

theorem deleteBinding_covers (aside : Aside request.target) {principal : Principal}
    (acts : Acts world request principal) (principalId nodeId : String) :
    let handled := deleteBinding world ts principal.username principalId nodeId
    Covers world request ⟨handled.1, ranAs, handled.2⟩ := by
  unfold deleteBinding
  split
  · exact covers_refused ranAs _
  · split
    · refine covers_of_logged aside acts (fun id other => ?_) rfl rfl rfl
      exact (Auth.Accounts.find?_amend ..).trans (if_neg other)
    · exact covers_of_accounts aside rfl

end Accounts

section Users

open Provisioning FanOut Isolation

variable {database : Database} {username : String} {email : Option String} {newId : String}

theorem resolved_of_renews (renews : Renews database.tables username email newId) :
    ∃ lu after,
      getOrCreateLogical (.begin database) username email newId = .ok (lu, ⟨after, []⟩) ∧
        after.Valid ∧ after.audit = database.tables.audit ∧
          after.user? lu.id ≠ database.tables.user? lu.id := by
  unfold Renews at renews
  split at renews
  next missing =>
    have sound := database.valid.enlist ⟨newId, username, email⟩ renews
      (Keyed.lookup_eq_none.1 missing)
    refine ⟨⟨newId, username, email⟩, _, ?_, sound, rfl, ?_⟩
    · simp [getOrCreateLogical, Session.begin, missing, Session.flush, sound]
    · have unused : database.tables.user? newId = none :=
        Keyed.lookup_eq_none.2 fun user member same => renews (same ▸ List.mem_map_of_mem member)
      rw [unused]
      simp [Tables.user?, Keyed.lookup]
  next existing found =>
    have member := Keyed.mem_of_lookup found
    refine ⟨{ existing with email := email }, _, ?_,
      (identified_of_address database.valid member email).valid, rfl, ?_⟩
    · simp [getOrCreateLogical, Session.begin, found, renews]
    have known : database.tables.user? existing.id = some existing :=
      database.valid.users.lookup_of_mem member
    rw [known]
    unfold Tables.user? at known ⊢
    rw [Keyed.lookup_replace, if_pos rfl, known]
    intro same
    have address := congrArg LogicalUser.email (Option.some.inj same)
    exact renews.1 ((congrArg (·.getD "") address).trans renews.2)

theorem unchanged_of_not_renews (settled : ¬ Renews database.tables username email newId)
    {lu : LogicalUser} {after : Tables}
    (resolved : getOrCreateLogical (.begin database) username email newId =
      .ok (lu, ⟨after, []⟩)) : after = database.tables := by
  unfold Renews at settled
  unfold getOrCreateLogical Session.begin at resolved
  dsimp only at resolved
  cases found : Keyed.lookup LogicalUser.username username database.tables.users with
  | none =>
      rw [found] at settled resolved
      dsimp only at settled resolved
      split at resolved
      next taken =>
        unfold Session.flush at taken
        split at taken
        next sound =>
          have ids := sound.users
          rw [Session.flushed, Keyed.Unique, List.map_append, List.nodup_append] at ids
          exact absurd rfl (ids.2.2 newId (not_not.1 settled) newId (by simp))
        · cases taken
      · cases resolved
  | some existing =>
      rw [found] at settled resolved
      dsimp only at settled resolved
      rw [if_neg settled] at resolved
      cases resolved
      rfl

variable {actor : String} {attempts : List Attempt}

theorem provision_nil_renews (actor : String)
    (renews : Renews database.tables username email newId) :
    (Provisioning.provision database actor username email newId []).database.tables.audit =
        database.tables.audit ∧
      ∃ id,
        (Provisioning.provision database actor username email newId []).database.tables.user? id ≠
          database.tables.user? id := by
  obtain ⟨lu, after, resolved, sound, silent, differs⟩ := resolved_of_renews renews
  simp only [Provisioning.provision, resolved, forEach, finish_clean _ _ sound]
  exact ⟨silent, lu.id, differs⟩

theorem provision_nil_settled (actor : String)
    (settled : ¬ Renews database.tables username email newId) :
    (Provisioning.provision database actor username email newId []).database.tables =
      database.tables := by
  rcases getOrCreateLogical_cases database username email newId with
    ⟨-, clash⟩ | ⟨lu, after, resolved, identified⟩
  · simp only [Provisioning.provision, clash, finish]
  · simp only [Provisioning.provision, resolved, forEach, finish_clean _ _ identified.valid]
    exact unchanged_of_not_renews settled resolved

-- Each target of a provision that commits has its entry.
theorem recorded_of_completed {lu : LogicalUser} {after : Tables} {outcome : Db.Outcome}
    (completed : Completed database actor username email attempts lu after outcome) :
    outcome.database.tables.audit = database.tables.audit ++
        attempts.filterMap (provisionRecord database.tables actor username) ∧
      ∀ attempt ∈ attempts,
        ∃ entry ∈ attempts.filterMap (provisionRecord database.tables actor username),
          entry.2.actor = actor ∧ entry.2.nodeId = some attempt.target.nodeId ∧
            ("username", Json.str username) ∈ entry.2.params.getD [] := by
  constructor
  · rw [completed.tables, advance_audit, provisionRecord_congr completed.identified.nodes,
      completed.identified.audit]
  · intro attempt member
    obtain ⟨node, found, -⟩ := completed.served attempt member
    refine ⟨provisionEntry actor username node attempt, List.mem_filterMap.2 ⟨attempt, member, ?_⟩,
      ?_⟩
    · rw [provisionRecord, found]
      rfl
    · have site := Tables.node?_id found
      unfold provisionEntry
      cases attempt.answer.reply <;> simp [site]

theorem user?_of_completed {lu : LogicalUser} {after : Tables} {outcome : Db.Outcome}
    (completed : Completed database actor username email attempts lu after outcome) :
    outcome.database.tables.user? lu.id = some lu := by
  rw [Tables.user?, completed.rooted.users]
  exact completed.identified.valid.users.lookup_of_mem completed.identified.member

variable {world : World}

theorem provision_names_user {lu : LogicalUser} {tables : Tables} {outcome : Db.Outcome}
    (completed : Completed world.database actor username email attempts lu tables outcome)
    (resolved : getOrCreateLogical (.begin world.database) username email newId =
      .ok (lu, ⟨tables, []⟩)) (targeted : attempts ≠ []) (id : String)
    (differs : outcome.database.tables.user? id ≠ world.database.tables.user? id) :
    ∃ fields ∈ entries world { world with database := outcome.database }, fields.actor = actor ∧
      NamesUser outcome.database.tables id fields := by
  obtain ⟨audit, recorded⟩ := recorded_of_completed completed
  obtain rfl : lu.id = id := by
    by_contra other
    apply differs
    rw [Tables.user?, completed.rooted.users]
    exact getOrCreateLogical_frame resolved other
  obtain ⟨attempt, member⟩ := List.exists_mem_of_ne_nil attempts targeted
  obtain ⟨entry, present, signed, -, mentions⟩ := recorded attempt member
  rw [entries_appended audit]
  refine ⟨entry.2, List.mem_map_of_mem present, signed, lu, user?_of_completed completed, ?_⟩
  rwa [completed.identified.username]

theorem provision_names_placement {lu : LogicalUser} {tables : Tables} {outcome : Db.Outcome}
    (completed : Completed world.database actor username email attempts lu tables outcome)
    (userId nodeId : String)
    (differs : outcome.database.tables.placement? userId nodeId ≠
      world.database.tables.placement? userId nodeId) :
    ∃ fields ∈ entries world { world with database := outcome.database }, fields.actor = actor ∧
      fields.nodeId = some nodeId ∧ NamesUser outcome.database.tables userId fields := by
  obtain ⟨audit, recorded⟩ := recorded_of_completed completed
  by_cases here : ∃ attempt ∈ attempts, lu.id = userId ∧ attempt.target.nodeId = nodeId
  · obtain ⟨attempt, member, rfl, rfl⟩ := here
    obtain ⟨entry, present, signed, site, mentions⟩ := recorded attempt member
    rw [entries_appended audit]
    refine ⟨entry.2, List.mem_map_of_mem present, signed, site, lu,
      user?_of_completed completed, ?_⟩
    rwa [completed.identified.username]
  · refine absurd (completed.placement?_frame fun attempt member same => ?_) differs
    exact here ⟨attempt, member, same⟩

variable {request : Request} {ranAs : Option Principal} {environment : Environment}

theorem provision_covers_iff {targets : List Provisioning.Target} {body : Body}
    (asks : request.target = .guarded (.provision username email targets) body)
    {principal : Principal} (acts : Acts world request principal) :
    let handled := Api.provision world environment principal.username username email targets
    Covers world request ⟨handled.1, ranAs, handled.2⟩ ↔
      ¬ (targets = [] ∧ environment.escapes = false ∧
        Renews world.database.tables username email environment.newId) := by
  have provisioned : provisions request.target = true := by
    rw [asks]
    rfl
  have unregistered : registers request.target = false := by
    rw [asks]
    rfl
  have stays : request.target ≠ .mfaEnroll := by simp [asks]
  cases escapes : environment.escapes with
  | true =>
      simp only [Api.provision, Api.settle, escapes, if_true]
      exact iff_of_true (covers_refused ranAs _) (by simp)
  | false =>
      simp only [Api.provision, Api.settle, escapes, Bool.false_eq_true, if_false, true_and]
      by_cases none : targets = []
      · subst none
        simp only [true_and]
        by_cases renews : Renews world.database.tables username email environment.newId
        · obtain ⟨silent, id, differs⟩ := provision_nil_renews principal.username renews
          exact iff_of_false (not_covers (.user id) ⟨provisioned, differs⟩
            (congrArg List.length silent))
            (not_not_intro renews)
        · have same := provision_nil_settled principal.username renews
          refine iff_of_true (covers_of_kept rfl (fun registered => ?_) (fun _ => same)
            (not_reseals unregistered stays)) renews
          exact absurd registered (by simp [unregistered])
      · refine iff_of_true ?_ fun empty => none empty.1
        generalize attempted : targets.mapIdx (fun index target =>
          (⟨target, environment.created index⟩ : Attempt)) = attempts
        have some : attempts ≠ [] := by
          rw [← attempted]
          simpa using none
        rcases provision_cases world.database principal.username username email environment.newId
          attempts with ⟨-, same, -⟩ | ⟨lu, after, resolved, completed⟩
        · rw [same]
          exact covers_of_named unregistered stays rfl acts
            (fun id differs => absurd rfl differs) (fun userId nodeId differs => absurd rfl differs)
        · exact covers_of_named unregistered stays rfl acts
            (provision_names_user completed resolved some)
            (provision_names_placement completed)

theorem deprovision_names_placement {actor logicalUserId : String} {hard : Bool}
    {answers : String → Answer Unit} {lu : LogicalUser} {outcome : Db.Outcome}
    (retired : Retired world.database actor logicalUserId hard answers lu outcome)
    (userId nodeId : String)
    (differs : outcome.database.tables.placement? userId nodeId ≠
      world.database.tables.placement? userId nodeId) :
    ∃ fields ∈ entries world { world with database := outcome.database }, fields.actor = actor ∧
      fields.nodeId = some nodeId ∧ NamesUser outcome.database.tables userId fields := by
  obtain rfl : lu.id = userId := by
    by_contra other
    exact differs (retired.placement?_frame other nodeId)
  -- The row is one of the user's and has a remote id, or the removal would have left it.
  have removed : ∃ placement ∈ world.database.tables.placementsOf lu.id,
      placement.nodeId = nodeId ∧ placement.remoteUserId ≠ none := by
    by_contra absent
    apply differs
    by_cases here : ∃ placement ∈ world.database.tables.placementsOf lu.id,
        placement.nodeId = nodeId
    · obtain ⟨placement, member, rfl⟩ := here
      have kept : placement.remoteUserId = none := by
        by_contra remote
        exact absent ⟨placement, member, rfl, remote⟩
      rw [retired.placement? member, placement?_of_mem world.database.valid member, removed,
        if_pos kept]
    · rw [retired.tables]
      exact placement?_retired_frame _ fun placement member same => here ⟨placement, member, same.2⟩
  obtain ⟨placement, member, rfl, remote⟩ := removed
  obtain ⟨remoteId, held⟩ := Option.ne_none_iff_exists'.1 remote
  obtain ⟨node, found, -⟩ := retired.removable placement member remoteId held
  have audit : outcome.database.tables.audit = world.database.tables.audit ++
      (world.database.tables.placementsOf lu.id).filterMap
        (removalRecord world.database.tables actor lu hard answers) := by
    rw [retired.tables, retire_audit]
  have known : outcome.database.tables.user? lu.id = some lu := by
    rw [Tables.user?, retired.rooted.users]
    exact world.database.valid.users.lookup_of_mem (Keyed.mem_of_lookup retired.found)
  have recorded : removalRecord world.database.tables actor lu hard answers placement =
      some (deprovisionEntry actor lu hard node remoteId (answers placement.nodeId)) := by
    rw [removalRecord, held, found]
    rfl
  rw [entries_appended audit]
  refine ⟨_, List.mem_map_of_mem (List.mem_filterMap.2 ⟨placement, member, recorded⟩), ?_⟩
  have site := Tables.node?_id found
  unfold deprovisionEntry
  cases (answers placement.nodeId).reply <;> exact ⟨rfl, congrArg some site, lu, known, by simp⟩

theorem deprovision_covers {logicalUserId : String} {hard : Bool} {body : Body}
    (asks : request.target = .guarded (.deprovision logicalUserId hard) body)
    {principal : Principal} (acts : Acts world request principal) :
    let handled := Api.deprovision world environment principal.username logicalUserId hard
    Covers world request ⟨handled.1, ranAs, handled.2⟩ := by
  have unregistered : registers request.target = false := by
    rw [asks]
    rfl
  have stays : request.target ≠ .mfaEnroll := by simp [asks]
  unfold Api.deprovision Api.settle
  dsimp only
  split
  · exact covers_refused ranAs _
  · rcases deprovision_cases world.database principal.username logicalUserId hard
      environment.removed with ⟨-, same, -⟩ | ⟨lu, retired⟩
    · rw [same]
      exact covers_of_named unregistered stays rfl acts
        (fun id differs => absurd rfl differs) (fun userId nodeId differs => absurd rfl differs)
    · refine covers_of_named unregistered stays rfl acts (fun id differs => absurd ?_ differs)
        (deprovision_names_placement retired)
      rw [Tables.user?, retired.rooted.users]
      rfl

end Users

section Runs

variable {Moment : Type} {platform : Platform Moment} {world after : World} {request : Request}
  {ranAs : Option Principal} {route : Routes.Request} {body : Body} {reply : Reply}

theorem covers_ran {handled : Handled} (ran : some handled = some (after, reply)) :
    Covers world request ⟨handled.1, ranAs, handled.2⟩ ↔
      Covers world request ⟨after, ranAs, reply⟩ := by
  cases ran
  exact Iff.rfl

theorem covers_aside {handled : Handled} (aside : Aside request.target)
    (accounts : handled.1.accounts = world.accounts) (ran : some handled = some (after, reply)) :
    Covers world request ⟨after, ranAs, reply⟩ :=
  (covers_ran ran).1 (covers_of_accounts aside accounts)

theorem aside_of {target : Target} (asks : request.target = target)
    (unregistered : registers target = false) (unprovisioned : provisions target = false)
    (stays : target ≠ .mfaEnroll) : Aside request.target := by
  rw [asks]
  exact ⟨unregistered, unprovisioned, stays⟩

theorem aside_guarded (asks : request.target = .guarded route body)
    (unregistered : registers (.guarded route body) = false)
    (unprovisioned : provisions (.guarded route body) = false) : Aside request.target :=
  aside_of asks unregistered unprovisioned (by simp)

-- Of the guarded routes only these five write nodes or users.
theorem aside_of_apart (body : Body) (creates : route ≠ .createNode)
    (updates : ∀ nodeId, route ≠ .updateNode nodeId)
    (deletes : ∀ nodeId, route ≠ .deleteNode nodeId)
    (provides : ∀ username email targets, route ≠ .provision username email targets)
    (withdraws : ∀ logicalUserId hard, route ≠ .deprovision logicalUserId hard) :
    Aside (.guarded route body) := by
  refine ⟨?_, ?_, by simp⟩
  · unfold registers
    split
    next same =>
      cases same
      exact absurd rfl creates
    next same =>
      cases same
      exact absurd rfl (updates _)
    next same =>
      cases same
      exact absurd rfl (deletes _)
    next => rfl
  · unfold provisions
    split
    next same =>
      cases same
      exact absurd rfl (provides _ _ _)
    next same =>
      cases same
      exact absurd rfl (withdraws _ _)
    next => rfl

theorem not_forgets (aside : Aside (.guarded route body)) (environment : Environment) :
    ¬ Forgets world environment route body := by
  intro forgets
  unfold Forgets at forgets
  dsimp only at forgets
  split at forgets
  · cases aside.unregistered
  · cases aside.unregistered
  · cases aside.unregistered
  · cases aside.unprovisioned
  · exact forgets

theorem handler_covers_iff (asks : request.target = .guarded route body) {principal : Principal}
    (acts : Acts world request principal)
    (ran : handler platform world principal.username request.environment route body =
      some (after, reply)) :
    Covers world request ⟨after, ranAs, reply⟩ ↔
      ¬ Forgets world request.environment route body := by
  unfold handler at ran
  split at ran
  · exact (covers_ran ran).symm.trans (createNode_covers_iff asks)
  · exact (covers_ran ran).symm.trans (updateNode_covers_iff asks)
  · exact (covers_ran ran).symm.trans (deleteNode_covers_iff asks)
  · exact iff_of_true (covers_aside (aside_guarded asks rfl rfl) (checkNode_keeps ..).accounts ran)
      not_false
  · exact (covers_ran ran).symm.trans (provision_covers_iff asks acts)
  · exact iff_of_true ((covers_ran ran).1 (deprovision_covers asks acts)) not_false
  · exact iff_of_true (covers_aside (aside_guarded asks rfl rfl)
      (identityProfiles_keeps ..).accounts ran) not_false
  · exact iff_of_true (covers_aside (aside_guarded asks rfl rfl) (settle_keeps ..).accounts ran)
      not_false
  · exact iff_of_true (covers_aside (aside_guarded asks rfl rfl) rfl ran) not_false
  · refine iff_of_true ((covers_ran ran).1 ?_) not_false
    exact ofAuth_covers (aside_guarded asks rfl rfl) acts (createPrincipal_signs ..)
  · refine iff_of_true ((covers_ran ran).1 ?_) not_false
    exact ofAuth_covers (aside_guarded asks rfl rfl) acts (updatePrincipal_signs ..)
  · refine iff_of_true ((covers_ran ran).1 ?_) not_false
    exact ofAuth_covers (aside_guarded asks rfl rfl) acts (deletePrincipal_signs ..)
  · refine iff_of_true ((covers_ran ran).1 ?_) not_false
    exact setBinding_covers (aside_guarded asks rfl rfl) acts _ _
  · refine iff_of_true ((covers_ran ran).1 ?_) not_false
    exact deleteBinding_covers (aside_guarded asks rfl rfl) acts _ _
  · cases ran
  · cases ran
  · cases ran
  · cases ran
  · cases ran
  next _ _ deletes _ provides withdraws _ _ _ _ _ creates updates _ _ _ _ _ _ _ _ =>
    have apart := aside_of_apart body creates updates deletes provides withdraws
    have aside : Aside request.target := asks ▸ apart
    refine iff_of_true ?_ (not_forgets apart _)
    split at ran
    · exact covers_aside aside rfl ran
    · split at ran
      · cases ran
      · exact covers_aside aside rfl ran

theorem remembers_of_invalid {actor : String} {environment : Environment}
    (invalid : handler platform world actor environment route body = none) :
    ¬ Forgets world environment route body := by
  intro forgets
  unfold Forgets at forgets
  dsimp only at forgets
  split at forgets
  · cases invalid
  · cases invalid
  · cases invalid
  · cases invalid
  · exact forgets

theorem covered_iff : Covered platform world request ↔ ¬ Unrecorded world request := by
  unfold Covered handle Unrecorded
  dsimp only
  cases asks : request.target with
  | healthz =>
      have aside := aside_of asks rfl rfl (by simp)
      exact iff_of_true (covers_of_accounts aside rfl) not_false
  | readyz =>
      have aside := aside_of asks rfl rfl (by simp)
      exact iff_of_true (covers_of_accounts aside rfl) not_false
  | login username password =>
      have aside := aside_of asks rfl rfl (by simp)
      exact iff_of_true (covers_of_accounts aside (MfaEnrollment.login_accounts ..)) not_false
  | mfaEnroll => exact mfaEnroll_covers_iff platform.primitives request.environment.secret asks
  | mfaVerify code =>
      have aside := aside_of asks rfl rfl (by simp)
      refine iff_of_true ?_ not_false
      rcases mfaVerify_signs with same | ⟨principal, scope, admitted, signs⟩
      · exact covers_of_accounts aside same
      · have acts : Acts world request principal := by
          rw [Acts, asks]
          exact ⟨scope, admitted⟩
        exact ofAuth_covers aside acts (.inr signs)
  | me =>
      have aside := aside_of asks rfl rfl (by simp)
      refine iff_of_true ?_ not_false
      dsimp only
      split <;> exact covers_of_accounts aside rfl
  | guarded route body =>
      dsimp only
      cases granted : Auth.guarded (enter world) request.now request.bearer route with
      | error error => exact iff_of_true (covers_refused none error) (by simp)
      | ok principal =>
          have acts : Acts world request principal := by
            rw [Acts, asks]
            exact granted
          simp only [Except.ok.injEq, exists_eq', true_and]
          cases ran : handler platform world principal.username request.environment route body with
          | none => exact iff_of_true (covers_refused none _) (remembers_of_invalid ran)
          | some handled => exact handler_covers_iff asks acts ran

theorem changes_audited_iff (platform : Platform Moment) (world : World)
    (requests : List Request) :
    Along (Covered platform) (step platform) world requests ↔
      Along (fun world request => ¬ Unrecorded world request) (step platform) world requests :=
  ⟨Along.mono fun _ _ => covered_iff.1, Along.mono fun _ _ => covered_iff.2⟩

end Runs

section Registration

open TwoFactor (platform signIn fullToken)

def ChangesAudited : Prop :=
  ∀ (Moment : Type) (platform : Platform Moment) (world : World) (requests : List Request),
    Along (Covered platform) (step platform) world requests

def office : World :=
  { TwoFactor.fresh with
    accounts :=
      ⟨[{ MfaEnrollment.newcomer with globalRole := .admin }], by simp [Keyed.Unique],
        by simp [Keyed.Unique]⟩ }

def registration : Request where
  now := 1100
  bearer := some fullToken
  target := .guarded .createNode (.nodeCreate
    { name := "vpn-sg", region := "SG", endpoint := "https://vpn-sg",
      credentials := [("token", .str "t"), ("secret", .str "s")] })
  environment := { TwoFactor.quiet "JBSWY3DP" with newId := "n1" }

def signedIn : World := (run (step platform) office signIn).getD office

theorem registration_silent :
    (signedIn.database.tables.node? "n1").isSome = false ∧
      ((handle platform signedIn registration).world.database.tables.node? "n1").isSome = true ∧
        (handle platform signedIn registration).world.database.tables.audit.length =
          signedIn.database.tables.audit.length := by
  decide +kernel

theorem registration_unaudited : ¬ ChangesAudited := by
  intro audited
  have along := audited String platform office (signIn ++ [registration])
  obtain ⟨-, late⟩ := (along_append _ _ _ _ _).1 along
  have covered : Covered platform signedIn registration := (late signedIn rfl).1
  obtain ⟨absent, present, silent⟩ := registration_silent
  refine not_covers (.node "n1") (.inl ⟨rfl, fun same => ?_⟩) silent covered
  rw [same, absent] at present
  cases present

end Registration

end Fleet.ChangeAudit
