import Fleet.ControlPlane.Routes

set_option autoImplicit false

namespace Fleet.Authorization

open Identity Db NodeAdapter Provisioning FanOut Sync Routes

section Calls

variable {environment : Environment} {database : Database}

theorem invoke_site (node : Node) (adapterType : AdapterType) (index : Nat)
    (operations : List Operation) :
    ∀ call ∈ invoke environment node adapterType index operations,
      call.nodeId = node.id ∧ call.operation ∈ operations := by
  induction operations generalizing index with
  | nil => simp [invoke]
  | cons operation rest ih =>
      intro call present
      unfold invoke at present
      split at present
      · rcases List.mem_cons.1 present with rfl | later
        · exact ⟨rfl, List.mem_cons_self⟩
        · obtain ⟨site, asked⟩ := ih (index + 1) call later
          exact ⟨site, List.mem_cons_of_mem _ asked⟩
      · obtain rfl := List.mem_singleton.1 present
        exact ⟨rfl, List.mem_cons_self⟩

theorem onNode_site (nodeId : String) (operations : List Operation) :
    ∀ call ∈ onNode environment database nodeId operations,
      call.nodeId = nodeId ∧ call.operation ∈ operations := by
  unfold onNode
  split
  · simp
  next node found =>
    obtain rfl := Tables.node?_id found
    split
    · simp
    · exact invoke_site node _ 0 operations

theorem fetchNode_reads (node : Node) :
    ∀ call ∈ fetchNode node, call.operation.mutates = false := by
  unfold fetchNode
  split
  · simp
  · split
    · simp
    · simp [Operation.mutates]

end Calls

section Guard

variable (environment : Environment) (database : Database) (principal : Principal)
  (request : Request)

/-- Whatever the handler changes, it changes on nodes the principal operates. -/
def SiteScoped : Prop :=
  ∀ call ∈ handle environment database principal request, call.operation.mutates = true →
    roleAtLeast (principal.effectiveRole (some call.nodeId)) .operator = true

variable {environment database principal request}

theorem handle_granted {call : Call}
    (present : call ∈ handle environment database principal request) :
    roleAtLeast (principal.effectiveRole request.nodeId?) (requiredRole request) = true ∧
      call ∈ invocations environment database principal.username request := by
  unfold handle at present
  split at present
  · cases present
  next granted guarded =>
    obtain ⟨rfl, held⟩ := rbacGuard_eq_ok.1 guarded
    exact ⟨held, present⟩

theorem siteScoped_of_reads
    (reads : ∀ actor, ∀ call ∈ invocations environment database actor request,
      call.operation.mutates = false) : SiteScoped environment database principal request := by
  intro call present mutates
  rw [reads _ call (handle_granted present).2] at mutates
  cases mutates

theorem requiredRole_operator (mutation : request.method ≠ .get) :
    roleAtLeast (requiredRole request) .operator = true := by
  rw [requiredRole, if_neg mutation]
  split <;> rfl

theorem requiredRole_identityProfiles (logicalUserId : String) :
    requiredRole (.identityProfiles logicalUserId) = .viewer := by
  have general : isAdminRoute .get "/api/v1/identities/{logical_user_id}/profiles" = false := by
    decide +kernel
  simp [requiredRole, Request.method, Request.template, general]

-- A mutation acts on the node of its path, or names none and asks for the role globally.
theorem siteScoped_of_mutation (mutation : request.method ≠ .get)
    (site : ∀ actor, ∀ call ∈ invocations environment database actor request,
      request.nodeId? = none ∨ request.nodeId? = some call.nodeId) :
    SiteScoped environment database principal request := by
  intro call present _
  obtain ⟨held, invoked⟩ := handle_granted present
  have operator := roleAtLeast_trans held (requiredRole_operator mutation)
  rcases site _ call invoked with globally | here
  · rw [globally] at operator
    exact effectiveRole_of_global operator _
  · rwa [here] at operator

theorem siteScoped_of_path {nodeId : String} {operations : List Operation}
    (mutation : request.method ≠ .get) (path : request.nodeId? = some nodeId)
    (handler : ∀ actor, invocations environment database actor request =
      onNode environment database nodeId operations) :
    SiteScoped environment database principal request := by
  refine siteScoped_of_mutation mutation fun actor call invoked => .inr ?_
  rw [handler] at invoked
  rw [path, (onNode_site nodeId operations call invoked).1]

theorem siteScoped_of_read {nodeId : String} {operation : Operation}
    (reads : operation.mutates = false)
    (handler : ∀ actor, invocations environment database actor request =
      onNode environment database nodeId [operation]) :
    SiteScoped environment database principal request := by
  refine siteScoped_of_reads fun actor call invoked => ?_
  rw [handler] at invoked
  rw [List.mem_singleton.1 (onNode_site nodeId [operation] call invoked).2, reads]

theorem siteScoped_of_fetch (nodes : List Node)
    (handler : ∀ actor, invocations environment database actor request =
      nodes.flatMap fetchNode) : SiteScoped environment database principal request := by
  refine siteScoped_of_reads fun actor call invoked => ?_
  rw [handler] at invoked
  obtain ⟨node, -, fetched⟩ := List.mem_flatMap.1 invoked
  exact fetchNode_reads node call fetched

theorem siteScoped_of_silent
    (handler : ∀ actor, invocations environment database actor request = []) :
    SiteScoped environment database principal request :=
  siteScoped_of_reads fun actor call invoked => by simp [handler] at invoked

/-- The bundle of an identity asks for profiles only of nodes the principal operates. -/
def BundleScoped (database : Database) (principal : Principal) : Request → Prop
  | .identityProfiles logicalUserId =>
      ∀ lu, database.tables.user? logicalUserId = some lu →
        ∀ pair, Operations.Asked (bundlePairs database.tables lu.id) pair →
          roleAtLeast (principal.effectiveRole (some pair.2.id)) .operator = true
  | _ => True

theorem handle_identityProfiles (logicalUserId : String) :
    handle environment database principal (.identityProfiles logicalUserId) =
      (buildIdentityBundle database logicalUserId environment.profiles).1 := by
  have granted : rbacGuard principal (.identityProfiles logicalUserId) = .ok principal := by
    have held (role : Role) : roleAtLeast role .viewer = true := by cases role <;> rfl
    simp [rbacGuard_eq_ok, requiredRole_identityProfiles, held]
  rw [handle, granted]
  rfl

theorem identityProfiles_iff (logicalUserId : String) :
    SiteScoped environment database principal (.identityProfiles logicalUserId) ↔
      BundleScoped database principal (.identityProfiles logicalUserId) := by
  simp only [SiteScoped, BundleScoped, handle_identityProfiles]
  constructor
  · intro operated lu found pair asked
    obtain ⟨call, present, site, operation⟩ :=
      Operations.buildIdentityBundle_asked found asked environment.profiles
    rw [← site]
    exact operated call present (by rw [operation]; rfl)
  · intro operated call present _
    obtain ⟨lu, pair, found, asked, site, -⟩ := Operations.buildIdentityBundle_calls database
      logicalUserId environment.profiles call present
    rw [site]
    exact operated lu found pair asked

theorem siteScoped_iff (environment : Environment) (database : Database) (principal : Principal)
    (request : Request) :
    SiteScoped environment database principal request ↔
      BundleScoped database principal request := by
  cases request with
  | identityProfiles logicalUserId => exact identityProfiles_iff logicalUserId
  | createUser | setUserDisabled | deleteUser | issueProfile | emailProfile | revokeProfile
  | bulkCreateUsers | bulkUserAction | createOrg | deleteOrg | setUserPolicy | serverAction =>
      exact iff_of_true (siteScoped_of_path nofun rfl fun _ => rfl) trivial
  | checkNode | nodeServers | nodeOrgs | nodeUsers =>
      exact iff_of_true (siteScoped_of_read rfl fun _ => rfl) trivial
  | getDashboard | listServers | searchUsers =>
      exact iff_of_true (siteScoped_of_fetch _ fun _ => rfl) trivial
  | provision | deprovision =>
      exact iff_of_true (siteScoped_of_mutation nofun fun _ _ _ => .inl rfl) trivial
  | nodeSessions nodeId =>
      refine iff_of_true (siteScoped_of_fetch (database.tables.node? nodeId).toList ?_) trivial
      intro actor
      cases found : database.tables.node? nodeId <;> simp [invocations, found]
  | syncAll =>
      refine iff_of_true (siteScoped_of_reads fun actor call invoked => ?_) trivial
      rw [sweep_calls _ _ _ call invoked]
      rfl
  | syncOne nodeId =>
      refine iff_of_true (siteScoped_of_reads fun actor call invoked => ?_) trivial
      rw [Operations.syncOne_calls _ _ _ call invoked]
      rfl
  | _ => exact iff_of_true (siteScoped_of_silent fun _ => rfl) trivial

end Guard

section Viewer

def MutationsAreSiteScoped : Prop :=
  ∀ (environment : Environment) (database : Database) (principal : Principal) (request : Request),
    SiteScoped environment database principal request

def vpn : Node :=
  { id := "n1", name := "vpn-1", region := "SG", endpoint := "https://n1", adapterType := .shim,
    enabled := true, credentials := [("token", .str "t"), ("secret", .str "s")],
    status := .reachable, lastSyncedAt := none }

def connected : Database :=
  ⟨⟨[vpn], [⟨"lu-2", "dave", none⟩],
    [{ logicalUserId := "lu-2", nodeId := "n1", orgId := "org-1", remoteUserId := some "usr-9",
       status := .active }], []⟩, by decide⟩

def onlooker : Principal := { id := "p-1", username := "vic", passwordHash := "argon2" }

def noon : Datetime := ⟨2026, 9, 22, 12, 0, 0, 0, 0⟩

def answering : Environment where
  newId := "lu-3"
  created := fun _ => ⟨.ok "usr-10", noon, noon⟩
  removed := fun _ => ⟨.ok (), noon, noon⟩
  profiles := fun _ => .ok .empty
  listings := fun _ => ⟨.ok [], noon⟩
  replies := fun _ => .done

-- The route is a GET, so the viewer role suffices for it.
theorem onlooker_changes_node :
    (handle answering connected onlooker (.identityProfiles "lu-2")).map
      (fun call => (call.nodeId, call.operation.mutates)) = [("n1", true)] := by
  decide +kernel

theorem viewer_issues_profile : ¬ MutationsAreSiteScoped := by
  intro operated
  have present : ("n1", true) ∈
      (handle answering connected onlooker (.identityProfiles "lu-2")).map
        (fun call => (call.nodeId, call.operation.mutates)) := by
    rw [onlooker_changes_node]
    exact List.mem_singleton_self _
  obtain ⟨call, invoked, same⟩ := List.mem_map.1 present
  obtain ⟨site, mutates⟩ := Prod.mk.inj same
  have held := operated answering connected onlooker (.identityProfiles "lu-2") call invoked mutates
  rw [site] at held
  exact absurd held (by decide)

end Viewer

end Fleet.Authorization
