import Fleet.ControlPlane.MutationAudit
import Fleet.ControlPlane.TwoFactor

set_option autoImplicit false

namespace Fleet.NoEscalation

open Identity Db Api Execution

/-- The same principal with no more rights, and no new way in. -/
structure Narrows (new old : Principal) : Prop where
  id : new.id = old.id
  passwordHash : new.passwordHash = old.passwordHash
  globalRole : new.globalRole = old.globalRole
  disabled : old.disabled = true → new.disabled = true
  role : ∀ nodeId, roleAtLeast (old.effectiveRole nodeId) (new.effectiveRole nodeId) = true

/-- Nobody is new, and nobody has more than before. -/
def Confined (before after : Auth.Accounts) : Prop :=
  ∀ new ∈ after.principals, ∃ old ∈ before.principals, Narrows new old

/-- No token of a global admin is presented. -/
def Unprivileged (world : World) (request : Request) : Prop :=
  ∀ principal ∈ request.bearer.bind fun token => world.accounts.find? token.sub,
    principal.globalRole ≠ .admin

instance (world : World) (request : Request) : Decidable (Unprivileged world request) :=
  inferInstanceAs (Decidable (∀ principal ∈ _, _))

section Principals

theorem roleAtLeast_refl (role : Role) : roleAtLeast role role = true := by
  simp [roleAtLeast]

theorem Narrows.trans {new middle old : Principal} (late : Narrows new middle)
    (early : Narrows middle old) : Narrows new old where
  id := late.id.trans early.id
  passwordHash := late.passwordHash.trans early.passwordHash
  globalRole := late.globalRole.trans early.globalRole
  disabled := fun before => late.disabled (early.disabled before)
  role := fun nodeId => roleAtLeast_trans (early.role nodeId) (late.role nodeId)

theorem effectiveRole_mono {new old : Principal} (globalRole : new.globalRole = old.globalRole)
    (bindings : new.bindings ⊆ old.bindings) (nodeId : Option String) :
    roleAtLeast (old.effectiveRole nodeId) (new.effectiveRole nodeId) = true := by
  have held := (effectiveRole_atLeast_iff new nodeId _).1 (roleAtLeast_refl _)
  refine (effectiveRole_atLeast_iff old nodeId _).2 ?_
  rcases held with inGeneral | ⟨binding, member, here, named, enough⟩
  · exact .inl (globalRole ▸ inGeneral)
  · exact .inr ⟨binding, bindings member, here, named, enough⟩

theorem narrows_unbound (nodeId : String) (principal : Principal) :
    Narrows ((unbound nodeId).change principal) principal :=
  ⟨rfl, rfl, rfl, fun before => before, effectiveRole_mono rfl List.filter_sublist.subset⟩

-- Neither the secret nor the flag of the second factor is a right.
theorem narrows_enrolling (secret : String) (principal : Principal) :
    Narrows ((Auth.enrolling secret).change principal) principal :=
  ⟨rfl, rfl, rfl, fun before => before, effectiveRole_mono rfl (List.Subset.refl _)⟩

theorem narrows_confirmed (principal : Principal) :
    Narrows (Auth.confirmed.change principal) principal :=
  ⟨rfl, rfl, rfl, fun before => before, effectiveRole_mono rfl (List.Subset.refl _)⟩

theorem narrows_refl (principal : Principal) : Narrows principal principal :=
  ⟨rfl, rfl, rfl, fun before => before, fun _ => roleAtLeast_refl _⟩

end Principals

section Accounts

variable {accounts : Auth.Accounts}

theorem confined_refl (accounts : Auth.Accounts) : Confined accounts accounts :=
  fun principal member => ⟨principal, member, narrows_refl principal⟩

theorem Confined.trans {before middle after : Auth.Accounts} (early : Confined before middle)
    (late : Confined middle after) : Confined before after := by
  intro new member
  obtain ⟨held, present, narrower⟩ := late new member
  obtain ⟨old, there, narrow⟩ := early held present
  exact ⟨old, there, narrower.trans narrow⟩

theorem confined_amend {amendment : Auth.Amendment}
    (narrows : ∀ principal, Narrows (amendment.change principal) principal) (id : String) :
    Confined accounts (accounts.amend id amendment) := by
  intro new member
  obtain ⟨old, present, rfl⟩ := List.mem_map.1 member
  refine ⟨old, present, ?_⟩
  split
  · exact narrows old
  · exact narrows_refl old

theorem confined_amendAll {amendment : Auth.Amendment}
    (narrows : ∀ principal, Narrows (amendment.change principal) principal) :
    Confined accounts (accounts.amendAll amendment) := by
  intro new member
  obtain ⟨old, present, rfl⟩ := List.mem_map.1 member
  exact ⟨old, present, narrows old⟩

end Accounts

section Requests

variable {Moment : Type} {platform : Platform Moment} {world : World} {request : Request}

theorem requiredRole_manages {route : Routes.Request} (manages : managesAccounts route = true) :
    Routes.requiredRole route = .admin ∧ route.nodeId? = none := by
  have create : Routes.isAdminRoute .post "/api/v1/principals" = true := by decide +kernel
  have bind : Routes.isAdminRoute .put "/api/v1/principals/{principal_id}/bindings" = true := by
    decide +kernel
  cases route with
  | createPrincipal =>
      simp [Routes.requiredRole, Routes.Request.method, Routes.Request.template, create,
        Routes.Request.nodeId?]
  | setBinding principalId =>
      simp [Routes.requiredRole, Routes.Request.method, Routes.Request.template, bind,
        Routes.Request.nodeId?]
  | updatePrincipal principalId =>
      exact ⟨MfaEnrollment.requiredRole_updatePrincipal principalId, rfl⟩
  | deletePrincipal principalId =>
      exact ⟨MfaEnrollment.requiredRole_deletePrincipal principalId, rfl⟩
  | _ => cases manages

-- A binding makes nobody an admin where the path names no node.
theorem manages_refused (unprivileged : Unprivileged world request) {route : Routes.Request}
    (manages : managesAccounts route = true) {principal : Principal} :
    Auth.guarded (enter world) request.now request.bearer route ≠ .ok principal := by
  intro granted
  obtain ⟨need, unscoped⟩ := requiredRole_manages manages
  obtain ⟨-, -, held⟩ := MfaEnrollment.guarded_admin unscoped need granted
  obtain ⟨token, -, borne, sub, -, found, -⟩ := guarded_full granted
  refine unprivileged principal ?_ ?_
  · rw [borne, Option.bind_some, sub]
    exact found
  · revert held
    cases principal.globalRole <;> decide

theorem login_confined {before : Auth.World} (now : Nat) (limiterKey username password : String) :
    Confined before.accounts (Auth.login platform.primitives platform.auth before now limiterKey
      username password).1.accounts := by
  rw [MfaEnrollment.login_accounts]
  exact confined_refl _

theorem mfaEnroll_confined {before : Auth.World} (now : Nat) (bearer : Option Auth.Token)
    (secret : String) :
    Confined before.accounts
      (Auth.mfaEnroll platform.primitives before now bearer secret).1.accounts := by
  unfold Auth.mfaEnroll
  split
  · exact confined_refl _
  · split
    · exact confined_refl _
    · exact confined_amend (narrows_enrolling secret) _

theorem mfaVerify_confined {before : Auth.World} (now : Nat) (bearer : Option Auth.Token)
    (limiterKey : String → String) (code : String) :
    Confined before.accounts (Auth.mfaVerify platform.primitives platform.auth before now bearer
      limiterKey code).1.accounts := by
  unfold Auth.mfaVerify
  split
  · exact confined_refl _
  · dsimp only
    split
    · exact confined_refl _
    · split
      · exact confined_refl _
      next checked =>
        rcases MfaEnrollment.checkCode_cases checked with rfl | rfl
        · exact confined_refl _
        · exact confined_amend narrows_confirmed _

theorem handler_confined {after : World} {actor : String} {environment : Environment}
    {route : Routes.Request} {body : Body} {reply : Reply}
    (manages : managesAccounts route = false)
    (ran : handler platform world actor environment route body = some (after, reply)) :
    Confined world.accounts after.accounts := by
  rcases (handler_effect ran).accounts with same | ⟨nodeId, removed⟩ |
    ⟨principalId, nodeId, removed⟩ | managed
  · rw [same]
    exact confined_refl _
  · rw [removed]
    exact confined_amendAll (narrows_unbound nodeId)
  · rw [removed]
    exact confined_amend (narrows_unbound nodeId) principalId
  · rw [manages] at managed
    cases managed

theorem handle_confined (unprivileged : Unprivileged world request) :
    Confined world.accounts (handle platform world request).world.accounts := by
  unfold handle
  dsimp only
  split
  · exact confined_refl _
  · exact confined_refl _
  · exact login_confined _ _ _ _
  · exact mfaEnroll_confined _ _ _
  · exact mfaVerify_confined _ _ _ _
  · split <;> exact confined_refl _
  · split
    · exact confined_refl _
    next granted =>
      split
      · exact confined_refl _
      next ran =>
        refine handler_confined (Bool.eq_false_iff.2 fun manages => ?_) ran
        exact manages_refused unprivileged manages granted

end Requests

section Runs

variable {Moment : Type} (platform : Platform Moment)

theorem no_escalation (initial final : World) (requests : List Request)
    (unprivileged : Along Unprivileged (step platform) initial requests)
    (reached : run (step platform) initial requests = some final) :
    Confined initial.accounts final.accounts := by
  refine run_invariant (fun world => Confined initial.accounts world.accounts) ?_
    (confined_refl initial.accounts) unprivileged reached
  rintro world request next confined allowed taken
  cases taken
  exact confined.trans (handle_confined allowed)

end Runs

section SiteAdmin

open TwoFactor (platform signIn asked fullToken)

-- A viewer who is an admin of one site.
def eve : Principal :=
  { MfaEnrollment.newcomer with bindings := [⟨"n1", .admin⟩, ⟨"n2", .operator⟩] }

def site : World :=
  { TwoFactor.fresh with
    accounts := ⟨[eve], by simp [Keyed.Unique], by simp [Keyed.Unique]⟩
    database := Actions.registered }

-- She unregisters her node, drops a binding and tries to make herself a global admin.
def attempts : List Request :=
  signIn ++
    [asked 1100 (some fullToken) (.guarded (.deleteNode "n1") .empty),
      asked 1110 (some fullToken) (.guarded (.deleteBinding "p-1" "n2") .empty),
      asked 1120 (some fullToken)
        (.guarded (.updatePrincipal "p-1") (.principalUpdate { globalRole := some (some .admin) }))]

def outcome : World := (run (step platform) site attempts).getD site

theorem eve_confined : Confined site.accounts outcome.accounts :=
  no_escalation platform site outcome attempts (by decide +kernel) rfl

end SiteAdmin

end Fleet.NoEscalation
