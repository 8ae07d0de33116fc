import Fleet.ControlPlane.Routes

set_option autoImplicit false

namespace Fleet.PrincipalAdministration

open Identity Routes

def OfPrincipals (request : Request) : Prop :=
  "/principals".toList <:+: request.template.toList

instance (request : Request) : Decidable (OfPrincipals request) :=
  inferInstanceAs (Decidable (_ <:+: _))

def Admitted (principal : Principal) (request : Request) : Prop :=
  rbacGuard principal request = .ok principal

/-- The guard goes by the global role, and by it alone. -/
def GlobalRoleOnly (first second : Principal) (request : Request) : Prop :=
  (Admitted first request ↔ first.globalRole = .admin) ∧
    (Admitted second request ↔ second.globalRole = .admin) ∧
      (first.globalRole = second.globalRole → (Admitted first request ↔ Admitted second request))

/-- The request drops a binding for a node that the principal itself is an admin of. -/
def SiteAdmin (principal : Principal) (request : Request) : Prop :=
  ∃ principalId nodeId, request = .deleteBinding principalId nodeId ∧ nodeId ≠ "" ∧
    ⟨nodeId, .admin⟩ ∈ principal.bindings

theorem roleAtLeast_admin (role : Role) : roleAtLeast role .admin = true ↔ role = .admin := by
  cases role <;> decide

theorem admitted_iff (principal : Principal) (request : Request) :
    Admitted principal request ↔
      roleAtLeast (principal.effectiveRole request.nodeId?) (requiredRole request) = true := by
  rw [Admitted, rbacGuard_eq_ok]
  simp only [true_and]

section Router

variable {request : Request}

theorem isAdminRoute_of_principals (method : Method) {template : String}
    (inside : "/principals".toList <:+: template.toList) : isAdminRoute method template = true := by
  unfold isAdminRoute
  split
  next => rfl
  next outside => exact absurd inside outside

theorem requiredRole_of_principals (principals : OfPrincipals request) :
    requiredRole request = .admin := by
  rw [requiredRole, if_pos (isAdminRoute_of_principals request.method principals)]

-- One route of the router has a node in its path.
theorem nodeId_of_principals (principals : OfPrincipals request) :
    request.nodeId? = none ∨ ∃ principalId nodeId, request = .deleteBinding principalId nodeId := by
  cases request with
  | listPrincipals | createPrincipal => exact .inl rfl
  | updatePrincipal principalId => exact .inl rfl
  | deletePrincipal principalId => exact .inl rfl
  | setBinding principalId => exact .inl rfl
  | deleteBinding principalId nodeId => exact .inr ⟨principalId, nodeId, rfl⟩
  | _ =>
      exfalso
      simp only [OfPrincipals, Request.template] at principals
      revert principals
      decide +kernel

theorem admitted_of_principals (principals : OfPrincipals request) (principal : Principal) :
    Admitted principal request ↔ principal.globalRole = .admin ∨ SiteAdmin principal request := by
  rw [admitted_iff, requiredRole_of_principals principals, effectiveRole_atLeast_iff,
    roleAtLeast_admin]
  apply or_congr Iff.rfl
  rcases nodeId_of_principals principals with unscoped | ⟨principalId, nodeId, rfl⟩
  · have other : ¬ SiteAdmin principal request := by
      rintro ⟨principalId, nodeId, rfl, -, -⟩
      cases unscoped
    simp [unscoped, other]
  · constructor
    next =>
      rintro ⟨⟨boundId, role⟩, member, same, named, admin⟩
      obtain rfl : nodeId = boundId := Option.some.inj same
      obtain rfl := (roleAtLeast_admin role).1 admin
      exact ⟨principalId, nodeId, rfl, named, member⟩
    next =>
      rintro ⟨_, boundId, same, named, member⟩
      cases same
      exact ⟨⟨nodeId, .admin⟩, member, rfl, named, rfl⟩

theorem admitted_iff_global (principals : OfPrincipals request) (principal : Principal) :
    (Admitted principal request ↔ principal.globalRole = .admin) ↔
      principal.globalRole = .admin ∨ ¬ SiteAdmin principal request := by
  rw [admitted_of_principals principals]
  by_cases admin : principal.globalRole = .admin <;> simp [admin]

end Router

theorem globalRoleOnly_iff (first second : Principal) (request : Request)
    (principals : OfPrincipals request) :
    GlobalRoleOnly first second request ↔
      (first.globalRole = .admin ∨ ¬ SiteAdmin first request) ∧
        (second.globalRole = .admin ∨ ¬ SiteAdmin second request) := by
  rw [← admitted_iff_global principals, ← admitted_iff_global principals]
  constructor
  next => exact fun only => ⟨only.1, only.2.1⟩
  next => exact fun both => ⟨both.1, both.2, fun same => by rw [both.1, both.2, same]⟩

def viewer : Principal := { id := "p-1", username := "viola", passwordHash := "$argon2id$1" }

def siteAdmin : Principal := { viewer with bindings := [⟨"n1", .admin⟩] }

theorem binding_leaks :
    OfPrincipals (.deleteBinding "p-2" "n1") ∧ siteAdmin.globalRole = .viewer ∧
      Admitted siteAdmin (.deleteBinding "p-2" "n1") ∧
        viewer.globalRole = siteAdmin.globalRole ∧
          ¬ Admitted viewer (.deleteBinding "p-2" "n1") := by
  refine ⟨by decide +kernel, rfl, ?_, rfl, ?_⟩
  · rw [admitted_iff]
    decide +kernel
  · rw [admitted_iff]
    decide +kernel

theorem update_global_only : GlobalRoleOnly siteAdmin viewer (.updatePrincipal "p-1") := by
  have unscoped (principal : Principal) : ¬ SiteAdmin principal (.updatePrincipal "p-1") := by
    rintro ⟨_, _, same, -, -⟩
    cases same
  exact (globalRoleOnly_iff siteAdmin viewer _ (by decide +kernel)).2
    ⟨.inr (unscoped _), .inr (unscoped _)⟩

end Fleet.PrincipalAdministration
