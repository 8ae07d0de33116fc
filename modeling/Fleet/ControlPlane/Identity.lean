import Mathlib.Data.List.Basic

set_option autoImplicit false

namespace Fleet.Identity

inductive Role where
  | viewer
  | operator
  | admin
  deriving DecidableEq

def Role.value : Role → String
  | .viewer => "viewer"
  | .operator => "operator"
  | .admin => "admin"

def roleOrder : Role → Nat
  | .viewer => 1
  | .operator => 2
  | .admin => 3

def roleAtLeast (held need : Role) : Bool := roleOrder need ≤ roleOrder held

structure RoleBinding where
  nodeId : String
  role : Role
  deriving DecidableEq

-- The sealed TOTP secret is kept as what it opens to.
structure Principal where
  id : String
  username : String
  email : Option String := none
  passwordHash : String
  globalRole : Role := .viewer
  disabled : Bool := false
  totpSecret : Option String := none
  mfaEnabled : Bool := false
  bindings : List RoleBinding := []
  deriving DecidableEq

def raise (nodeId : String) (role : Role) (binding : RoleBinding) : Role :=
  if binding.nodeId = nodeId ∧ roleOrder role < roleOrder binding.role then binding.role else role

-- The empty string counts as no node.
def Principal.effectiveRole (principal : Principal) (nodeId : Option String) : Role :=
  match nodeId with
  | none => principal.globalRole
  | some "" => principal.globalRole
  | some id => principal.bindings.foldl (raise id) principal.globalRole

theorem roleAtLeast_raise (nodeId : String) (role need : Role) (binding : RoleBinding) :
    roleAtLeast (raise nodeId role binding) need = true ↔
      roleAtLeast role need = true ∨
        (binding.nodeId = nodeId ∧ roleAtLeast binding.role need = true) := by
  unfold raise
  split
  next higher =>
    have implied : roleAtLeast role need = true → roleAtLeast binding.role need = true := by
      simp only [roleAtLeast, decide_eq_true_eq]
      omega
    constructor
    · exact fun held => .inr ⟨higher.1, held⟩
    · rintro (low | ⟨-, held⟩)
      · exact implied low
      · exact held
  next notHigher =>
    constructor
    · exact .inl
    · rintro (held | ⟨here, bound⟩)
      · exact held
      · have below : roleOrder binding.role ≤ roleOrder role := by
          by_contra above
          exact notHigher ⟨here, Nat.lt_of_not_le above⟩
        simp only [roleAtLeast, decide_eq_true_eq] at bound ⊢
        omega

theorem roleAtLeast_foldl (nodeId : String) (need : Role) (bindings : List RoleBinding)
    (role : Role) :
    roleAtLeast (bindings.foldl (raise nodeId) role) need = true ↔
      roleAtLeast role need = true ∨
        ∃ binding ∈ bindings, binding.nodeId = nodeId ∧ roleAtLeast binding.role need = true := by
  induction bindings generalizing role with
  | nil => simp
  | cons binding rest ih =>
      rw [List.foldl_cons, ih, roleAtLeast_raise]
      simp only [List.exists_mem_cons_iff, or_assoc]

/-- The effective role is the maximum of the global role and the bindings for the node. -/
theorem effectiveRole_atLeast_iff (principal : Principal) (nodeId : Option String) (need : Role) :
    roleAtLeast (principal.effectiveRole nodeId) need = true ↔
      roleAtLeast principal.globalRole need = true ∨
        ∃ binding ∈ principal.bindings, nodeId = some binding.nodeId ∧ binding.nodeId ≠ "" ∧
          roleAtLeast binding.role need = true := by
  unfold Principal.effectiveRole
  split
  · simp
  · constructor
    · exact .inl
    · rintro (held | ⟨binding, -, same, named, -⟩)
      · exact held
      · exact absurd (Option.some.inj same).symm named
  next id named =>
    rw [roleAtLeast_foldl]
    constructor
    · rintro (held | ⟨binding, member, rfl, bound⟩)
      · exact .inl held
      · exact .inr ⟨binding, member, rfl, named, bound⟩
    · rintro (held | ⟨binding, member, same, -, bound⟩)
      · exact .inl held
      · exact .inr ⟨binding, member, (Option.some.inj same).symm, bound⟩

theorem effectiveRole_of_global {principal : Principal} {need : Role}
    (held : roleAtLeast (principal.effectiveRole none) need = true) (nodeId : Option String) :
    roleAtLeast (principal.effectiveRole nodeId) need = true :=
  (effectiveRole_atLeast_iff principal nodeId need).2 (.inl held)

theorem roleAtLeast_trans {first second third : Role} (upper : roleAtLeast first second = true)
    (lower : roleAtLeast second third = true) : roleAtLeast first third = true := by
  simp only [roleAtLeast, decide_eq_true_eq] at upper lower ⊢
  omega

end Fleet.Identity
