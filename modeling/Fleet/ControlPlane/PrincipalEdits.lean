import Fleet.ControlPlane.Isolation
import Fleet.ControlPlane.MfaEnrollment
import Mathlib.Data.List.Sort
import Mathlib.Data.String.Basic

set_option autoImplicit false

namespace Fleet.PrincipalEdits

open Identity Auth

inductive Member where
  | email
  | globalRole
  | disabled
  | password
  | resetMfa
  deriving DecidableEq

def Member.name : Member → String
  | .email => "email"
  | .globalRole => "global_role"
  | .disabled => "disabled"
  | .password => "password"
  | .resetMfa => "reset_mfa"

-- The row of the table with the stamps that its mapper keeps.
structure Row where
  principal : Principal
  createdAt : Datetime
  updatedAt : Datetime

-- A flush writes the columns that have another value, and `updated_at` with them.
def Row.flush (row : Row) (assigned : Principal) (now : Datetime) : Row :=
  if assigned = row.principal then row
  else { row with principal := assigned, updatedAt := now }

section Payload

variable (primitives : Primitives) (salt : String) (payload : PrincipalUpdateIn)

def supplied : Member → Bool
  | .email => payload.email.isSome
  | .globalRole => payload.globalRole.isSome
  | .disabled => payload.disabled.isSome
  | .password => payload.password.isSome
  | .resetMfa => payload.resetMfa.isSome

def without : Member → PrincipalUpdateIn
  | .email => { payload with email := none }
  | .globalRole => { payload with globalRole := none }
  | .disabled => { payload with disabled := none }
  | .password => { payload with password := none }
  | .resetMfa => { payload with resetMfa := none }

-- The keys of `payload.model_dump(exclude_unset=True)`.
def modelDump : List Member :=
  [Member.email, .globalRole, .disabled, .password, .resetMfa].filter (supplied payload)

-- Both branches on the password pop it.
def remaining : List Member := ((modelDump payload).erase .password).erase .resetMfa

def setattr (principal : Principal) : Member → Principal
  | .email => { principal with email := payload.email.join }
  | .globalRole =>
      { principal with globalRole := payload.globalRole.join.getD principal.globalRole }
  | .disabled => { principal with disabled := payload.disabled.join.getD principal.disabled }
  | .password | .resetMfa => principal

-- The handler's assignments in its order.
def assigned (principal : Principal) : Principal :=
  let hashed := { principal with passwordHash := rehashed primitives payload salt principal }
  let cleared :=
    if payload.resets then { hashed with totpSecret := none, mfaEnabled := false } else hashed
  (remaining payload).foldl (setattr payload) cleared

/-- Without the member the row would be another one. -/
def TookEffect (principal : Principal) (member : Member) : Prop :=
  (updated primitives (without payload member) salt).change principal ≠
    (updated primitives payload salt).change principal

/-- The columns after the edit follow from those before it and the supplied members, and the
recorded fields name every member that took effect. -/
structure Exact (before after : Row) (fields : List String) : Prop where
  key : after.principal.id = before.principal.id ∧
    after.principal.username = before.principal.username ∧ after.createdAt = before.createdAt
  bindings : after.principal.bindings = before.principal.bindings
  email : payload.email.elim (after.principal.email = before.principal.email)
    (after.principal.email = ·)
  globalRole : payload.globalRole.elim (after.principal.globalRole = before.principal.globalRole)
    (some after.principal.globalRole = ·)
  disabled : payload.disabled.elim (after.principal.disabled = before.principal.disabled)
    (some after.principal.disabled = ·)
  password : (payload.password.join.filter (· ≠ "")).elim
    (after.principal.passwordHash = before.principal.passwordHash)
    fun password => after.principal.passwordHash = primitives.hashPassword password salt
  mfa : if payload.resetMfa = some (some true) then
      after.principal.totpSecret = none ∧ after.principal.mfaEnabled = false
    else after.principal.totpSecret = before.principal.totpSecret ∧
      after.principal.mfaEnabled = before.principal.mfaEnabled
  stamped : after.updatedAt ≠ before.updatedAt → after.principal ≠ before.principal
  named : ∀ member, TookEffect primitives salt payload before.principal member →
    member.name ∈ fields

end Payload

/-- The request stores the row and appends one entry of it, which together are exact. -/
def ExactEdit (primitives : Primitives) (world : World) (actor principalId salt : String)
    (payload : PrincipalUpdateIn) (row : Row) (now : Datetime) : Prop :=
  ∃ after entry fields,
    (updatePrincipal primitives world actor principalId salt payload).1.accounts.find?
        principalId = some after ∧
      (updatePrincipal primitives world actor principalId salt payload).1.audit =
        world.audit ++ [entry] ∧
      entry.action = "update_principal" ∧ entry.targetId = some principalId ∧
      entry.params = some [("fields", .arr (fields.map Json.str))] ∧
      Exact primitives salt payload row (row.flush after now) fields

variable {primitives : Primitives} {world : World} {actor principalId salt : String}
  {payload : PrincipalUpdateIn} {principal : Principal} {row : Row} {member : Member}

@[simp]
theorem flush_principal (row : Row) (assigned : Principal) (now : Datetime) :
    (row.flush assigned now).principal = assigned := by
  unfold Row.flush
  split
  next same => exact same.symm
  next => rfl

@[simp]
theorem flush_createdAt (row : Row) (assigned : Principal) (now : Datetime) :
    (row.flush assigned now).createdAt = row.createdAt := by
  unfold Row.flush
  split <;> rfl

theorem remaining_eq :
    remaining payload = [.email, .globalRole, .disabled].filter (supplied payload) := by
  unfold remaining modelDump
  simp only [List.filter_cons, List.filter_nil]
  cases supplied payload .email <;> cases supplied payload .globalRole <;>
    cases supplied payload .disabled <;> cases supplied payload .password <;>
      cases supplied payload .resetMfa <;> rfl

theorem assigned_eq (filled : payload.nulls = false) :
    assigned primitives salt payload principal =
      (updated primitives payload salt).change principal := by
  obtain ⟨email, globalRole, disabled, password, resetMfa⟩ := payload
  simp only [PrincipalUpdateIn.nulls, decide_eq_false_iff_not, not_or] at filled
  rw [assigned, remaining_eq]
  dsimp only [updated]
  split <;>
    cases email <;> rcases globalRole with _ | _ | role <;> rcases disabled with _ | _ | flag <;>
      simp_all [List.filter_cons, supplied, setattr]

theorem fields_eq :
    payload.fields = ((remaining payload).map Member.name).insertionSort (· ≤ ·) := by
  rw [remaining_eq]
  obtain ⟨email, globalRole, disabled, password, resetMfa⟩ := payload
  cases email <;> cases globalRole <;> cases disabled <;> rfl

theorem name_injective : Function.Injective Member.name := by
  intro member other same
  cases member <;> cases other <;> first | rfl | exact absurd same (by decide)

-- What the dictionary still holds when the entry is written.
theorem name_mem_fields :
    member.name ∈ payload.fields ↔
      supplied payload member = true ∧ member ≠ .password ∧ member ≠ .resetMfa := by
  rw [fields_eq, List.mem_insertionSort, List.mem_map_of_injective name_injective, remaining_eq,
    List.mem_filter]
  cases member <;> simp

theorem supplied_of_tookEffect (effect : TookEffect primitives salt payload principal member) :
    supplied payload member = true := by
  by_contra absent
  apply effect
  cases member <;> simp [supplied] at absent <;> rw [without, ← absent]

theorem password_tookEffect :
    TookEffect primitives salt payload principal .password ↔
      rehashed primitives payload salt principal ≠ principal.passwordHash := by
  have apart : (updated primitives (without payload .password) salt).change principal =
      { (updated primitives payload salt).change principal with
        passwordHash := principal.passwordHash } := rfl
  rw [TookEffect, apart, ne_comm]
  simp [updated]

theorem resetMfa_tookEffect :
    TookEffect primitives salt payload principal .resetMfa ↔
      payload.resets = true ∧ ¬ (principal.totpSecret = none ∧ principal.mfaEnabled = false) := by
  have apart : (updated primitives (without payload .resetMfa) salt).change principal =
      { (updated primitives payload salt).change principal with
        totpSecret := principal.totpSecret, mfaEnabled := principal.mfaEnabled } := rfl
  rw [TookEffect, apart]
  cases cleared : payload.resets <;> simp [updated, cleared]

theorem updatePrincipal_of_committed {reply : Reply}
    (found : world.accounts.find? principalId = some principal)
    (committed : (updatePrincipal primitives world actor principalId salt payload).2 = .ok reply) :
    payload.nulls = false ∧
      (updatePrincipal primitives world actor principalId salt payload).1 =
        World.log { world with
            accounts := world.accounts.amend principalId (updated primitives payload salt) }
          { actor := actor, action := "update_principal", result := "success",
            targetType := some "principal", targetId := some principalId,
            params := some [("fields", .arr (payload.fields.map Json.str))] } := by
  cases filled : payload.nulls with
  | true => simp [updatePrincipal, found, filled] at committed
  | false => simp [updatePrincipal, found, filled]

theorem columns_exact (now : Datetime) (filled : payload.nulls = false) {fields : List String}
    (named : ∀ member, TookEffect primitives salt payload row.principal member →
      member.name ∈ fields) :
    Exact primitives salt payload row
      (row.flush ((updated primitives payload salt).change row.principal) now) fields := by
  simp only [PrincipalUpdateIn.nulls, decide_eq_false_iff_not, not_or] at filled
  constructor
  case key => simp [updated]
  case bindings => simp [updated]
  case email => cases given : payload.email <;> simp [updated, given]
  case globalRole => rcases given : payload.globalRole with _ | _ | role <;> simp_all [updated]
  case disabled => rcases given : payload.disabled with _ | _ | flag <;> simp_all [updated]
  case password =>
    rcases given : payload.password with _ | _ | password
    · simp [updated, rehashed, given]
    · simp [updated, rehashed, given]
    · by_cases empty : password = "" <;> simp [updated, rehashed, given, empty, Option.filter]
  case mfa =>
    by_cases resets : payload.resetMfa = some (some true) <;>
      simp [updated, PrincipalUpdateIn.resets, resets]
  case stamped =>
    intro moved same
    rw [flush_principal] at same
    simp [Row.flush, same] at moved
  case named => exact named

theorem fields_name_iff :
    (∀ member, TookEffect primitives salt payload principal member →
        member.name ∈ payload.fields) ↔
      rehashed primitives payload salt principal = principal.passwordHash ∧
        (payload.resets = true → principal.totpSecret = none ∧ principal.mfaEnabled = false) := by
  constructor
  next =>
    intro named
    constructor
    · by_contra changed
      have listed := named .password (password_tookEffect.2 changed)
      exact (name_mem_fields.1 listed).2.1 rfl
    · intro resets
      by_contra changed
      have listed := named .resetMfa (resetMfa_tookEffect.2 ⟨resets, changed⟩)
      exact (name_mem_fields.1 listed).2.2 rfl
  next =>
    rintro ⟨unhashed, untouched⟩ member effect
    refine name_mem_fields.2 ⟨supplied_of_tookEffect effect, ?_, ?_⟩
    · rintro rfl
      exact password_tookEffect.1 effect unhashed
    · rintro rfl
      obtain ⟨resets, changed⟩ := resetMfa_tookEffect.1 effect
      exact changed (untouched resets)

-- The two members that the handler takes out of the dictionary are the ones the entry misses.
theorem exactEdit_iff (actor principalId salt : String) (payload : PrincipalUpdateIn) (row : Row)
    (now : Datetime) {reply : Reply}
    (found : world.accounts.find? principalId = some row.principal)
    (committed : (updatePrincipal primitives world actor principalId salt payload).2 = .ok reply) :
    ExactEdit primitives world actor principalId salt payload row now ↔
      rehashed primitives payload salt row.principal = row.principal.passwordHash ∧
        (payload.resets = true →
          row.principal.totpSecret = none ∧ row.principal.mfaEnabled = false) := by
  obtain ⟨filled, result⟩ := updatePrincipal_of_committed found committed
  rw [← fields_name_iff, ExactEdit, result]
  constructor
  next =>
    rintro ⟨after, entry, fields, -, appended, -, -, params, edit⟩
    obtain rfl : _ = entry := List.singleton_inj.1 (List.append_cancel_left appended)
    have texts : payload.fields.map Json.str = fields.map Json.str := by simpa using params
    obtain rfl := List.map_injective_iff.2 (fun _ _ => Json.str.inj) texts
    exact edit.named
  next =>
    intro named
    refine ⟨_, _, payload.fields, ?_, rfl, rfl, rfl, rfl, columns_exact now filled named⟩
    rw [World.log_accounts, Accounts.find?_amend, if_pos rfl, found]
    rfl

section Eve

def eve : Principal :=
  { id := "p-1", username := "eve", passwordHash := "argon2:pw", totpSecret := some "JBSWY3DP",
    mfaEnabled := true }

def onlyEve : World :=
  ⟨⟨[eve], by simp [Keyed.Unique], by simp [Keyed.Unique]⟩, [], [], []⟩

def stored : Row := ⟨eve, Isolation.noon, Isolation.noon⟩

def later : Datetime := { Isolation.noon with hour := 13 }

def resetting : PrincipalUpdateIn := { resetMfa := some (some true) }

-- Eve's second factor is gone, and the entry of it names no field.
theorem reset_unnamed :
    ¬ ∀ (primitives : Primitives) (world : World) (actor principalId salt : String)
      (payload : PrincipalUpdateIn) (row : Row) (now : Datetime) (reply : Reply),
      world.accounts.find? principalId = some row.principal →
        (updatePrincipal primitives world actor principalId salt payload).2 = .ok reply →
          ExactEdit primitives world actor principalId salt payload row now := by
  intro always
  obtain ⟨after, entry, fields, -, appended, -, -, params, edit⟩ :=
    always MfaEnrollment.primitives onlyEve "root" "p-1" "salt" resetting stored later
      (.principal { eve with totpSecret := none, mfaEnabled := false }) rfl rfl
  have recorded : some [("fields", Json.arr [])] =
      some [("fields", Json.arr (fields.map Json.str))] := by
    rw [← params, ← List.singleton_inj.1 appended]
    rfl
  have effect : TookEffect MfaEnrollment.primitives "salt" resetting eve .resetMfa := by
    unfold TookEffect
    decide +kernel
  have listed := edit.named .resetMfa effect
  obtain rfl : fields = [] := by simpa using recorded
  cases listed

def disabling : PrincipalUpdateIn :=
  { email := some (some "eve@example.com"), disabled := some (some true) }

theorem disabling_named :
    ExactEdit MfaEnrollment.primitives onlyEve "root" "p-1" "salt" disabling stored later := by
  have committed :
      (updatePrincipal MfaEnrollment.primitives onlyEve "root" "p-1" "salt" disabling).2 =
        .ok (.principal { eve with email := some "eve@example.com", disabled := true }) := rfl
  exact (exactEdit_iff "root" "p-1" "salt" disabling stored later rfl committed).2
    ⟨rfl, fun resets => absurd resets (by decide)⟩

end Eve

end Fleet.PrincipalEdits
